import AccessGrants.Proofs.Store.Enumeration

/-!
Which writes a store refuses. A write is refused when a row that it refers to
is missing, or when it would repeat a name, a pair of subject and action or the
scope of a template; the error names the first of these. A refused write leaves
the store as it is, and every other write is a chain of changes: `write_outcome`
says so for a single write, and a run of writes is one chain.
-/

namespace AccessGrants.Store

/-- The write refers to two rows, and the error names the first that is missing. -/
def FirstMissing {source target : Entity} {ν μ : Type} (sources : Table (RowId source) ν)
    (targets : Table (RowId target) μ) (link : Link source target) (error : StorageError) : Prop :=
  (link.source ∉ sources ∧ error = .notFound link.source.label) ∨
    (link.source ∈ sources ∧ link.target ∉ targets ∧ error = .notFound link.target.label)

/-- The store has a reason to refuse the write, and this is the error. -/
def Refuses (store : Store) (error : StorageError) : Write → Prop
  | .createActor | .defaultTemplates _ | .setVisibility _ _ => False
  | .setActorActive actor _ | .setActorSuperuser actor _ | .openSession actor
  | .provisionDefaults _ _ actor =>
    actor ∉ store.actors ∧ error = .notFound actor.label
  | .createOrganization name =>
    store.HasOrganization name ∧ error = .duplicate ("organization " ++ name)
  | .createTemplate subject action _ =>
    store.HasTemplate subject action ∧
      error = .duplicate ("template " ++ action ++ ":" ++ subject)
  | .createGrant template scope =>
    (template ∉ store.templates ∧ error = .notFound template.label) ∨
      (template ∈ store.templates ∧ store.HasGrant template scope ∧
        error = .duplicate ("grant of " ++ template.label ++ " for this scope"))
  | .addMember organization actor =>
    FirstMissing store.organizations store.actors ⟨organization, actor⟩ error
  | .assignToActor grant actor => FirstMissing store.grants store.actors ⟨grant, actor⟩ error
  | .assignToOrganization grant organization =>
    FirstMissing store.grants store.organizations ⟨grant, organization⟩ error

/-- A write is refused for the one reason there is and changes nothing, or there
is no reason and it changes the store. -/
inductive Outcome (store : Store) (reason : StorageError → Prop) {α : Type} :
    Written α → Prop where
  | refused {error : StorageError} (only : ∀ other, reason other ↔ other = error) :
      Outcome store reason (.error error, store)
  | accepted {answer : α} {after : Store} (unopposed : ∀ error, ¬ reason error)
      (changes : Changes store after) : Outcome store reason (.ok answer, after)

section Outcome

variable {store : Store} {reason : StorageError → Prop} {α : Type} {written : Written α}

theorem Outcome.error_iff (h : store.Outcome reason written) (error : StorageError) :
    written.1 = .error error ↔ reason error := by
  cases h with
  | refused only =>
      rw [only, Except.error.injEq]
      exact eq_comm
  | accepted unopposed _ => simp [unopposed error]

theorem Outcome.unchanged (h : store.Outcome reason written) {error : StorageError}
    (failed : written.1 = .error error) : written.2 = store := by
  cases h with
  | refused _ => rfl
  | accepted _ _ => cases failed

theorem Outcome.changes (h : store.Outcome reason written) : Changes store written.2 := by
  cases h with
  | refused _ => exact .refl
  | accepted _ changes => exact changes

theorem Outcome.answers (h : store.Outcome reason written)
    (unopposed : ∀ error, ¬ reason error) : ∃ answer, written.1 = .ok answer := by
  cases h with
  | @refused error only => exact absurd ((only error).mpr rfl) (unopposed error)
  | accepted _ _ => exact ⟨_, rfl⟩

end Outcome

variable (store : Store)

theorem updateActor_outcome (id : ActorId) {change : Actor → Actor}
    (active superuser : Actor → Bool)
    (hchange : ∀ row, change row = ⟨row.id, active row, superuser row⟩) :
    store.Outcome (fun error => id ∉ store.actors ∧ error = .notFound id.label)
      (store.updateActor id change) := by
  unfold updateActor
  split
  · next row hrow =>
      have hstored : id ∈ store.actors := Table.mem_of_get? hrow
      rw [hchange]
      exact .accepted (by simp [hstored]) (.single (.actorFlagged _ _ hrow))
  · next hrow =>
      have hmissing : id ∉ store.actors := Table.get?_eq_none_iff.mp hrow
      exact .refused (by simp [hmissing])

theorem openSession_outcome (actor : ActorId) :
    store.Outcome (fun error => store.Refuses error (.openSession actor))
      (store.openSession actor) := by
  unfold openSession
  split
  · next h =>
      have hstored := Table.contains_iff.mp h
      exact .accepted (by simp [Refuses, hstored]) (.single (.sessionAdded hstored))
  · next h =>
      rw [Table.contains_iff] at h
      exact .refused (by simp [Refuses, h])

theorem organizations_contains_iff {name : String} :
    store.organizations.values.contains name = true ↔ store.HasOrganization name := by
  rw [List.contains_iff_mem, Table.mem_values]
  exact Iff.rfl

theorem createOrganization_outcome (name : String) :
    store.Outcome (fun error => store.Refuses error (.createOrganization name))
      (store.createOrganization name) := by
  unfold createOrganization
  split
  · next h =>
      rw [organizations_contains_iff] at h
      exact .refused (by simp [Refuses, h])
  · next h =>
      rw [organizations_contains_iff] at h
      exact .accepted (by simp [Refuses, h]) (.single (.organizationAdded h))

theorem templates_any_iff {subject action : String} :
    (store.templates.values.any fun row => row.subject == subject && row.action == action) = true ↔
      store.HasTemplate subject action := by
  simp only [List.any_eq_true, Table.mem_values, Bool.and_eq_true, beq_iff_eq]
  constructor
  · rintro ⟨row, ⟨id, hrow⟩, hsubject, haction⟩
    exact ⟨id, row, hrow, hsubject, haction⟩
  · rintro ⟨id, row, hrow, hsubject, haction⟩
    exact ⟨row, ⟨id, hrow⟩, hsubject, haction⟩

theorem createTemplate_outcome (subject action : String) (defaults : List InstanceKind) :
    store.Outcome (fun error => store.Refuses error (.createTemplate subject action defaults))
      (store.createTemplate subject action defaults) := by
  unfold createTemplate
  split
  · next h =>
      rw [templates_any_iff] at h
      exact .refused (by simp [Refuses, h])
  · next h =>
      rw [templates_any_iff] at h
      exact .accepted (by simp [Refuses, h]) (.single (.templateAdded defaults h))

theorem grantForScope?_eq_some {template : TemplateId} {scope : Scope} {row : Grant}
    (h : store.grantForScope? template scope = some row) :
    ∃ id, store.grants.get? id = some row ∧ row.template = template ∧ row.scope = scope := by
  obtain ⟨id, hrow⟩ := Table.mem_values.mp (List.mem_of_find?_eq_some h)
  have hfits := List.find?_some h
  simp only [Bool.and_eq_true, decide_eq_true_eq] at hfits
  exact ⟨id, hrow, hfits⟩

theorem grantForScope?_isSome_iff {template : TemplateId} {scope : Scope} :
    (store.grantForScope? template scope).isSome = true ↔ store.HasGrant template scope := by
  rw [grantForScope?, List.find?_isSome]
  simp only [Table.mem_values, Bool.and_eq_true, decide_eq_true_eq]
  constructor
  · rintro ⟨row, ⟨id, hrow⟩, htemplate, hscope⟩
    exact ⟨id, row, hrow, htemplate, hscope⟩
  · rintro ⟨id, row, hrow, htemplate, hscope⟩
    exact ⟨row, ⟨id, hrow⟩, htemplate, hscope⟩

/-- The row of a template names the template itself, so the second look at the
template's identifier is for the same template as the first. -/
theorem createGrant_outcome (keyed : store.Keyed) (id : TemplateId) (scope : Scope) :
    store.Outcome (fun error => store.Refuses error (.createGrant id scope))
      (store.createGrant id scope) := by
  unfold createGrant
  split
  · next hrow =>
      have hmissing : id ∉ store.templates := Table.get?_eq_none_iff.mp hrow
      exact .refused (by simp [Refuses, hmissing])
  · next template hrow =>
      have hstored : id ∈ store.templates := Table.mem_of_get? hrow
      have hid : template.id = id := keyed.templates _ _ hrow
      subst hid
      split
      · next h =>
          rw [grantForScope?_isSome_iff] at h
          exact .refused (by simp [Refuses, hstored, h])
      · next h =>
          rw [grantForScope?_isSome_iff] at h
          exact .accepted (by simp [Refuses, hstored, h]) (.single (.grantAdded hrow h))

section Provisioning

variable {store} {template : Template} {scope : Scope}

theorem grantFor_changes (stored : store.templates.get? template.id = some template) :
    Changes store (store.grantFor template scope).2 := by
  unfold grantFor
  split
  · exact .refl
  · next h =>
      have hfree : ¬ store.HasGrant template.id scope := by
        rw [← grantForScope?_isSome_iff, h]
        simp
      exact .single (.grantAdded stored hfree)

theorem grantFor_stored (keyed : store.Keyed) :
    (store.grantFor template scope).1.id ∈ (store.grantFor template scope).2.grants := by
  unfold grantFor
  split
  · next row h =>
      obtain ⟨id, hrow, _, _⟩ := store.grantForScope?_eq_some h
      have hid : row.id = id := keyed.grants _ _ hrow
      rw [hid]
      exact Table.mem_of_get? hrow
  · exact Table.mem_insert.mpr (Or.inl rfl)

theorem grantFor_actors : (store.grantFor template scope).2.actors = store.actors := by
  unfold grantFor
  split
  · rfl
  · rfl

theorem grantFor_templates : (store.grantFor template scope).2.templates = store.templates := by
  unfold grantFor
  split
  · rfl
  · rfl

theorem attach_changes {owner : ActorId} {templates : List Template} (keyed : store.Keyed)
    (howner : owner ∈ store.actors)
    (stored : ∀ template ∈ templates, store.templates.get? template.id = some template) :
    Changes store (attach owner scope templates store).2 := by
  -- Each round starts from another store, which still has the owner and the templates.
  induction templates generalizing store with
  | nil => exact .refl
  | cons template rest ih =>
      have hgrant : Changes store (store.grantFor template scope).2 :=
        grantFor_changes (stored template List.mem_cons_self)
      have howner' : owner ∈ (store.grantFor template scope).2.actors := by
        rw [grantFor_actors]
        exact howner
      have hlinked := hgrant.tail (.actorGrantLinked ⟨owner, _⟩ ⟨howner', grantFor_stored keyed⟩)
      refine hlinked.trans (ih (Changes.keyed hlinked keyed) howner' ?_)
      intro later hlater
      rw [grantFor_templates]
      exact stored later (List.mem_cons_of_mem _ hlater)

end Provisioning

theorem provisionDefaults_outcome (keyed : store.Keyed) (kind : InstanceKind) (id : InstanceId)
    (owner : ActorId) :
    store.Outcome (fun error => store.Refuses error (.provisionDefaults kind id owner))
      (store.provisionDefaults kind id owner) := by
  unfold provisionDefaults
  split
  · next h =>
      have hstored := Table.contains_iff.mp h
      refine .accepted (by simp [Refuses, hstored]) (attach_changes keyed hstored ?_)
      intro template htemplate
      exact (mem_defaultTemplates.mp htemplate).get? keyed
  · next h =>
      rw [Table.contains_iff] at h
      exact .refused (by simp [Refuses, h])

/-- Writing a link, after its source and then its target were looked for. -/
theorem link_outcome {source target : Entity} {ν μ : Type} (sources : Table (RowId source) ν)
    (targets : Table (RowId target) μ) (link : Link source target) {after : Store}
    (changes : link.Joins sources targets → Changes store after) :
    store.Outcome (FirstMissing sources targets link)
      (if !sources.contains link.source then (.error (.notFound link.source.label), store)
      else if !targets.contains link.target then (.error (.notFound link.target.label), store)
      else (.ok (), after) : Written Unit) := by
  have hsource : sources.contains link.source = true ↔ link.source ∈ sources :=
    Table.contains_iff
  have htarget : targets.contains link.target = true ↔ link.target ∈ targets :=
    Table.contains_iff
  cases hsources : sources.contains link.source with
  | false =>
      have hmissing : link.source ∉ sources := by simp [← hsource, hsources]
      exact .refused (by simp [FirstMissing, hmissing])
  | true =>
      have hstored : link.source ∈ sources := hsource.mp hsources
      cases htargets : targets.contains link.target with
      | false =>
          have hmissing : link.target ∉ targets := by simp [← htarget, htargets]
          exact .refused (by simp [FirstMissing, hstored, hmissing])
      | true =>
          have hjoins : link.Joins sources targets := ⟨hstored, htarget.mp htargets⟩
          exact .accepted (by simp [FirstMissing, hstored, hjoins.2]) (changes hjoins)

theorem write_outcome (keyed : store.Keyed) (write : Write) :
    store.Outcome (fun error => store.Refuses error write) (store.write write) := by
  cases write with
  | createActor => exact .accepted (by simp [Refuses]) (.single .actorAdded)
  | setActorActive actor active =>
      exact store.updateActor_outcome actor (fun _ => active) Actor.superuser fun _ => rfl
  | setActorSuperuser actor superuser =>
      exact store.updateActor_outcome actor Actor.active (fun _ => superuser) fun _ => rfl
  | openSession actor => exact store.openSession_outcome actor
  | createOrganization name => exact store.createOrganization_outcome name
  | addMember organization actor =>
      exact store.link_outcome store.organizations store.actors ⟨organization, actor⟩
        fun joins => .single (.memberLinked _ joins)
  | createTemplate subject action defaults =>
      exact store.createTemplate_outcome subject action defaults
  | defaultTemplates kind => exact .accepted (by simp [Refuses]) .refl
  | createGrant template scope => exact store.createGrant_outcome keyed template scope
  | provisionDefaults kind id owner => exact store.provisionDefaults_outcome keyed kind id owner
  | assignToActor grant actor =>
      exact store.link_outcome store.grants store.actors ⟨grant, actor⟩
        fun joins => .single (.actorGrantLinked ⟨actor, grant⟩ joins.symm)
  | assignToOrganization grant organization =>
      exact store.link_outcome store.grants store.organizations ⟨grant, organization⟩
        fun joins => .single (.organizationGrantLinked ⟨organization, grant⟩ joins.symm)
  | setVisibility id state =>
      exact .accepted (by simp [Refuses]) (.single (.visibilitySet id state))

/-- Every run of writes is a chain of changes. -/
theorem after_changes {store : Store} (keyed : store.Keyed) (writes : List Write) :
    Changes store (store.after writes) := by
  induction writes generalizing store with
  | nil => exact .refl
  | cons write rest ih =>
      have hfirst := (store.write_outcome keyed write).changes
      exact hfirst.trans (ih (Changes.keyed hfirst keyed))

theorem keyed_after (writes : List Write) : (empty.after writes).Keyed :=
  (after_changes keyed_empty writes).keyed keyed_empty

/-- After any run, refused writes included: a write fails exactly for the
reason there is to refuse it, answers if there is none, and leaves the whole
store as it was when it fails. -/
theorem refusals_exact (writes : List Write) (write : Write) :
    let store := empty.after writes
    (∀ error, (store.write write).1 = .error error ↔ store.Refuses error write) ∧
      ((∀ error, ¬ store.Refuses error write) → ∃ answer, (store.write write).1 = .ok answer) ∧
      ∀ error, (store.write write).1 = .error error → (store.write write).2 = store := by
  intro store
  have houtcome := store.write_outcome (keyed_after writes) write
  refine ⟨houtcome.error_iff, houtcome.answers, ?_⟩
  intro error failed
  exact houtcome.unchanged failed

/-- Some rows, and writes that miss others or repeat these. -/
def sparseRows : List Write :=
  [.createOrganization "editors", .createTemplate "perspective" "edit" [],
    .createGrant ⟨2⟩ .override]

/-- What is missing or there already is named, and of two missing rows the first. -/
theorem refused_writes_name_what_is_wrong :
    let store := empty.after sparseRows
    let refused : List (Write × StorageError) :=
      [(.openSession ⟨9⟩, .notFound "actor 9"), (.addMember ⟨8⟩ ⟨9⟩, .notFound "organization 8"),
        (.addMember ⟨1⟩ ⟨9⟩, .notFound "actor 9"), (.assignToActor ⟨7⟩ ⟨9⟩, .notFound "grant 7"),
        (.createOrganization "editors", .duplicate "organization editors"),
        (.createTemplate "perspective" "edit" [], .duplicate "template edit:perspective"),
        (.createGrant ⟨6⟩ .override, .notFound "template 6"),
        (.createGrant ⟨2⟩ .override, .duplicate "grant of template 2 for this scope")]
    ∀ each ∈ refused, (store.write each.1).1 = .error each.2 ∧ store.Refuses each.2 each.1 ∧
      (store.write each.1).2 = store := by
  intro store refused each hmem
  have hfailed : (store.write each.1).1 = .error each.2 := by
    simp only [refused, List.mem_cons, List.not_mem_nil, or_false] at hmem
    rcases hmem with rfl | rfl | rfl | rfl | rfl | rfl | rfl | rfl <;> rfl
  obtain ⟨hrefuses, -, hunchanged⟩ := refusals_exact sparseRows each.1
  exact ⟨hfailed, (hrefuses each.2).mp hfailed, hunchanged each.2 hfailed⟩

end AccessGrants.Store

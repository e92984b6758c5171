import AccessGrants.Proofs.Store.Growth
import Mathlib.Data.List.Perm.Basic

/-!
What a run keeps and what it numbers. A row that was written stays as it is,
the flags of an actor aside, and a link that was made stays made. The numbers
that the writes give out are those of the rows that their answers name for the
first time; read off in order they are 1, 2, 3 and so on, because a write that
is refused takes no number and a grant that is used again keeps its own.
-/

namespace AccessGrants

/-- The rows that the answer of a write names, by their kinds and numbers. -/
def Write.named : (write : Write) → write.Result → List (Entity × Int64)
  | .createActor, actor => [(.actor, actor.id.value)]
  | .openSession _, session => [(.session, session.value)]
  | .createOrganization _, organization => [(.organization, organization.value)]
  | .createTemplate _ _ _, template => [(.template, template.id.value)]
  | .defaultTemplates _, templates => templates.map fun row => (.template, row.id.value)
  | .createGrant _ _, grant => [(.grant, grant.id.value)]
  | .provisionDefaults _ _ _, grants => grants.map fun row => (.grant, row.id.value)
  | .setActorActive _ _, _ | .setActorSuperuser _ _, _ | .addMember _ _, _
  | .assignToActor _ _, _ | .assignToOrganization _ _, _ | .setVisibility _ _, _ => []

namespace Store

/-- The numbers of those of the rows that are not stored yet. -/
def unused (store : Store) (rows : List (Entity × Int64)) : List Int64 :=
  (rows.filter fun row => row.2 ∉ store.idsOf row.1).map Prod.snd

def newlyNamed (store : Store) {α : Type} (named : α → List (Entity × Int64))
    (written : Written α) : List Int64 :=
  match written.1 with
  | .ok answer => store.unused (named answer)
  | .error _ => []

/-- The numbers that a write gives out, in the order of its answer. -/
def allocated (store : Store) (write : Write) : List Int64 :=
  store.newlyNamed write.named (store.write write)

/-- The numbers that a run of writes gives out, in order. -/
def allocations : Store → List Write → List Int64
  | _, [] => []
  | store, write :: rest => store.allocated write ++ (store.write write).2.allocations rest

/-- The numbers that the counter goes through on the way from one store to a
later one. -/
def counted (store after : Store) : List Int :=
  (List.range' (store.issued + 1) (after.issued - store.issued)).map Nat.cast

/-- Nothing of the one store is missing in the other, and nothing differs but
flags of actors. -/
structure RetainedIn (store after : Store) : Prop extends store.Extends after where
  flagged : store.actors.All fun id row =>
    ∃ active superuser, after.actors.get? id = some ⟨row.id, active, superuser⟩

variable {store after later : Store}

section Keeping

theorem Change.flagged (change : Change store after) (bound : after.issued < numberLimit)
    (h : store.Numbered) :
    store.actors.All fun id row =>
      ∃ active superuser, after.actors.get? id = some ⟨row.id, active, superuser⟩ := by
  intro id row hrow
  cases change with
  | actorAdded =>
      have hfresh : store.nextId ∉ store.actors := h.fresh bound rfl
      exact ⟨row.active, row.superuser, Table.within_insert hfresh id row hrow⟩
  | @actorFlagged other old active superuser stored =>
      rw [Table.get?_insert]
      split
      · next heq =>
          rw [heq, hrow] at stored
          cases stored
          exact ⟨active, superuser, rfl⟩
      · exact ⟨row.active, row.superuser, hrow⟩
  | sessionAdded | organizationAdded | templateAdded | grantAdded | memberLinked
  | actorGrantLinked | organizationGrantLinked | visibilitySet =>
      exact ⟨row.active, row.superuser, hrow⟩

theorem RetainedIn.refl (store : Store) : store.RetainedIn store where
  toExtends := .refl store
  flagged := fun _ row hrow => ⟨row.active, row.superuser, hrow⟩

theorem RetainedIn.trans (h : store.RetainedIn after) (h' : after.RetainedIn later) :
    store.RetainedIn later where
  toExtends := h.toExtends.trans h'.toExtends
  flagged := by
    intro id row hrow
    obtain ⟨active, superuser, hmiddle⟩ := h.flagged id row hrow
    have hlast := h'.flagged id ⟨row.id, active, superuser⟩ hmiddle
    exact hlast

theorem Changes.retained (changes : Changes store after) (bound : after.issued < numberLimit)
    (h : store.Integral) : store.RetainedIn after := by
  refine Changes.lift RetainedIn.refl RetainedIn.trans ?_ changes bound h
  intro store after change bound hnumbered
  exact ⟨change.extends bound hnumbered, change.flagged bound hnumbered⟩

end Keeping

section Counting

theorem counted_of_issued (hissued : after.issued = store.issued) : store.counted after = [] := by
  simp [counted, hissued]

theorem counted_self : store.counted store = [] :=
  counted_of_issued rfl

theorem counted_next (hissued : after.issued = store.issued + 1) :
    store.counted after = [(store.issued + 1 : Int)] := by
  simp [counted, hissued]

theorem counted_trans (h : store.issued ≤ after.issued) (h' : after.issued ≤ later.issued) :
    store.counted after ++ after.counted later = store.counted later := by
  have hlength : later.issued - store.issued =
      (after.issued - store.issued) + (later.issued - after.issued) := by omega
  have hstart : after.issued + 1 = store.issued + 1 + (after.issued - store.issued) := by omega
  rw [counted, counted, counted, ← List.map_append, hstart, List.range'_append_1, hlength]

/-- The numbers of the stored rows are those that the counter went through. -/
theorem Changes.ids_counted (changes : Changes empty after)
    (bound : after.issued < numberLimit) :
    (after.ids.map Int64.toInt).Perm (empty.counted after) := by
  induction changes with
  | refl => exact .refl _
  | @tail before after chain change ih =>
      have hbefore := Nat.lt_of_le_of_lt change.issued_le bound
      have hnumbered := (Changes.integral chain hbefore integral_empty).numbered
      rcases change.ids_cases bound hnumbered with ⟨hissued, hids⟩ | ⟨hissued, hids⟩
      · have hcounted : empty.counted after = empty.counted before := by simp [counted, hissued]
        rw [hids, hcounted]
        exact ih hbefore
      · have hnext : (Int64.ofNat (before.issued + 1)).toInt = before.issued + 1 := by
          rw [hissued] at bound
          exact_mod_cast Int64.toInt_ofNat_of_lt bound
        have hcounted : empty.counted before ++ [(before.issued + 1 : Int)] =
            empty.counted after := by
          rw [← counted_next hissued]
          exact counted_trans (Nat.zero_le _) change.issued_le
        rw [← hcounted]
        refine (hids.map Int64.toInt).trans ?_
        rw [List.map_cons, hnext]
        exact ((ih hbefore).cons _).trans (List.perm_append_singleton _ _).symm

end Counting

section OneRow

variable {kind : Entity} {rest : List (Entity × Int64)}

theorem not_mem_idsOf_next (h : store.Numbered) (bound : store.issued + 1 < numberLimit) :
    (store.nextId : RowId kind).value ∉ store.idsOf kind := by
  intro hmem
  have hle := (h.range _ (mem_ids hmem)).2
  rw [nextId_toInt kind bound] at hle
  omega

theorem unused_nil : store.unused [] = [] := rfl

theorem unused_cons_of_stored {id : Int64} (h : id ∈ store.idsOf kind) :
    store.unused ((kind, id) :: rest) = store.unused rest := by
  simp [unused, h]

theorem unused_cons_of_new {id : Int64} (h : id ∉ store.idsOf kind) :
    store.unused ((kind, id) :: rest) = id :: store.unused rest := by
  simp [unused, h]

/-- A write that makes one row gives out one number. -/
theorem unused_next (h : store.Numbered) (bound : after.issued < numberLimit)
    (hissued : after.issued = store.issued + 1) :
    (store.unused [(kind, (store.nextId : RowId kind).value)]).map Int64.toInt =
      store.counted after := by
  rw [hissued] at bound
  rw [unused_cons_of_new (not_mem_idsOf_next h bound), unused_nil, counted_next hissued,
    List.map_singleton, nextId_toInt kind bound]

end OneRow

section Provisioning

variable {template : Template} {templates rest : List Template} {scope : Scope} {owner : ActorId}

theorem mem_idsOf_grant {id : GrantId} : id.value ∈ store.idsOf .grant ↔ id ∈ store.grants := by
  rw [idsOf, List.mem_map]
  constructor
  · rintro ⟨other, hkey, hvalue⟩
    rw [← RowId.value_inj.mp hvalue]
    exact Table.mem_keys.mp hkey
  · intro hmem
    exact ⟨id, Table.mem_keys.mpr hmem, rfl⟩

theorem unused_congr {rows : List (Entity × Int64)}
    (h : ∀ row ∈ rows, row.2 ∈ store.idsOf row.1 ↔ row.2 ∈ after.idsOf row.1) :
    store.unused rows = after.unused rows := by
  unfold unused
  congr 1
  refine List.filter_congr fun row hrow => ?_
  simp only [h row hrow]

/-- What has to be there for default grants to be attached. -/
structure Attaching (store : Store) (owner : ActorId) (templates : List Template) : Prop where
  keyed : store.Keyed
  owner : owner ∈ store.actors
  stored : ∀ template ∈ templates, store.templates.get? template.id = some template

/-- One round: the grant of the template is found or made, and linked. -/
structure Round (store : Store) (template : Template) (grant : Grant) (after : Store) : Prop where
  template : grant.template = template.id
  stored : after.grants.get? grant.id = some grant
  taken : (grant.id ∈ store.grants ∧ after.grants = store.grants ∧ after.issued = store.issued) ∨
    (grant.id = store.nextId ∧ after.grants = store.grants.insert grant.id grant ∧
      after.issued = store.issued + 1)

theorem Attaching.changes (h : store.Attaching owner templates) (scope : Scope) :
    Changes store (attach owner scope templates store).2 :=
  attach_changes h.keyed h.owner h.stored

theorem Attaching.head (h : store.Attaching owner (template :: rest)) :
    store.Attaching owner [template] where
  keyed := h.keyed
  owner := h.owner
  stored := by
    intro other hother
    rw [List.mem_singleton.mp hother]
    exact h.stored template List.mem_cons_self

theorem Attaching.tail (h : store.Attaching owner (template :: rest)) (scope : Scope) :
    (attach owner scope [template] store).2.Attaching owner rest where
  keyed := Changes.keyed (h.head.changes scope) h.keyed
  owner := by
    have hactors : (attach owner scope [template] store).2.actors = store.actors :=
      grantFor_actors
    rw [hactors]
    exact h.owner
  stored := by
    have htemplates : (attach owner scope [template] store).2.templates = store.templates :=
      grantFor_templates
    intro later hlater
    rw [htemplates]
    exact h.stored later (List.mem_cons_of_mem _ hlater)

theorem round_attach (keyed : store.Keyed) :
    store.Round template (store.grantFor template scope).1
      (attach owner scope [template] store).2 := by
  simp only [attach, grantFor]
  split
  · next row hfound =>
      obtain ⟨id, hrow, htemplate, _⟩ := store.grantForScope?_eq_some hfound
      have hid : row.id = id := keyed.grants _ _ hrow
      rw [← hid] at hrow
      exact ⟨htemplate, hrow, Or.inl ⟨Table.mem_of_get? hrow, rfl, rfl⟩⟩
  · exact ⟨rfl, by simp only [addGrant, Table.get?_insert, if_true], Or.inr ⟨rfl, rfl, rfl⟩⟩

/-- The first round, and what the others leave after it. -/
theorem attach_cons (h : store.Attaching owner (template :: rest)) (scope : Scope) :
    ∃ grant middle,
      attach owner scope (template :: rest) store =
        (grant :: (attach owner scope rest middle).1, (attach owner scope rest middle).2) ∧
      Changes store middle ∧ middle.Attaching owner rest ∧ store.Round template grant middle :=
  ⟨_, (attach owner scope [template] store).2, rfl, h.head.changes scope, h.tail scope,
    round_attach h.keyed⟩

/-- Every grant that is answered is stored in the end, and is one of a template
of the list. -/
theorem attach_answers (h : store.Attaching owner templates) (integral : store.Integral)
    (bound : (attach owner scope templates store).2.issued < numberLimit) :
    ∀ grant ∈ (attach owner scope templates store).1,
      (attach owner scope templates store).2.grants.get? grant.id = some grant ∧
        grant.template ∈ templates.map Template.id := by
  induction templates generalizing store with
  | nil => simp [attach]
  | cons template rest ih =>
      obtain ⟨first, middle, hattach, hchanges, hmiddle, hround⟩ := attach_cons h scope
      rw [hattach] at bound ⊢
      have hrest := hmiddle.changes scope
      have hbefore := Nat.lt_of_le_of_lt (Changes.issued_le hrest) bound
      have hintegral := Changes.integral hchanges hbefore integral
      intro grant hgrant
      rcases List.mem_cons.mp hgrant with rfl | hlater
      · have hgrown := Changes.extends hrest bound hintegral
        refine ⟨hgrown.grants _ _ hround.stored, ?_⟩
        rw [hround.template]
        exact List.mem_cons_self
      · obtain ⟨hstored, htemplate⟩ := ih hmiddle hintegral bound grant hlater
        exact ⟨hstored, List.mem_cons_of_mem _ htemplate⟩

/-- Of the grants that are answered those that were not there before have the
next numbers, in order: a new grant of a later template is another grant. -/
theorem attach_counted (h : store.Attaching owner templates) (integral : store.Integral)
    (distinct : (templates.map Template.id).Nodup)
    (bound : (attach owner scope templates store).2.issued < numberLimit) :
    (store.unused ((attach owner scope templates store).1.map fun row =>
        (.grant, row.id.value))).map Int64.toInt =
      store.counted (attach owner scope templates store).2 := by
  induction templates generalizing store with
  | nil => exact counted_self.symm
  | cons template rest ih =>
      obtain ⟨grant, middle, hattach, hchanges, hmiddle, hround⟩ := attach_cons h scope
      rw [hattach] at bound ⊢
      obtain ⟨hnew, hdistinct⟩ := List.nodup_cons.mp distinct
      have hrest := hmiddle.changes scope
      have hissued := Changes.issued_le hrest
      have hbefore := Nat.lt_of_le_of_lt hissued bound
      have hintegral := Changes.integral hchanges hbefore integral
      have hgrown := Changes.extends hrest bound hintegral
      have hanswers := attach_answers hmiddle hintegral bound
      have hcounted := ih hmiddle hintegral hdistinct bound
      -- What is unused to the store of the next round is so to this one.
      have hsame : ∀ row ∈ (attach owner scope rest middle).1,
          row.id ∈ store.grants ↔ row.id ∈ middle.grants := by
        intro row hrow
        obtain ⟨hstored, htemplate⟩ := hanswers row hrow
        rcases hround.taken with ⟨_, hgrants, _⟩ | ⟨_, hgrants, _⟩
        · rw [hgrants]
        · have hother : row.id ≠ grant.id := by
            intro heq
            have hboth := hgrown.grants _ _ hround.stored
            rw [← heq, hstored] at hboth
            cases hboth
            exact hnew (hround.template ▸ htemplate)
          rw [hgrants, Table.mem_insert]
          simp [hother]
      have hunused : store.unused ((attach owner scope rest middle).1.map fun row =>
            (.grant, row.id.value)) =
          middle.unused ((attach owner scope rest middle).1.map fun row =>
            (.grant, row.id.value)) := by
        refine unused_congr fun entry hentry => ?_
        obtain ⟨row, hrow, rfl⟩ := List.mem_map.mp hentry
        exact mem_idsOf_grant.trans ((hsame row hrow).trans mem_idsOf_grant.symm)
      rw [List.map_cons]
      rcases hround.taken with ⟨hstored, _, hissued'⟩ | ⟨hid, _, hissued'⟩
      · rw [unused_cons_of_stored (mem_idsOf_grant.mpr hstored), hunused, hcounted]
        simp only [counted, hissued']
      · rw [hissued'] at hbefore
        rw [hid, unused_cons_of_new (not_mem_idsOf_next integral.numbered hbefore), hunused,
          List.map_cons, hcounted, nextId_toInt _ hbefore]
        rw [← counted_trans (Changes.issued_le hchanges) hissued, counted_next hissued']
        rfl

end Provisioning

section Writes

/-- The counter goes through the numbers of the rows that are answered and new. -/
def Tallies (store : Store) {α : Type} (named : α → List (Entity × Int64)) (written : Written α) :
    Prop :=
  written.2.issued < numberLimit →
    (store.newlyNamed named written).map Int64.toInt = store.counted written.2

variable {α : Type} {named : α → List (Entity × Int64)} {written : Written α}

/-- A write that names no row, or rows that are there, takes no number. -/
theorem tallies_none (hissued : written.2.issued = store.issued)
    (hrows : ∀ answer, written.1 = .ok answer →
      ∀ row ∈ named answer, row.2 ∈ store.idsOf row.1) :
    store.Tallies named written := by
  intro _
  obtain ⟨result, after⟩ := written
  rw [counted_of_issued hissued]
  cases result with
  | error error => rfl
  | ok answer =>
      have hunused : store.unused (named answer) = [] := by
        simpa [unused, List.filter_eq_nil_iff] using hrows answer rfl
      simp only [newlyNamed, hunused, List.map_nil]

theorem tallies_refused (error : StorageError) : store.Tallies named (.error error, store) := by
  refine tallies_none rfl ?_
  intro answer hanswer
  cases hanswer

theorem tallies_next {answer : α} (h : store.Numbered) (kind : Entity)
    (hissued : after.issued = store.issued + 1)
    (hrows : named answer = [(kind, (store.nextId : RowId kind).value)]) :
    store.Tallies named (.ok answer, after) := by
  intro bound
  simp only [newlyNamed, hrows, unused_next h bound hissued]

theorem tallies_write (h : store.Integral) (write : Write) :
    store.Tallies write.named (store.write write) := by
  cases write with
  | createActor => exact tallies_next h.numbered .actor rfl rfl
  | openSession actor =>
      simp only [Store.write, openSession]
      split
      · exact tallies_next h.numbered .session rfl rfl
      · exact tallies_refused _
  | createOrganization name =>
      simp only [Store.write, createOrganization]
      split
      · exact tallies_refused _
      · exact tallies_next h.numbered .organization rfl rfl
  | createTemplate subject action defaults =>
      simp only [Store.write, createTemplate]
      split
      · exact tallies_refused _
      · exact tallies_next h.numbered .template rfl rfl
  | defaultTemplates kind =>
      refine tallies_none rfl ?_
      rintro _ ⟨⟩ row hrow
      obtain ⟨template, htemplate, rfl⟩ := List.mem_map.mp hrow
      have hstored := (mem_defaultTemplates.mp htemplate).get? h.keyed
      exact List.mem_map_of_mem (Table.mem_keys.mpr (Table.mem_of_get? hstored))
  | createGrant template scope =>
      simp only [Store.write, createGrant]
      repeat' split
      · exact tallies_refused _
      · exact tallies_refused _
      · exact tallies_next h.numbered .grant rfl rfl
  | provisionDefaults kind id owner =>
      simp only [Store.write, provisionDefaults]
      split
      · next howner =>
          have hattaching : store.Attaching owner (store.defaultTemplates kind) :=
            ⟨h.keyed, Table.contains_iff.mp howner,
              fun template htemplate => (mem_defaultTemplates.mp htemplate).get? h.keyed⟩
          have hlisted := defaultTemplates_enumerates h.keyed kind
          exact attach_counted hattaching h hlisted.nodup_map
      · exact tallies_refused _
  | setActorActive | setActorSuperuser | addMember | assignToActor | assignToOrganization
  | setVisibility =>
      refine tallies_none ?_ fun _ _ _ hrow => absurd hrow List.not_mem_nil
      simp only [Store.write, setActorActive, setActorSuperuser, updateActor, addMember,
        assignToActor, assignToOrganization, setVisibility]
      repeat' split
      all_goals rfl

theorem map_allocated (h : store.Integral) (write : Write)
    (bound : (store.write write).2.issued < numberLimit) :
    (store.allocated write).map Int64.toInt = store.counted (store.write write).2 :=
  tallies_write h write bound

/-- A run of writes gives out the numbers that the counter goes through, in
order. -/
theorem map_allocations (h : store.Integral) (writes : List Write)
    (bound : (store.after writes).issued < numberLimit) :
    (store.allocations writes).map Int64.toInt = store.counted (store.after writes) := by
  induction writes generalizing store with
  | nil => exact counted_self.symm
  | cons write rest ih =>
      have hkeyed := Changes.keyed (store.write_outcome h.keyed write).changes h.keyed
      have hrest := issued_le_after hkeyed rest
      have hfirst := Nat.lt_of_le_of_lt hrest bound
      have hintegral := Changes.integral (store.write_outcome h.keyed write).changes hfirst h
      rw [allocations, List.map_append, map_allocated h write hfirst, ih hintegral bound]
      exact counted_trans (issued_le_write h.keyed write) hrest

end Writes

/-- Of two stores of a run the later one has every row and every link of the
earlier one, and only flags of actors may have changed. The numbers that the
run gives out are, in order, 1, 2, 3 and so on, whichever writes are refused on
the way, and they are the numbers of the stored rows. -/
theorem rows_retained_and_numbered_in_order (writes later : List Write)
    (bound : (empty.after (writes ++ later)).issued < numberLimit) :
    (empty.after writes).RetainedIn (empty.after (writes ++ later)) ∧
      (empty.allocations (writes ++ later)).map Int64.toInt =
        (List.range' 1 (empty.allocations (writes ++ later)).length).map Nat.cast ∧
      (empty.allocations (writes ++ later)).Perm (empty.after (writes ++ later)).ids := by
  have hallocated := map_allocations integral_empty (writes ++ later) bound
  have hlength : (empty.allocations (writes ++ later)).length =
      (empty.after (writes ++ later)).issued := by
    have hboth := congrArg List.length hallocated
    simpa [counted, empty] using hboth
  refine ⟨?retained, ?ordered, ?stored⟩
  case retained =>
    rw [after_append] at bound ⊢
    have hkeyed := keyed_after writes
    have hbefore := Nat.lt_of_le_of_lt (issued_le_after hkeyed later) bound
    exact Changes.retained (after_changes hkeyed later) bound
      (integral_after_writes integral_empty writes hbefore)
  case ordered =>
    rw [hallocated, hlength]
    rfl
  case stored =>
    have hids := Changes.ids_counted (after_changes keyed_empty (writes ++ later)) bound
    rw [← hallocated] at hids
    exact ((List.map_perm_map_iff fun _ _ => Int64.toInt_inj.mp).mp hids).symm

theorem provisioning_numbered_in_order :
    let later : List Write :=
      [.setActorSuperuser ⟨1⟩ true, .createGrant ⟨9⟩ .override, .createActor]
    (empty.after (provisioningWrites ++ later)).issued < numberLimit ∧
      (empty.after provisioningWrites).RetainedIn (empty.after (provisioningWrites ++ later)) ∧
      (empty.allocations (provisioningWrites ++ later)).map Int64.toInt =
        (List.range' 1 (empty.allocations (provisioningWrites ++ later)).length).map Nat.cast ∧
      (empty.allocations (provisioningWrites ++ later)).Perm
        (empty.after (provisioningWrites ++ later)).ids :=
  ⟨by decide, rows_retained_and_numbered_in_order provisioningWrites _ (by decide)⟩

/-- Of the two grants that the owner is given one is new. -/
example : empty.allocations provisioningWrites = [1, 2, 3, 4, 5, 6, 7] := by decide

end Store

end AccessGrants

import AccessGrants.Proofs.Store.Change
import AccessGrants.Proofs.Store.Holding

/-!
What the listings of a store look like. A listing should name each row that it
is asked for once and in the order of the identifiers. The default templates, the
grants of an actor and those of a subject type are listed so. The grants of the
organizations are listed organization by organization, so a grant comes as often
as organizations of the actor hold it, and the order is that of the identifiers
only if it is so from each organization to the next.
-/

namespace AccessGrants

open Std

/-- The rows with the property, each of them once and in the order of their
identifiers. -/
structure Enumerates {ρ κ : Type} [Ord κ] (id : ρ → κ) (rows : List ρ) (P : ρ → Prop) : Prop where
  mem_iff : ∀ row, row ∈ rows ↔ P row
  ascending : Ascending (rows.map id)

section Enumerates

variable {ρ κ : Type} [Ord κ] {id : ρ → κ} {rows others : List ρ} {P : ρ → Prop}

theorem Enumerates.filter (h : Enumerates id rows P) (keep : ρ → Bool) :
    Enumerates id (rows.filter keep) fun row => P row ∧ keep row = true where
  mem_iff := by
    intro row
    rw [List.mem_filter, h.mem_iff]
  ascending := h.ascending.sublist (List.filter_sublist.map id)

/-- A table lists its rows by their keys. -/
theorem values_enumerates [TransOrd κ] [DecidableEq κ] {t : Table κ ρ}
    (keyed : t.All fun key row => id row = key) :
    Enumerates id t.values fun row => ∃ key, t.get? key = some row where
  mem_iff := fun _ => Table.mem_values
  ascending := by
    rw [Table.map_values_eq_keys keyed]
    exact t.ascending

variable [TransOrd κ]

/-- There is no second list of this kind. -/
theorem Enumerates.unique (h : Enumerates id rows P) (h' : Enumerates id others P) :
    rows = others := by
  apply SortedSet.eq_of_ascending_map h.ascending h'.ascending
  intro row
  rw [h.mem_iff, h'.mem_iff]

theorem Enumerates.nodup_map (h : Enumerates id rows P) : (rows.map id).Nodup :=
  SortedSet.nodup_of_ascending h.ascending

theorem Enumerates.nodup (h : Enumerates id rows P) : rows.Nodup :=
  h.nodup_map.of_map id

/-- In a list without repetitions of elements that are ordered by a key, a relation
holds from each element to the later ones if it holds whenever the key is less. -/
theorem pairwise_iff_of_ascending {α : Type} [Ord α] [TransOrd α] {items : List α}
    (ascending : Ascending items) {R : α → α → Prop} :
    items.Pairwise R ↔ ∀ a ∈ items, ∀ b ∈ items, compare a b = .lt → R a b := by
  constructor
  · intro h
    induction items with
    | nil => simp
    | cons first rest ih =>
        obtain ⟨hfirst, hrest⟩ := List.pairwise_cons.mp ascending
        obtain ⟨hrelated, hlater⟩ := List.pairwise_cons.mp h
        intro a ha b hb hlt
        rcases List.mem_cons.mp hb with rfl | hlaterB
        · -- Nothing is less than the first element.
          rcases List.mem_cons.mp ha with rfl | hlaterA
          · rw [ReflOrd.compare_self] at hlt
            cases hlt
          · exact absurd (hfirst a hlaterA) (OrientedCmp.not_lt_of_lt hlt)
        · rcases List.mem_cons.mp ha with rfl | hlaterA
          · exact hrelated b hlaterB
          · exact ih hrest hlater a hlaterA b hlaterB hlt
  · intro h
    exact ascending.imp_of_mem fun ha hb hlt => h _ ha _ hb hlt

end Enumerates

/-- The grants that a listing is to name; the other reads list none. -/
def Read.AsksFor (store : Store) : Read → Grant → Prop
  | .actorGrants actor subject, grant =>
    store.HoldsItself actor grant ∧ Store.subjectMatches subject grant = true
  | .organizationGrants actor subject, grant =>
    store.HoldsAsMember actor grant ∧ Store.subjectMatches subject grant = true
  | .subjectGrants subject target, grant =>
    store.StoresGrant grant ∧ grant.subject = subject ∧ grant.scope.covers target = true
  | _, _ => False

namespace Link

variable {source target : Entity}

theorem compare_lt_iff {a b : Link source target} :
    compare a b = .lt ↔ compare a.source b.source = .lt ∨
      (a.source = b.source ∧ compare a.target b.target = .lt) := by
  have hcompare : compare a b =
      (compare a.source b.source).then (compare a.target b.target) := rfl
  rw [hcompare, Ordering.then_eq_lt, LawfulEqOrd.compare_eq_iff_eq]

end Link

namespace Store

variable {store : Store} {actor : ActorId}

theorem StoresGrant.get? {grant : Grant} (h : store.StoresGrant grant) (keyed : store.Keyed) :
    store.grants.get? grant.id = some grant := by
  obtain ⟨id, hrow⟩ := h
  rwa [keyed.grants id grant hrow]

/-- Links of one source, in the order of the links, are in that of their targets. -/
theorem ascending_filterMap_target {source : Entity} {links : List (Link source .grant)}
    (keyed : store.Keyed) (ascending : Ascending links)
    (single : ∀ a ∈ links, ∀ b ∈ links, a.source = b.source) :
    Ascending ((links.filterMap fun link => store.grants.get? link.target).map Grant.id) := by
  rw [Ascending, List.pairwise_map, List.pairwise_filterMap]
  refine ascending.imp_of_mem ?_
  intro a b ha hb hlt grant hgrant other hother
  rw [keyed.grants _ _ hgrant, keyed.grants _ _ hother]
  rcases Link.compare_lt_iff.mp hlt with hsource | ⟨_, htarget⟩
  · rw [single a ha b hb, ReflOrd.compare_self] at hsource
    cases hsource
  · exact htarget

theorem heldByActor_enumerates (keyed : store.Keyed) (actor : ActorId) :
    Enumerates Grant.id (store.heldByActor actor) (store.HoldsItself actor) where
  mem_iff := fun _ => mem_heldByActor
  ascending := by
    apply ascending_filterMap_target keyed (store.actorGrants.ascending.sublist
      List.filter_sublist)
    intro a ha b hb
    simp only [List.mem_filter, decide_eq_true_eq] at ha hb
    rw [ha.2, hb.2]

theorem actorGrantsOf_enumerates (keyed : store.Keyed) (actor : ActorId)
    (subject : Option String) :
    Enumerates Grant.id (store.read (.actorGrants actor subject))
      (Read.AsksFor store (.actorGrants actor subject)) :=
  (heldByActor_enumerates keyed actor).filter (subjectMatches subject)

theorem subjectGrants_enumerates (keyed : store.Keyed) (subject : String) (target : Target) :
    Enumerates Grant.id (store.read (.subjectGrants subject target))
      (Read.AsksFor store (.subjectGrants subject target)) where
  mem_iff := fun _ => mem_subjectGrants
  ascending := ((values_enumerates keyed.grants).filter _).ascending

section Defaults

variable {kind : InstanceKind} {template : Template}

/-- The template is stored and is a default for the kind. -/
def StoresDefault (store : Store) (kind : InstanceKind) (template : Template) : Prop :=
  (∃ id, store.templates.get? id = some template) ∧ template.isDefaultFor kind = true

theorem mem_defaultTemplates :
    template ∈ store.defaultTemplates kind ↔ store.StoresDefault kind template := by
  rw [defaultTemplates, List.mem_filter, Table.mem_values, StoresDefault]

theorem StoresDefault.get? (h : store.StoresDefault kind template) (keyed : store.Keyed) :
    store.templates.get? template.id = some template := by
  obtain ⟨⟨id, hrow⟩, _⟩ := h
  rwa [keyed.templates id template hrow]

theorem defaultTemplates_enumerates (keyed : store.Keyed) (kind : InstanceKind) :
    Enumerates Template.id (store.defaultTemplates kind) (store.StoresDefault kind) :=
  (values_enumerates keyed.templates).filter _

end Defaults

section Organizations

/-- The grants linked to an organization, in ascending order. -/
def grantsOfOrganization (store : Store) (organization : OrganizationId) : List Grant :=
  (store.organizationGrants.toList.filter fun link => link.source = organization).filterMap
    fun link => store.grants.get? link.target

theorem grantsOfOrganization_enumerates (keyed : store.Keyed) (organization : OrganizationId) :
    Enumerates Grant.id (store.grantsOfOrganization organization) fun grant =>
      (⟨organization, grant.id⟩ : Link .organization .grant) ∈ store.organizationGrants ∧
        store.StoresGrant grant where
  mem_iff := by
    intro grant
    simp only [grantsOfOrganization, List.mem_filterMap, List.mem_filter, decide_eq_true_eq]
    constructor
    · rintro ⟨⟨source, id⟩, ⟨hlink, rfl⟩, hrow⟩
      rw [keyed.grants id grant hrow]
      exact ⟨hlink, id, hrow⟩
    · rintro ⟨hlink, hstored⟩
      exact ⟨⟨organization, grant.id⟩, ⟨hlink, rfl⟩, hstored.get? keyed⟩
  ascending := by
    apply ascending_filterMap_target keyed (store.organizationGrants.ascending.sublist
      List.filter_sublist)
    intro a ha b hb
    simp only [List.mem_filter, decide_eq_true_eq] at ha hb
    rw [ha.2, hb.2]

/-- Of the links to one actor the sources are in order. -/
theorem organizationsOf_ascending (store : Store) (actor : ActorId) :
    Ascending (store.organizationsOf actor) := by
  rw [organizationsOf, Ascending, List.pairwise_map]
  refine List.Pairwise.imp_of_mem ?_ (store.members.ascending.sublist List.filter_sublist)
  intro a b ha hb hlt
  simp only [List.mem_filter, decide_eq_true_eq] at ha hb
  rcases Link.compare_lt_iff.mp hlt with hsource | ⟨_, htarget⟩
  · exact hsource
  · rw [ha.2, hb.2, ReflOrd.compare_self] at htarget
    cases htarget

/-- Links chosen by their sources are the links of the sources, one source after
the other. -/
theorem filter_source_eq_flatMap {source target : Entity} (links : SortedSet (Link source target))
    {sources : List (RowId source)} (ascending : Ascending sources) :
    (links.toList.filter fun link => link.source ∈ sources) =
      sources.flatMap fun source => links.toList.filter fun link => link.source = source := by
  have hgrouped : Ascending (sources.flatMap fun source =>
      links.toList.filter fun link => link.source = source) := by
    rw [Ascending, List.pairwise_flatMap]
    refine ⟨fun _ _ => links.ascending.sublist List.filter_sublist, ascending.imp ?_⟩
    intro first second hlt a ha b hb
    simp only [List.mem_filter, decide_eq_true_eq] at ha hb
    apply Link.compare_lt_iff.mpr
    rw [ha.2, hb.2]
    exact Or.inl hlt
  have hfiltered : Ascending (links.toList.filter fun link => link.source ∈ sources) :=
    links.ascending.sublist List.filter_sublist
  refine congrArg SortedSet.toList (SortedSet.eq_of_mem_iff (s := ⟨_, hfiltered⟩)
    (t := ⟨_, hgrouped⟩) ?_)
  intro link
  simp only [SortedSet.mem_def, List.mem_filter, List.mem_flatMap, decide_eq_true_eq]
  constructor
  · rintro ⟨hlink, hsource⟩
    exact ⟨link.source, hsource, hlink, rfl⟩
  · rintro ⟨source, hsource, hlink, rfl⟩
    exact ⟨hlink, hsource⟩

theorem mem_organizationGrantsOf {subject : Option String} {grant : Grant} :
    grant ∈ store.read (.organizationGrants actor subject) ↔
      Read.AsksFor store (.organizationGrants actor subject) grant := by
  simp only [read, organizationGrantsOf, List.mem_filter, mem_heldByOrganizations, Read.AsksFor]

theorem organizationGrantsOf_eq_flatMap (store : Store) (actor : ActorId)
    (subject : Option String) :
    store.organizationGrantsOf actor subject =
      (store.organizationsOf actor).flatMap fun organization =>
        (store.grantsOfOrganization organization).filter (subjectMatches subject) := by
  simp only [organizationGrantsOf, heldByOrganizations, grantsOfOrganization]
  rw [filter_source_eq_flatMap _ (store.organizationsOf_ascending actor), List.filterMap_flatMap,
    List.filter_flatMap]

/-- The organizations of the actor that hold the grant, in ascending order. -/
def holdersOf (store : Store) (actor : ActorId) (grant : Grant) : List OrganizationId :=
  (store.organizationsOf actor).filter fun organization =>
    (⟨organization, grant.id⟩ : Link .organization .grant) ∈ store.organizationGrants

/-- A grant is listed once for each organization through which the actor holds it. -/
theorem count_organizationGrantsOf (keyed : store.Keyed) {subject : Option String} {grant : Grant}
    (stored : store.StoresGrant grant) (wanted : subjectMatches subject grant = true) :
    (store.read (.organizationGrants actor subject)).count grant =
      (store.holdersOf actor grant).length := by
  simp only [read]
  rw [organizationGrantsOf_eq_flatMap, holdersOf, List.count_flatMap]
  induction store.organizationsOf actor with
  | nil => rfl
  | cons organization rest ih =>
      have hpiece := (grantsOfOrganization_enumerates keyed organization).filter
        (subjectMatches subject)
      rw [List.map_cons, List.sum_cons, ih, List.filter_cons, Function.comp_apply,
        hpiece.nodup.count]
      simp only [hpiece.mem_iff, stored, wanted, and_true, decide_eq_true_eq]
      split
      · rw [List.length_cons, Nat.add_comm]
      · rw [Nat.zero_add]

/-- From an organization of the actor to a later one, the identifiers of the
grants of the subject type grow. -/
def HeldInOrder (store : Store) (actor : ActorId) (subject : Option String) : Prop :=
  ∀ first ∈ store.organizationsOf actor, ∀ second ∈ store.organizationsOf actor,
    compare first second = .lt →
      ∀ grant ∈ (store.grantsOfOrganization first).filter (subjectMatches subject),
        ∀ other ∈ (store.grantsOfOrganization second).filter (subjectMatches subject),
          compare grant.id other.id = .lt

theorem organizationGrantsOf_enumerates_iff (keyed : store.Keyed) (actor : ActorId)
    (subject : Option String) :
    Enumerates Grant.id (store.read (.organizationGrants actor subject))
        (Read.AsksFor store (.organizationGrants actor subject)) ↔
      store.HeldInOrder actor subject := by
  have hpiece (organization : OrganizationId) := ((grantsOfOrganization_enumerates keyed
    organization).filter (subjectMatches subject)).ascending
  rw [HeldInOrder, ← pairwise_iff_of_ascending (store.organizationsOf_ascending actor)]
  have hlisting : store.read (.organizationGrants actor subject) =
      (store.organizationsOf actor).flatMap fun organization =>
        (store.grantsOfOrganization organization).filter (subjectMatches subject) :=
    store.organizationGrantsOf_eq_flatMap actor subject
  constructor
  · intro h
    have hascending := h.ascending
    rw [hlisting, Ascending, List.pairwise_map, List.pairwise_flatMap] at hascending
    exact hascending.2
  · intro h
    refine ⟨fun grant => mem_organizationGrantsOf, ?_⟩
    rw [hlisting, Ascending, List.pairwise_map, List.pairwise_flatMap]
    exact ⟨fun organization _ => List.pairwise_map.mp (hpiece organization), h⟩

end Organizations

end Store

end AccessGrants

import AccessGrants.Proofs.Store.Refusal
import Mathlib.Logic.Function.Basic

/-!
The integrity of a store. Links and sessions lead to stored rows, a grant
agrees with its template, nothing that has to be unique is there twice, and all
identifiers come from the counter, none of them twice, whatever the kinds of
their rows. Every change keeps this as long as the counter stays within the
signed words, so every store that comes about has it.
-/

namespace AccessGrants

namespace Link

variable {source target : Entity} {ν μ : Type} {sources : Table (RowId source) ν}
  {targets : Table (RowId target) μ} {link : Link source target}

theorem Joins.insert_source (h : link.Joins sources targets) (id : RowId source) (row : ν) :
    link.Joins (sources.insert id row) targets :=
  ⟨Table.mem_insert.mpr (Or.inr h.1), h.2⟩

theorem Joins.insert_target (h : link.Joins sources targets) (id : RowId target) (row : μ) :
    link.Joins sources (targets.insert id row) :=
  ⟨h.1, Table.mem_insert.mpr (Or.inr h.2)⟩

end Link

namespace Store

/-- Sessions and links lead to rows that are stored. -/
structure Linked (store : Store) : Prop where
  sessions : store.sessions.All fun _ actor => actor ∈ store.actors
  members : ∀ link ∈ store.members, link.Joins store.organizations store.actors
  actorGrants : ∀ link ∈ store.actorGrants, link.Joins store.actors store.grants
  organizationGrants :
    ∀ link ∈ store.organizationGrants, link.Joins store.organizations store.grants

/-- No name, no pair of subject and action, and no scope of a template is there
under two identifiers. -/
structure Unrepeated (store : Store) : Prop where
  organizations : store.organizations.Distinguishes fun name => name
  templates : store.templates.Distinguishes fun row => (row.subject, row.action)
  grants : store.grants.Distinguishes fun row => (row.template, row.scope)

/-- Every grant has the subject and the action of a template that is stored. -/
def Instantiated (store : Store) : Prop :=
  store.grants.All fun _ grant =>
    ∃ template, store.templates.get? grant.template = some template ∧
      grant.subject = template.subject ∧ grant.action = template.action

/-- How many signed words there are from zero upwards: `2 ^ 63`. -/
def numberLimit : Nat := 9223372036854775808

/-- The numbers of the stored rows of a kind. -/
def idsOf (store : Store) : Entity → List Int64
  | .actor => store.actors.keys.map RowId.value
  | .session => store.sessions.keys.map RowId.value
  | .organization => store.organizations.keys.map RowId.value
  | .template => store.templates.keys.map RowId.value
  | .grant => store.grants.keys.map RowId.value

/-- The numbers of all stored rows. -/
def ids (store : Store) : List Int64 :=
  store.idsOf .actor ++ store.idsOf .session ++ store.idsOf .organization ++
    store.idsOf .template ++ store.idsOf .grant

/-- All numbers were given out by the counter, and none of them twice. -/
structure Numbered (store : Store) : Prop where
  range : ∀ id ∈ store.ids, 0 < id.toInt ∧ id.toInt ≤ store.issued
  nodup : store.ids.Nodup

/-- What holds of the rows and links of a store taken together. -/
structure Integral (store : Store) : Prop where
  keyed : store.Keyed
  linked : store.Linked
  unrepeated : store.Unrepeated
  instantiated : store.Instantiated
  numbered : store.Numbered

variable {store after : Store}

section Links

theorem linked_empty : empty.Linked where
  sessions := Table.all_empty
  members := fun _ h => absurd h SortedSet.not_mem_empty
  actorGrants := fun _ h => absurd h SortedSet.not_mem_empty
  organizationGrants := fun _ h => absurd h SortedSet.not_mem_empty

/-- Writing the row of an actor, new or not, leaves no link without its ends. -/
theorem Linked.insertActor (h : store.Linked) (issued : Nat) (id : ActorId) (row : Actor) :
    { store with issued := issued, actors := store.actors.insert id row }.Linked where
  sessions := h.sessions.mono fun _ _ hactor => Table.mem_insert.mpr (Or.inr hactor)
  members := fun link hlink => (h.members link hlink).insert_target id row
  actorGrants := fun link hlink => (h.actorGrants link hlink).insert_source id row
  organizationGrants := h.organizationGrants

theorem Change.linked (change : Change store after) (h : store.Linked) : after.Linked := by
  cases change with
  | actorAdded => exact h.insertActor _ _ _
  | actorFlagged active superuser stored => exact h.insertActor _ _ _
  | sessionAdded stored => exact { h with sessions := h.sessions.insert stored }
  | organizationAdded free =>
      exact { h with
        members := fun link hlink => (h.members link hlink).insert_source _ _
        organizationGrants := fun link hlink =>
          (h.organizationGrants link hlink).insert_source _ _ }
  | templateAdded defaults free => exact { h with }
  | grantAdded stored free =>
      exact { h with
        actorGrants := fun link hlink => (h.actorGrants link hlink).insert_target _ _
        organizationGrants := fun link hlink =>
          (h.organizationGrants link hlink).insert_target _ _ }
  | memberLinked link stored =>
      exact { h with members := SortedSet.forall_mem_insert stored h.members }
  | actorGrantLinked link stored =>
      exact { h with actorGrants := SortedSet.forall_mem_insert stored h.actorGrants }
  | organizationGrantLinked link stored =>
      exact { h with
        organizationGrants := SortedSet.forall_mem_insert stored h.organizationGrants }
  | visibilitySet id state => exact { h with }

end Links

section Uniqueness

theorem unrepeated_empty : empty.Unrepeated :=
  ⟨Table.distinguishes_empty, Table.distinguishes_empty, Table.distinguishes_empty⟩

theorem Change.unrepeated (change : Change store after) (h : store.Unrepeated) :
    after.Unrepeated := by
  cases change with
  | organizationAdded free =>
      refine { h with organizations := h.organizations.insert ?_ }
      intro id name hrow hsame
      exact free ⟨id, hsame ▸ hrow⟩
  | templateAdded defaults free =>
      refine { h with templates := h.templates.insert ?_ }
      intro id row hrow hsame
      obtain ⟨hsubject, haction⟩ := Prod.mk.inj hsame
      exact free ⟨id, row, hrow, hsubject, haction⟩
  | grantAdded stored free =>
      refine { h with grants := h.grants.insert ?_ }
      intro id row hrow hsame
      obtain ⟨htemplate, hscope⟩ := Prod.mk.inj hsame
      exact free ⟨id, row, hrow, htemplate, hscope⟩
  | actorAdded | actorFlagged | sessionAdded | memberLinked | actorGrantLinked
  | organizationGrantLinked | visibilitySet => exact { h with }

end Uniqueness

section Numbers

theorem numbered_empty : empty.Numbered where
  range := fun _ h => absurd h List.not_mem_nil
  nodup := List.nodup_nil

theorem mem_ids {kind : Entity} {id : Int64} (h : id ∈ store.idsOf kind) : id ∈ store.ids := by
  unfold ids
  cases kind <;> simp [h]

theorem nextId_toInt (kind : Entity) (bound : store.issued + 1 < numberLimit) :
    (store.nextId : RowId kind).value.toInt = store.issued + 1 := by
  have hvalue := Int64.toInt_ofNat_of_lt bound
  simpa [nextId] using hvalue

/-- One new number among those of one kind is one new number among all. -/
theorem ids_perm {id : Int64} (kind : Entity) {grown : List Int64}
    (hgrown : grown.Perm (id :: store.idsOf kind))
    (hafter : after.idsOf = Function.update store.idsOf kind grown) :
    after.ids.Perm (id :: store.ids) := by
  -- Counting one number at a time, the order of the five kinds is of no account.
  rw [List.perm_iff_count]
  intro x
  have hcount (other : Entity) : (after.idsOf other).count x =
      (store.idsOf other).count x + if other = kind then [id].count x else 0 := by
    by_cases hother : other = kind
    · subst hother
      rw [hafter, Function.update_self, hgrown.count_eq, if_pos rfl, List.count_cons,
        List.count_singleton]
    · rw [hafter, Function.update_of_ne hother, if_neg hother, Nat.add_zero]
  have hcons : (id :: store.ids).count x = store.ids.count x + [id].count x := by
    rw [List.count_cons, List.count_singleton]
  rw [hcons]
  simp only [ids, List.count_append, hcount]
  cases kind <;> simp <;> omega

variable {kind : Entity} {ν : Type} {rows : Table (RowId kind) ν}

/-- The number that is given out next is not in use. -/
theorem Numbered.fresh (h : store.Numbered) (bound : store.issued + 1 < numberLimit)
    (hrows : store.idsOf kind = rows.keys.map RowId.value) : store.nextId ∉ rows := by
  intro hmem
  have hid : (store.nextId : RowId kind).value ∈ store.idsOf kind := by
    rw [hrows]
    exact List.mem_map_of_mem (Table.mem_keys.mpr hmem)
  have hle := (h.range _ (mem_ids hid)).2
  rw [nextId_toInt kind bound] at hle
  omega

/-- A row of any kind is written under the next number. -/
theorem Numbered.ids_insert (h : store.Numbered) (bound : store.issued + 1 < numberLimit)
    (rows : Table (RowId kind) ν) (row : ν)
    (hbefore : store.idsOf kind = rows.keys.map RowId.value)
    (hafter : after.idsOf = Function.update store.idsOf kind
      ((rows.insert store.nextId row).keys.map RowId.value)) :
    after.ids.Perm (Int64.ofNat (store.issued + 1) :: store.ids) := by
  have hfresh : store.nextId ∉ rows := h.fresh bound hbefore
  have hgrown : ((rows.insert store.nextId row).keys.map RowId.value).Perm
      ((store.nextId : RowId kind).value :: store.idsOf kind) := by
    rw [hbefore]
    exact (Table.keys_insert_perm hfresh).map RowId.value
  exact ids_perm kind hgrown hafter

/-- A change gives out the next number to one new row, or none. -/
theorem Change.ids_cases (change : Change store after) (bound : after.issued < numberLimit)
    (h : store.Numbered) :
    (after.issued = store.issued ∧ after.ids = store.ids) ∨
      (after.issued = store.issued + 1 ∧
        after.ids.Perm (Int64.ofNat (store.issued + 1) :: store.ids)) := by
  cases change with
  | actorAdded =>
      refine Or.inr ⟨rfl, ?_⟩
      apply h.ids_insert bound store.actors _ rfl
      funext other
      cases other <;> rfl
  | sessionAdded stored =>
      refine Or.inr ⟨rfl, ?_⟩
      apply h.ids_insert bound store.sessions _ rfl
      funext other
      cases other <;> rfl
  | organizationAdded free =>
      refine Or.inr ⟨rfl, ?_⟩
      apply h.ids_insert bound store.organizations _ rfl
      funext other
      cases other <;> rfl
  | templateAdded defaults free =>
      refine Or.inr ⟨rfl, ?_⟩
      apply h.ids_insert bound store.templates _ rfl
      funext other
      cases other <;> rfl
  | grantAdded stored free =>
      refine Or.inr ⟨rfl, ?_⟩
      apply h.ids_insert bound store.grants _ rfl
      funext other
      cases other <;> rfl
  | @actorFlagged id row active superuser stored =>
      have hkeys : (store.actors.insert id ⟨row.id, active, superuser⟩).keys =
          store.actors.keys :=
        Table.keys_insert_of_mem (Table.mem_of_get? stored)
      exact Or.inl ⟨rfl, by simp only [ids, idsOf, hkeys]⟩
  | memberLinked | actorGrantLinked | organizationGrantLinked | visibilitySet =>
      exact Or.inl ⟨rfl, rfl⟩

theorem Change.numbered (change : Change store after) (bound : after.issued < numberLimit)
    (h : store.Numbered) : after.Numbered := by
  rcases change.ids_cases bound h with ⟨hissued, hids⟩ | ⟨hissued, hids⟩
  · exact ⟨by simpa only [hissued, hids] using h.range, by simpa only [hids] using h.nodup⟩
  · rw [hissued] at bound
    have hnext : (Int64.ofNat (store.issued + 1)).toInt = store.issued + 1 := by
      exact_mod_cast Int64.toInt_ofNat_of_lt bound
    constructor
    · intro id hid
      rw [hids.mem_iff, List.mem_cons] at hid
      rcases hid with rfl | hold
      · omega
      · have hrange := h.range id hold
        omega
    · rw [hids.nodup_iff, List.nodup_cons]
      refine ⟨?_, h.nodup⟩
      intro hmem
      have hle := (h.range _ hmem).2
      omega

/-- A new template takes no number of an old one, so it is not written over the
template of a grant. -/
theorem Change.instantiated (change : Change store after) (bound : after.issued < numberLimit)
    (numbered : store.Numbered) (h : store.Instantiated) : after.Instantiated := by
  cases change with
  | templateAdded defaults free =>
      intro id grant hgrant
      obtain ⟨template, hrow, hagrees⟩ := h id grant hgrant
      have hfresh : store.nextId ∉ store.templates := numbered.fresh bound rfl
      have hne : store.nextId ≠ grant.template := by
        intro same
        rw [same] at hfresh
        exact hfresh (Table.mem_of_get? hrow)
      refine ⟨template, ?_, hagrees⟩
      rw [Table.get?_insert, if_neg hne]
      exact hrow
  | grantAdded stored free => exact h.insert ⟨_, stored, rfl, rfl⟩
  | actorAdded | actorFlagged | sessionAdded | organizationAdded | memberLinked
  | actorGrantLinked | organizationGrantLinked | visibilitySet => exact h

end Numbers

theorem integral_empty : empty.Integral where
  keyed := keyed_empty
  linked := linked_empty
  unrepeated := unrepeated_empty
  instantiated := Table.all_empty
  numbered := numbered_empty

theorem Change.integral (change : Change store after) (bound : after.issued < numberLimit)
    (h : store.Integral) : after.Integral where
  keyed := change.keyed h.keyed
  linked := change.linked h.linked
  unrepeated := change.unrepeated h.unrepeated
  instantiated := change.instantiated bound h.numbered h.instantiated
  numbered := change.numbered bound h.numbered

/-- The counter never goes back, so a bound at the end of a chain bounds every
store on the way. -/
theorem Changes.integral (changes : Changes store after) (bound : after.issued < numberLimit)
    (h : store.Integral) : after.Integral := by
  induction changes with
  | refl => exact h
  | tail _ change ih =>
      have hbefore := Nat.lt_of_le_of_lt change.issued_le bound
      exact change.integral bound (ih hbefore)

/-- Every store that comes about by writes, refused writes included, is integral
as long as its counter has given out no more identifiers than there are
positive signed words. -/
theorem integral_after (writes : List Write) (bound : (empty.after writes).issued < numberLimit) :
    (empty.after writes).Integral :=
  Changes.integral (after_changes keyed_empty writes) bound integral_empty

/-- An owner gets the default grants of an instance, one of which is there
already, and then again; three writes are refused on the way. -/
def provisioningWrites : List Write :=
  [.createActor, .openSession ⟨1⟩, .openSession ⟨2⟩, .createOrganization "editors",
    .createOrganization "editors", .addMember ⟨3⟩ ⟨1⟩,
    .createTemplate "perspective" "view" [.perspective],
    .createTemplate "perspective" "edit" [.perspective, .dictionary],
    .createGrant ⟨5⟩ (.composite ⟨5, 42⟩), .provisionDefaults .perspective ⟨5, 42⟩ ⟨1⟩,
    .provisionDefaults .perspective ⟨5, 42⟩ ⟨3⟩, .provisionDefaults .perspective ⟨5, 42⟩ ⟨1⟩,
    .assignToOrganization ⟨7⟩ ⟨3⟩, .setActorActive ⟨1⟩ false]

theorem integral_after_provisioning :
    (empty.after provisioningWrites).issued < numberLimit ∧
      (empty.after provisioningWrites).Integral :=
  ⟨by decide, integral_after provisioningWrites (by decide)⟩

end Store

end AccessGrants

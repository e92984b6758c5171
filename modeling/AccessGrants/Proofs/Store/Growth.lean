import AccessGrants.Proofs.Store.Frame
import AccessGrants.Proofs.Store.Holding
import AccessGrants.Proofs.Store.Integrity

/-!
How a store grows. Rows are made and linked and never removed, and no number is
given out twice, so a later store extends an earlier one: whoever held a grant
holds it still.
-/

namespace AccessGrants

namespace Table

variable {κ ν : Type} [Ord κ] [DecidableEq κ] {t other third : Table κ ν} {key : κ} {value : ν}

/-- Every row of the one table is a row of the other. -/
def Within (t other : Table κ ν) : Prop :=
  t.All fun key value => other.get? key = some value

theorem Within.refl : t.Within t :=
  fun _ _ h => h

theorem Within.trans (h : t.Within other) (h' : other.Within third) : t.Within third :=
  fun key value hrow => h' key value (h key value hrow)

theorem within_insert [Std.TransOrd κ] [Std.LawfulEqOrd κ] (fresh : key ∉ t) :
    t.Within (t.insert key value) := by
  intro old row hrow
  have hne : key ≠ old := by
    rintro rfl
    exact fresh (mem_of_get? hrow)
  rw [get?_insert, if_neg hne]
  exact hrow

end Table

namespace Store

/-- No row and no link of the one store is missing in the other; of the rows,
only those of actors may differ. -/
structure Extends (store after : Store) : Prop where
  actors : ∀ id ∈ store.actors, id ∈ after.actors
  sessions : store.sessions.Within after.sessions
  organizations : store.organizations.Within after.organizations
  members : ∀ link ∈ store.members, link ∈ after.members
  templates : store.templates.Within after.templates
  grants : store.grants.Within after.grants
  actorGrants : ∀ link ∈ store.actorGrants, link ∈ after.actorGrants
  organizationGrants : ∀ link ∈ store.organizationGrants, link ∈ after.organizationGrants

variable {store after later : Store}

theorem Extends.refl (store : Store) : store.Extends store where
  actors := fun _ h => h
  sessions := .refl
  organizations := .refl
  members := fun _ h => h
  templates := .refl
  grants := .refl
  actorGrants := fun _ h => h
  organizationGrants := fun _ h => h

theorem Extends.trans (h : store.Extends after) (h' : after.Extends later) :
    store.Extends later where
  actors := fun id hid => h'.actors id (h.actors id hid)
  sessions := h.sessions.trans h'.sessions
  organizations := h.organizations.trans h'.organizations
  members := fun link hlink => h'.members link (h.members link hlink)
  templates := h.templates.trans h'.templates
  grants := h.grants.trans h'.grants
  actorGrants := fun link hlink => h'.actorGrants link (h.actorGrants link hlink)
  organizationGrants := fun link hlink =>
    h'.organizationGrants link (h.organizationGrants link hlink)

/-- A row is written under a number that is not in use, unless it is that of an
actor whose flags are set. -/
theorem Change.extends (change : Change store after) (bound : after.issued < numberLimit)
    (h : store.Numbered) : store.Extends after := by
  cases change with
  | actorAdded =>
      exact { Extends.refl store with
        actors := fun id hid => Table.mem_insert.mpr (Or.inr hid) }
  | actorFlagged active superuser stored =>
      exact { Extends.refl store with
        actors := fun id hid => Table.mem_insert.mpr (Or.inr hid) }
  | sessionAdded stored =>
      exact { Extends.refl store with sessions := Table.within_insert (h.fresh bound rfl) }
  | organizationAdded free =>
      exact { Extends.refl store with organizations := Table.within_insert (h.fresh bound rfl) }
  | templateAdded defaults free =>
      exact { Extends.refl store with templates := Table.within_insert (h.fresh bound rfl) }
  | grantAdded stored free =>
      exact { Extends.refl store with grants := Table.within_insert (h.fresh bound rfl) }
  | memberLinked link stored =>
      exact { Extends.refl store with
        members := fun old hold => SortedSet.mem_insert.mpr (Or.inr hold) }
  | actorGrantLinked link stored =>
      exact { Extends.refl store with
        actorGrants := fun old hold => SortedSet.mem_insert.mpr (Or.inr hold) }
  | organizationGrantLinked link stored =>
      exact { Extends.refl store with
        organizationGrants := fun old hold => SortedSet.mem_insert.mpr (Or.inr hold) }
  | visibilitySet id state => exact { Extends.refl store with }

theorem Changes.issued_le (changes : Changes store after) : store.issued ≤ after.issued := by
  induction changes with
  | refl => exact Nat.le_refl _
  | tail _ change ih => exact Nat.le_trans ih change.issued_le

/-- What adds up along changes, and what each change with a number to spare brings
about, any number of them brings about. -/
theorem Changes.lift {R : Store → Store → Prop} (refl : ∀ store, R store store)
    (trans : ∀ {store after later}, R store after → R after later → R store later)
    (step : ∀ {store after}, Change store after → after.issued < numberLimit → store.Numbered →
      R store after)
    (changes : Changes store after) (bound : after.issued < numberLimit) (h : store.Integral) :
    R store after := by
  induction changes with
  | refl => exact refl _
  | tail chain change ih =>
      have hbefore := Nat.lt_of_le_of_lt change.issued_le bound
      have hintegral := Changes.integral chain hbefore h
      exact trans (ih hbefore) (step change bound hintegral.numbered)

theorem Changes.extends (changes : Changes store after) (bound : after.issued < numberLimit)
    (h : store.Integral) : store.Extends after :=
  Changes.lift Extends.refl Extends.trans Change.extends changes bound h

section Runs

theorem after_append (store : Store) (writes later : List Write) :
    store.after (writes ++ later) = (store.after writes).after later :=
  List.foldl_append

theorem issued_le_write (keyed : store.Keyed) (write : Write) :
    store.issued ≤ (store.write write).2.issued :=
  Changes.issued_le (store.write_outcome keyed write).changes

theorem issued_le_after (keyed : store.Keyed) (writes : List Write) :
    store.issued ≤ (store.after writes).issued :=
  Changes.issued_le (after_changes keyed writes)

theorem integral_after_writes (h : store.Integral) (writes : List Write)
    (bound : (store.after writes).issued < numberLimit) : (store.after writes).Integral :=
  Changes.integral (after_changes h.keyed writes) bound h

theorem extends_after_writes (h : store.Integral) (writes : List Write)
    (bound : (store.after writes).issued < numberLimit) : store.Extends (store.after writes) :=
  Changes.extends (after_changes h.keyed writes) bound h

end Runs

section Holding

variable {actor : ActorId} {grant : Grant}

/-- A grant that was stored before has kept its row. -/
theorem Extends.get?_grants (grown : store.Extends after) {id : GrantId}
    (stored : id ∈ store.grants) (row : after.grants.get? id = some grant) :
    store.grants.get? id = some grant := by
  obtain ⟨old, hold⟩ := stored
  have hkept : after.grants.get? id = some old := grown.grants id old hold
  rw [row, Option.some.injEq] at hkept
  rw [hold, hkept]

theorem StoresGrant.extend (h : store.StoresGrant grant) (grown : store.Extends after) :
    after.StoresGrant grant := by
  obtain ⟨id, hrow⟩ := h
  exact ⟨id, grown.grants id grant hrow⟩

theorem HoldsItself.extend (h : store.HoldsItself actor grant) (grown : store.Extends after) :
    after.HoldsItself actor grant := by
  obtain ⟨id, hlink, hrow⟩ := h
  exact ⟨id, grown.actorGrants _ hlink, grown.grants id grant hrow⟩

theorem HoldsAsMember.extend (h : store.HoldsAsMember actor grant) (grown : store.Extends after) :
    after.HoldsAsMember actor grant := by
  obtain ⟨organization, id, hmember, hlink, hrow⟩ := h
  exact ⟨organization, id, grown.members _ hmember, grown.organizationGrants _ hlink,
    grown.grants id grant hrow⟩

end Holding

end Store

end AccessGrants

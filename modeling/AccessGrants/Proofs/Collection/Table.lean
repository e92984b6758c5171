import AccessGrants.Collection.Table
import AccessGrants.Proofs.Collection.SortedSet

/-!
Reading a table by key and reading off its rows agree: a key leads to a value
exactly when the pair is an entry, because an ascending list has no key twice.
What holds of every row, and what no two rows share, is kept by writing a row
for which it is checked.
-/

namespace AccessGrants.Table

open Std

variable {κ ν : Type} [Ord κ] [DecidableEq κ]

private theorem find?_entry [TransOrd κ] {entries : List (κ × ν)}
    (h : Ascending (entries.map Prod.fst)) {key : κ} {value : ν}
    (hmem : (key, value) ∈ entries) :
    entries.find? (fun entry => entry.1 = key) = some (key, value) := by
  induction entries with
  | nil => cases hmem
  | cons entry rest ih =>
      obtain ⟨hfirst, hrest⟩ := List.pairwise_cons.mp h
      rcases List.mem_cons.mp hmem with heq | hlater
      · subst heq
        simp
      · have hlt : compare entry.1 key = .lt :=
          hfirst key (List.mem_map_of_mem (f := Prod.fst) hlater)
        have hne : entry.1 ≠ key := by
          intro same
          rw [same, ReflOrd.compare_self] at hlt
          cases hlt
        rw [List.find?_cons_of_neg (by simpa using hne)]
        exact ih hrest hlater

theorem get?_eq_some_iff [TransOrd κ] {t : Table κ ν} {key : κ} {value : ν} :
    t.get? key = some value ↔ (key, value) ∈ t.entries := by
  constructor
  · intro h
    obtain ⟨entry, hfound, rfl⟩ := Option.map_eq_some_iff.mp h
    have hkey : entry.1 = key := by simpa using List.find?_some hfound
    rw [← hkey]
    exact List.mem_of_find?_eq_some hfound
  · intro h
    simp [get?, find?_entry t.ascending h]

theorem mem_values [TransOrd κ] {t : Table κ ν} {value : ν} :
    value ∈ t.values ↔ ∃ key, t.get? key = some value := by
  simp [values, get?_eq_some_iff]

instance : Membership κ (Table κ ν) := ⟨fun t key => ∃ value, t.get? key = some value⟩

variable {t : Table κ ν} {key other : κ} {value : ν}

theorem mem_of_get? (h : t.get? key = some value) : key ∈ t := ⟨value, h⟩

theorem get?_eq_none_iff : t.get? key = none ↔ key ∉ t :=
  Option.eq_none_iff_forall_ne_some.trans not_exists.symm

theorem contains_iff : t.contains key = true ↔ key ∈ t :=
  Option.isSome_iff_exists

/-- Every row of the table has the property. -/
def All (t : Table κ ν) (P : κ → ν → Prop) : Prop :=
  ∀ key value, t.get? key = some value → P key value

/-- No two rows of the table have the same value of `f`. -/
def Distinguishes {β : Type} (t : Table κ ν) (f : ν → β) : Prop :=
  ∀ key other value value', t.get? key = some value → t.get? other = some value' →
    f value = f value' → key = other

theorem all_empty {P : κ → ν → Prop} : (empty : Table κ ν).All P := by
  intro key value h
  rw [get?_empty] at h
  cases h

theorem All.mono {P Q : κ → ν → Prop} (h : t.All P)
    (himp : ∀ key value, P key value → Q key value) : t.All Q := by
  intro key value hrow
  exact himp key value (h key value hrow)

theorem distinguishes_empty {β : Type} {f : ν → β} : (empty : Table κ ν).Distinguishes f := by
  intro key other value value' h
  rw [get?_empty] at h
  cases h

section Insert

variable [TransOrd κ] [LawfulEqOrd κ]

theorem mem_insert : other ∈ t.insert key value ↔ other = key ∨ other ∈ t := by
  change (∃ value', (t.insert key value).get? other = some value') ↔ _
  rw [get?_insert]
  split
  · next heq => simp [heq]
  · next hne =>
      have hother : other ≠ key := fun same => hne same.symm
      simp only [hother, false_or]
      exact Iff.rfl

theorem All.insert {P : κ → ν → Prop} (h : t.All P) (hnew : P key value) :
    (t.insert key value).All P := by
  intro other value' hrow
  rw [get?_insert] at hrow
  split at hrow
  · next heq =>
      cases hrow
      exact heq ▸ hnew
  · exact h other value' hrow

/-- A value that no row has yet may be written, and it does not matter over
which row. -/
theorem Distinguishes.insert {β : Type} {f : ν → β} (h : t.Distinguishes f)
    (hfree : t.All fun _ old => f old ≠ f value) : (t.insert key value).Distinguishes f := by
  intro first second value₁ value₂ hfirst hsecond hsame
  rw [get?_insert] at hfirst hsecond
  -- Each of the two rows is the one that was written or an old one.
  split at hfirst
  · next hkey =>
      cases hfirst
      split at hsecond
      · next hkey' => exact hkey.symm.trans hkey'
      · exact absurd hsame.symm (hfree second value₂ hsecond)
  · split at hsecond
    · cases hsecond
      exact absurd hsame (hfree first value₁ hfirst)
    · exact h first second value₁ value₂ hfirst hsecond hsame

end Insert

section Keys

/-- The keys in ascending order. -/
def keys (t : Table κ ν) : List κ := t.entries.map Prod.fst

theorem mem_keys [TransOrd κ] : key ∈ t.keys ↔ key ∈ t := by
  rw [keys, List.mem_map]
  constructor
  · rintro ⟨⟨_, value⟩, hentry, rfl⟩
    exact ⟨value, get?_eq_some_iff.mpr hentry⟩
  · rintro ⟨value, hvalue⟩
    exact ⟨(key, value), get?_eq_some_iff.mp hvalue, rfl⟩

omit [DecidableEq κ] in
theorem keys_nodup [TransOrd κ] (t : Table κ ν) : t.keys.Nodup :=
  SortedSet.nodup_of_ascending t.ascending

/-- Rows that carry their key give the keys back. -/
theorem map_values_eq_keys [TransOrd κ] {f : ν → κ} (h : t.All fun key value => f value = key) :
    t.values.map f = t.keys := by
  rw [values, keys, List.map_map]
  refine List.map_congr_left fun entry hentry => ?_
  exact h entry.1 entry.2 (get?_eq_some_iff.mpr hentry)

omit [DecidableEq κ] in
theorem keys_insert [TransOrd κ] [LawfulEqOrd κ] :
    (t.insert key value).keys = SortedSet.insertAscending key t.keys :=
  keys_writeAscending

theorem keys_insert_of_mem [TransOrd κ] [LawfulEqOrd κ] (h : key ∈ t) :
    (t.insert key value).keys = t.keys := by
  have hkey : key ∈ t.keys := mem_keys.mpr h
  exact keys_insert.trans (SortedSet.insertAscending_of_mem t.ascending hkey)

theorem keys_insert_perm [TransOrd κ] [LawfulEqOrd κ] (h : key ∉ t) :
    (t.insert key value).keys.Perm (key :: t.keys) := by
  have hkey : key ∉ t.keys := by
    intro hmem
    exact h (mem_keys.mp hmem)
  rw [keys_insert]
  exact SortedSet.insertAscending_perm hkey

end Keys

end AccessGrants.Table

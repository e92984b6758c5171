import AccessGrants.Collection.SortedSet

/-!
Tables: finite maps kept in ascending order of their keys. Reading a key gives
the value written to it last, and the rows of a table are read off in the
order of their keys, which for rows numbered as they are made is the order in
which they were made.
-/

namespace AccessGrants

open Std

variable {κ ν : Type} [Ord κ]

structure Table (κ ν : Type) [Ord κ] where
  entries : List (κ × ν)
  ascending : Ascending (entries.map Prod.fst)

namespace Table

/-- Writes a value under a key of an ascending list of entries, over the value
that was there. -/
def writeAscending (key : κ) (value : ν) : List (κ × ν) → List (κ × ν)
  | [] => [(key, value)]
  | entry :: rest =>
    match compare key entry.1 with
    | .lt => (key, value) :: entry :: rest
    | .eq => (key, value) :: rest
    | .gt => entry :: writeAscending key value rest

theorem keys_writeAscending [LawfulEqOrd κ] {key : κ} {value : ν} {entries : List (κ × ν)} :
    (writeAscending key value entries).map Prod.fst =
      SortedSet.insertAscending key (entries.map Prod.fst) := by
  induction entries with
  | nil => rfl
  | cons entry rest ih =>
    simp only [writeAscending, List.map_cons, SortedSet.insertAscending]
    cases h : compare key entry.1 with
    | lt => rfl
    | eq => simp [LawfulEqOrd.eq_of_compare h]
    | gt => simp [ih]

def empty : Table κ ν := ⟨[], ascending_nil⟩

instance : Inhabited (Table κ ν) := ⟨empty⟩

def insert [TransOrd κ] [LawfulEqOrd κ] (t : Table κ ν) (key : κ) (value : ν) : Table κ ν where
  entries := writeAscending key value t.entries
  ascending := by
    rw [keys_writeAscending]
    exact SortedSet.ascending_insertAscending t.ascending

def get? [DecidableEq κ] (t : Table κ ν) (key : κ) : Option ν :=
  (t.entries.find? fun entry => entry.1 = key).map Prod.snd

def contains [DecidableEq κ] (t : Table κ ν) (key : κ) : Bool :=
  (t.get? key).isSome

/-- The values in ascending order of their keys. -/
def values (t : Table κ ν) : List ν := t.entries.map Prod.snd

theorem entries_injective {s t : Table κ ν} (h : s.entries = t.entries) : s = t := by
  cases s
  cases t
  cases h
  rfl

instance [DecidableEq κ] [DecidableEq ν] : DecidableEq (Table κ ν) := fun s t =>
  if h : s.entries = t.entries then isTrue (entries_injective h)
  else isFalse fun same => h (congrArg entries same)

theorem find?_writeAscending [TransOrd κ] [LawfulEqOrd κ] [DecidableEq κ] {key other : κ}
    {value : ν} {entries : List (κ × ν)} (h : Ascending (entries.map Prod.fst)) :
    (writeAscending key value entries).find? (fun entry => entry.1 = other) =
      if key = other then some (key, value)
      else entries.find? fun entry => entry.1 = other := by
  induction entries with
  | nil => by_cases hk : key = other <;> simp [writeAscending, hk]
  | cons entry rest ih =>
    obtain ⟨hentry, hrest⟩ := List.pairwise_cons.mp h
    unfold writeAscending
    split
    · by_cases hk : key = other <;> simp [hk]
    · next heq =>
      have := LawfulEqOrd.eq_of_compare heq
      by_cases hk : key = other <;> simp [← this, hk]
    · next hgt =>
      have hne : entry.1 ≠ key := by
        intro same
        rw [same, ReflOrd.compare_self] at hgt
        simp at hgt
      by_cases he : entry.1 = other
      · have hk : key ≠ other := fun same => hne (he.trans same.symm)
        simp [he, hk]
      · simp [he, ih hrest]

theorem get?_insert [TransOrd κ] [LawfulEqOrd κ] [DecidableEq κ] {t : Table κ ν}
    {key other : κ} {value : ν} :
    (t.insert key value).get? other = if key = other then some value else t.get? other := by
  simp only [get?, insert, find?_writeAscending t.ascending]
  split <;> simp

@[simp] theorem get?_empty [DecidableEq κ] {key : κ} : (empty : Table κ ν).get? key = none := by
  simp [get?, empty]

end Table

end AccessGrants

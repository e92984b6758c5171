/-!
Finite sets kept as strictly ascending lists. The list is the whole content of
a set: two sets with the same members are the same value, whatever the order
in which the members arrived, and enumerating a set is reading its list.
-/

namespace AccessGrants

open Std

variable {α : Type} [Ord α]

/-- Every element is smaller than all that follow it. -/
def Ascending (items : List α) : Prop :=
  items.Pairwise fun a b => compare a b = .lt

theorem ascending_nil : Ascending ([] : List α) :=
  List.Pairwise.nil

structure SortedSet (α : Type) [Ord α] where
  toList : List α
  ascending : Ascending toList

namespace SortedSet

/-- Puts an element at its place in an ascending list, or leaves the list as
it is when the element is there already. -/
def insertAscending (a : α) : List α → List α
  | [] => [a]
  | b :: rest =>
    match compare a b with
    | .lt => a :: b :: rest
    | .eq => b :: rest
    | .gt => b :: insertAscending a rest

theorem mem_insertAscending [LawfulEqOrd α] {a x : α} {items : List α} :
    x ∈ insertAscending a items ↔ x = a ∨ x ∈ items := by
  induction items with
  | nil => simp [insertAscending]
  | cons b rest ih =>
    unfold insertAscending
    split
    · simp
    · next h =>
      have := LawfulEqOrd.eq_of_compare h
      subst this
      simp
    · simp only [List.mem_cons, ih]
      exact or_left_comm

theorem ascending_insertAscending [TransOrd α] [LawfulEqOrd α] {a : α} {items : List α}
    (h : Ascending items) : Ascending (insertAscending a items) := by
  induction items with
  | nil => simp [insertAscending, Ascending]
  | cons b rest ih =>
    obtain ⟨hb, hrest⟩ := List.pairwise_cons.mp h
    unfold insertAscending
    split
    · next hlt =>
      refine List.pairwise_cons.mpr ⟨fun x hx => ?_, h⟩
      rcases List.mem_cons.mp hx with rfl | hx
      · exact hlt
      · exact TransCmp.lt_trans hlt (hb x hx)
    · exact h
    · next hgt =>
      refine List.pairwise_cons.mpr ⟨fun x hx => ?_, ih hrest⟩
      rcases mem_insertAscending.mp hx with rfl | hx
      · exact OrientedCmp.lt_of_gt hgt
      · exact hb x hx

def empty : SortedSet α := ⟨[], ascending_nil⟩

instance : Inhabited (SortedSet α) := ⟨empty⟩

def insert [TransOrd α] [LawfulEqOrd α] (s : SortedSet α) (a : α) : SortedSet α :=
  ⟨insertAscending a s.toList, ascending_insertAscending s.ascending⟩

def contains [DecidableEq α] (s : SortedSet α) (a : α) : Bool :=
  decide (a ∈ s.toList)

/-- Puts an element in, and answers whether it was not there yet. -/
def add [TransOrd α] [LawfulEqOrd α] [DecidableEq α] (s : SortedSet α) (a : α) :
    Bool × SortedSet α :=
  (!s.contains a, s.insert a)

def size (s : SortedSet α) : Nat := s.toList.length

def isEmpty (s : SortedSet α) : Bool := s.toList.isEmpty

def ofList [TransOrd α] [LawfulEqOrd α] (items : List α) : SortedSet α :=
  items.foldl insert empty

instance : Membership α (SortedSet α) := ⟨fun s a => a ∈ s.toList⟩

instance [DecidableEq α] (a : α) (s : SortedSet α) : Decidable (a ∈ s) :=
  inferInstanceAs (Decidable (a ∈ s.toList))

theorem mem_def {a : α} {s : SortedSet α} : a ∈ s ↔ a ∈ s.toList := Iff.rfl

@[simp] theorem not_mem_empty {a : α} : a ∉ (empty : SortedSet α) := by
  simp [mem_def, empty]

@[simp] theorem mem_insert [TransOrd α] [LawfulEqOrd α] {s : SortedSet α} {a x : α} :
    x ∈ s.insert a ↔ x = a ∨ x ∈ s := mem_insertAscending

@[simp] theorem contains_eq_true [DecidableEq α] {s : SortedSet α} {a : α} :
    s.contains a = true ↔ a ∈ s := by
  simp [contains, mem_def]

theorem toList_injective {s t : SortedSet α} (h : s.toList = t.toList) : s = t := by
  cases s
  cases t
  cases h
  rfl

instance [DecidableEq α] : DecidableEq (SortedSet α) := fun s t =>
  if h : s.toList = t.toList then isTrue (toList_injective h)
  else isFalse fun same => h (congrArg toList same)

end SortedSet

end AccessGrants

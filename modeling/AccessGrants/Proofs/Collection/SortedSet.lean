import AccessGrants.Collection.SortedSet
import Mathlib.Data.List.Dedup
import Mathlib.Data.List.Sort

/-!
Putting an element into an ascending list. An element that is there already
leaves the list as it is; a new one makes the list longer by itself alone. What
holds of every element is kept by putting in one for which it is checked, and a
set is given by its elements, however they were put in.
-/

namespace AccessGrants

instance {α : Type} [Ord α] (items : List α) : Decidable (Ascending items) :=
  inferInstanceAs (Decidable (items.Pairwise _))

end AccessGrants

namespace AccessGrants.SortedSet

open Std

variable {α : Type} [Ord α] {a : α} {items : List α}

omit [Ord α] in
/-- Two lists with the same elements are the same list if both are in the order
of some key. -/
theorem eq_of_ascending_map {κ : Type} [Ord κ] [TransOrd κ] {key : α → κ} {others : List α}
    (h : Ascending (items.map key)) (h' : Ascending (others.map key))
    (same : ∀ x, x ∈ items ↔ x ∈ others) : items = others := by
  have hirrefl : Std.Irrefl fun a b : α => compare (key a) (key b) = .lt :=
    ⟨fun a hlt => by rw [ReflOrd.compare_self] at hlt; cases hlt⟩
  have hantisymm : Std.Antisymm fun a b : α => compare (key a) (key b) = .lt :=
    ⟨fun a b hlt hgt => absurd (TransCmp.lt_trans hlt hgt) (hirrefl.irrefl a)⟩
  exact List.Pairwise.eq_of_mem_iff (List.pairwise_map.mp h) (List.pairwise_map.mp h') same

theorem nodup_of_ascending [TransOrd α] (h : Ascending items) : items.Nodup := by
  refine h.imp ?_
  rintro first second hlt rfl
  rw [ReflOrd.compare_self] at hlt
  cases hlt

theorem insertAscending_of_mem [TransOrd α] [LawfulEqOrd α] (ascending : Ascending items)
    (h : a ∈ items) : insertAscending a items = items := by
  induction items with
  | nil => cases h
  | cons b rest ih =>
      obtain ⟨hfirst, hrest⟩ := List.pairwise_cons.mp ascending
      rcases List.mem_cons.mp h with rfl | hlater
      · simp [insertAscending, ReflOrd.compare_self]
      · have hgt : compare a b = .gt := OrientedCmp.gt_of_lt (hfirst a hlater)
        simp [insertAscending, hgt, ih hrest hlater]

theorem insert_of_mem [TransOrd α] [LawfulEqOrd α] {s : SortedSet α} (h : a ∈ s) :
    s.insert a = s :=
  toList_injective (insertAscending_of_mem s.ascending h)

theorem insertAscending_perm [LawfulEqOrd α] (h : a ∉ items) :
    (insertAscending a items).Perm (a :: items) := by
  induction items with
  | nil => exact List.Perm.refl _
  | cons b rest ih =>
      rw [List.mem_cons, not_or] at h
      obtain ⟨hfirst, hrest⟩ := h
      unfold insertAscending
      split
      · exact List.Perm.refl _
      · next heq => exact absurd (LawfulEqOrd.eq_of_compare heq) hfirst
      · exact ((ih hrest).cons b).trans (List.Perm.swap a b rest)

theorem forall_mem_insert [TransOrd α] [LawfulEqOrd α] {s : SortedSet α} {P : α → Prop}
    (hnew : P a) (h : ∀ x ∈ s, P x) : ∀ x ∈ s.insert a, P x := by
  intro x hx
  rcases mem_insert.mp hx with rfl | hold
  · exact hnew
  · exact h x hold

/-- Two sets with the same elements are the same set. -/
theorem eq_of_mem_iff [TransOrd α] [LawfulEqOrd α] {s t : SortedSet α}
    (h : ∀ x, x ∈ s ↔ x ∈ t) : s = t := by
  have hs : Ascending (s.toList.map id) := by
    rw [List.map_id]
    exact s.ascending
  have ht : Ascending (t.toList.map id) := by
    rw [List.map_id]
    exact t.ascending
  exact toList_injective (eq_of_ascending_map hs ht h)

section Gathering

variable [TransOrd α] [LawfulEqOrd α] {s : SortedSet α} {x : α}

/-- Putting things in one after the other, each under what it is made into. -/
theorem mem_foldl_insert {β : Type} {f : β → α} {things : List β} :
    x ∈ things.foldl (fun s thing => s.insert (f thing)) s ↔
      x ∈ s ∨ ∃ thing ∈ things, x = f thing := by
  -- The set grows along the list, so the induction is for every set to start from.
  induction things generalizing s with
  | nil => simp
  | cons thing rest ih =>
      rw [List.foldl_cons, ih, mem_insert]
      constructor
      · rintro ((hnew | hold) | ⟨later, hmem, heq⟩)
        · exact Or.inr ⟨thing, List.mem_cons_self, hnew⟩
        · exact Or.inl hold
        · exact Or.inr ⟨later, List.mem_cons_of_mem _ hmem, heq⟩
      · rintro (hold | ⟨member, hmem, heq⟩)
        · exact Or.inl (Or.inr hold)
        · rcases List.mem_cons.mp hmem with rfl | hmem
          · exact Or.inl (Or.inl heq)
          · exact Or.inr ⟨member, hmem, heq⟩

theorem mem_ofList : x ∈ ofList items ↔ x ∈ items := by
  have hgathered : x ∈ ofList items ↔ x ∈ (empty : SortedSet α) ∨ ∃ item ∈ items, x = id item :=
    mem_foldl_insert
  rw [hgathered]
  simp

omit [LawfulEqOrd α] in
/-- A set is as large as its elements are many, not counting any of them twice. -/
theorem size_eq_length_dedup [DecidableEq α] (h : ∀ x, x ∈ s ↔ x ∈ items) :
    s.size = items.dedup.length := by
  have hperm : s.toList.Perm items.dedup := by
    refine (List.perm_ext_iff_of_nodup (nodup_of_ascending s.ascending)
      (List.nodup_dedup items)).mpr fun x => ?_
    rw [List.mem_dedup]
    exact h x
  exact hperm.length_eq

omit [TransOrd α] [LawfulEqOrd α] in
theorem isEmpty_iff (h : ∀ x, x ∈ s ↔ x ∈ items) : s.isEmpty = true ↔ items = [] := by
  rw [isEmpty, List.isEmpty_iff, List.eq_nil_iff_forall_not_mem,
    List.eq_nil_iff_forall_not_mem]
  exact forall_congr' fun x => not_congr (h x)

end Gathering

end AccessGrants.SortedSet

import AccessGrants.Text.Blank
import Mathlib.Data.List.TakeWhile

/-!
Trimming by what it leaves. The trimmed text is what stands between blanks and
neither begins nor ends with one, and there is only one such part of a text.
-/

namespace AccessGrants.Text

/-- The part of a text that is left when the blanks at both ends are gone. -/
structure Trimmed (cs trimmed : List Char) : Prop where
  between : ∃ front back, cs = front ++ trimmed ++ back ∧
    (∀ c ∈ front, isBlank c = true) ∧ ∀ c ∈ back, isBlank c = true
  start : ∀ c ∈ trimmed.head?, isBlank c = false
  finish : ∀ c ∈ trimmed.getLast?, isBlank c = false

variable {cs front trimmed : List Char}

theorem dropWhile_isBlank_append (hfront : ∀ c ∈ front, isBlank c = true)
    (start : ∀ c ∈ cs.head?, isBlank c = false) : (front ++ cs).dropWhile isBlank = cs := by
  rw [List.dropWhile_append_of_pos hfront]
  cases cs with
  | nil => rfl
  | cons c rest =>
      have hc : isBlank c = false := start c rfl
      rw [List.dropWhile_cons_of_neg (by simp [hc])]

theorem head?_dropWhile_isBlank : ∀ c ∈ (cs.dropWhile isBlank).head?, isBlank c = false := by
  intro c hc
  have hstop := List.head?_dropWhile_not isBlank cs
  rw [Option.mem_def.mp hc] at hstop
  exact hstop

/-- There is one way to trim a text. -/
theorem Trimmed.eq_trimChars (h : Trimmed cs trimmed) : trimmed = trimChars cs := by
  obtain ⟨front, back, rfl, hfront, hback⟩ := h.between
  cases trimmed with
  | nil =>
      have hblank : ∀ c ∈ front ++ [] ++ back, isBlank c = true := by
        simpa using fun c hc => hc.elim (hfront c) (hback c)
      have hnothing : (front ++ [] ++ back).dropWhile isBlank = [] :=
        List.dropWhile_eq_nil_iff.mpr hblank
      rw [trimChars, hnothing]
      rfl
  | cons c rest =>
      have hstart : ∀ d ∈ (c :: rest ++ back).head?, isBlank d = false := h.start
      have hfinish : ∀ d ∈ (c :: rest).reverse.head?, isBlank d = false := by
        rw [List.head?_reverse]
        exact h.finish
      have hback' : ∀ d ∈ back.reverse, isBlank d = true := by simpa using hback
      rw [trimChars, List.append_assoc, dropWhile_isBlank_append hfront hstart,
        List.reverse_append, dropWhile_isBlank_append hback' hfinish, List.reverse_reverse]

theorem trimmed_trimChars (cs : List Char) : Trimmed cs (trimChars cs) := by
  -- The first step takes the front off, the second, seen backwards, the back.
  have hfront : cs = cs.takeWhile isBlank ++ cs.dropWhile isBlank :=
    List.takeWhile_append_dropWhile.symm
  generalize hrest : cs.dropWhile isBlank = rest at hfront
  have hback : rest = trimChars cs ++ (rest.reverse.takeWhile isBlank).reverse := by
    rw [trimChars, hrest, ← List.reverse_append, List.takeWhile_append_dropWhile,
      List.reverse_reverse]
  refine ⟨⟨cs.takeWhile isBlank, (rest.reverse.takeWhile isBlank).reverse, ?_, ?_, ?_⟩, ?_, ?_⟩
  · rw [List.append_assoc, ← hback]
    exact hfront
  · intro c hc
    exact List.mem_takeWhile_imp hc
  · intro c hc
    exact List.mem_takeWhile_imp (List.mem_reverse.mp hc)
  · intro c hc
    have hhead : c ∈ rest.head? := by
      rw [hback, List.head?_append, Option.mem_def.mp hc]
      rfl
    rw [← hrest] at hhead
    exact head?_dropWhile_isBlank c hhead
  · intro c hc
    rw [trimChars, List.getLast?_reverse] at hc
    exact head?_dropWhile_isBlank c hc

/-- A text without blanks is left as it is. -/
theorem trimmed_self (h : ∀ c ∈ cs, isBlank c = false) : Trimmed cs cs where
  between := ⟨[], [], by simp, by simp, by simp⟩
  start := fun c hc => h c (List.mem_of_mem_head? hc)
  finish := fun c hc => h c (List.mem_of_getLast? hc)

theorem isBlank_of_isDigit {c : Char} (h : c.isDigit = true) : isBlank c = false := by
  have hrange : 48 ≤ c.toNat ∧ c.toNat ≤ 57 := by
    simpa [Char.isDigit, UInt32.le_iff_toNat_le] using h
  simp [isBlank, blankRanges]
  omega

theorem trimmed_iff : Trimmed cs trimmed ↔ trimmed = trimChars cs := by
  constructor
  · exact Trimmed.eq_trimChars
  · rintro rfl
    exact trimmed_trimChars cs

end AccessGrants.Text

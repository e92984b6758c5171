/-!
Texts joined by colons. A text ends in one part that has no colon, and that
part and what stands before it are found again from the whole. A text that
reads the same with a part moved from its end to its front is nothing but
copies of that part.
-/

namespace AccessGrants.Text

/-- The text is one or more copies of a piece, joined by colons. -/
def Repeats (piece text : String) : Prop :=
  ∃ copies : Nat, text = ":".intercalate (List.replicate (copies + 1) piece)

/-- The last colon of a text is found again. -/
theorem split_at_last_colon {front front' last last' : List Char} (hlast : ':' ∉ last)
    (hlast' : ':' ∉ last') (h : front ++ ':' :: last = front' ++ ':' :: last') :
    front = front' ∧ last = last' := by
  rcases List.append_eq_append_iff.mp h with ⟨more, hfront, hrest⟩ | ⟨more, hfront, hrest⟩
  · cases more with
    | nil =>
        obtain ⟨_, hsame⟩ := List.cons.inj hrest
        exact ⟨by simpa using hfront.symm, hsame⟩
    | cons c more =>
        obtain ⟨_, hsame⟩ := List.cons.inj hrest
        exact absurd (by simp [hsame] : ':' ∈ last) hlast
  · cases more with
    | nil =>
        obtain ⟨_, hsame⟩ := List.cons.inj hrest
        exact ⟨by simpa using hfront, hsame.symm⟩
    | cons c more =>
        obtain ⟨_, hsame⟩ := List.cons.inj hrest
        exact absurd (by simp [hsame] : ':' ∈ last') hlast'

/-- One or more copies of a piece, joined by colons, as characters. -/
def copiesOf (piece : List Char) : Nat → List Char
  | 0 => piece
  | copies + 1 => piece ++ ':' :: copiesOf piece copies

theorem toList_intercalate_replicate (piece : String) (copies : Nat) :
    (":".intercalate (List.replicate (copies + 1) piece)).toList =
      copiesOf piece.toList copies := by
  induction copies with
  | zero => simp [copiesOf]
  | succ copies ih =>
      rw [List.replicate_succ, List.replicate_succ, String.intercalate_cons_cons]
      rw [List.replicate_succ] at ih
      simp [copiesOf, ih]

theorem repeats_iff {piece text : String} :
    Repeats piece text ↔ ∃ copies, text.toList = copiesOf piece.toList copies := by
  constructor
  · rintro ⟨copies, rfl⟩
    exact ⟨copies, toList_intercalate_replicate piece copies⟩
  · rintro ⟨copies, h⟩
    refine ⟨copies, String.toList_injective ?_⟩
    rw [h, toList_intercalate_replicate]

theorem mem_copiesOf {piece : List Char} {copies : Nat} {c : Char}
    (h : c ∈ copiesOf piece copies) : c ∈ piece ∨ c = ':' := by
  induction copies with
  | zero => exact Or.inl h
  | succ copies ih =>
      rcases List.mem_append.mp h with hpiece | hrest
      · exact Or.inl hpiece
      · rcases List.mem_cons.mp hrest with hcolon | hlater
        · exact Or.inr hcolon
        · exact ih hlater

/-- The piece may stand before or behind its copies. -/
theorem copiesOf_shift (piece : List Char) (copies : Nat) :
    copiesOf piece copies ++ ':' :: piece = piece ++ ':' :: copiesOf piece copies := by
  induction copies with
  | zero => rfl
  | succ copies ih => simp [copiesOf, ih]

/-- A text that a part can be moved around consists of copies of that part. The
induction is on the length of the text: the part is taken off its front. -/
theorem eq_copiesOf_of_shift {text last first : List Char} (hlast : ':' ∉ last)
    (h : text ++ ':' :: last = first ++ ':' :: text) :
    first = last ∧ ∃ copies, text = copiesOf last copies := by
  induction hlength : text.length using Nat.strongRecOn generalizing text with
  | ind length ih =>
      rcases List.append_eq_append_iff.mp h with ⟨more, hfirst, hrest⟩ | ⟨more, htext, hrest⟩
      · cases more with
        | nil =>
            obtain ⟨_, hsame⟩ := List.cons.inj hrest
            exact ⟨by simpa [hsame] using hfirst, 0, hsame.symm⟩
        | cons c more =>
            obtain ⟨_, hsame⟩ := List.cons.inj hrest
            exact absurd (by simp [hsame] : ':' ∈ last) hlast
      · cases more with
        | nil =>
            obtain ⟨_, hsame⟩ := List.cons.inj hrest
            have hfirst : text = first := by simpa using htext
            exact ⟨hfirst.symm.trans hsame, 0, hsame⟩
        | cons c more =>
            -- The front of the text is the part, and the rest shifts again.
            obtain ⟨rfl, hsame⟩ := List.cons.inj hrest
            have hshorter : more.length < length := by
              rw [← hlength, htext]
              simp
              omega
            have hshift : more ++ ':' :: last = first ++ ':' :: more :=
              hsame.symm.trans htext
            obtain ⟨hfirst, copies, hcopies⟩ := ih more.length hshorter hshift rfl
            refine ⟨hfirst, copies + 1, ?_⟩
            rw [htext, hfirst, hcopies]
            rfl

/-- Two texts with the same middle differ by a part at the end of one and
inside the other exactly when the middle is made of copies of that part. -/
theorem append_colon_eq_iff {start start' middle last : List Char} (hlast : ':' ∉ last) :
    start' ++ ':' :: middle = start ++ ':' :: middle ++ ':' :: last ↔
      start' = start ++ ':' :: last ∧ ∃ copies, middle = copiesOf last copies := by
  constructor
  · intro h
    rw [List.append_assoc] at h
    rcases List.append_eq_append_iff.mp h with ⟨more, _, hrest⟩ | ⟨more, hstart, hrest⟩
    -- The longer text cannot have the shorter front: the lengths do not fit.
    · have hlength := congrArg List.length hrest
      simp at hlength
      omega
    · cases more with
      | nil =>
          have hlength := congrArg List.length hrest
          simp at hlength
      | cons c first =>
          obtain ⟨rfl, hshift⟩ := List.cons.inj hrest
          obtain ⟨hfirst, hcopies⟩ := eq_copiesOf_of_shift hlast hshift
          exact ⟨by rw [hstart, hfirst], hcopies⟩
  · rintro ⟨rfl, copies, rfl⟩
    have hshift := copiesOf_shift last copies
    simp [hshift]

end AccessGrants.Text

import AccessGrants.Text.Numeral
import Mathlib.Data.Nat.Digits.Defs

/-!
Decimal numerals as texts. A numeral is digits behind at most one sign, and the
readers accept the numerals and nothing else, each as the number that it
denotes. The numeral that is written for a number is one of them, so reading
gives the number back, no two numbers share a numeral, and no colon occurs in
one.
-/

namespace AccessGrants.Text

/-- One or more ASCII digits. -/
def IsDigits (cs : List Char) : Prop :=
  cs ≠ [] ∧ ∀ c ∈ cs, c.isDigit = true

/-- What digits stand for: each counts for the power of ten of its place. -/
def placeValue (digits : List Char) : Nat :=
  Nat.ofDigits 10 (digits.reverse.map fun c => c.toNat - '0'.toNat)

/-- The text is a numeral of the number. -/
inductive Denotes : List Char → Int → Prop where
  | unsigned {digits : List Char} (h : IsDigits digits) : Denotes digits (placeValue digits)
  | plus {digits : List Char} (h : IsDigits digits) : Denotes ('+' :: digits) (placeValue digits)
  | minus {digits : List Char} (h : IsDigits digits) :
      Denotes ('-' :: digits) (-(placeValue digits : Int))

/-- The text is digits behind at most a plus sign, and they stand for the number. -/
def DenotesUnsigned (cs : List Char) (n : Nat) : Prop :=
  ∃ digits, (cs = digits ∨ cs = '+' :: digits) ∧ IsDigits digits ∧ placeValue digits = n

section Reading

variable {cs : List Char}

theorem ofDigitChars_eq_placeValue (cs : List Char) :
    Nat.ofDigitChars 10 cs 0 = placeValue cs := by
  induction cs with
  | nil => rfl
  | cons c rest ih =>
      rw [Nat.ofDigitChars_cons, Nat.ofDigitChars_eq_ofDigitChars_zero, ih, placeValue, placeValue,
        List.reverse_cons, List.map_append, Nat.ofDigits_append]
      simp [Nat.ofDigits_singleton]
      ring

theorem readNat?_eq_some_iff {n : Nat} :
    readNat? cs = some n ↔ IsDigits cs ∧ placeValue cs = n := by
  simp [readNat?, IsDigits, ofDigitChars_eq_placeValue, List.all_eq_true]

theorem IsDigits.readNat? (h : IsDigits cs) : readNat? cs = some (placeValue cs) :=
  readNat?_eq_some_iff.mpr ⟨h, rfl⟩

/-- Digits are read by the third rule of the reader: they are neither of the two
signs that the first rules look for. -/
theorem IsDigits.readInt? (h : IsDigits cs) : readInt? cs = some (placeValue cs : Int) := by
  have hdigit := h.2
  unfold Text.readInt?
  split
  · exact absurd (hdigit '-' List.mem_cons_self) (by decide)
  · exact absurd (hdigit '+' List.mem_cons_self) (by decide)
  · rw [h.readNat?]
    rfl

/-- The digits behind a sign are read before the sign is put to them. -/
private theorem readMagnitude_eq_some_iff {value : Int} :
    (do let n ← readNat? cs; pure (n : Int)) = some value ↔
      IsDigits cs ∧ (placeValue cs : Int) = value := by
  simp only [Option.bind_eq_bind, Option.bind_eq_some_iff, readNat?_eq_some_iff, Option.pure_def,
    Option.some.injEq]
  constructor
  · rintro ⟨n, ⟨hdigits, rfl⟩, hvalue⟩
    exact ⟨hdigits, hvalue⟩
  · rintro ⟨hdigits, hvalue⟩
    exact ⟨placeValue cs, ⟨hdigits, rfl⟩, hvalue⟩

/-- The reader accepts the numerals and nothing else. -/
theorem readInt?_eq_some_iff {n : Int} : readInt? cs = some n ↔ Denotes cs n := by
  constructor
  · intro h
    unfold readInt? at h
    split at h
    · obtain ⟨value, hread, rfl⟩ := Option.map_eq_some_iff.mp h
      obtain ⟨hdigits, rfl⟩ := readMagnitude_eq_some_iff.mp hread
      exact .minus hdigits
    · obtain ⟨value, hread, rfl⟩ := Option.map_eq_some_iff.mp h
      obtain ⟨hdigits, rfl⟩ := readMagnitude_eq_some_iff.mp hread
      exact .plus hdigits
    · obtain ⟨value, hread, rfl⟩ := Option.map_eq_some_iff.mp h
      obtain ⟨hdigits, rfl⟩ := readMagnitude_eq_some_iff.mp hread
      exact .unsigned hdigits
  · rintro (hdigits | hdigits | hdigits)
    · exact hdigits.readInt?
    · simp [readInt?, hdigits.readNat?]
    · simp [readInt?, hdigits.readNat?]

theorem fitsInt64_iff {n : Int} : fitsInt64 n = true ↔ ∃ word : Int64, word.toInt = n := by
  simp only [fitsInt64, Bool.and_eq_true, decide_eq_true_eq]
  constructor
  · rintro ⟨hlow, hhigh⟩
    exact ⟨Int64.ofInt n, Int64.toInt_ofInt_of_le hlow (by omega)⟩
  · rintro ⟨word, rfl⟩
    have hlow := Int64.le_toInt word
    have hhigh := Int64.toInt_lt word
    omega

/-- The bounded reader accepts the numerals of the signed words. -/
theorem readInt64?_eq_some_iff {word : Int64} :
    readInt64? cs = some word ↔ Denotes cs word.toInt := by
  rw [← readInt?_eq_some_iff, readInt64?, Option.bind_eq_some_iff]
  constructor
  · rintro ⟨n, hread, hword⟩
    split at hword
    · next hfits =>
        obtain ⟨same, rfl⟩ := fitsInt64_iff.mp hfits
        rw [Int64.ofInt_toInt, Option.some.injEq] at hword
        rw [← hword]
        exact hread
    · cases hword
  · intro hread
    refine ⟨word.toInt, hread, ?_⟩
    rw [if_pos (fitsInt64_iff.mpr ⟨word, rfl⟩), Int64.ofInt_toInt]

theorem readUnsigned?_eq_some_iff {n : Nat} :
    readUnsigned? cs = some n ↔ DenotesUnsigned cs n := by
  constructor
  · intro h
    unfold readUnsigned? at h
    split at h
    · exact ⟨_, Or.inr rfl, readNat?_eq_some_iff.mp h⟩
    · exact ⟨_, Or.inl rfl, readNat?_eq_some_iff.mp h⟩
  · rintro ⟨digits, rfl | rfl, hdigits⟩
    · unfold readUnsigned?
      split
      · exact absurd (hdigits.1.2 '+' List.mem_cons_self) (by decide)
      · exact readNat?_eq_some_iff.mpr hdigits
    · exact readNat?_eq_some_iff.mpr hdigits

/-- The reader accepts the unsigned numerals of the words. -/
theorem readUInt32?_eq_some_iff {word : UInt32} :
    readUInt32? cs = some word ↔ DenotesUnsigned cs word.toNat := by
  rw [← readUnsigned?_eq_some_iff, readUInt32?, Option.bind_eq_some_iff]
  constructor
  · rintro ⟨n, hread, hword⟩
    split at hword
    · next hfits =>
        obtain rfl := Option.some.inj hword
        rw [UInt32.toNat_ofNat_of_lt' hfits]
        exact hread
    · cases hword
  · intro hread
    refine ⟨word.toNat, hread, ?_⟩
    rw [if_pos word.toNat_lt, UInt32.ofNat_toNat]

end Reading

section Writing

theorem isDigits_toDigits (n : Nat) : IsDigits (Nat.toDigits 10 n) :=
  ⟨Nat.toDigits_ne_nil, fun _ hc => Nat.isDigit_of_mem_toDigits (by decide) (by decide) hc⟩

theorem placeValue_toDigits (n : Nat) : placeValue (Nat.toDigits 10 n) = n := by
  rw [← ofDigitChars_eq_placeValue]
  exact Nat.ofDigitChars_ten_toDigits

theorem mem_decimalChars {n : Int} {c : Char} (h : c ∈ decimalChars n) :
    c = '-' ∨ c.isDigit = true := by
  have hdigit : ∀ d ∈ Nat.toDigits 10 n.natAbs, d.isDigit = true := (isDigits_toDigits _).2
  unfold decimalChars at h
  split at h
  · rcases List.mem_cons.mp h with hsign | hrest
    · exact Or.inl hsign
    · exact Or.inr (hdigit c hrest)
  · exact Or.inr (hdigit c h)

theorem colon_not_mem_decimalChars (n : Int) : ':' ∉ decimalChars n := by
  intro h
  rcases mem_decimalChars h with hsign | hdigit
  · exact absurd hsign (by decide)
  · exact absurd hdigit (by decide)

/-- What is written for a number denotes it. -/
theorem denotes_decimalChars (n : Int) : Denotes (decimalChars n) n := by
  have hdigits := isDigits_toDigits n.natAbs
  have hvalue := placeValue_toDigits n.natAbs
  unfold decimalChars
  split
  · have hn : -(placeValue (Nat.toDigits 10 n.natAbs) : Int) = n := by omega
    have hminus := Denotes.minus hdigits
    rwa [hn] at hminus
  · have hn : (placeValue (Nat.toDigits 10 n.natAbs) : Int) = n := by omega
    have hunsigned := Denotes.unsigned hdigits
    rwa [hn] at hunsigned

/-- Reading gives back the number that was written. -/
theorem readInt?_decimalChars (n : Int) : readInt? (decimalChars n) = some n :=
  readInt?_eq_some_iff.mpr (denotes_decimalChars n)

theorem decimalChars_injective {m n : Int} (h : decimalChars m = decimalChars n) : m = n := by
  have hread := readInt?_decimalChars m
  rw [h, readInt?_decimalChars n] at hread
  exact (Option.some.inj hread).symm

@[simp] theorem toList_decimal (n : Int) : (decimal n).toList = decimalChars n := by
  simp [decimal]

end Writing

end AccessGrants.Text

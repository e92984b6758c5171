import AccessGrants.Target
import AccessGrants.Proofs.Text.Blank
import AccessGrants.Proofs.Text.Numeral
import Mathlib.Data.List.TakeDrop

/-!
The texts of targets. A target is spelled by nothing at all, by the word for
creation, by a numeral or by two numerals around a colon, and each of these
spells one target. The reader takes the blanks off both ends, accepts the
spellings and quotes everything else as it was given; among the spellings of a
target is the one that is written for it.
-/

namespace AccessGrants

namespace Text

theorem Denotes.ne_nil {cs : List Char} {n : Int} (h : Denotes cs n) : cs ≠ [] := by
  cases h with
  | unsigned hdigits => exact hdigits.1
  | plus _ => exact List.cons_ne_nil _ _
  | minus _ => exact List.cons_ne_nil _ _

theorem Denotes.mem {cs : List Char} {n : Int} (h : Denotes cs n) {c : Char} (hc : c ∈ cs) :
    c = '+' ∨ c = '-' ∨ c.isDigit = true := by
  cases h with
  | unsigned hdigits => exact Or.inr (Or.inr (hdigits.2 c hc))
  | plus hdigits =>
      rcases List.mem_cons.mp hc with hsign | hdigit
      · exact Or.inl hsign
      · exact Or.inr (Or.inr (hdigits.2 c hdigit))
  | minus hdigits =>
      rcases List.mem_cons.mp hc with hsign | hdigit
      · exact Or.inr (Or.inl hsign)
      · exact Or.inr (Or.inr (hdigits.2 c hdigit))

theorem Denotes.colon_not_mem {cs : List Char} {n : Int} (h : Denotes cs n) : ':' ∉ cs := by
  intro hc
  rcases h.mem hc with hplus | hminus | hdigit
  · exact absurd hplus (by decide)
  · exact absurd hminus (by decide)
  · exact absurd hdigit (by decide)

theorem decimalChars_not_blank {n : Int} {c : Char} (h : c ∈ decimalChars n) :
    isBlank c = false := by
  rcases mem_decimalChars h with rfl | hdigit
  · rfl
  · exact isBlank_of_isDigit hdigit

/-- The characters that a lower case letter is the lower case of. -/
theorem toLower_eq_iff {c lower upper : Char} (letter : 97 ≤ lower.toNat ∧ lower.toNat ≤ 122)
    (capital : upper.toNat + 32 = lower.toNat) : c.toLower = lower ↔ c = lower ∨ c = upper := by
  have hrange : (c.val ≥ 'A'.val ∧ c.val ≤ 'Z'.val) ↔ 65 ≤ c.toNat ∧ c.toNat ≤ 90 := by
    simp [UInt32.le_iff_toNat_le]
  rw [← Char.toNat_inj, ← Char.toNat_inj, ← Char.toNat_inj]
  unfold Char.toLower
  split
  · next hcapital =>
      have hc := hrange.mp hcapital
      have hlowered : (c.val + ('a'.val - 'A'.val)).toNat = c.toNat + 32 := by
        have hstep : ('a'.val - 'A'.val).toNat = 32 := by decide
        rw [UInt32.toNat_add, hstep, Char.toNat_val]
        omega
      show (c.val + ('a'.val - 'A'.val)).toNat = lower.toNat ↔ _
      omega
  · next hcapital =>
      rw [hrange] at hcapital
      omega

end Text

namespace Target

/-- The word for creation, each letter in either case. -/
def IsNone (cs : List Char) : Prop :=
  ∃ first second third fourth, cs = [first, second, third, fourth] ∧
    (first = 'n' ∨ first = 'N') ∧ (second = 'o' ∨ second = 'O') ∧
    (third = 'n' ∨ third = 'N') ∧ (fourth = 'e' ∨ fourth = 'E')

/-- The text is a spelling of the target, without blanks around it. -/
inductive Spells : List Char → Target → Prop where
  | nothing : Spells [] .creation
  | word {cs : List Char} (h : IsNone cs) : Spells cs .creation
  | single {cs : List Char} {object : Int64} (h : Text.Denotes cs object.toInt) :
      Spells cs (.single object)
  | composite {client object : List Char} {id : InstanceId}
      (hclient : Text.Denotes client id.client.toInt)
      (hobject : Text.Denotes object id.object.toInt) :
      Spells (client ++ ':' :: object) (.composite id)

section Spellings

variable {word : List Char}

theorem spells_creation_iff : Spells word .creation ↔ word = [] ∨ IsNone word := by
  constructor
  · rintro (_ | hnone)
    · exact Or.inl rfl
    · exact Or.inr hnone
  · rintro (rfl | hnone)
    · exact .nothing
    · exact .word hnone

theorem spells_single_iff {object : Int64} :
    Spells word (.single object) ↔ Text.Denotes word object.toInt := by
  constructor
  · rintro (_ | _ | hobject)
    exact hobject
  · exact .single

theorem spells_composite_iff {id : InstanceId} :
    Spells word (.composite id) ↔
      ∃ client object, word = client ++ ':' :: object ∧
        Text.Denotes client id.client.toInt ∧ Text.Denotes object id.object.toInt := by
  constructor
  · intro h
    cases h with
    | composite hclient hobject => exact ⟨_, _, rfl, hclient, hobject⟩
  · rintro ⟨client, object, rfl, hclient, hobject⟩
    exact .composite hclient hobject

end Spellings

section Reading

variable {cs client object : List Char} {target : Target}

theorem isNoneWord_iff : isNoneWord cs = true ↔ IsNone cs := by
  have hn (c : Char) : c.toLower = 'n' ↔ c = 'n' ∨ c = 'N' :=
    Text.toLower_eq_iff (by decide) (by decide)
  have ho (c : Char) : c.toLower = 'o' ↔ c = 'o' ∨ c = 'O' :=
    Text.toLower_eq_iff (by decide) (by decide)
  have he (c : Char) : c.toLower = 'e' ↔ c = 'e' ∨ c = 'E' :=
    Text.toLower_eq_iff (by decide) (by decide)
  simp only [isNoneWord, beq_iff_eq, List.map_eq_cons_iff, List.map_eq_nil_iff, hn, ho, he]
  constructor
  · rintro ⟨first, _, rfl, hfirst, second, _, rfl, hsecond, third, _, rfl, hthird, fourth, _, rfl,
      hfourth, rfl⟩
    exact ⟨first, second, third, fourth, rfl, hfirst, hsecond, hthird, hfourth⟩
  · rintro ⟨first, second, third, fourth, rfl, hfirst, hsecond, hthird, hfourth⟩
    exact ⟨first, _, rfl, hfirst, second, _, rfl, hsecond, third, _, rfl, hthird, fourth, _, rfl,
      hfourth, rfl⟩

theorem isNoneWord_eq_false (h : ¬ IsNone cs) : isNoneWord cs = false := by
  rwa [← Bool.not_eq_true, isNoneWord_iff]

/-- A letter is no character of a numeral. -/
theorem IsNone.not_denotes {n : Int} (h : IsNone cs) : ¬ Text.Denotes cs n := by
  obtain ⟨first, second, third, fourth, rfl, hfirst, _⟩ := h
  intro hdenotes
  have hmem := hdenotes.mem (c := first) List.mem_cons_self
  rcases hfirst with rfl | rfl
  · exact absurd hmem (by decide)
  · exact absurd hmem (by decide)

theorem IsNone.colon_not_mem (h : IsNone cs) : ':' ∉ cs := by
  obtain ⟨first, second, third, fourth, rfl, hfirst, hsecond, hthird, hfourth⟩ := h
  grind

theorem forall_ne_colon (h : ':' ∉ cs) : ∀ c ∈ cs, (c != ':') = true := by
  intro c hc
  exact bne_iff_ne.mpr fun hcolon => h (hcolon ▸ hc)

theorem ofTrimmed?_of_colon_not_mem (h : ':' ∉ cs) :
    ofTrimmed? cs =
      if cs.isEmpty || isNoneWord cs then some .creation
      else (Text.readInt64? cs).map .single := by
  have hspan : cs.span (· != ':') = (cs, []) := by
    have hall := forall_ne_colon h
    rw [List.span_eq_takeWhile_dropWhile, List.takeWhile_eq_self_iff.mpr hall,
      List.dropWhile_eq_nil_iff.mpr hall]
  simp only [ofTrimmed?, hspan]

theorem ofTrimmed?_of_colon (h : ':' ∉ client) :
    ofTrimmed? (client ++ ':' :: object) =
      (Text.readInt64? client).bind fun client =>
        (Text.readInt64? object).map fun object => .composite ⟨client, object⟩ := by
  have hspan : (client ++ ':' :: object).span (· != ':') = (client, ':' :: object) := by
    have hall := forall_ne_colon h
    rw [List.span_eq_takeWhile_dropWhile, List.takeWhile_append_of_pos hall,
      List.dropWhile_append_of_pos hall]
    simp
  have hempty : (client ++ ':' :: object).isEmpty = false := by simp
  have hword : isNoneWord (client ++ ':' :: object) = false :=
    isNoneWord_eq_false fun hnone => hnone.colon_not_mem (by simp)
  simp only [ofTrimmed?, hspan, hempty, hword, Bool.or_self, Bool.false_eq_true, if_false]

/-- The reader accepts the spellings, each as the target that it spells. -/
theorem ofTrimmed?_eq_some_iff : ofTrimmed? cs = some target ↔ Spells cs target := by
  constructor
  · intro h
    by_cases hcolon : ':' ∈ cs
    · obtain ⟨client, object, rfl, hclient⟩ := List.eq_append_cons_of_mem hcolon
      rw [ofTrimmed?_of_colon hclient] at h
      obtain ⟨first, hfirst, hrest⟩ := Option.bind_eq_some_iff.mp h
      obtain ⟨second, hsecond, rfl⟩ := Option.map_eq_some_iff.mp hrest
      exact .composite (Text.readInt64?_eq_some_iff.mp hfirst)
        (Text.readInt64?_eq_some_iff.mp hsecond)
    · rw [ofTrimmed?_of_colon_not_mem hcolon] at h
      split at h
      · next hnone =>
          cases h
          rcases Bool.or_eq_true_iff.mp hnone with hempty | hword
          · rw [List.isEmpty_iff.mp hempty]
            exact .nothing
          · exact .word (isNoneWord_iff.mp hword)
      · obtain ⟨object, hobject, rfl⟩ := Option.map_eq_some_iff.mp h
        exact .single (Text.readInt64?_eq_some_iff.mp hobject)
  · intro h
    cases h with
    | nothing => rfl
    | word hnone => simp [ofTrimmed?, isNoneWord_iff.mpr hnone]
    | single hobject =>
        have hempty : cs.isEmpty = false := by simpa using hobject.ne_nil
        have hword : isNoneWord cs = false :=
          isNoneWord_eq_false fun hnone => hnone.not_denotes hobject
        rw [ofTrimmed?_of_colon_not_mem hobject.colon_not_mem, hempty, hword,
          Text.readInt64?_eq_some_iff.mpr hobject]
        rfl
    | composite hclient hobject =>
        rw [ofTrimmed?_of_colon hclient.colon_not_mem, Text.readInt64?_eq_some_iff.mpr hclient,
          Text.readInt64?_eq_some_iff.mpr hobject]
        rfl

theorem ofText_eq_ok_iff {given : String} :
    ofText given = .ok target ↔ Spells (Text.trimChars given.toList) target := by
  rw [← ofTrimmed?_eq_some_iff, ofText]
  split
  · next found hfound => rw [hfound, Except.ok.injEq, Option.some.injEq]
  · next hnone => simp [hnone]

example : ofText " +007:-0\n" = .ok (.composite ⟨7, 0⟩) := by decide

/-- The error has the text as it was given, blanks included. -/
theorem ofText_eq_error {given : String} (unread : ∀ target, ofText given ≠ .ok target) :
    ofText given = .error (.unrecognizedTarget given) := by
  unfold ofText at *
  split
  · next found hfound => exact absurd (by rw [hfound]) (unread found)
  · rfl

end Reading

section Writing

variable {target : Target}

theorem toList_instanceText (id : InstanceId) :
    id.text.toList =
      Text.decimalChars id.client.toInt ++ ':' :: Text.decimalChars id.object.toInt := by
  simp [InstanceId.text]

/-- What is written for a target spells it. -/
theorem spells_text (target : Target) : Spells target.text.toList target := by
  cases target with
  | creation => exact .word ⟨'n', 'o', 'n', 'e', rfl, by simp⟩
  | single object =>
      rw [text, Text.toList_decimal]
      exact .single (Text.denotes_decimalChars _)
  | composite id =>
      rw [text, toList_instanceText]
      exact .composite (Text.denotes_decimalChars _) (Text.denotes_decimalChars _)

theorem text_not_blank {c : Char} (h : c ∈ target.text.toList) : Text.isBlank c = false := by
  cases target with
  | creation =>
      have hletters : ∀ letter ∈ ['n', 'o', 'n', 'e'], Text.isBlank letter = false := by
        simp [Text.isBlank, Text.blankRanges]
      exact hletters c h
  | single object =>
      rw [text, Text.toList_decimal] at h
      exact Text.decimalChars_not_blank h
  | composite id =>
      rw [text, toList_instanceText, List.mem_append, List.mem_cons] at h
      rcases h with hclient | rfl | hobject
      · exact Text.decimalChars_not_blank hclient
      · rfl
      · exact Text.decimalChars_not_blank hobject

/-- Reading gives back the target that was written, whatever blanks it is put
between. -/
theorem ofText_text_between {before after : String}
    (front : ∀ c ∈ before.toList, Text.isBlank c = true)
    (back : ∀ c ∈ after.toList, Text.isBlank c = true) :
    ofText (before ++ target.text ++ after) = .ok target := by
  have htrimmed : Text.Trimmed (before ++ target.text ++ after).toList target.text.toList := by
    refine ⟨⟨before.toList, after.toList, by simp, front, back⟩, ?_, ?_⟩
    · exact fun c hc => text_not_blank (List.mem_of_mem_head? hc)
    · exact fun c hc => text_not_blank (List.mem_of_getLast? hc)
  rw [ofText_eq_ok_iff, ← Text.trimmed_iff.mp htrimmed]
  exact spells_text target

theorem ofText_text (target : Target) : ofText target.text = .ok target := by
  have hbetween : ofText ("" ++ target.text ++ "") = .ok target :=
    ofText_text_between (by simp) (by simp)
  simpa using hbetween

end Writing

/-- The texts that are read as each of the three shapes, by what is left of them
without the blanks at both ends, and that all others are quoted as they were
given; and that what is written for a target is read as that target between any
blanks. -/
theorem ofText_accepts_spellings :
    (∀ given : String, ∃ word, Text.Trimmed given.toList word ∧
      (ofText given = .ok .creation ↔ word = [] ∨ IsNone word) ∧
      (∀ object : Int64, ofText given = .ok (.single object) ↔ Text.Denotes word object.toInt) ∧
      (∀ id : InstanceId, ofText given = .ok (.composite id) ↔
        ∃ client object, word = client ++ ':' :: object ∧
          Text.Denotes client id.client.toInt ∧ Text.Denotes object id.object.toInt) ∧
      ((∀ target, ofText given ≠ .ok target) →
        ofText given = .error (.unrecognizedTarget given))) ∧
    ∀ (target : Target) (before after : String),
      (∀ c ∈ before.toList, Text.isBlank c = true) → (∀ c ∈ after.toList, Text.isBlank c = true) →
      ofText (before ++ target.text ++ after) = .ok target := by
  constructor
  · intro given
    refine ⟨Text.trimChars given.toList, Text.trimmed_trimChars _, ?_, ?_, ?_, ofText_eq_error⟩
    · rw [ofText_eq_ok_iff, spells_creation_iff]
    · intro object
      rw [ofText_eq_ok_iff, spells_single_iff]
    · intro id
      rw [ofText_eq_ok_iff, spells_composite_iff]
  · intro target before after front back
    exact ofText_text_between front back

theorem instance_read_between_blanks :
    (∀ c ∈ " \t".toList, Text.isBlank c = true) ∧ (∀ c ∈ "\u3000".toList, Text.isBlank c = true) ∧
      ofText (" \t" ++ text (.composite ⟨-9223372036854775808, 42⟩) ++ "\u3000") =
        .ok (.composite ⟨-9223372036854775808, 42⟩) := by
  have front : ∀ c ∈ [' ', '\t'], Text.isBlank c = true := by simp [Text.isBlank, Text.blankRanges]
  have back : ∀ c ∈ ['\u3000'], Text.isBlank c = true := by simp [Text.isBlank, Text.blankRanges]
  exact ⟨front, back, ofText_accepts_spellings.2 _ _ _ front back⟩

end Target

end AccessGrants

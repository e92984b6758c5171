import AccessGrants.Json.Reader
import AccessGrants.Json.Target
import AccessGrants.Proofs.Target.Text
import AccessGrants.Service

/-!
Targets as JSON values. Each target has one value, null, an integer or an array
of two, and these are the values that are read as targets; every other value is
quoted in the error and is denied before anything is read from the store. The
value of a target and the text that is written for it are read alike.
-/

namespace AccessGrants

/-- A number that is no integer of the range is none of the words. -/
theorem Json.int64?_eq_some_iff {value : Json} {word : Int64} :
    value.int64? = some word ↔ value = .number (.integer word.toInt) := by
  constructor
  · intro h
    unfold int64? at h
    split at h
    · next n =>
        split at h
        · next hfits =>
            obtain ⟨same, rfl⟩ := Text.fitsInt64_iff.mp hfits
            rw [Int64.ofInt_toInt, Option.some.injEq] at h
            rw [h]
        · cases h
    · cases h
  · rintro rfl
    simp [int64?, Text.fitsInt64_iff.mpr ⟨word, rfl⟩]

/-- What a numeral without fraction and exponent stands for. -/
def Json.Numeral.signed (numeral : Json.Numeral) : Int :=
  if numeral.negative then -(Text.placeValue numeral.whole : Int) else Text.placeValue numeral.whole

/-- In JSON text the words are the numerals of their range that have neither
fraction nor exponent. Minus zero is none of them: it is a double. -/
theorem Json.Numeral.number?_eq_word_iff {numeral : Json.Numeral} {word : Int64} :
    numeral.number? = some (.integer word.toInt) ↔
      numeral.fraction = [] ∧ numeral.exponent = none ∧ numeral.signed = word.toInt ∧
        (numeral.negative = true → word ≠ 0) := by
  have hlow := Int64.le_toInt word
  have hhigh := Int64.toInt_lt word
  have hzero : word ≠ 0 ↔ word.toInt ≠ 0 := by
    rw [ne_eq, ne_eq, ← Int64.toInt_inj, Int64.toInt_zero]
  rw [hzero]
  obtain ⟨negative, whole, fraction, exponent⟩ := numeral
  cases fraction with
  | cons digit rest => simp [number?]
  | nil =>
      cases exponent with
      | some power => simp [number?]
      | none =>
          simp only [number?, signed, significandLimit, Text.ofDigitChars_eq_placeValue]
          -- A numeral beyond its bound is a double, and no word has its value.
          cases negative with
          | false =>
              by_cases hfits : Text.placeValue whole ≤ 18446744073709551615
              · simp [hfits]
              · simp [hfits]
                omega
          | true =>
              by_cases hfits : 0 < Text.placeValue whole ∧
                  Text.placeValue whole ≤ 9223372036854775808
              · simp [hfits]
                omega
              · simp [hfits]
                omega

namespace Target

/-- The one value that stands for the target. -/
def json : Target → Json
  | .creation => .null
  | .single object => .number (.integer object.toInt)
  | .composite id =>
    .array [.number (.integer id.client.toInt), .number (.integer id.object.toInt)]

variable {value : Json} {target : Target}

theorem ofJson?_eq_some_iff : ofJson? value = some target ↔ value = target.json := by
  constructor
  · intro h
    unfold ofJson? at h
    split at h
    · cases h
      rfl
    · obtain ⟨client, hclient, hrest⟩ := Option.bind_eq_some_iff.mp h
      obtain ⟨object, hobject, rfl⟩ := Option.map_eq_some_iff.mp hrest
      rw [Json.int64?_eq_some_iff.mp hclient, Json.int64?_eq_some_iff.mp hobject]
      rfl
    · obtain ⟨object, hobject, rfl⟩ := Option.map_eq_some_iff.mp h
      exact Json.int64?_eq_some_iff.mp hobject
  · rintro rfl
    have hword (word : Int64) : (Json.number (.integer word.toInt)).int64? = some word :=
      Json.int64?_eq_some_iff.mpr rfl
    cases target with
    | creation => rfl
    | single object => simp [json, ofJson?, hword]
    | composite id => simp [json, ofJson?, hword]

theorem ofJson_eq_ok_iff : ofJson value = .ok target ↔ value = target.json := by
  rw [← ofJson?_eq_some_iff, ofJson]
  split
  · next found hfound => rw [hfound, Except.ok.injEq, Option.some.injEq]
  · next hnone => simp [hnone]

theorem ofJson_eq_error (unread : ∀ target, ofJson value ≠ .ok target) :
    ofJson value = .error (.unrecognizedTarget value.compact) := by
  unfold ofJson at *
  split
  · next found hfound => exact absurd (by rw [hfound]) (unread found)
  · rfl

end Target

theorem Service.authorize_of_ofJson_error (service : Service) (raw : Option SessionId)
    (cookie : Option String) (action subject : String) {value : Json} {error : CheckError}
    (h : Target.ofJson value = .error error) :
    service.authorize raw cookie action subject value =
      .report (.fault subject action error.message) (.done false) := by
  rw [authorize, h]
  rfl

namespace Target

/-- A number in JSON text is a target just as a word. -/
theorem ofJson_numeral_iff {numeral : Json.Numeral} {object : Int64} :
    (∃ number, numeral.number? = some number ∧ ofJson (.number number) = .ok (.single object)) ↔
      numeral.fraction = [] ∧ numeral.exponent = none ∧ numeral.signed = object.toInt ∧
        (numeral.negative = true → object ≠ 0) := by
  rw [← Json.Numeral.number?_eq_word_iff]
  constructor
  · rintro ⟨number, hnumber, hread⟩
    cases ofJson_eq_ok_iff.mp hread
    exact hnumber
  · intro hnumber
    exact ⟨_, hnumber, ofJson_eq_ok_iff.mpr rfl⟩

/-- The values that are read as each of the three shapes, and the numerals of JSON
text that are read as the second one. Every other value is quoted in its compact
form, and an authorization for it is denied with that fault and without a
question to the store. No two values are read as one target, each target has its
value, and that value is read as the text of the target is. -/
theorem ofJson_accepts_one_value_each :
    (∀ value : Json,
      (ofJson value = .ok .creation ↔ value = .null) ∧
      (∀ object : Int64,
        ofJson value = .ok (.single object) ↔ value = .number (.integer object.toInt)) ∧
      (∀ id : InstanceId, ofJson value = .ok (.composite id) ↔
        value = .array [.number (.integer id.client.toInt), .number (.integer id.object.toInt)]) ∧
      ((∀ target, ofJson value ≠ .ok target) →
        ofJson value = .error (.unrecognizedTarget value.compact) ∧
        ∀ (service : Service) (raw : Option SessionId) (cookie : Option String)
          (action subject : String),
          service.authorize raw cookie action subject value =
            .report (.fault subject action (CheckError.unrecognizedTarget value.compact).message)
              (.done false))) ∧
    (∀ (numeral : Json.Numeral) (object : Int64),
      (∃ number, numeral.number? = some number ∧
        ofJson (.number number) = .ok (.single object)) ↔
          numeral.fraction = [] ∧ numeral.exponent = none ∧ numeral.signed = object.toInt ∧
            (numeral.negative = true → object ≠ 0)) ∧
    (∀ value other target, ofJson value = .ok target → ofJson other = .ok target →
      value = other) ∧
    ∀ target, (∃! value, ofJson value = .ok target) ∧
      ∀ value, ofJson value = .ok target → ofJson value = ofText target.text := by
  refine ⟨?_, fun _ _ => ofJson_numeral_iff, ?_, ?_⟩
  · intro value
    refine ⟨ofJson_eq_ok_iff, fun _ => ofJson_eq_ok_iff, fun _ => ofJson_eq_ok_iff, ?_⟩
    intro unread
    have herror := ofJson_eq_error unread
    refine ⟨herror, ?_⟩
    intro service raw cookie action subject
    exact service.authorize_of_ofJson_error raw cookie action subject herror
  · intro value other target hvalue hother
    rw [ofJson_eq_ok_iff.mp hvalue, ofJson_eq_ok_iff.mp hother]
  · intro target
    constructor
    · exact ⟨target.json, ofJson_eq_ok_iff.mpr rfl, fun _ h => ofJson_eq_ok_iff.mp h⟩
    · intro value hvalue
      rw [hvalue, ofText_text]

theorem pair_beyond_words_denied :
    let value : Json := .array [.number (.integer 5), .number (.integer 9223372036854775808)]
    (∀ target, ofJson value ≠ .ok target) ∧
      Service.authorize ⟨.standard, false, .verify⟩ (some ⟨2⟩) none "view" "perspective" value =
        .report (.fault "perspective" "view"
          "unrecognized subject reference: [5,9223372036854775808]") (.done false) := by
  have unread : ∀ target,
      ofJson (.array [.number (.integer 5), .number (.integer 9223372036854775808)]) ≠
        .ok target := by
    rintro target ⟨⟩
  exact ⟨unread,
    ((ofJson_accepts_one_value_each.1 _).2.2.2 unread).2 ⟨.standard, false, .verify⟩ (some ⟨2⟩)
      none "view" "perspective"⟩

end Target

end AccessGrants

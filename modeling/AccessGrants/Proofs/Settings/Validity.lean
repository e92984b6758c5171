import AccessGrants.Proofs.Text.Blank
import AccessGrants.Settings.Basic
import Mathlib.Data.Rat.Defs
import Mathlib.Algebra.Order.Field.Power
import Mathlib.Algebra.Order.Ring.Rat
import Mathlib.Tactic.NormNum
import Mathlib.Tactic.Positivity

/-!
What makes settings valid. There is at least one connection, the sampling rate is a
number from zero to one, and no subject type of the policy is blank. The rate is
judged as the number that it stands for, and a subject type by what trimming leaves of
it. Settings that are not valid fail the first of the three that they do not meet.
-/

namespace AccessGrants

namespace Binary64

/-- The number that a finite double stands for. -/
def value? : Binary64 → Option ℚ
  | .finite negative mantissa exponent =>
    some ((if negative then -1 else 1) * mantissa * 2 ^ exponent)
  | .infinite _ => none
  | .notANumber => none

/-- The double stands for a number from zero to one. -/
def InUnitInterval (x : Binary64) : Prop :=
  ∃ value, x.value? = some value ∧ 0 ≤ value ∧ value ≤ 1

/-- Of the powers for an exponent and its negative one is one. -/
theorem two_zpow_mul_power (exponent : Int) :
    (2 : ℚ) ^ exponent * power 2 (-exponent) = power 2 exponent := by
  rcases Int.eq_nat_or_neg exponent with ⟨n, rfl | rfl⟩
  · simp [power]
  · simp [power]

theorem magnitude_le_one_iff (mantissa : Nat) (exponent : Int) :
    mantissa * power 2 exponent ≤ power 2 (-exponent) ↔ (mantissa : ℚ) * 2 ^ exponent ≤ 1 := by
  have hpositive : (0 : ℚ) < power 2 (-exponent) := by
    exact_mod_cast Nat.pow_pos (by decide)
  rw [← mul_le_iff_le_one_left hpositive, mul_assoc, two_zpow_mul_power]
  exact_mod_cast Iff.rfl

theorem isUnitInterval_iff (x : Binary64) : x.isUnitInterval = true ↔ x.InUnitInterval := by
  cases x with
  | infinite negative => simp [isUnitInterval, InUnitInterval, value?]
  | notANumber => simp [isUnitInterval, InUnitInterval, value?]
  | finite negative mantissa exponent =>
      have hpower : (0 : ℚ) < 2 ^ exponent := by positivity
      simp only [isUnitInterval, ratio, InUnitInterval, value?, Bool.and_eq_true,
        decide_eq_true_eq, magnitude_le_one_iff, Option.some.injEq, exists_eq_left']
      cases negative with
      | false =>
          have hnonneg : (0 : ℚ) ≤ mantissa * 2 ^ exponent := by positivity
          simp [hnonneg]
      | true =>
          -- A number with a minus sign is in the interval only as the negative zero.
          have hzero : (0 : ℚ) ≤ -1 * mantissa * 2 ^ exponent ↔ mantissa = 0 := by
            constructor
            · intro h
              have hmantissa : (0 : ℚ) ≤ -1 * mantissa := nonneg_of_mul_nonneg_left h hpower
              have hle : (mantissa : ℚ) ≤ 0 := by simpa using hmantissa
              exact Nat.le_zero.mp (by exact_mod_cast hle)
            · rintro rfl
              simp
          simp only [↓reduceIte, hzero]
          constructor
          · rintro ⟨-, h⟩
            obtain rfl : mantissa = 0 := by simpa using h
            simp
          · rintro ⟨rfl, -⟩
            simp

end Binary64

namespace Settings

/-- Nothing of the subject type is left when it is trimmed. -/
def IsBlank (subject : String) : Prop :=
  Text.Trimmed subject.toList []

structure Valid (settings : Settings) : Prop where
  connections : settings.database.maxConnections ≠ 0
  sampleRate : settings.tracing.sampleRate.InUnitInterval
  publicSubjects : ∀ subject ∈ settings.policy.publicSubjects, ¬IsBlank subject
  anonymousSubjects : ∀ subject ∈ settings.policy.anonymousSubjects, ¬IsBlank subject

/-- The first thing that is wrong with settings. Of the blank subject types that is
the first one, the public ones coming before the anonymous ones and both in order. -/
inductive Fails (settings : Settings) : Problem → Prop where
  | noConnections (unconnected : settings.database.maxConnections = 0) :
      Fails settings .noConnections
  | sampleRate (connected : settings.database.maxConnections ≠ 0)
      (outside : ¬settings.tracing.sampleRate.InUnitInterval) : Fails settings .sampleRate
  | blankSubject {before after : List String} {subject : String}
      (connected : settings.database.maxConnections ≠ 0)
      (inside : settings.tracing.sampleRate.InUnitInterval)
      (split : settings.policy.publicSubjects.toList ++ settings.policy.anonymousSubjects.toList =
        before ++ subject :: after)
      (earlier : ∀ other ∈ before, ¬IsBlank other) (blank : IsBlank subject) :
      Fails settings (.blankSubject subject)

variable {settings : Settings} {policy : Policy} {subject : String}

theorem isAllBlank_iff : Text.isAllBlank subject = true ↔ IsBlank subject := by
  rw [IsBlank, Text.trimmed_iff, Text.isAllBlank, List.isEmpty_iff, eq_comm]

theorem blankSubject?_eq_none_iff : blankSubject? policy = none ↔
    (∀ subject ∈ policy.publicSubjects, ¬IsBlank subject) ∧
      ∀ subject ∈ policy.anonymousSubjects, ¬IsBlank subject := by
  simp only [blankSubject?, List.find?_eq_none, isAllBlank_iff, List.mem_append, or_imp,
    forall_and]
  exact Iff.rfl

theorem blankSubject?_eq_some_iff : blankSubject? policy = some subject ↔
    IsBlank subject ∧ ∃ before after,
      policy.publicSubjects.toList ++ policy.anonymousSubjects.toList =
        before ++ subject :: after ∧ ∀ other ∈ before, ¬IsBlank other := by
  simp only [blankSubject?, List.find?_eq_some_iff_append, Bool.not_eq_true',
    Bool.eq_false_iff, ne_eq, isAllBlank_iff]

theorem problem?_eq_none_iff : settings.problem? = none ↔ settings.Valid := by
  unfold problem?
  split_ifs with hnone houtside
  · exact iff_of_false (by simp) fun hvalid => hvalid.connections hnone
  · rw [Bool.not_eq_true', ← Bool.not_eq_true, Binary64.isUnitInterval_iff] at houtside
    exact iff_of_false (by simp) fun hvalid => houtside hvalid.sampleRate
  · rw [Bool.not_eq_true', Bool.not_eq_false, Binary64.isUnitInterval_iff] at houtside
    rw [Option.map_eq_none_iff, blankSubject?_eq_none_iff]
    exact ⟨fun ⟨hpublic, hanonymous⟩ => ⟨hnone, houtside, hpublic, hanonymous⟩,
      fun hvalid => ⟨hvalid.publicSubjects, hvalid.anonymousSubjects⟩⟩

theorem problem?_of_fails {problem : Problem} (h : settings.Fails problem) :
    settings.problem? = some problem := by
  cases h with
  | noConnections hnone => simp [problem?, hnone]
  | sampleRate hsome houtside =>
      rw [← Binary64.isUnitInterval_iff] at houtside
      simp [problem?, hsome, houtside]
  | blankSubject hsome hinside hsplit hearlier hblank =>
      rw [← Binary64.isUnitInterval_iff] at hinside
      have hsubject := blankSubject?_eq_some_iff.mpr ⟨hblank, _, _, hsplit, hearlier⟩
      simp [problem?, hsome, hinside, hsubject]

theorem fails_of_problem? {problem : Problem} (h : settings.problem? = some problem) :
    settings.Fails problem := by
  unfold problem? at h
  split_ifs at h with hnone houtside
  · obtain rfl := Option.some.inj h
    exact .noConnections hnone
  · obtain rfl := Option.some.inj h
    rw [Bool.not_eq_true', ← Bool.not_eq_true, Binary64.isUnitInterval_iff] at houtside
    exact .sampleRate hnone houtside
  · obtain ⟨subject, hsubject, rfl⟩ := Option.map_eq_some_iff.mp h
    rw [Bool.not_eq_true', Bool.not_eq_false, Binary64.isUnitInterval_iff] at houtside
    obtain ⟨hblank, before, after, hsplit, hearlier⟩ := blankSubject?_eq_some_iff.mp hsubject
    exact .blankSubject hnone houtside hsplit hearlier hblank

theorem problem?_eq_some_iff {problem : Problem} :
    settings.problem? = some problem ↔ settings.Fails problem :=
  ⟨fails_of_problem?, problem?_of_fails⟩

end Settings

end AccessGrants

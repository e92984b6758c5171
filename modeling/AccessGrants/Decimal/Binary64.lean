/-!
Double precision numbers as exact values. A finite double is a mantissa below
2^53 times a power of two, and every operation here is the exact operation
followed by one rounding to the nearest double, a tie going to the even
mantissa.
-/

namespace AccessGrants

inductive Binary64 where
  /-- The number `mantissa * 2 ^ exponent`, or its negative. -/
  | finite (negative : Bool) (mantissa : Nat) (exponent : Int)
  | infinite (negative : Bool)
  | notANumber
  deriving DecidableEq, Repr

namespace Binary64

/-- The least exponent, that of the subnormal numbers. -/
def leastExponent : Int := -1074

def greatestExponent : Int := 971

/-- The mantissas are below this number, which is 2^53. -/
def mantissaLimit : Nat := 9007199254740992

def zero (negative : Bool) : Binary64 := .finite negative 0 leastExponent

/-- The integer nearest to a quotient; a tie goes to the even one. -/
def roundHalfEven (num den : Nat) : Nat :=
  let quotient := num / den
  let rest := num % den
  if 2 * rest < den then quotient
  else if den < 2 * rest then quotient + 1
  else if quotient % 2 = 0 then quotient
  else quotient + 1

/-- A power whose exponent counts only as far as it is positive. The quotient
of the power for an exponent and the power for its negative is the power with
that exponent, whatever its sign. -/
def power (base : Nat) (exponent : Int) : Nat :=
  Nat.pow base exponent.toNat

/-- Whether `base ^ exponent ≤ num / den`. -/
def powerAtMost (base : Nat) (exponent : Int) (num den : Nat) : Bool :=
  den * power base exponent ≤ num * power base (-exponent)

/-- The greatest exponent of two that is at most a positive quotient. -/
def floorLog2 (num den : Nat) : Int :=
  let guess := (num.log2 : Int) - den.log2
  if powerAtMost 2 guess num den then guess else guess - 1

/-- The greatest exponent of ten that is at most a positive quotient. The
guess from the binary exponent is off by one at most. -/
def floorLog10 (num den : Nat) : Int :=
  let guess := (floorLog2 num den * 30103).fdiv 100000
  if powerAtMost 10 (guess + 1) num den then guess + 1
  else if powerAtMost 10 guess num den then guess
  else guess - 1

def ofRatio (negative : Bool) (num den : Nat) : Binary64 :=
  if num = 0 then zero negative
  else
    let exponent := max (floorLog2 num den - 52) leastExponent
    let mantissa :=
      roundHalfEven (num * power 2 (-exponent)) (den * power 2 exponent)
    let (mantissa, exponent) :=
      if mantissa = mantissaLimit then (mantissaLimit / 2, exponent + 1) else (mantissa, exponent)
    if greatestExponent < exponent then .infinite negative
    else .finite negative mantissa exponent

def ofNat (n : Nat) : Binary64 := ofRatio false n 1

def ofInt (n : Int) : Binary64 := ofRatio (n < 0) n.natAbs 1

/-- The double nearest to `digits * 10 ^ exponent`. Numbers that are far beyond
either end of the range are settled without computing the power. -/
def ofDecimal (negative : Bool) (digits : Nat) (exponent : Int) : Binary64 :=
  let top := exponent + (Nat.toDigits 10 digits).length
  if digits = 0 then zero negative
  else if 310 < top then .infinite negative
  else if top < -330 then zero negative
  else ofRatio negative (digits * power 10 exponent) (power 10 (-exponent))

def negate : Binary64 → Binary64
  | .finite negative mantissa exponent => .finite (!negative) mantissa exponent
  | .infinite negative => .infinite !negative
  | .notANumber => .notANumber

def isInfinite : Binary64 → Bool
  | .infinite _ => true
  | _ => false

def isZero : Binary64 → Bool
  | .finite _ mantissa _ => mantissa == 0
  | _ => false

def ratio (mantissa : Nat) (exponent : Int) : Nat × Nat :=
  (mantissa * power 2 exponent, power 2 (-exponent))

def mul : Binary64 → Binary64 → Binary64
  | .finite s m e, .finite t n f =>
    let (num, den) := ratio (m * n) (e + f)
    ofRatio (s != t) num den
  | _, _ => .notANumber

/-- The rounded quotient of two finite numbers, the second of which is not
zero. -/
def div : Binary64 → Binary64 → Binary64
  | .finite s m e, .finite t n f =>
    if n = 0 then .notANumber
    else
      let (num, den) := ratio m (e - f)
      ofRatio (s != t) num (den * n)
  | _, _ => .notANumber

/-- Whether the number lies between zero and one, both included; negative zero
does. -/
def isUnitInterval : Binary64 → Bool
  | .finite negative mantissa exponent =>
    let (num, den) := ratio mantissa exponent
    num ≤ den && (!negative || mantissa == 0)
  | _ => false

end Binary64

end AccessGrants

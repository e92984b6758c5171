import AccessGrants.Decimal.Binary64

/-!
Shortest decimal texts of doubles. Of all decimal numbers that read back as a
double, the ones with the fewest digits are looked for, and of these the one
nearest to the double is taken. A layout says which of them are written
without an exponent.
-/

namespace AccessGrants.Decimal

open Binary64

def readsBack (digits : Nat) (exponent : Int) (mantissa : Nat) (scale : Int) : Bool :=
  ofRatio false (digits * power 10 exponent) (power 10 (-exponent)) ==
    .finite false mantissa scale

/-- The decimal with the given last place that reads back, if one of the two
neighbours of the double on that grid does; of two, the nearer. -/
def onGrid? (mantissa : Nat) (scale place : Int) : Option Nat :=
  let (num, den) := ratio mantissa scale
  let num := num * power 10 (-place)
  let den := den * power 10 place
  let below := num / den
  let rest := num % den
  let hitsBelow := readsBack below place mantissa scale
  let hitsAbove := readsBack (below + 1) place mantissa scale
  if hitsBelow && hitsAbove then
    if 2 * rest < den || (2 * rest = den && below % 2 = 0) then some below else some (below + 1)
  else if hitsBelow then some below
  else if hitsAbove then some (below + 1)
  else none

def stripZeros : Nat → Nat → Int → Nat × Int
  | 0, digits, exponent => (digits, exponent)
  | fuel + 1, digits, exponent =>
    if digits % 10 = 0 && digits ≠ 0 then stripZeros fuel (digits / 10) (exponent + 1)
    else (digits, exponent)

/-- Digits and exponent of the shortest decimal of a positive double; seventeen
digits always suffice. -/
def shortest (mantissa : Nat) (scale : Int) : Nat × Int :=
  let (num, den) := ratio mantissa scale
  let leading := floorLog10 num den
  let found := (List.range 17).findSome? fun (more : Nat) =>
    let place := leading - (more : Int)
    (onGrid? mantissa scale place).map fun digits => (digits, place)
  match found with
  | some (digits, place) => stripZeros 18 digits place
  | none => (0, 0)

structure Layout where
  /-- The least exponent of the leading digit that is written positionally. -/
  lowest : Int
  highest : Int
  /-- Whether a positive exponent has its sign. -/
  plusSign : Bool

/-- Digits written with a point, with at least one digit on either side. -/
def positional (digits : List Char) (exponent : Int) : List Char :=
  if 0 ≤ exponent then digits ++ List.replicate exponent.toNat '0' ++ ['.', '0']
  else
    let places := (-exponent).toNat
    if places < digits.length then
      digits.take (digits.length - places) ++ ['.'] ++ digits.drop (digits.length - places)
    else ['0', '.'] ++ List.replicate (places - digits.length) '0' ++ digits

/-- Digits written with one of them before the point, and an exponent. -/
def scientific (layout : Layout) (digits : List Char) (leading : Int) : List Char :=
  let fraction := digits.drop 1
  let sign := if leading < 0 then ['-'] else if layout.plusSign then ['+'] else []
  digits.take 1 ++ (if fraction.isEmpty then [] else '.' :: fraction) ++ ['e'] ++ sign ++
    Nat.toDigits 10 leading.natAbs

def Layout.text (layout : Layout) : Binary64 → String
  | .finite negative mantissa scale =>
    let sign := if negative then ['-'] else []
    if mantissa = 0 then String.ofList (sign ++ ['0', '.', '0'])
    else
      let (number, exponent) := shortest mantissa scale
      let digits := Nat.toDigits 10 number
      let leading := exponent + digits.length - 1
      if layout.lowest ≤ leading && leading ≤ layout.highest then
        String.ofList (sign ++ positional digits exponent)
      else String.ofList (sign ++ scientific layout digits leading)
  | .infinite false => "inf"
  | .infinite true => "-inf"
  | .notANumber => "NaN"

end AccessGrants.Decimal

import AccessGrants.Text.Reading
import AccessGrants.Toml.Value

/-!
Numbers in TOML text. Single underscores may stand between digits. Integers
are signed 64-bit words, in base ten without leading zeros or, without a sign,
in base sixteen, eight and two; floats have digits on both sides of a point, an
exponent, or both. A positive float beyond the range is refused, a negative
one becomes the negative infinity.
-/

namespace AccessGrants.Toml

open Text

/-- Takes digits and drops single underscores between them. -/
def moreDigits (isDigit : Char → Bool) : List Char → Option (List Char × List Char)
  | [] => some ([], [])
  | '_' :: c :: rest =>
    if isDigit c then
      (moreDigits isDigit rest).map fun (digits, rest) => (c :: digits, rest)
    else none
  | c :: rest =>
    if isDigit c then
      (moreDigits isDigit rest).map fun (digits, rest) => (c :: digits, rest)
    else if c = '_' then none
    else some ([], c :: rest)

def someDigits (isDigit : Char → Bool) : List Char → Option (List Char × List Char)
  | [] => none
  | c :: rest =>
    if isDigit c then
      (moreDigits isDigit rest).map fun (digits, rest) => (c :: digits, rest)
    else none

/-- The digits before a point: a zero alone, or no zero in front. -/
def wholeDigits : List Char → Option (List Char × List Char)
  | '0' :: rest => some (['0'], rest)
  | cs => someDigits Char.isDigit cs

def digitsValue (base : Nat) (digits : List Char) : Nat :=
  digits.foldl (fun n c => base * n + (hexValue? c).getD 0) 0

def integer? (n : Int) : Option Value :=
  if fitsInt64 n then some (.integer (Int64.ofInt n)) else none

def readBased (base : Nat) (cs : List Char) : Option (Value × List Char) := do
  let isDigit (c : Char) : Bool := (hexValue? c).any fun digit => digit < base
  let (digits, rest) ← someDigits isDigit cs
  let value ← integer? (digitsValue base digits)
  return (value, rest)

/-- Takes a sign; it is negative if the sign is a minus. -/
def takeSign : List Char → Bool × List Char
  | '-' :: rest => (true, rest)
  | '+' :: rest => (false, rest)
  | cs => (false, cs)

/-- The digits after a point; none if there is no point. -/
def readFraction : List Char → Option (List Char × List Char)
  | '.' :: rest => someDigits Char.isDigit rest
  | cs => some ([], cs)

def readExponent (cs : List Char) : Option (Option Int × List Char) :=
  match cs with
  | [] => some (none, [])
  | c :: rest =>
    if c = 'e' || c = 'E' then do
      let (negative, rest) := takeSign rest
      let (digits, rest) ← someDigits Char.isDigit rest
      let n : Int := digitsValue 10 digits
      return (some (if negative then -n else n), rest)
    else some (none, cs)

def float? (x : Binary64) : Option Value :=
  if x = .infinite false then none else some (.float x)

/-- The number that the parts of a numeral denote. -/
def number? (negative : Bool) (whole fraction : List Char) (exponent : Option Int) :
    Option Value :=
  let n := digitsValue 10 (whole ++ fraction)
  if fraction.isEmpty && exponent.isNone then integer? (if negative then -(n : Int) else n)
  else float? (.ofDecimal negative n (exponent.getD 0 - fraction.length))

def readDecimal (cs : List Char) : Option (Value × List Char) := do
  let (negative, cs) := takeSign cs
  match cs with
  | 'i' :: 'n' :: 'f' :: rest => return (.float (.infinite negative), rest)
  | 'n' :: 'a' :: 'n' :: rest => return (.float .notANumber, rest)
  | cs =>
    let (whole, cs) ← wholeDigits cs
    let (fraction, cs) ← readFraction cs
    let (exponent, cs) ← readExponent cs
    return (← number? negative whole fraction exponent, cs)

def readNumber : List Char → Option (Value × List Char)
  | '0' :: 'x' :: rest => readBased 16 rest
  | '0' :: 'o' :: rest => readBased 8 rest
  | '0' :: 'b' :: rest => readBased 2 rest
  | cs => readDecimal cs

end AccessGrants.Toml

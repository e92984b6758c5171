/-!
Decimal numerals. A natural numeral is one or more ASCII digits, leading zeros
included; a signed numeral may have one sign in front. Nothing else is allowed,
in particular no blanks, no separators and no digits of other scripts. The
bounded readers refuse a numeral that denotes a number outside their range;
`readBelow` also says what is wrong with it.
-/

namespace AccessGrants.Text

def readNat? (cs : List Char) : Option Nat :=
  if !cs.isEmpty && cs.all Char.isDigit then some (Nat.ofDigitChars 10 cs 0) else none

def readInt? : List Char → Option Int
  | '-' :: cs => (readNat? cs).map fun n => -(n : Int)
  | '+' :: cs => (readNat? cs).map fun n => (n : Int)
  | cs => (readNat? cs).map fun n => (n : Int)

def fitsInt64 (n : Int) : Bool :=
  -9223372036854775808 ≤ n && n ≤ 9223372036854775807

def readInt64? (cs : List Char) : Option Int64 :=
  (readInt? cs).bind fun n => if fitsInt64 n then some (Int64.ofInt n) else none

/-- An unsigned numeral may carry a plus sign but no minus sign. -/
def readUnsigned? : List Char → Option Nat
  | '+' :: cs => readNat? cs
  | cs => readNat? cs

def readUInt32? (cs : List Char) : Option UInt32 :=
  (readUnsigned? cs).bind fun n => if n < 4294967296 then some (UInt32.ofNat n) else none

inductive NumeralError where
  | empty
  | badDigit
  | tooLarge
  deriving DecidableEq, Repr

def NumeralError.message : NumeralError → String
  | .empty => "cannot parse integer from empty string"
  | .badDigit => "invalid digit found in string"
  | .tooLarge => "number too large to fit in target type"

/-- Goes on reading digits while the number stays below the limit; of two
faults the first counts. -/
def readDigits (limit : Nat) (below : Nat) : List Char → Except NumeralError Nat
  | [] => .ok below
  | c :: rest =>
    if !c.isDigit then .error .badDigit
    else
      let n := 10 * below + (c.toNat - 48)
      if limit ≤ n then .error .tooLarge else readDigits limit n rest

def readBelow (limit : Nat) : List Char → Except NumeralError Nat
  | [] => .error .empty
  | ['+'] => .error .badDigit
  | '+' :: cs => readDigits limit 0 cs
  | cs => readDigits limit 0 cs

/-- The shortest numeral of an integer: no plus sign and no leading zeros. -/
def decimalChars (n : Int) : List Char :=
  if n < 0 then '-' :: Nat.toDigits 10 n.natAbs else Nat.toDigits 10 n.natAbs

def decimal (n : Int) : String :=
  String.ofList (decimalChars n)

end AccessGrants.Text

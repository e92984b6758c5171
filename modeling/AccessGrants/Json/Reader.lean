import AccessGrants.Json.Value
import AccessGrants.Text.Reading

/-!
Reading JSON text. The grammar is the standard one; arrays and objects nest to
127 levels, surrogates have to come in pairs, and of fields with the same name
the last one counts. A numeral that is not an integer is scaled by a power of
ten in double precision, one rounding after the other, from the digits that
fit an unsigned 64-bit word; a number beyond the range of doubles is refused.
-/

namespace AccessGrants.Json

open Text

def isBlank (c : Char) : Bool :=
  c = ' ' || c = '\t' || c = '\n' || c = '\r'

def skipBlanks (cs : List Char) : List Char := cs.dropWhile isBlank

/-- The character that a backslash and this character stand for. -/
def simpleEscape? (c : Char) : Option Char :=
  if c = '"' || c = '\\' || c = '/' then some c
  else if c = 'b' then some '\x08'
  else if c = 'f' then some '\x0c'
  else if c = 'n' then some '\n'
  else if c = 'r' then some '\r'
  else if c = 't' then some '\t'
  else none

def pairedChar? (high low : Nat) : Option Char :=
  if 0xD800 ≤ high && high < 0xDC00 && 0xDC00 ≤ low && low < 0xE000 then
    some (Char.ofNat (0x10000 + (high - 0xD800) * 0x400 + (low - 0xDC00)))
  else none

def isSurrogate (code : Nat) : Bool := 0xD800 ≤ code && code < 0xE000

/-- The inside of a string, up to and including the closing quote. -/
def readChars : List Char → Reading (List Char)
  | [] => none
  | '"' :: rest => some ([], rest)
  | '\\' :: 'u' :: a :: b :: c :: d :: rest =>
    match hexValues? [a, b, c, d] with
    | none => none
    | some code =>
      if isSurrogate code then
        match rest with
        | '\\' :: 'u' :: e :: f :: g :: h :: after =>
          match (hexValues? [e, f, g, h]).bind (pairedChar? code) with
          | none => none
          | some paired => (readChars after).map fun (chars, rest) => (paired :: chars, rest)
        | _ => none
      else (readChars rest).map fun (chars, rest) => (Char.ofNat code :: chars, rest)
  | '\\' :: c :: rest =>
    match simpleEscape? c with
    | none => none
    | some char => (readChars rest).map fun (chars, rest) => (char :: chars, rest)
  | c :: rest =>
    if c.toNat < 32 || c = '\\' then none
    else (readChars rest).map fun (chars, rest) => (c :: chars, rest)

def readString (cs : List Char) : Reading String :=
  (readChars cs).map fun (chars, rest) => (String.ofList chars, rest)

def significandLimit : Nat := 18446744073709551615

/-- Takes digits into a significand as long as it stays within its limit;
answers the significand and how many digits were left out. -/
def takeDigits (significand : Nat) : List Char → Nat × Nat
  | [] => (significand, 0)
  | c :: rest =>
    let next := 10 * significand + (c.toNat - 48)
    if significandLimit < next then (significand, rest.length + 1) else takeDigits next rest

/-- Divides by the greatest power of ten at hand until the exponent is within
reach. Two divisions bring any significand down to zero. -/
def scaleDown : Nat → Binary64 → Int → Binary64
  | 0, _, _ => Binary64.zero false
  | fuel + 1, x, exponent =>
    if exponent < -308 then
      if x.isZero then x
      else scaleDown fuel (x.div (Binary64.ofNat (Binary64.power 10 308))) (exponent + 308)
    else x.div (Binary64.ofNat (Binary64.power 10 (-exponent)))

/-- A significand scaled by a power of ten, if that is a finite double. -/
def scale? (significand : Nat) (exponent : Int) : Option Binary64 :=
  let x := Binary64.ofNat significand
  if 308 < exponent then if significand = 0 then some x else none
  else if 0 ≤ exponent then
    let scaled := x.mul (Binary64.ofNat (Binary64.power 10 exponent))
    if scaled.isInfinite then none else some scaled
  else some (scaleDown 4 x exponent)

structure Numeral where
  negative : Bool
  whole : List Char
  /-- The digits after the point; empty if there is no point. -/
  fraction : List Char
  /-- Sign and digits of the exponent, if there is one. -/
  exponent : Option (Bool × List Char)

/-- The greatest exponent that is added up; a longer one is out of range. -/
def exponentLimit : Nat := 2147483647

def Numeral.double? (numeral : Numeral) : Option Binary64 :=
  let (whole, skipped) := takeDigits 0 numeral.whole
  let (significand, ignored) :=
    if numeral.fraction.isEmpty then (whole, 0) else takeDigits whole numeral.fraction
  let point : Int := skipped - ((numeral.fraction.length - ignored : Nat) : Int)
  let unsigned :=
    match numeral.exponent with
    | none => scale? significand point
    | some (negative, digits) =>
      let exponent := Nat.ofDigitChars 10 digits 0
      if exponentLimit < exponent then
        if significand ≠ 0 && !negative then none else some (Binary64.zero false)
      else scale? significand (if negative then point - exponent else point + exponent)
  unsigned.map fun x => if numeral.negative then x.negate else x

/-- A numeral without fraction and exponent is an integer if it fits a word;
minus zero is a double. -/
def Numeral.number? (numeral : Numeral) : Option Number :=
  let n := Nat.ofDigitChars 10 numeral.whole 0
  let isWhole := numeral.fraction.isEmpty && numeral.exponent.isNone
  if isWhole && !numeral.negative && n ≤ significandLimit then some (.integer n)
  else if isWhole && numeral.negative && 0 < n && n ≤ 9223372036854775808 then
    some (.integer (-n))
  else numeral.double?.map .double

/-- A point has to be followed by a digit. -/
def readFraction : List Char → Reading (List Char)
  | '.' :: cs =>
    let digits := cs.takeWhile Char.isDigit
    if digits.isEmpty then none else some (digits, cs.dropWhile Char.isDigit)
  | cs => some ([], cs)

def readExponentDigits (negative : Bool) (cs : List Char) :
    Reading (Option (Bool × List Char)) :=
  let digits := cs.takeWhile Char.isDigit
  if digits.isEmpty then none else some (some (negative, digits), cs.dropWhile Char.isDigit)

def readExponent : List Char → Reading (Option (Bool × List Char))
  | c :: cs =>
    if c = 'e' || c = 'E' then
      match cs with
      | '-' :: cs => readExponentDigits true cs
      | '+' :: cs => readExponentDigits false cs
      | cs => readExponentDigits false cs
    else some (none, c :: cs)
  | [] => some (none, [])

/-- No digit follows a leading zero. -/
def readWhole (cs : List Char) : Reading (List Char) :=
  let digits := cs.takeWhile Char.isDigit
  match digits with
  | [] => none
  | '0' :: _ :: _ => none
  | digits => some (digits, cs.dropWhile Char.isDigit)

def readNumber (cs : List Char) : Reading Number :=
  let (negative, cs) :=
    match cs with
    | '-' :: cs => (true, cs)
    | cs => (false, cs)
  (readWhole cs).bind fun (whole, cs) =>
    (readFraction cs).bind fun (fraction, cs) =>
      (readExponent cs).bind fun (exponent, cs) =>
        (Numeral.number? ⟨negative, whole, fraction, exponent⟩).map fun number => (number, cs)

def readWord : List Char → Reading Json
  | 'n' :: 'u' :: 'l' :: 'l' :: rest => some (.null, rest)
  | 't' :: 'r' :: 'u' :: 'e' :: rest => some (.bool true, rest)
  | 'f' :: 'a' :: 'l' :: 's' :: 'e' :: rest => some (.bool false, rest)
  | _ => none

mutual

/-- Reads a value that nests to at most `depth` further levels. -/
def readValue : Nat → Nat → List Char → Reading Json
  | 0, _, _ => none
  | fuel + 1, depth, cs =>
    match skipBlanks cs with
    | '"' :: rest => (readString rest).map fun (chars, rest) => (.text chars, rest)
    | '[' :: rest =>
      if depth = 0 then none
      else
        match skipBlanks rest with
        | ']' :: rest => some (.array [], rest)
        | rest => (readItems fuel (depth - 1) rest).map fun (items, rest) => (.array items, rest)
    | '{' :: rest =>
      if depth = 0 then none
      else
        match skipBlanks rest with
        | '}' :: rest => some (.object [], rest)
        | rest =>
          (readFields fuel (depth - 1) rest).map fun (fields, rest) => (ofFields fields, rest)
    | cs =>
      match readWord cs with
      | some read => some read
      | none => (readNumber cs).map fun (value, rest) => (.number value, rest)

def readItems : Nat → Nat → List Char → Reading (List Json)
  | 0, _, _ => none
  | fuel + 1, depth, cs =>
    match readValue fuel depth cs with
    | none => none
    | some (item, rest) =>
      match skipBlanks rest with
      | ',' :: rest => (readItems fuel depth rest).map fun (items, rest) => (item :: items, rest)
      | ']' :: rest => some ([item], rest)
      | _ => none

def readFields : Nat → Nat → List Char → Reading (List (String × Json))
  | 0, _, _ => none
  | fuel + 1, depth, cs =>
    match skipBlanks cs with
    | '"' :: rest =>
      match readString rest with
      | none => none
      | some (name, rest) =>
        match skipBlanks rest with
        | ':' :: rest =>
          match readValue fuel depth rest with
          | none => none
          | some (value, rest) =>
            match skipBlanks rest with
            | ',' :: rest =>
              (readFields fuel depth rest).map fun (fields, rest) =>
                ((name, value) :: fields, rest)
            | '}' :: rest => some ([(name, value)], rest)
            | _ => none
        | _ => none
    | _ => none

end

/-- Reads a text that is one value between blanks. -/
def read? (text : String) : Option Json :=
  let cs := text.toList
  match readValue (2 * cs.length + 2) 127 cs with
  | some (value, rest) => if (skipBlanks rest).isEmpty then some value else none
  | none => none

end AccessGrants.Json

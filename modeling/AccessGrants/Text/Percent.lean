import AccessGrants.Text.Reading
import AccessGrants.Text.Utf8

/-!
Text that spells some of its bytes as a percent sign and two hexadecimal
digits. A percent sign without two digits stands for itself.
-/

namespace AccessGrants.Text

/-- The byte that two hexadecimal digits spell. -/
def hexByte? (high low : Char) : Option UInt8 := do
  let high ← hexValue? high
  let low ← hexValue? low
  return UInt8.ofNat (16 * high + low)

def percentBytes : List Char → List UInt8
  | '%' :: high :: low :: rest =>
    match hexByte? high low with
    | some byte => byte :: percentBytes rest
    | none => 0x25 :: percentBytes (high :: low :: rest)
  | c :: rest => String.utf8EncodeChar c ++ percentBytes rest
  | [] => []

def decodePercent (cs : List Char) : Except Utf8Error String :=
  decodeUtf8 (percentBytes cs)

/-- A name or a value of a form; a plus sign stands for a blank. -/
def decodeForm (cs : List Char) : String :=
  decodeUtf8Lossy (percentBytes (cs.map fun c => if c = '+' then ' ' else c))

/-- The fields of a form: names and values with an equals sign between them,
one field apart from the next by an ampersand. A field without the sign has an
empty value, and an empty field does not count. -/
def formFields (cs : List Char) : List (String × String) :=
  ((parts '&' cs).filter (!·.isEmpty)).map fun field =>
    let (name, value) := field.span (· ≠ '=')
    (decodeForm name, decodeForm (value.drop 1))

end AccessGrants.Text

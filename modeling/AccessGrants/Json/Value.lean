import AccessGrants.Decimal.Binary64

/-!
JSON values. Numbers come in two kinds: a numeral without fraction and exponent
that fits a signed or an unsigned 64-bit word is an integer, and every other
number is a double. The fields of an object are kept in ascending order of
their names, each name once.
-/

namespace AccessGrants

inductive Json.Number where
  | integer (n : Int)
  | double (x : Binary64)
  deriving DecidableEq, Repr

inductive Json where
  | null
  | bool (value : Bool)
  | number (value : Json.Number)
  | text (value : String)
  | array (items : List Json)
  | object (fields : List (String × Json))
  deriving Repr

namespace Json

def ofInt (n : Int) : Json := .number (.integer n)

def ofNat (n : Nat) : Json := .number (.integer n)

/-- Writes a field of an object; the last value written to a name stays. -/
def writeField (name : String) (value : Json) :
    List (String × Json) → List (String × Json)
  | [] => [(name, value)]
  | field :: rest =>
    match compare name field.1 with
    | .lt => (name, value) :: field :: rest
    | .eq => (name, value) :: rest
    | .gt => field :: writeField name value rest

def ofFields (fields : List (String × Json)) : Json :=
  .object (fields.foldl (fun written field => writeField field.1 field.2 written) [])

/-- The value of a field; an absent field and a field of another kind of value
are `none`. -/
def field? : Json → String → Option Json
  | .object fields, name => (fields.find? fun field => field.1 = name).map Prod.snd
  | _, _ => none

end Json

end AccessGrants

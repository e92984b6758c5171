import AccessGrants.Decimal.Binary64

/-!
Values of TOML documents. A table remembers how it came about and an array
whether headers may add to it, because that decides which later lines may go
into them.
-/

namespace AccessGrants.Toml

inductive Origin where
  /-- Written between braces, and complete with that. -/
  | braces
  /-- Opened by a header of its own. -/
  | header
  /-- Passed through by a header. -/
  | passed
  /-- Passed through by a key with dots. -/
  | dotted
  deriving DecidableEq, Repr

inductive Value where
  | text (s : String)
  | integer (n : Int64)
  | float (x : Binary64)
  | boolean (b : Bool)
  | moment
  /-- An array; it is open when each of its tables has a header. -/
  | array (isOpen : Bool) (items : List Value)
  | table (origin : Origin) (entries : List (String × Value))
  deriving Repr

/-- The entries of a table; no key is there twice. -/
abbrev Entries : Type := List (String × Value)

def Entries.get? (entries : Entries) (key : String) : Option Value :=
  entries.lookup key

/-- Puts a value under a key, in the place of the one that is there. -/
def Entries.set (key : String) (value : Value) : Entries → Entries
  | [] => [(key, value)]
  | (name, old) :: rest =>
    if name = key then (key, value) :: rest else (name, old) :: Entries.set key value rest

end AccessGrants.Toml

import AccessGrants.Error
import AccessGrants.Text.Blank

/-!
Targets: the subject instance that a check is about. A target is written as
`none` for an instance that does not exist yet, as one number, or as two
numbers joined by a colon. Reading takes blanks around the text, the empty
text for `none`, any ASCII case of `none`, a sign and leading zeros; writing
uses the one form without them, and reading gives back what was written.
-/

namespace AccessGrants

inductive Target where
  /-- The instance does not exist yet. -/
  | creation
  | single (object : Int64)
  | composite (id : InstanceId)
  deriving DecidableEq, Repr

namespace Target

def text : Target → String
  | .creation => "none"
  | .single object => Text.decimal object.toInt
  | .composite id => id.text

/-- The word that stands for creation, in any ASCII case. -/
def isNoneWord (cs : List Char) : Bool :=
  cs.map Char.toLower == ['n', 'o', 'n', 'e']

/-- Reads a text from which the blanks at both ends are gone. What follows the
first colon has to be a numeral, so a second colon is refused. -/
def ofTrimmed? (cs : List Char) : Option Target :=
  if cs.isEmpty || isNoneWord cs then some .creation
  else
    match cs.span (· != ':') with
    | (object, []) => (Text.readInt64? object).map .single
    | (client, _ :: object) =>
      (Text.readInt64? client).bind fun client =>
        (Text.readInt64? object).map fun object => .composite ⟨client, object⟩

/-- The error quotes the text as it was given. -/
def ofText (given : String) : Except CheckError Target :=
  match ofTrimmed? (Text.trimChars given.toList) with
  | some target => .ok target
  | none => .error (.unrecognizedTarget given)

end Target

end AccessGrants

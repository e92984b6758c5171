import AccessGrants.Json.Target
import AccessGrants.Sql.Conversation

/-!
Commands and replies as JSON, for a peer that is reached through text. A
command is the text of its statement with the list of its parameters. A reply
is a list of rows with one letter for the type of each column, a number of
touched rows, which is zero if it is left out, or the state and the text of a
refusal.
-/

namespace AccessGrants.Sql

def Value.toJson : Value → Json
  | .null => .null
  | .int n => .ofInt n.toInt
  | .bool b => .bool b
  | .text s => .text s

def Command.toJson (command : Command) : Json :=
  .array [.text command.statement.text, .array (command.parameters.map Value.toJson)]

/-- A cell of a column with this letter; any cell may be null. -/
def Value.ofJson? (letter : Char) : Json → Option Value
  | .null => some .null
  | .bool b => if letter = 'b' then some (.bool b) else none
  | .text s => if letter = 't' then some (.text s) else none
  | value => if letter = 'i' then value.int64?.map .int else none

/-- A row; there is one letter for each of its cells. -/
def rowOfJson? (letters : List Char) : Json → Option (List Value)
  | .array cells =>
    if letters.length = cells.length then
      (letters.zip cells).mapM fun (letter, cell) => Value.ofJson? letter cell
    else none
  | _ => none

/-- The number of touched rows is that of the rows that are given back. -/
def Reply.ofRows (rows : List (List Value)) : Reply :=
  ⟨rows, rows.length⟩

def Reply.touched (count : Nat) : Reply :=
  ⟨[], count⟩

def replyOfJson? (json : Json) : Option (Except DatabaseError Reply) :=
  match json.field? "error", json.field? "affected", json.field? "types", json.field? "rows" with
  | some (.array [.text state, .text text]), none, none, none =>
    some (.error (.rejected state text))
  | none, some (.number (.integer count)), none, none => some (.ok (.touched count.toNat))
  | none, none, some (.text letters), some (.array rows) =>
    (rows.mapM (rowOfJson? letters.toList)).map fun rows => .ok (.ofRows rows)
  | none, none, none, none => some (.ok (.touched 0))
  | _, _, _, _ => none

end AccessGrants.Sql

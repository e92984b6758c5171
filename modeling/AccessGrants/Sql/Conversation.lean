import AccessGrants.Dialogue
import AccessGrants.Sql.Row
import AccessGrants.Sql.Statement

/-!
Talking to a database: one statement with its parameters after the other, each
answered by a reply or refused. A conversation stops at the first refusal and
at the first row that cannot be read.
-/

namespace AccessGrants.Sql

structure Command where
  statement : Statement
  parameters : List Value
  deriving DecidableEq, Repr

abbrev Command.Answer (_ : Command) : Type := Except DatabaseError Reply

/-- A computation that sends commands and may fail in its own way. -/
abbrev Conversation (ε α : Type) : Type := ExceptT ε (Dialogue Command Command.Answer) α

def send (statement : Statement) (parameters : List Value) : Conversation DatabaseError Reply :=
  ExceptT.mk (.ask ⟨statement, parameters⟩ .done)

namespace Reply

def first? {α : Type} (decode : Row → Except DatabaseError α) (reply : Reply) :
    Except DatabaseError (Option α) :=
  match reply.rows with
  | [] => .ok none
  | row :: _ => (decode row).map some

/-- The first row of a reply that has to have one. -/
def first {α : Type} (decode : Row → Except DatabaseError α) (reply : Reply) :
    Except DatabaseError α :=
  match reply.rows with
  | [] => .error .noRows
  | row :: _ => decode row

def all {α : Type} (decode : Row → Except DatabaseError α) (reply : Reply) :
    Except DatabaseError (List α) :=
  reply.rows.mapM decode

end Reply

def query {α : Type} (statement : Statement) (parameters : List Value)
    (decode : Reply → Except DatabaseError α) : Conversation DatabaseError α :=
  ExceptT.mk (.ask ⟨statement, parameters⟩ fun answer => .done (answer.bind decode))

/-- Runs a conversation between the begin and the commit of a transaction; a
failure on the way or of the commit abandons it. -/
def inTransaction {ε α : Type} (wrap : DatabaseError → ε) (body : Conversation ε α) :
    Conversation ε α := do
  ExceptT.adapt wrap (discard (send .beginTransaction []))
  ExceptT.mk do
    match ← body.run with
    | .error error => do
      discard (send .rollBack []).run
      return .error error
    | .ok result =>
      match ← (send .commit []).run with
      | .ok _ => return .ok result
      | .error error => do
        discard (send .rollBack []).run
        return .error (wrap error)

end AccessGrants.Sql

import AccessGrants.Database.Scope
import AccessGrants.Sql.Row
import AccessGrants.Model

/-!
Rows of the database read as rows of the permission model. The cells of a row
are read before anything is made of them, so a row that cannot be read is
reported before a scope that means nothing.
-/

namespace AccessGrants

open Sql

/-- Any error of the database is internal to a store. -/
def StorageError.ofDatabase (error : DatabaseError) : StorageError :=
  .internal error.message

/-- A refused insertion names what was there already, or what was not there to
be referred to. -/
def StorageError.ofInsertion (what : String) : DatabaseError → StorageError
  | .rejected state text =>
    if state = DatabaseError.uniqueViolation then .duplicate what
    else if state = DatabaseError.foreignKeyViolation then .notFound what
    else .ofDatabase (.rejected state text)
  | error => .ofDatabase error

namespace Database

structure GrantRecord where
  id : GrantId
  template : TemplateId
  subject : String
  action : String
  columns : ScopeColumns
  deriving DecidableEq, Repr

def GrantRecord.grant (row : GrantRecord) : Except StorageError Grant := do
  let scope ← row.columns.scope
  return ⟨row.id, row.template, row.subject, row.action, scope⟩

def rowId (kind : Entity) (row : Row) (index : Nat) : Except DatabaseError (RowId kind) :=
  (row.int index).map RowId.mk

def actorOfRow (row : Row) : Except DatabaseError Actor := do
  return ⟨← rowId .actor row 0, ← row.bool 1, ← row.bool 2⟩

def templateOfRow (row : Row) : Except DatabaseError Template := do
  return ⟨← rowId .template row 0, ← row.text 1, ← row.text 2, ← row.bool 3, ← row.bool 4⟩

def grantOfRow (row : Row) : Except DatabaseError GrantRecord := do
  return ⟨← rowId .grant row 0, ← rowId .template row 1, ← row.text 2, ← row.text 3,
    ⟨← row.bool 4, ← row.int? 5, ← row.int? 6⟩⟩

end Database

end AccessGrants

import AccessGrants.Error
import AccessGrants.Scope
import AccessGrants.Sql.Expr

/-!
Scopes in the database. A scope is kept in three columns of a row of grants, of
which only some combinations mean a scope, and the scopes that cover a target
are selected by a condition on the same columns.
-/

namespace AccessGrants

open Sql

structure ScopeColumns where
  isOverride : Bool
  client : Option Int64
  object : Option Int64
  deriving DecidableEq, Repr

def Scope.columns : Scope → ScopeColumns
  | .override => ⟨true, none, none⟩
  | .object id => ⟨false, none, some id⟩
  | .composite id => ⟨false, some id.client, some id.object⟩

namespace ScopeColumns

/-- How a complaint writes a column that may be null. -/
def describe : Option Int64 → String
  | none => "None"
  | some n => "Some(" ++ Text.decimal n.toInt ++ ")"

def complaint (columns : ScopeColumns) : String :=
  "grant row has an invalid scope (override=" ++ (if columns.isOverride then "true" else "false") ++
    ", client=" ++ describe columns.client ++ ", object=" ++ describe columns.object ++ ")"

/-- The scope that the columns mean. An override has no numbers, and every
other scope has at least the object number. -/
def scope : ScopeColumns → Except StorageError Scope
  | ⟨true, none, none⟩ => .ok .override
  | ⟨false, none, some object⟩ => .ok (.object object)
  | ⟨false, some client, some object⟩ => .ok (.composite ⟨client, object⟩)
  | columns => .error (.internal columns.complaint)

def parameters (columns : ScopeColumns) : List Value :=
  [.bool columns.isOverride, .ofInt? columns.client, .ofInt? columns.object]

end ScopeColumns

namespace Target

def numbers : Target → List Int64
  | .creation => []
  | .single object => [object]
  | .composite id => [id.client, id.object]

/-- The grants, labelled `g`, whose scope covers the target. The numbers of the
target are the parameters from `first` on, which is 2 in the listing of a subject
type and 4 in the existence queries: far below the limit of a machine word, so the
places are counted in natural numbers. -/
def condition (target : Target) (first : Nat) : Expr :=
  let isOverride := Expr.column "g" "is_override"
  let hasClient := Expr.equal (.column "g" "subject_client_id") (.placeholder first)
  let hasObject := Expr.equal (.column "g" "subject_object_id")
  match target with
  | .creation => isOverride
  | .single _ => .group (.either isOverride (hasObject (.placeholder first)))
  | .composite _ =>
    .group (.either isOverride
      (.group (.both hasClient (hasObject (.placeholder (first + 1))))))

end Target

end AccessGrants

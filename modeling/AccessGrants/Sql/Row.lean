import AccessGrants.Sql.Value

/-!
Reading the cells of a row. A cell has to be there, has to have the expected
type, and may be null only where null is expected.
-/

namespace AccessGrants.Sql

abbrev Row : Type := List Value

namespace Row

/-- The value of a cell; null stands for itself where it is allowed. -/
def cell (row : Row) (index : Nat) (expected : Expected) : Except DatabaseError Value :=
  match row[index]? with
  | none => .error (.noColumn index row.length)
  | some value =>
    match value.columnType? with
    | none => if expected.nullable then .ok value else .error (.unexpectedNull index)
    | some found =>
      if found = expected.type then .ok value else .error (.mismatched index expected found)

def int (row : Row) (index : Nat) : Except DatabaseError Int64 :=
  (row.cell index ⟨.bigint, false⟩).map fun
    | .int n => n
    | _ => 0

def int? (row : Row) (index : Nat) : Except DatabaseError (Option Int64) :=
  (row.cell index ⟨.bigint, true⟩).map fun
    | .int n => some n
    | _ => none

def bool (row : Row) (index : Nat) : Except DatabaseError Bool :=
  (row.cell index ⟨.boolean, false⟩).map fun
    | .bool b => b
    | _ => false

def text (row : Row) (index : Nat) : Except DatabaseError String :=
  (row.cell index ⟨.text, false⟩).map fun
    | .text s => s
    | _ => ""

end Row

end AccessGrants.Sql

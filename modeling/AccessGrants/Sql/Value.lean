import AccessGrants.Sql.Endpoint

/-!
Values that go to a database and come back from it, and what can go wrong with
a statement or with a row of its reply.
-/

namespace AccessGrants.Sql

inductive ColumnType where
  | bigint
  | boolean
  | text
  deriving DecidableEq, Repr

def ColumnType.serverName : ColumnType → String
  | .bigint => "INT8"
  | .boolean => "BOOL"
  | .text => "TEXT"

inductive Value where
  | null
  | int (n : Int64)
  | bool (b : Bool)
  | text (s : String)
  deriving DecidableEq, Repr

/-- The type of a value; null has none. -/
def Value.columnType? : Value → Option ColumnType
  | .null => none
  | .int _ => some .bigint
  | .bool _ => some .boolean
  | .text _ => some .text

def Value.ofInt? : Option Int64 → Value
  | some n => .int n
  | none => .null

def Value.ofText? : Option String → Value
  | some s => .text s
  | none => .null

/-- What a statement gives back: its rows and the number of rows it touched. -/
structure Reply where
  rows : List (List Value)
  affected : Nat
  deriving DecidableEq, Repr

structure Expected where
  type : ColumnType
  nullable : Bool
  deriving DecidableEq, Repr

def Expected.hostName (expected : Expected) : String :=
  let plain :=
    match expected.type with
    | .bigint => "i64"
    | .boolean => "bool"
    | .text => "alloc::string::String"
  if expected.nullable then "core::option::Option<" ++ plain ++ ">" else plain

inductive DatabaseError where
  /-- The server refused the statement with this state and text. -/
  | rejected (state text : String)
  /-- A statement that has to give a row gave none. -/
  | noRows
  | noColumn (index count : Nat)
  | unexpectedNull (index : Nat)
  | mismatched (index : Nat) (expected : Expected) (found : ColumnType)
  | badEndpoint (error : EndpointError)
  /-- There is no server at the endpoint, or it does not answer. -/
  | unreachable (reason : String)
  deriving DecidableEq, Repr

namespace DatabaseError

def uniqueViolation : String := "23505"

def foreignKeyViolation : String := "23503"

def message : DatabaseError → String
  | .rejected _ text => "error returned from database: " ++ text
  | .noRows => "no rows returned by a query that expected to return at least one row"
  | .noColumn index count =>
    "column index out of bounds: the len is " ++ Text.decimal count ++ ", but the index is " ++
      Text.decimal index
  | .unexpectedNull index =>
    "error occurred while decoding column " ++ Text.decimal index ++
      ": unexpected null; try decoding as an `Option`"
  | .mismatched index expected found =>
    "error occurred while decoding column " ++ Text.decimal index ++
      ": mismatched types; Rust type `" ++ expected.hostName ++ "` (as SQL type `" ++
      expected.type.serverName ++ "`) is not compatible with SQL type `" ++ found.serverName ++
      "`"
  | .badEndpoint error => configurationPrefix ++ error.message
  | .unreachable reason => "error communicating with database: " ++ reason

end DatabaseError

end AccessGrants.Sql

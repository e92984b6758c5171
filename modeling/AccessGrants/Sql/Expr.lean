import AccessGrants.Sql.Value

/-!
Expressions of the statements sent to the database, and their text. An
expression is written without parentheses of its own; a `group` is what writes
them.
-/

namespace AccessGrants.Sql

inductive Expr where
  /-- A column of the source with this label. -/
  | column (source name : String)
  /-- A column of the only source. -/
  | bare (name : String)
  /-- The parameter with this number; the first is number one. -/
  | placeholder (index : Nat)
  | typed (index : Nat) (type : ColumnType)
  | number (n : Int)
  | equal (left right : Expr)
  /-- Equality for which null equals null. -/
  | notDistinct (left right : Expr)
  | isNull (e : Expr)
  | isNotNull (e : Expr)
  | both (left right : Expr)
  | either (left right : Expr)
  | negation (e : Expr)
  | coalesce (first second : Expr)
  | group (e : Expr)
  deriving DecidableEq, Repr

namespace Expr

def typeName : ColumnType → String
  | .bigint => "BIGINT"
  | .boolean => "BOOLEAN"
  | .text => "TEXT"

def text : Expr → String
  | .column source name => source ++ "." ++ name
  | .bare name => name
  | .placeholder index => "$" ++ Text.decimal index
  | .typed index type => "$" ++ Text.decimal index ++ "::" ++ typeName type
  | .number n => Text.decimal n
  | .equal left right => left.text ++ " = " ++ right.text
  | .notDistinct left right => left.text ++ " IS NOT DISTINCT FROM " ++ right.text
  | .isNull e => e.text ++ " IS NULL"
  | .isNotNull e => e.text ++ " IS NOT NULL"
  | .both left right => left.text ++ " AND " ++ right.text
  | .either left right => left.text ++ " OR " ++ right.text
  | .negation e => "NOT " ++ e.text
  | .coalesce first second => "COALESCE(" ++ first.text ++ ", " ++ second.text ++ ")"
  | .group e => "(" ++ e.text ++ ")"

/-- The conjunction of a list that is not empty. -/
def all (first : Expr) (rest : List Expr) : Expr :=
  rest.foldl both first

end Expr

end AccessGrants.Sql

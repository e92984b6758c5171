import AccessGrants.Sql.Expr

/-!
Statements as data, and their text. Queries, insertions and updates are those
of the permission tables; definitions of tables and indexes create what is
missing and leave alone what exists.
-/

namespace AccessGrants.Sql

/-- A table and the label under which its columns are named. -/
structure Source where
  table : String
  label : Option String
  deriving DecidableEq, Repr

structure Join where
  source : Source
  condition : Expr
  deriving DecidableEq, Repr

structure Select where
  distinct : Bool
  columns : List Expr
  source : Source
  joins : List Join
  condition : Option Expr
  order : Option Expr
  deriving DecidableEq, Repr

inductive OnConflict where
  | ignore
  /-- Overwrite one column of the row with the same key. -/
  | overwrite (key : List String) (column : String)
  deriving DecidableEq, Repr

structure Insert where
  table : String
  /-- The columns that are given, by the parameters in order; with none of them
  the row consists of defaults. -/
  columns : List String
  conflict : Option OnConflict
  returning : List String
  deriving DecidableEq, Repr

inductive StorageType where
  | serial
  | plain (type : ColumnType)
  | timestamp
  deriving DecidableEq, Repr

inductive ColumnRule where
  | primaryKey
  | notNull
  | unique
  | default (value : String)
  | references (table column : String)
  deriving DecidableEq, Repr

structure Column where
  name : String
  type : StorageType
  rules : List ColumnRule
  deriving DecidableEq, Repr

inductive TableRule where
  | primaryKey (columns : List String)
  | unique (columns : List String)
  | check (name : String) (condition : Expr)
  deriving DecidableEq, Repr

structure TableDefinition where
  name : String
  columns : List Column
  rules : List TableRule
  deriving DecidableEq, Repr

structure IndexDefinition where
  name : String
  table : String
  unique : Bool
  keys : List Expr
  deriving DecidableEq, Repr

inductive Statement where
  | select (query : Select)
  | selectExists (query : Select)
  | insert (row : Insert)
  /-- Writes the second parameter to a column of the row that the first names. -/
  | update (table column : String)
  | createTable (definition : TableDefinition)
  | createIndex (definition : IndexDefinition)
  | beginTransaction
  | commit
  | rollBack
  deriving DecidableEq, Repr

def commas (items : List String) : String :=
  ", ".intercalate items

def Source.text (source : Source) : String :=
  match source.label with
  | none => source.table
  | some label => source.table ++ " " ++ label

def Join.text (join : Join) : String :=
  " JOIN " ++ join.source.text ++ " ON " ++ join.condition.text

def Select.text (query : Select) : String :=
  "SELECT " ++ (if query.distinct then "DISTINCT " else "") ++
    commas (query.columns.map Expr.text) ++ " FROM " ++ query.source.text ++
    String.join (query.joins.map Join.text) ++
    (match query.condition with
      | none => ""
      | some condition => " WHERE " ++ condition.text) ++
    (match query.order with
      | none => ""
      | some order => " ORDER BY " ++ order.text)

def OnConflict.text : OnConflict → String
  | .ignore => " ON CONFLICT DO NOTHING"
  | .overwrite key column =>
    " ON CONFLICT (" ++ commas key ++ ") DO UPDATE SET " ++ column ++ " = EXCLUDED." ++ column

def placeholders (count : Nat) : List String :=
  (List.range count).map fun index => (Expr.placeholder (index + 1)).text

def Insert.text (row : Insert) : String :=
  "INSERT INTO " ++ row.table ++
    (if row.columns.isEmpty then " DEFAULT VALUES"
      else " (" ++ commas row.columns ++ ") VALUES (" ++
        commas (placeholders row.columns.length) ++ ")") ++
    (match row.conflict with
      | none => ""
      | some conflict => conflict.text) ++
    (if row.returning.isEmpty then "" else " RETURNING " ++ commas row.returning)

def StorageType.text : StorageType → String
  | .serial => "BIGSERIAL"
  | .plain type => Expr.typeName type
  | .timestamp => "TIMESTAMPTZ"

def ColumnRule.text : ColumnRule → String
  | .primaryKey => " PRIMARY KEY"
  | .notNull => " NOT NULL"
  | .unique => " UNIQUE"
  | .default value => " DEFAULT " ++ value
  | .references table column => " REFERENCES " ++ table ++ "(" ++ column ++ ")"

def Column.text (column : Column) : String :=
  column.name ++ " " ++ column.type.text ++ String.join (column.rules.map ColumnRule.text)

def TableRule.text : TableRule → String
  | .primaryKey columns => "PRIMARY KEY (" ++ commas columns ++ ")"
  | .unique columns => "UNIQUE (" ++ commas columns ++ ")"
  | .check name condition => "CONSTRAINT " ++ name ++ " CHECK ( " ++ condition.text ++ " )"

def TableDefinition.text (definition : TableDefinition) : String :=
  "CREATE TABLE IF NOT EXISTS " ++ definition.name ++ " ( " ++
    commas (definition.columns.map Column.text ++ definition.rules.map TableRule.text) ++ " )"

/-- A key that is computed stands on a line of its own, and so do all keys
beside it. -/
def IndexDefinition.text (definition : IndexDefinition) : String :=
  let keys := commas (definition.keys.map Expr.text)
  let isColumn := fun
    | Expr.bare _ => true
    | _ => false
  (if definition.unique then "CREATE UNIQUE INDEX" else "CREATE INDEX") ++ " IF NOT EXISTS " ++
    definition.name ++ " ON " ++ definition.table ++
    (if definition.keys.all isColumn then " (" ++ keys ++ ")" else " ( " ++ keys ++ " )")

/-- The text of a statement, with one blank wherever blanks are needed. -/
def Statement.text : Statement → String
  | .select query => query.text
  | .selectExists query => "SELECT EXISTS (" ++ query.text ++ ")"
  | .insert row => row.text
  | .update table column => "UPDATE " ++ table ++ " SET " ++ column ++ " = $2 WHERE id = $1"
  | .createTable definition => definition.text
  | .createIndex definition => definition.text
  | .beginTransaction => "BEGIN"
  | .commit => "COMMIT"
  | .rollBack => "ROLLBACK"

end AccessGrants.Sql

import AccessGrants.Proofs.Sql.Meaning
import Mathlib.Data.List.Pairwise

/-!
What a schema asks of the rows of its tables. A row has values of the types of
its columns, null only where it may be, and passes the checks of its table; two
rows of a table differ in every key of it, and a row refers to rows that are
there. The keys of a table are its primary one, its unique ones and those of the
unique indexes on it; a key with a null in it is like no other.
-/

namespace AccessGrants.Sql

/-- The value of an expression over the columns of one row. -/
def Expr.over (record : Record) (e : Expr) : Value :=
  e.value [] [("", record)]

def ColumnRule.isKey : ColumnRule → Bool
  | .primaryKey | .unique => true
  | _ => false

def ColumnRule.forbidsNull : ColumnRule → Bool
  | .primaryKey | .notNull => true
  | _ => false

def ColumnRule.isReference : ColumnRule → Bool
  | .references _ _ => true
  | _ => false

/-- What the values of a column may be, null apart; a moment is not looked at. -/
def StorageType.valueType? : StorageType → Option ColumnType
  | .serial => some .bigint
  | .plain type => some type
  | .timestamp => none

/-- The value may stand in the column. -/
structure Column.Admits (column : Column) (value : Value) : Prop where
  typed : ∀ type, column.type.valueType? = some type → value ≠ .null →
    value.columnType? = some type
  given : column.rules.any ColumnRule.forbidsNull = true → value ≠ .null

theorem Column.admits_iff {column : Column} {value : Value} : column.Admits value ↔
    (value ≠ .null → ∀ type ∈ column.type.valueType?, value.columnType? = some type) ∧
      (column.rules.any ColumnRule.forbidsNull = true → value ≠ .null) :=
  ⟨fun h => ⟨fun hgiven type htype => h.typed type htype hgiven, h.given⟩,
    fun ⟨htyped, hgiven⟩ => ⟨fun type htype hvalue => htyped hvalue type htype, hgiven⟩⟩

instance (column : Column) (value : Value) : Decidable (column.Admits value) :=
  decidable_of_iff _ Column.admits_iff.symm

def TableRule.key? : TableRule → Option (List Expr)
  | .primaryKey columns | .unique columns => some (columns.map .bare)
  | .check _ _ => none

def TableRule.check? : TableRule → Option Expr
  | .check _ condition => some condition
  | _ => none

def TableDefinition.keys (definition : TableDefinition) : List (List Expr) :=
  (definition.columns.filter fun column => column.rules.any ColumnRule.isKey).map
      (fun column => [.bare column.name]) ++
    definition.rules.filterMap TableRule.key?

namespace Statement

/-- What a definition says about a table. -/
def columnsOf (table : String) : Statement → List Column
  | .createTable definition => if definition.name = table then definition.columns else []
  | _ => []

def keysOf (table : String) : Statement → List (List Expr)
  | .createTable definition => if definition.name = table then definition.keys else []
  | .createIndex index => if index.unique = true ∧ index.table = table then [index.keys] else []
  | _ => []

def checksOf (table : String) : Statement → List Expr
  | .createTable definition =>
    if definition.name = table then definition.rules.filterMap TableRule.check? else []
  | _ => []

end Statement

section Rows

variable (schema : List Statement) (table : String)

def columnsOf : List Column :=
  schema.flatMap (Statement.columnsOf table)

def keysOf : List (List Expr) :=
  schema.flatMap (Statement.keysOf table)

def checksOf : List Expr :=
  schema.flatMap (Statement.checksOf table)

/-- The row may stand in the table, whatever other rows there are. A check that
is unknown does not fail. -/
structure Admits (record : Record) : Prop where
  columns : ∀ column ∈ columnsOf schema table, column.Admits (record column.name)
  checks : ∀ condition ∈ checksOf schema table, condition.over record ≠ .bool false

theorem admits_iff {record : Record} : Admits schema table record ↔
    (∀ column ∈ columnsOf schema table, column.Admits (record column.name)) ∧
      ∀ condition ∈ checksOf schema table, condition.over record ≠ .bool false :=
  ⟨fun h => ⟨h.columns, h.checks⟩, fun ⟨hcolumns, hchecks⟩ => ⟨hcolumns, hchecks⟩⟩

instance (record : Record) : Decidable (Admits schema table record) :=
  decidable_of_iff _ (admits_iff schema table).symm

/-- The rows have the same values in some key, and no null in it. -/
def Collide (record other : Record) : Prop :=
  ∃ key ∈ keysOf schema table, ∀ e ∈ key,
    e.over record = e.over other ∧ e.over record ≠ .null

/-- What the row refers to is there. -/
def Refers (tables : Tables) (record : Record) : Prop :=
  ∀ column ∈ columnsOf schema table, ∀ target key, .references target key ∈ column.rules →
    record column.name ≠ .null → ∃ other ∈ tables target, other key = record column.name

end Rows

theorem refers_of_no_reference {schema : List Statement} {table : String} {tables : Tables}
    {record : Record} (h : ∀ column ∈ columnsOf schema table,
      column.rules.any ColumnRule.isReference = false) :
    Refers schema table tables record := by
  intro column hcolumn target key hrule
  have hnone := List.any_eq_false.mp (h column hcolumn) _ hrule
  exact absurd rfl hnone

/-- The tables satisfy the constraints of the schema. -/
structure Consistent (schema : List Statement) (tables : Tables) : Prop where
  admitted : ∀ table, ∀ record ∈ tables table, Admits schema table record
  distinct : ∀ table,
    (tables table).Pairwise fun record other => ¬ Collide schema table record other
  referred : ∀ table, ∀ record ∈ tables table, Refers schema table tables record

section Values

variable {value : Value}

theorem Value.columnType?_eq_bigint :
    value.columnType? = some .bigint ↔ ∃ n, value = .int n := by
  cases value <;> simp [columnType?]

theorem Value.columnType?_eq_boolean :
    value.columnType? = some .boolean ↔ ∃ b, value = .bool b := by
  cases value <;> simp [columnType?]

theorem Value.columnType?_eq_text : value.columnType? = some .text ↔ ∃ s, value = .text s := by
  cases value <;> simp [columnType?]

/-- The type of the value in a column that may not be null. -/
theorem Admits.columnType? {schema : List Statement} {table : String} {record : Record}
    (h : Admits schema table record) {name : String} {type : StorageType}
    {rules : List ColumnRule} {own : ColumnType}
    (column : ⟨name, type, rules⟩ ∈ columnsOf schema table) (hown : type.valueType? = some own)
    (given : rules.any ColumnRule.forbidsNull = true) :
    (record name).columnType? = some own := by
  obtain ⟨htyped, hgiven⟩ := h.columns _ column
  exact htyped own hown (hgiven given)

end Values

section Collisions

variable {schema : List Statement} {table : String} {record other : Record} {key : List Expr}

/-- To agree in a key is to have the same values in it. -/
theorem agree_iff_map : (∀ e ∈ key, e.over record = e.over other ∧ e.over record ≠ .null) ↔
    key.map (Expr.over record) = key.map (Expr.over other) ∧
      .null ∉ key.map (Expr.over record) := by
  simp only [List.map_inj_left, List.mem_map, not_exists, not_and]
  constructor
  · intro hagree
    exact ⟨fun e he => (hagree e he).1, fun e he => (hagree e he).2⟩
  · rintro ⟨hsame, hgiven⟩ e he
    exact ⟨hsame e he, hgiven e he⟩

theorem Collide.symm (h : Collide schema table record other) :
    Collide schema table other record := by
  obtain ⟨key, hkey, hsame⟩ := h
  refine ⟨key, hkey, fun e he => ?_⟩
  obtain ⟨heq, hnull⟩ := hsame e he
  exact ⟨heq.symm, heq ▸ hnull⟩

/-- Rows of a consistent table that collide are one row. -/
theorem Consistent.eq_of_collide {tables : Tables} (h : Consistent schema tables)
    (hrecord : record ∈ tables table) (hother : other ∈ tables table)
    (collide : Collide schema table record other) : record = other := by
  by_contra hne
  have hsymm : Std.Symm fun record other => ¬ Collide schema table record other :=
    ⟨fun _ _ hnot hback => hnot hback.symm⟩
  exact (h.distinct table).forall hrecord hother hne collide

end Collisions

end AccessGrants.Sql

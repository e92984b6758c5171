import AccessGrants.Database.Schema
import AccessGrants.Database.Scope
import AccessGrants.Proofs.Sql.Constraint

/-!
The grants of an instance in the tables. The unique index keeps a slot for each
template and scope, in which null stands for the number minus one; a row of
grants whose slot is that of a template for an instance is a grant of it, unless
it is scoped to an object alone and the client of the instance is minus one.
-/

namespace AccessGrants.Database

open Sql

/-- The row is of a grant of the template for the scope. -/
structure Keeps (template : TemplateId) (scope : Scope) (record : Record) : Prop where
  template : record "template_id" = .int template.value
  isOverride : record "is_override" = .bool scope.columns.isOverride
  client : record "subject_client_id" = .ofInt? scope.columns.client
  object : record "subject_object_id" = .ofInt? scope.columns.object

/-- The row is of a grant of the template for the instance. -/
structure Fills (id : InstanceId) (template : Template) (record : Record) : Prop where
  template : record "template_id" = .int template.id.value
  isOverride : record "is_override" = .bool false
  client : record "subject_client_id" = .int id.client
  object : record "subject_object_id" = .int id.object

/-- The grant of the template for the instance is in the tables. -/
def Filled (id : InstanceId) (tables : Tables) (template : Template) (grant : GrantId) : Prop :=
  ∃ record ∈ tables "permission_grants", Fills id template record ∧
    record "id" = .int grant.value

/-- Where the unique index keeps a row. -/
def slotOf (record : Record) : List Value :=
  Schema.uniqueScope.keys.map (Expr.over record)

def slot (id : InstanceId) (template : Template) : List Value :=
  [.int template.id.value, .bool false, .int id.client, .int id.object]

/-- The row has a number, and no slot that it only seems to fill. -/
structure Plain (id : InstanceId) (record : Record) : Prop where
  numbered : ∃ grant : GrantId, record "id" = .int grant.value
  fills : ∀ template, slotOf record = slot id template → Fills id template record

section Slots

variable {id : InstanceId} {template other : Template} {record another : Record}

theorem slotOf_eq : slotOf record = [record "template_id", record "is_override",
    .coalesce (record "subject_client_id") (.int (-1)),
    .coalesce (record "subject_object_id") (.int (-1))] := rfl

theorem fills_iff_keeps : Fills id template record ↔ Keeps template.id (.composite id) record := by
  constructor
  · exact fun h => ⟨h.template, h.isOverride, h.client, h.object⟩
  · exact fun h => ⟨h.template, h.isOverride, h.client, h.object⟩

theorem Fills.slot (h : Fills id template record) : slotOf record = Database.slot id template := by
  rw [slotOf_eq, h.template, h.isOverride, h.client, h.object]
  rfl

/-- Of the template only the number counts. -/
theorem Fills.congr (h : Fills id template record) (same : template.id = other.id) :
    Fills id other record :=
  ⟨by rw [h.template, same], h.isOverride, h.client, h.object⟩

theorem Fills.of_slot_eq (h : Fills id template record)
    (same : slotOf record = Database.slot id other) : Fills id other record := by
  rw [h.slot] at same
  have hid : template.id.value = other.id.value := by
    simpa [Database.slot] using same
  refine ⟨?_, h.isOverride, h.client, h.object⟩
  rw [h.template, hid]

theorem Fills.plain {grant : GrantId} (h : Fills id template record)
    (numbered : record "id" = .int grant.value) : Plain id record where
  numbered := ⟨grant, numbered⟩
  fills := fun _ same => h.of_slot_eq same

/-- Two templates with grants in one row have one number. -/
theorem Fills.id_eq (h : Fills id template record) (h' : Fills id other record) :
    template.id = other.id := by
  have hvalue := h.template.symm.trans h'.template
  rw [Value.int.injEq] at hvalue
  exact RowId.value_inj.mp hvalue

end Slots

section Constraints

theorem columnsOf_grants : columnsOf Schema.definitions "permission_grants" =
    [⟨"id", .serial, [.primaryKey]⟩,
      ⟨"template_id", .plain .bigint, [.notNull, .references "permission_templates" "id"]⟩,
      ⟨"is_override", .plain .boolean, [.notNull, .default "FALSE"]⟩,
      ⟨"subject_client_id", .plain .bigint, []⟩, ⟨"subject_object_id", .plain .bigint, []⟩] := by
  decide

theorem columnsOf_links : columnsOf Schema.definitions "actor_grants" =
    [⟨"actor_id", .plain .bigint, [.notNull, .references "actors" "id"]⟩,
      ⟨"grant_id", .plain .bigint, [.notNull, .references "permission_grants" "id"]⟩] := by
  decide

theorem keysOf_grants : keysOf Schema.definitions "permission_grants" =
    [[.bare "id"], Schema.uniqueScope.keys] := by
  decide

theorem keysOf_links : keysOf Schema.definitions "actor_grants" =
    [[.bare "actor_id", .bare "grant_id"]] := by
  decide

variable {id : InstanceId} {template : Template} {record other : Record} {tables : Tables}
  {actor : ActorId} {grant : GrantId}

theorem admits_grants_int (admitted : Admits Schema.definitions "permission_grants" record) :
    ∃ grant : GrantId, record "id" = .int grant.value := by
  have hcolumn : ⟨"id", .serial, [.primaryKey]⟩ ∈
      columnsOf Schema.definitions "permission_grants" := by decide
  obtain ⟨n, hvalue⟩ := Value.columnType?_eq_bigint.mp (admitted.columnType? hcolumn rfl rfl)
  exact ⟨⟨n⟩, hvalue⟩

/-- By the check of the table a grant that is no override has an object. -/
theorem admits_grants_object (admitted : Admits Schema.definitions "permission_grants" record)
    (narrow : record "is_override" = .bool false) : record "subject_object_id" ≠ .null := by
  intro hnull
  have hcheck : Schema.exclusiveScope ∈ checksOf Schema.definitions "permission_grants" := by
    decide
  apply admitted.checks _ hcheck
  simp [Expr.over, Schema.exclusiveScope, Expr.all, Expr.value, narrow, hnull, Value.both,
    Value.either, Value.negation]

/-- A row of the table is plain, unless null stands for the client of the instance. -/
theorem plain_of_admits (admitted : Admits Schema.definitions "permission_grants" record)
    (clear : id.client = -1 → record "subject_client_id" = .null →
      record "subject_object_id" ≠ .int id.object) : Plain id record where
  numbered := admits_grants_int admitted
  fills := by
    intro template hslot
    rw [slotOf_eq, slot] at hslot
    simp only [List.cons.injEq, and_true] at hslot
    obtain ⟨htemplate, hnarrow, hclient, hobject⟩ := hslot
    have hgiven := admits_grants_object admitted hnarrow
    have hobject' : record "subject_object_id" = .int id.object := by
      cases hvalue : record "subject_object_id" with
      | null => exact absurd hvalue hgiven
      | _ =>
          rw [hvalue] at hobject
          exact hobject
    refine ⟨htemplate, hnarrow, ?_, hobject'⟩
    cases hvalue : record "subject_client_id" with
    | null =>
        rw [hvalue] at hclient
        have hminus : id.client = -1 := by simpa [Value.coalesce, eq_comm] using hclient
        exact absurd hobject' (clear hminus hvalue)
    | _ =>
        rw [hvalue] at hclient
        exact hclient

theorem collide_grants_iff : Collide Schema.definitions "permission_grants" record other ↔
    (record "id" = other "id" ∧ record "id" ≠ .null) ∨
      slotOf record = slotOf other ∧ .null ∉ slotOf record := by
  unfold Collide
  rw [keysOf_grants]
  simp only [List.mem_cons, List.not_mem_nil, or_false, exists_eq_or_imp, exists_eq_left,
    forall_eq]
  refine or_congr Iff.rfl ?_
  exact agree_iff_map

theorem collide_links_iff : Collide Schema.definitions "actor_grants" record other ↔
    (record "actor_id" = other "actor_id" ∧ record "actor_id" ≠ .null) ∧
      record "grant_id" = other "grant_id" ∧ record "grant_id" ≠ .null := by
  unfold Collide
  rw [keysOf_links]
  simp only [List.mem_cons, List.not_mem_nil, or_false, exists_eq_left, forall_eq_or_imp, forall_eq]
  exact Iff.rfl

theorem Fills.collide (h : Fills id template record) (h' : Fills id template other) :
    Collide Schema.definitions "permission_grants" record other := by
  apply collide_grants_iff.mpr
  rw [h.slot, h'.slot]
  exact Or.inr ⟨rfl, by simp [Database.slot]⟩

theorem Fills.of_collide (h : Fills id template record) (plain : Plain id other)
    (fresh : other "id" ≠ record "id")
    (collide : Collide Schema.definitions "permission_grants" record other) :
    Fills id template other := by
  rcases collide_grants_iff.mp collide with ⟨hid, _⟩ | ⟨hslot, _⟩
  · exact absurd hid.symm fresh
  · rw [h.slot] at hslot
    exact plain.fills template hslot.symm

section Keeping

variable {kept : TemplateId} {scope : Scope}

/-- A row of a grant may stand in the table. -/
theorem Keeps.admits (h : Keeps kept scope record) (numbered : record "id" = .int grant.value) :
    Admits Schema.definitions "permission_grants" record where
  columns := by
    rw [columnsOf_grants]
    intro column hcolumn
    simp only [List.mem_cons, List.not_mem_nil, or_false] at hcolumn
    have hint (name : String) (type : StorageType) (rules : List ColumnRule) (n : Int64)
        (htype : type.valueType? = some .bigint) (hvalue : record name = .int n) :
        Column.Admits ⟨name, type, rules⟩ (record name) := by
      rw [hvalue]
      refine ⟨fun own hown _ => ?_, fun _ => by simp⟩
      rw [htype, Option.some.injEq] at hown
      rw [← hown]
      rfl
    have hint? (name : String) (n : Option Int64) (hvalue : record name = .ofInt? n) :
        Column.Admits ⟨name, .plain .bigint, []⟩ (record name) := by
      cases n with
      | none =>
          exact ⟨fun _ _ hgiven => absurd hvalue hgiven,
            fun hnone => absurd hnone Bool.false_ne_true⟩
      | some n => exact hint name _ _ n rfl hvalue
    rcases hcolumn with rfl | rfl | rfl | rfl | rfl
    · exact hint _ _ _ _ rfl numbered
    · exact hint _ _ _ _ rfl h.template
    · rw [h.isOverride]
      exact ⟨fun own hown _ => hown, fun _ => by simp⟩
    · exact hint? _ _ h.client
    · exact hint? _ _ h.object
  checks := by
    have hchecks : checksOf Schema.definitions "permission_grants" = [Schema.exclusiveScope] := by
      decide
    rw [hchecks]
    intro condition hcondition
    rw [List.mem_singleton.mp hcondition]
    simp only [Expr.over, Schema.exclusiveScope, Expr.all, List.foldl_cons, List.foldl_nil,
      Expr.value, h.isOverride, h.client, h.object]
    cases scope <;> simp [Scope.columns, Value.ofInt?, Value.both, Value.either, Value.negation]

theorem Keeps.refers (h : Keeps kept scope record) {row : Record}
    (stored : row ∈ tables "permission_templates") (same : row "id" = .int kept.value) :
    Refers Schema.definitions "permission_grants" tables record := by
  rw [Refers, columnsOf_grants]
  intro column hcolumn target key hrule hgiven
  simp only [List.mem_cons, List.not_mem_nil, or_false] at hcolumn
  rcases hcolumn with rfl | rfl | rfl | rfl | rfl
  · simp at hrule
  · simp only [List.mem_cons, reduceCtorEq, ColumnRule.references.injEq, List.not_mem_nil,
      or_false, false_or] at hrule
    obtain ⟨rfl, rfl⟩ := hrule
    exact ⟨row, stored, by rw [same, h.template]⟩
  · simp at hrule
  · simp at hrule
  · simp at hrule

end Keeping

/-- A row that fills a slot may stand in the table. -/
theorem Fills.admits (h : Fills id template record) (numbered : record "id" = .int grant.value) :
    Admits Schema.definitions "permission_grants" record :=
  (fills_iff_keeps.mp h).admits numbered

theorem Fills.refers (h : Fills id template record) {row : Record}
    (stored : row ∈ tables "permission_templates") (same : row "id" = .int template.id.value) :
    Refers Schema.definitions "permission_grants" tables record :=
  (fills_iff_keeps.mp h).refers stored same

end Constraints

end AccessGrants.Database

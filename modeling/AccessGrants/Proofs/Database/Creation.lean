import AccessGrants.Proofs.Database.Key
import AccessGrants.Proofs.Database.Replies
import AccessGrants.Proofs.Store.Refusal

/-!
Creating a grant over a database with one client. The template is looked up and
the grant is inserted, each in a transaction of its own. What comes of it is
known from the tables: the template is missing, or its grant for the scope or for
the twin of the scope is there, or else there is a new row.
-/

namespace AccessGrants.Database

open Sql

/-- The tables have the template. -/
def Stocks (tables : Tables) (template : TemplateId) : Prop :=
  ∃ row ∈ tables "permission_templates", row "id" = .int template.value

/-- The tables have the grant, or one for the twin of its scope. -/
def Occupied (tables : Tables) (template : TemplateId) (scope : Scope) : Prop :=
  Kept tables template scope ∨ ∃ twin, scope.Twins twin ∧ Kept tables template twin

section Programs

def lookup : Select :=
  ⟨false, templateColumns.map .bare, ⟨"permission_templates", none⟩, [],
    some (.equal (.bare "id") (.placeholder 1)), none⟩

def grantOfNumber (template : Template) (scope : Scope) (row : Row) :
    Except DatabaseError Grant := do
  return Grant.ofTemplate (← rowId .grant row 0) template scope

/-- What the answer to the insertion of a grant is read as. -/
def readInsertion (template : Template) (scope : Scope) (answer : Except DatabaseError Reply) :
    Except StorageError Grant :=
  (answer.bind (Reply.first (grantOfNumber template scope))).mapError
    (.ofInsertion ("grant of " ++ template.id.label))

/-- A creation is a lookup of the template and an insertion. -/
theorem run_createGrant (id : TemplateId) (scope : Scope) :
    (write (.createGrant id scope)).run = .ask ⟨.select lookup, [.int id.value]⟩ fun answer =>
      match answer.bind (Reply.first? templateOfRow) with
      | .error error => .done (.error (.ofDatabase error))
      | .ok none => .done (.error (.notFound id.label))
      | .ok (some template) => .ask (insertion template.id scope) fun answer =>
          .done (readInsertion template scope answer) := by
  refine congrArg (Dialogue.ask _) (funext fun answer => ?_)
  beta_reduce
  cases answer.bind (Reply.first? templateOfRow) with
  | error error => rfl
  | ok found =>
      cases found with
      | none => rfl
      | some template => rfl

end Programs

section Outcomes

variable {tables : Tables} {id : TemplateId} {scope : Scope} {rows : List Row}

theorem mem_lookup (yields : lookup.Yields tables [.int id.value] rows) {row : Row} :
    row ∈ rows ↔ ∃ record ∈ tables "permission_templates", record "id" = .int id.value ∧
      row = templateColumns.map record := by
  rw [mem_yields_of_table templateColumns yields]
  refine exists_congr fun record => and_congr_right fun _ => and_congr_left fun _ => ?_
  rw [Expr.holds_equal]
  exact and_iff_left Value.noConfusion

theorem lookup_cases (consistent : Consistent Schema.definitions tables)
    (yields : lookup.Yields tables [.int id.value] rows) :
    (rows = [] ∧ ¬ Stocks tables id) ∨
      ∃ template rest, rows = templateCells template :: rest ∧ template.id = id ∧
        Stocks tables id := by
  cases rows with
  | nil =>
      refine Or.inl ⟨rfl, fun ⟨record, hrecord, hid⟩ => ?_⟩
      exact absurd ((mem_lookup yields).mpr ⟨record, hrecord, hid, rfl⟩) List.not_mem_nil
  | cons row rest =>
      obtain ⟨record, hrecord, hid, rfl⟩ := (mem_lookup yields).mp (.head _)
      obtain ⟨template, hown, hcells⟩ :=
        exists_template_of_admits (consistent.admitted _ record hrecord)
      refine Or.inr ⟨template, rest, by rw [hcells], ?_, record, hrecord, hid⟩
      rw [hown, Value.int.injEq, RowId.value_inj] at hid
      exact hid

/-- A place in the index is taken by a grant for the scope or for its twin. -/
theorem occupied_iff (consistent : Consistent Schema.definitions tables) :
    (∃ record ∈ tables "permission_grants", slotOf record = keyOf id scope) ↔
      Occupied tables id scope := by
  constructor
  · rintro ⟨record, hrecord, hslot⟩
    have hadmitted := consistent.admitted _ record hrecord
    rcases (slotOf_eq_keyOf_iff hadmitted).mp hslot with hkeeps | ⟨twin, twins, hkeeps⟩
    · exact Or.inl ⟨record, hrecord, hkeeps⟩
    · exact Or.inr ⟨twin, twins, record, hrecord, hkeeps⟩
  · rintro (⟨record, hrecord, hkeeps⟩ | ⟨twin, twins, record, hrecord, hkeeps⟩)
    · exact ⟨record, hrecord, hkeeps.slotOf⟩
    · refine ⟨record, hrecord, hkeeps.slotOf.trans ?_⟩
      exact (keyOf_eq_iff.mpr ⟨rfl, Or.inr twins⟩).symm

/-- What comes of the creation of a grant, and what it leaves. -/
inductive Created (tables : Tables) (id : TemplateId) (scope : Scope) :
    Except StorageError Grant → Server Unit → Prop where
  | missing (unknown : ¬ Stocks tables id) :
      Created tables id scope (.error (.notFound id.label)) (.lone tables .idle)
  | refused (stocked : Stocks tables id) (occupied : Occupied tables id scope) :
      Created tables id scope (.error (.duplicate ("grant of " ++ id.label)))
        (.lone tables .idle)
  | made {template : Template} {grant : GrantId} {record : Record} (stocked : Stocks tables id)
      (free : ¬ Occupied tables id scope) (own : template.id = id)
      (keeps : Keeps id scope record) (numbered : record "id" = .int grant.value) :
      Created tables id scope (.ok (Grant.ofTemplate grant template scope))
        (.lone (tables.append (Tables.empty.add "permission_grants" record)) .idle)

/-- The insertion comes to one of the outcomes. -/
theorem created_of_handles (consistent : Consistent Schema.definitions tables)
    {template : Template} {answer : Except DatabaseError Reply} {after : Server Unit}
    (stocked : Stocks tables template.id)
    (h : Handles Schema.definitions (.lone tables .idle) (insertion template.id scope) answer
      after) :
    Created tables template.id scope (readInsertion template scope answer) after := by
  obtain ⟨during, hwithin, rfl⟩ := (handles_apart Statement.noConfusion
    ⟨Statement.noConfusion, Statement.noConfusion⟩).mp h
  have hvisible : tables.append .empty = tables := Tables.append_empty
  have hcases := handles_insertion (by rwa [hvisible]) hwithin
  rw [hvisible, occupied_iff consistent] at hcases
  rcases hcases with ⟨record, grant, hkeeps, hid, hfree, rfl, rfl⟩ |
    ⟨hoccupied, ⟨text, rfl⟩, rfl⟩
  · have hunoccupied : ¬ Occupied tables template.id scope := by
      rw [← occupied_iff consistent]
      rintro ⟨other, hother, hslot⟩
      exact hfree other hother hslot
    have hnumber : record "id" = .int (RowId.mk grant : GrantId).value := hid
    rw [Server.conclude, Server.commit_active]
    exact .made stocked hunoccupied rfl hkeeps hnumber
  · rw [Server.conclude, Server.become_lone]
    exact .refused stocked hoccupied

/-- Creating a grant always comes to its end, with one of the outcomes. -/
theorem ensures_created (consistent : Consistent Schema.definitions tables)
    (room : (tables "permission_grants").length < 2 ^ 63 - 1) (id : TemplateId) (scope : Scope) :
    Ensures Schema.definitions (write (.createGrant id scope)).run (.lone tables .idle)
      fun left => Created tables id scope left.result left.left := by
  rw [run_createGrant]
  refine ⟨⟨_, _, handles_select_apart.mpr ⟨⟨_, 0, rfl, Select.yields_rows ..⟩, rfl⟩⟩, ?_⟩
  intro answer after hlookup
  obtain ⟨⟨rows, affected, rfl, yields⟩, rfl⟩ := handles_select_apart.mp hlookup
  rcases lookup_cases consistent yields with
    ⟨rfl, unknown⟩ | ⟨template, rest, rfl, rfl, stocked⟩
  · exact Created.missing unknown
  -- Nothing is lost between the two statements, since there is no other client.
  have hroom : (tables.append .empty "permission_grants").length < 2 ^ 63 - 1 := by
    rwa [Tables.append_empty]
  obtain ⟨answer, during, hwithin⟩ := exists_handles_insertion template.id scope hroom
  refine ⟨⟨answer, _, (handles_apart Statement.noConfusion
    ⟨Statement.noConfusion, Statement.noConfusion⟩).mpr ⟨during, hwithin, rfl⟩⟩, ?_⟩
  exact fun answer after hinsert => created_of_handles consistent stocked hinsert

end Outcomes

section Stores

variable {tables : Tables} {store : Store} {id : TemplateId} {scope : Scope}

theorem Mirrors.stocks_iff (mirrors : Mirrors tables store) (keyed : store.Keyed) :
    Stocks tables id ↔ id ∈ store.templates := by
  constructor
  · rintro ⟨row, hrow, hid⟩
    obtain ⟨template, htemplate, hcells⟩ := mirrors.templates.thing hrow
    obtain ⟨own, hown⟩ := Table.mem_values.mp htemplate
    have hsame : row "id" = .int template.id.value := (List.cons.inj hcells).1
    rw [hid, Value.int.injEq, RowId.value_inj] at hsame
    rw [hsame, keyed.templates _ _ hown]
    exact Table.mem_of_get? hown
  · intro hstored
    obtain ⟨template, htemplate⟩ := hstored
    obtain ⟨row, hrow, hcells⟩ := mirrors.templates.record (Table.mem_values.mpr ⟨_, htemplate⟩)
    have hsame : row "id" = .int template.id.value := (List.cons.inj hcells).1
    rw [keyed.templates _ _ htemplate] at hsame
    exact ⟨row, hrow, hsame⟩

theorem Mirrors.kept_iff (mirrors : Mirrors tables store) :
    Kept tables id scope ↔ store.HasGrant id scope := by
  have hkeeps {record : Record} {grant : Grant} (hcells : ["id", "template_id", "is_override",
      "subject_client_id", "subject_object_id"].map record = grantCells grant) :
      Keeps grant.template grant.scope record := by
    simp only [List.map_cons, List.map_nil, grantCells, ScopeColumns.parameters,
      List.cons.injEq, and_true] at hcells
    obtain ⟨_, htemplate, hoverride, hclient, hobject⟩ := hcells
    exact ⟨htemplate, hoverride, hclient, hobject⟩
  constructor
  · rintro ⟨record, hrecord, hkept⟩
    obtain ⟨grant, hgrant, hcells⟩ := mirrors.grants.thing hrecord
    obtain ⟨own, hown⟩ := Table.mem_values.mp hgrant
    obtain ⟨htemplate, hscope⟩ := (hkeeps hcells).unique hkept
    exact ⟨own, grant, hown, htemplate, hscope⟩
  · rintro ⟨own, grant, hown, rfl, rfl⟩
    obtain ⟨record, hrecord, hcells⟩ := mirrors.grants.record (Table.mem_values.mpr ⟨own, hown⟩)
    exact ⟨record, hrecord, hkeeps hcells⟩

/-- The store refuses the grants that it has. -/
theorem createGrant_duplicate_iff (keyed : store.Keyed) :
    (∃ what, (store.createGrant id scope).1 = .error (.duplicate what)) ↔
      id ∈ store.templates ∧ store.HasGrant id scope := by
  simp only [(store.createGrant_outcome keyed id scope).error_iff, Store.Refuses]
  constructor
  · rintro ⟨what, ⟨_, hother⟩ | ⟨hstored, hgrant, _⟩⟩
    · cases hother
    · exact ⟨hstored, hgrant⟩
  · rintro ⟨hstored, hgrant⟩
    exact ⟨_, Or.inr ⟨hstored, hgrant, rfl⟩⟩

theorem Created.duplicate_iff {result : Except StorageError Grant} {after : Server Unit}
    (h : Created tables id scope result after) :
    (∃ what, result = .error (.duplicate what)) ↔ Stocks tables id ∧ Occupied tables id scope := by
  cases h with
  | missing unknown => simp [unknown]
  | refused stocked occupied => simp [stocked, occupied]
  | made _ free => simp [free]

/-- The database refuses as a duplicate what the store does, and the twins of it. -/
theorem Created.duplicate_iff_store (mirrors : Mirrors tables store) (keyed : store.Keyed)
    {result : Except StorageError Grant} {after : Server Unit}
    (h : Created tables id scope result after) :
    (∃ what, result = .error (.duplicate what)) ↔
      (∃ what, (store.createGrant id scope).1 = .error (.duplicate what)) ∨
        ∃ twin, scope.Twins twin ∧
          ∃ what, (store.createGrant id twin).1 = .error (.duplicate what) := by
  rw [h.duplicate_iff, mirrors.stocks_iff keyed, Occupied]
  simp only [mirrors.kept_iff, createGrant_duplicate_iff keyed]
  constructor
  · rintro ⟨hstored, hgrant | ⟨twin, twins, hgrant⟩⟩
    · exact Or.inl ⟨hstored, hgrant⟩
    · exact Or.inr ⟨twin, twins, hstored, hgrant⟩
  · rintro (⟨hstored, hgrant⟩ | ⟨twin, twins, hstored, hgrant⟩)
    · exact ⟨hstored, Or.inl hgrant⟩
    · exact ⟨hstored, Or.inr ⟨twin, twins, hgrant⟩⟩

end Stores

end AccessGrants.Database

import AccessGrants.Proofs.Database.Listing
import AccessGrants.Proofs.Database.Replies
import AccessGrants.Proofs.Sql.Grammar

/-!
Rows of grants and grants. The columns that mean a scope are those that the
check of the table lets in, and each scope is written in one way. So the rows
that the table can hold are listed as grants, one for each row, and of other
rows a listing reports the first.
-/

namespace AccessGrants

open Sql

/-- The columns of a row of grants that keep its scope. -/
def scopeNames : List String :=
  ["is_override", "subject_client_id", "subject_object_id"]

namespace ScopeColumns

def record (columns : ScopeColumns) : Record :=
  Database.recordOf scopeNames columns.parameters

/-- The checks of the table of grants let the columns in. -/
def Checked (columns : ScopeColumns) : Prop :=
  ∀ condition ∈ checksOf Database.Schema.definitions "permission_grants",
    condition.over columns.record ≠ .bool false

variable {columns : ScopeColumns} {scope : Scope}

/-- The check is the condition that is read off its text in the schema. -/
theorem ofText?_exclusiveScope :
    Expr.ofText? Database.Schema.exclusiveScope.text = some Database.Schema.exclusiveScope := by
  have hname {name : String} (h : isName name.toList = true) : Expr.Legible .operand (.bare name) :=
    .bare h
  have hflag {level : Expr.Level} : Expr.Legible level (.bare "is_override") :=
    (Expr.Legible.bare rfl).of_operand
  have hnull {name : String} (h : isName name.toList = true) :
      Expr.Legible .negation (.isNull (.bare name)) :=
    .ofComparison (.isNull (.bare h))
  have hobject : Expr.Legible .negation (.isNotNull (.bare "subject_object_id")) :=
    .ofComparison (.isNotNull (.bare rfl))
  have hwhole : Expr.Legible .disjunction
      (.all (.bare "is_override") [.isNull (.bare "subject_client_id"),
        .isNull (.bare "subject_object_id")]) :=
    .ofConjunction (.both (.both hflag (hnull rfl)) (hnull rfl))
  have hpart : Expr.Legible .disjunction
      (.both (.negation (.bare "is_override")) (.isNotNull (.bare "subject_object_id"))) :=
    .ofConjunction (.both (.ofNegation (.negation hflag)) hobject)
  have hcheck : Expr.Legible .disjunction Database.Schema.exclusiveScope :=
    .either (Expr.Legible.group hwhole).of_operand (Expr.Legible.group hpart).of_operand
  exact hcheck.ofText?_text

/-- A row passes the check by its three columns alone. -/
theorem over_exclusiveScope {record : Record}
    (shown : scopeNames.map record = columns.parameters) :
    Database.Schema.exclusiveScope.over record = .bool false ↔
      ∀ scope, columns.scope ≠ .ok scope := by
  obtain ⟨isOverride, client, object⟩ := columns
  simp only [scopeNames, parameters, List.map_cons, List.map_nil, List.cons.injEq, and_true]
    at shown
  obtain ⟨hoverride, hclient, hobject⟩ := shown
  simp only [Expr.over, Database.Schema.exclusiveScope, Expr.all, List.foldl_cons, List.foldl_nil,
    Expr.value, hoverride, hclient, hobject]
  cases isOverride <;> cases client <;> cases object <;>
    simp [scope, Value.ofInt?, Value.both, Value.either, Value.negation]

theorem checksOf_grants : checksOf Database.Schema.definitions "permission_grants" =
    [Database.Schema.exclusiveScope] := by
  decide

theorem exists_scope_iff_checked : (∃ scope, columns.scope = .ok scope) ↔ columns.Checked := by
  have hover : Database.Schema.exclusiveScope.over columns.record = .bool false ↔
      ∀ scope, columns.scope ≠ .ok scope := over_exclusiveScope rfl
  rw [Checked, checksOf_grants, List.forall_mem_singleton, Ne, hover, not_forall_not]

theorem columns_of_scope (h : columns.scope = .ok scope) : scope.columns = columns := by
  unfold ScopeColumns.scope at h
  split at h
  · cases h
    rfl
  · cases h
    rfl
  · cases h
    rfl
  · cases h

/-- What the check keeps out is reported with its columns. -/
theorem scope_of_not_checked (h : ¬ columns.Checked) :
    columns.scope = .error (.internal columns.complaint) := by
  rw [← exists_scope_iff_checked] at h
  unfold ScopeColumns.scope at h ⊢
  split
  · exact absurd ⟨_, rfl⟩ h
  · exact absurd ⟨_, rfl⟩ h
  · exact absurd ⟨_, rfl⟩ h
  · rfl

end ScopeColumns

instance (columns : ScopeColumns) : Decidable columns.Checked :=
  inferInstanceAs (Decidable (∀ condition ∈ checksOf Database.Schema.definitions
    "permission_grants", condition.over columns.record ≠ .bool false))

namespace Database

section Stored

variable {record : Record} {row : Row}

/-- A row of the table is of a grant of some template for some scope. -/
theorem exists_keeps_of_admits (admitted : Admits Schema.definitions "permission_grants" record) :
    ∃ (grant : GrantId) (template : TemplateId) (scope : Scope),
      record "id" = .int grant.value ∧ Keeps template scope record := by
  have htype {name : String} {type : StorageType} {rules : List ColumnRule} {own : ColumnType}
      (column : ⟨name, type, rules⟩ ∈ columnsOf Schema.definitions "permission_grants")
      (hown : type.valueType? = some own) (given : rules.any ColumnRule.forbidsNull = true) :=
    admitted.columnType? column hown given
  have hnumber {name : String}
      (column : ⟨name, .plain .bigint, []⟩ ∈ columnsOf Schema.definitions "permission_grants") :
      ∃ number, record name = .ofInt? number := by
    by_cases hnull : record name = .null
    · exact ⟨none, hnull⟩
    · obtain ⟨n, hn⟩ :=
        Value.columnType?_eq_bigint.mp ((admitted.columns _ column).typed .bigint rfl hnull)
      exact ⟨some n, hn⟩
  rw [columnsOf_grants] at htype hnumber
  obtain ⟨grant, hgrant⟩ := Value.columnType?_eq_bigint.mp (htype (.head _) rfl rfl)
  obtain ⟨template, htemplate⟩ := Value.columnType?_eq_bigint.mp (htype (.tail _ (.head _)) rfl rfl)
  obtain ⟨isOverride, hoverride⟩ :=
    Value.columnType?_eq_boolean.mp (htype (.tail _ (.tail _ (.head _))) rfl rfl)
  obtain ⟨client, hclient⟩ := hnumber (.tail _ (.tail _ (.tail _ (.head _))))
  obtain ⟨object, hobject⟩ := hnumber (.tail _ (.tail _ (.tail _ (.tail _ (.head _)))))
  have hshown : scopeNames.map record =
      (⟨isOverride, client, object⟩ : ScopeColumns).parameters := by
    simp [scopeNames, ScopeColumns.parameters, hoverride, hclient, hobject]
  have hpassed := admitted.checks Schema.exclusiveScope
    (by rw [ScopeColumns.checksOf_grants]; exact .head _)
  rw [Ne, ScopeColumns.over_exclusiveScope hshown, not_forall_not] at hpassed
  obtain ⟨scope, hscope⟩ := hpassed
  have hcolumns := ScopeColumns.columns_of_scope hscope
  refine ⟨⟨grant⟩, ⟨template⟩, scope, hgrant, htemplate, ?_, ?_, ?_⟩
  · rw [hcolumns, hoverride]
  · rw [hcolumns, hclient]
  · rw [hcolumns, hobject]

/-- The row is what a listing has of a row of grants and a row of templates, both
of which their tables can hold. -/
def Listable (row : Row) : Prop :=
  ∃ g t, Admits Schema.definitions "permission_grants" g ∧
    Admits Schema.definitions "permission_templates" t ∧
      row = grantColumns.map (Expr.value [] [("g", g), ("t", t)])

theorem Listable.exists_grant (h : Listable row) : ∃ grant, row = grantRow grant := by
  obtain ⟨g, t, hg, ht, rfl⟩ := h
  obtain ⟨grant, template, scope, hgrant, hkeeps⟩ := exists_keeps_of_admits hg
  obtain ⟨own, _, hcells⟩ := exists_template_of_admits ht
  simp only [templateColumns, templateCells, List.map_cons, List.map_nil, List.cons.injEq,
    and_true] at hcells
  refine ⟨⟨grant, template, own.subject, own.action, scope⟩, ?_⟩
  have hg : Frame.column [("g", g), ("t", t)] "g" = g := Frame.column_cons_self
  have ht : Frame.column [("g", g), ("t", t)] "t" = t := by simp
  simp only [grantColumns, List.map_cons, List.map_nil, Expr.value, hg, ht, hgrant,
    hkeeps.template, hkeeps.isOverride, hkeeps.client, hkeeps.object, hcells.2.1, hcells.2.2.1]
  rfl

theorem exists_grants_of_listable {rows : List Row} (h : ∀ row ∈ rows, Listable row) :
    ∃ grants : List Grant, rows = grants.map grantRow := by
  have hrange : rows ∈ Set.range (List.map grantRow) := by
    rw [Set.range_list_map]
    intro row hrow
    obtain ⟨grant, rfl⟩ := (h row hrow).exists_grant
    exact ⟨grant, rfl⟩
  obtain ⟨grants, rfl⟩ := hrange
  exact ⟨grants, rfl⟩

end Stored

section Listings

/-- A read that gives grants. -/
inductive Listing where
  | actorGrants (actor : ActorId) (subject : Option String)
  | organizationGrants (actor : ActorId) (subject : Option String)
  | subjectGrants (subject : String) (target : Target)

namespace Listing

def read : Listing → Access (List Grant)
  | .actorGrants actor subject => Database.read (.actorGrants actor subject)
  | .organizationGrants actor subject => Database.read (.organizationGrants actor subject)
  | .subjectGrants subject target => Database.read (.subjectGrants subject target)

/-- What a listing sends. -/
def command : Listing → Command
  | .actorGrants actor subject => ⟨Database.actorGrants, [.int actor.value, .ofText? subject]⟩
  | .organizationGrants actor subject =>
    ⟨Database.organizationGrants, [.int actor.value, .ofText? subject]⟩
  | .subjectGrants subject target =>
    ⟨Database.subjectGrants target, .text subject :: target.numbers.map .int⟩

/-- A listing sends one command, and makes what it gives of the reply alone. -/
theorem run_read (listing : Listing) :
    listing.read.run = .ask listing.command fun answer =>
      .done (((answer.bind (Reply.all grantOfRow)).mapError .ofDatabase).bind fun records =>
        records.mapM GrantRecord.grant) := by
  cases listing with
  | actorGrants actor subject => exact run_fetchGrants _ _
  | organizationGrants actor subject => exact run_fetchGrants _ _
  | subjectGrants subject target => exact run_fetchGrants _ _

end Listing

/-- The record that the check keeps out. -/
def firstUnchecked (records : List GrantRecord) : Option GrantRecord :=
  records.find? fun record => ¬ record.columns.Checked

theorem mapM_grant_of_firstUnchecked {records : List GrantRecord} {bad : GrantRecord}
    (h : firstUnchecked records = some bad) :
    records.mapM GrantRecord.grant = .error (.internal bad.columns.complaint) := by
  induction records with
  | nil => cases h
  | cons record rest ih =>
      rw [List.mapM_cons]
      by_cases hchecked : record.columns.Checked
      · rw [firstUnchecked, List.find?_cons_of_neg (by simpa using hchecked)] at h
        obtain ⟨scope, hscope⟩ := ScopeColumns.exists_scope_iff_checked.mpr hchecked
        rw [GrantRecord.grant, hscope, ih h]
        rfl
      · rw [firstUnchecked, List.find?_cons_of_pos (by simpa using hchecked),
          Option.some.injEq] at h
        rw [GrantRecord.grant, ScopeColumns.scope_of_not_checked hchecked, h]
        rfl

/-- The check of the table is what its text in the schema says. Scopes and the
columns that it lets in correspond one to one. A listing gives one grant for each
row, in the order of the rows, if the tables can hold them, and otherwise no grants
but the complaint about the first row that the check keeps out. -/
theorem rows_and_grants_correspond :
    (∃ check, checksOf Schema.definitions "permission_grants" = [check] ∧
      Expr.ofText? check.text = some check) ∧
    (∀ scope : Scope, scope.columns.scope = .ok scope) ∧
      (∀ columns : ScopeColumns, ((∃ scope, columns.scope = .ok scope) ↔ columns.Checked) ∧
        ∀ scope, columns.scope = .ok scope → scope.columns = columns) ∧
        ∀ (listing : Listing) {σ : Type} (partner : (command : Command) → σ → command.Answer × σ)
          (state : σ) (reply : Reply), (partner listing.command state).1 = .ok reply →
          ((∀ row ∈ reply.rows, Listable row) →
            ∃ grants, (listing.read.run.run partner state).result = .ok grants ∧
              reply.rows = grants.map grantRow) ∧
            ∀ records, reply.rows.mapM grantOfRow = .ok records →
              ∀ bad, firstUnchecked records = some bad →
                (listing.read.run.run partner state).result =
                  .error (.internal bad.columns.complaint) := by
  refine ⟨⟨_, ScopeColumns.checksOf_grants, ScopeColumns.ofText?_exclusiveScope⟩,
    Scope.scope_columns, fun columns => ⟨ScopeColumns.exists_scope_iff_checked,
      fun _ => ScopeColumns.columns_of_scope⟩, ?_⟩
  intro listing σ partner state reply hreply
  have hresult : (listing.read.run.run partner state).result =
      (((partner listing.command state).1.bind (Reply.all grantOfRow)).mapError .ofDatabase).bind
        fun records => records.mapM GrantRecord.grant := by
    rw [listing.run_read]
    rfl
  rw [hresult, hreply, Except.bind, Reply.all]
  constructor
  · intro hrows
    obtain ⟨grants, hgrants⟩ := exists_grants_of_listable hrows
    refine ⟨grants, ?_, hgrants⟩
    rw [hgrants, mapM_grantOfRow]
    exact mapM_grant grants
  · intro records hread bad hbad
    rw [hread]
    exact mapM_grant_of_firstUnchecked hbad

/-- The listing of a composite scope, and what becomes of it when a row without
an object comes behind. -/
theorem listing_of_composite_and_clientful :
    let row (object : Value) : Row :=
      [.int 5, .int 2, .text "perspective", .text "edit", .bool false, .int 9, object]
    let partner (rows : List Row) (command : Command) (state : Unit) : command.Answer × Unit :=
      (.ok ⟨rows, 0⟩, state)
    let listing := Listing.actorGrants ⟨1⟩ none
    (∃ grants, (listing.read.run.run (partner [row (.int 1)]) ()).result = .ok grants ∧
      [row (.int 1)] = grants.map grantRow) ∧
      (listing.read.run.run (partner [row (.int 1), row .null]) ()).result = .error (.internal
        "grant row has an invalid scope (override=false, client=Some(9), object=None)") := by
  intro row partner listing
  obtain ⟨_, _, _, hlistings⟩ := rows_and_grants_correspond
  constructor
  · refine (hlistings listing (partner [row (.int 1)]) () ⟨[row (.int 1)], 0⟩ rfl).1 ?_
    intro other hother
    rw [List.mem_singleton.mp hother]
    refine ⟨recordOf ["id", "template_id", "is_override", "subject_client_id",
        "subject_object_id"] [.int 5, .int 2, .bool false, .int 9, .int 1],
      recordOf templateColumns (templateCells ⟨⟨2⟩, "perspective", "edit", false, true⟩), ?_, ?_,
      rfl⟩
    · decide
    · decide
  · refine (hlistings listing (partner [row (.int 1), row .null]) ()
      ⟨[row (.int 1), row .null], 0⟩ rfl).2 _ rfl
        ⟨⟨5⟩, ⟨2⟩, "perspective", "edit", ⟨false, some 9, none⟩⟩ ?_
    decide

end Listings

end Database

end AccessGrants

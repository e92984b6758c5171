import AccessGrants.Proofs.Database.Listing
import AccessGrants.Proofs.Database.Provisioning
import AccessGrants.Proofs.Sql.Concurrency
import Mathlib.Order.Interval.Finset.Nat

/-!
What the statements of a provisioning come to on a server. The search finds a
row in the slot of the template or nothing; a row that is inserted fills that
slot under a new number, or else the slot is taken; an owner is linked to a
grant, if it is not linked to it already.
-/

namespace AccessGrants.Database

open Sql

/-- The search for the grant of a template and a scope. -/
def search : Select :=
  ⟨false, [.bare "id"], ⟨"permission_grants", none⟩, [],
    some (.all (.equal (.bare "template_id") (.placeholder 1))
      [.equal (.bare "is_override") (.placeholder 2),
        .notDistinct (.bare "subject_client_id") (.placeholder 3),
        .notDistinct (.bare "subject_object_id") (.placeholder 4)]),
    none⟩

def grantInsertion : Insert :=
  ⟨"permission_grants", ["template_id", "is_override", "subject_client_id", "subject_object_id"],
    none, ["id"]⟩

def linkInsertion : Insert :=
  ⟨"actor_grants", ["actor_id", "grant_id"], some .ignore, []⟩

/-- The rows of a query on one table are those of which its condition is true. -/
theorem mem_yields_of_table {tables : Tables} {parameters : List Value} (columns : List String)
    {table : String} {condition : Expr} {order : Option Expr} {rows : List Row} {row : Row}
    (yields : Select.Yields tables parameters
      ⟨false, columns.map .bare, ⟨table, none⟩, [], some condition, order⟩ rows) :
    row ∈ rows ↔ ∃ record ∈ tables table, condition.Holds parameters [(table, record)] ∧
      row = columns.map record := by
  have hrow (record : Record) :
      Select.row parameters
        ⟨false, columns.map .bare, ⟨table, none⟩, [], some condition, order⟩ [(table, record)] =
          columns.map record := by
    rw [Select.row, List.map_map]
    rfl
  simp only [yields.mem_iff, Select.found, Select.joined, List.foldl_nil, List.mem_filter,
    Source.mem_frames]
  constructor
  · rintro ⟨frame, ⟨⟨record, hrecord, rfl⟩, hholds⟩, rfl⟩
    exact ⟨record, hrecord, of_decide_eq_true hholds, hrow record⟩
  · rintro ⟨record, hrecord, hholds, rfl⟩
    exact ⟨_, ⟨⟨record, hrecord, rfl⟩, decide_eq_true hholds⟩, (hrow record).symm⟩

section Numbers

theorem exists_pos_not_mem {numbers : List Int64} (h : numbers.length < 2 ^ 63 - 1) :
    ∃ n, 0 < n ∧ n ∉ numbers := by
  by_contra! hall
  have hsub : Finset.Icc 1 (2 ^ 63 - 1) ⊆ (numbers.map fun n => n.toInt.toNat).toFinset := by
    intro k hk
    rw [Finset.mem_Icc] at hk
    have hint : (Int64.ofNat k).toInt = k := Int64.toInt_ofNat_of_lt (by omega)
    have hpos : 0 < Int64.ofNat k := by
      rw [Int64.lt_iff_toInt_lt, hint, Int64.toInt_zero]
      omega
    rw [List.mem_toFinset, List.mem_map]
    exact ⟨_, hall _ hpos, by rw [hint, Int.toNat_natCast]⟩
  have hcard := (Finset.card_le_card hsub).trans (List.toFinset_card_le _)
  rw [Nat.card_Icc, List.length_map] at hcard
  omega

def numberOf (record : Record) : Int64 :=
  match record "id" with
  | .int n => n
  | _ => 0

/-- A table that is not full has a number left. -/
theorem exists_number {rows : List Record} (room : rows.length < 2 ^ 63 - 1) :
    ∃ n : Int64, 0 < n ∧ ∀ record ∈ rows, record "id" ≠ .int n := by
  have hlength : (rows.map numberOf).length < 2 ^ 63 - 1 := by rwa [List.length_map]
  obtain ⟨n, hpositive, hfree⟩ := exists_pos_not_mem hlength
  refine ⟨n, hpositive, fun record hrecord hid => hfree ?_⟩
  exact List.mem_map.mpr ⟨record, hrecord, by rw [numberOf, hid]⟩

end Numbers

section Grants

variable {Party : Type} {server : Server Party} {template : TemplateId} {scope : Scope}
  {record : Record}

/-- What an insertion of a grant makes is of its template and scope, under a new
number. -/
theorem makes_keeps (h : grantInsertion.Makes Schema.definitions server
      (.int template.value :: scope.columns.parameters) record) :
    Keeps template scope record ∧ (∃ grant : GrantId, record "id" = .int grant.value) ∧
      ∀ other, server.Stores "permission_grants" other → other "id" ≠ record "id" := by
  have hid : ⟨"id", .serial, [.primaryKey]⟩ ∈
      columnsOf Schema.definitions "permission_grants" := by decide
  obtain ⟨⟨n, _, hnumber⟩, hfresh⟩ := h.numbered _ hid (by decide) rfl
  refine ⟨⟨?_, ?_, ?_, ?_⟩, ⟨⟨n⟩, hnumber⟩, hfresh⟩
  · exact h.given ("template_id", .int template.value) (.head _)
  · exact h.given ("is_override", .bool scope.columns.isOverride) (.tail _ (.head _))
  · exact h.given ("subject_client_id", .ofInt? scope.columns.client) (.tail _ (.tail _ (.head _)))
  · exact h.given ("subject_object_id", .ofInt? scope.columns.object)
      (.tail _ (.tail _ (.tail _ (.head _))))

variable (template scope) in
/-- A number that is free is enough for an insertion to make a row. -/
theorem exists_makes_keeps {n : Int64} (positive : 0 < n)
    (free : ∀ other, server.Stores "permission_grants" other → other "id" ≠ .int n) :
    ∃ record, grantInsertion.Makes Schema.definitions server
      (.int template.value :: scope.columns.parameters) record := by
  have hcolumns : ∀ column ∈ columnsOf Schema.definitions "permission_grants",
      column.name ∉ grantInsertion.columns → column = ⟨"id", .serial, [.primaryKey]⟩ := by
    decide
  refine ⟨recordOf ["id", "template_id", "is_override", "subject_client_id", "subject_object_id"]
    (.int n :: .int template.value :: scope.columns.parameters), ?_, ?_, ?_, ?_⟩
  · intro cell hcell
    change cell ∈ [("template_id", .int template.value),
      ("is_override", .bool scope.columns.isOverride),
      ("subject_client_id", .ofInt? scope.columns.client),
      ("subject_object_id", .ofInt? scope.columns.object)] at hcell
    simp only [List.mem_cons, List.not_mem_nil, or_false] at hcell
    rcases hcell with rfl | rfl | rfl | rfl
    · rfl
    · rfl
    · rfl
    · rfl
  · intro column hcolumn hnot _
    obtain rfl := hcolumns column hcolumn hnot
    exact ⟨⟨n, positive, rfl⟩, free⟩
  · intro column hcolumn hnot hother
    exact absurd (congrArg Column.type (hcolumns column hcolumn hnot)) hother
  · intro column hcolumn hnot hother
    exact absurd (congrArg Column.type (hcolumns column hcolumn hnot)) hother

end Grants

namespace Provisioning

variable {order : Provisioning} {template : Template}

section Commands

theorem command_list : order.command .list = ⟨.select (listing order.kind), []⟩ := rfl

theorem command_find : order.command (.find template) =
    ⟨.select search, order.key template⟩ := rfl

theorem command_store : order.command (.store template) =
    ⟨.insert grantInsertion, order.key template⟩ := rfl

theorem command_link {grant : Grant} : order.command (.link grant) =
    ⟨.insert linkInsertion, [.int order.owner.value, .int grant.id.value]⟩ := rfl

end Commands

section Search

variable {tables : Tables} {record : Record} {rows : List Row} {row : Row}

/-- The search is for the slot of the template, with no column left open. -/
theorem holds_search {condition : Expr} (h : search.condition = some condition) :
    condition.Holds (order.key template) [("permission_grants", record)] ↔
      Fills order.id template record := by
  cases h
  simp only [Expr.all, List.foldl_cons, List.foldl_nil, Expr.holds_both, Expr.holds_equal,
    Expr.holds_notDistinct]
  constructor
  · rintro ⟨⟨⟨⟨htemplate, _⟩, hnarrow, _⟩, hclient⟩, hobject⟩
    exact ⟨htemplate, hnarrow, hclient, hobject⟩
  · rintro ⟨htemplate, hnarrow, hclient, hobject⟩
    exact ⟨⟨⟨⟨htemplate, Value.noConfusion⟩, hnarrow, Value.noConfusion⟩, hclient⟩, hobject⟩

theorem mem_search (yields : search.Yields tables (order.key template) rows) :
    row ∈ rows ↔ ∃ record ∈ tables "permission_grants", Fills order.id template record ∧
      row = [record "id"] := by
  rw [mem_yields_of_table ["id"] yields]
  exact exists_congr fun record => and_congr_right fun _ => and_congr_left fun _ =>
    holds_search rfl

/-- The search comes back empty if no row fills the slot, and else with the
number of a row that does. -/
theorem search_cases (yields : search.Yields tables (order.key template) rows)
    (numbered : ∀ record ∈ tables "permission_grants",
      ∃ grant : GrantId, record "id" = .int grant.value) :
    (rows = [] ∧ ∀ record ∈ tables "permission_grants", ¬ Fills order.id template record) ∨
      ∃ grant rest, rows = [.int grant] :: rest ∧ Filled order.id tables template ⟨grant⟩ := by
  cases rows with
  | nil =>
      refine Or.inl ⟨rfl, fun record hrecord hfills => ?_⟩
      exact absurd ((mem_search yields).mpr ⟨record, hrecord, hfills, rfl⟩) List.not_mem_nil
  | cons row rest =>
      obtain ⟨record, hrecord, hfills, rfl⟩ := (mem_search yields).mp (.head _)
      obtain ⟨grant, hid⟩ := numbered record hrecord
      exact Or.inr ⟨grant.value, rest, by rw [hid], record, hrecord, hfills, hid⟩

end Search

section Insertions

variable {Party : Type} {server after : Server Party} {party : Party} {written : Tables}
  {record row : Record} {grant : Grant} {answer : Answer}

/-- What an insertion of a grant makes fills the slot, under a new number. -/
theorem makes_grant
    (h : grantInsertion.Makes Schema.definitions server (order.key template) record) :
    Fills order.id template record ∧ (∃ grant : GrantId, record "id" = .int grant.value) ∧
      ∀ other, server.Stores "permission_grants" other → other "id" ≠ record "id" :=
  (makes_keeps h).imp_left fills_iff_keeps.mpr

variable (order template) in
theorem exists_makes_grant {n : Int64} (positive : 0 < n)
    (free : ∀ other, server.Stores "permission_grants" other → other "id" ≠ .int n) :
    ∃ record, grantInsertion.Makes Schema.definitions server (order.key template) record :=
  exists_makes_keeps template.id order.scope positive free

theorem makes_link {n m : Int64}
    (h : linkInsertion.Makes Schema.definitions server [.int n, .int m] record) :
    record "actor_id" = .int n ∧ record "grant_id" = .int m := by
  exact ⟨h.given ("actor_id", .int n) (.head _), h.given ("grant_id", .int m) (.tail _ (.head _))⟩

variable (server) in
theorem exists_makes_link (n m : Int64) :
    ∃ record, linkInsertion.Makes Schema.definitions server [.int n, .int m] record := by
  have hcolumns : ∀ column ∈ columnsOf Schema.definitions "actor_grants",
      column.name ∈ linkInsertion.columns := by decide
  refine ⟨recordOf ["actor_id", "grant_id"] [.int n, .int m], ?_, ?_, ?_, ?_⟩
  · intro cell hcell
    change cell ∈ [("actor_id", .int n), ("grant_id", .int m)] at hcell
    simp only [List.mem_cons, List.not_mem_nil, or_false] at hcell
    rcases hcell with rfl | rfl
    · rfl
    · rfl
  · exact fun column hcolumn hnot => absurd (hcolumns column hcolumn) hnot
  · exact fun column hcolumn hnot => absurd (hcolumns column hcolumn) hnot
  · exact fun column hcolumn hnot => absurd (hcolumns column hcolumn) hnot

section Linked

variable {tables : Tables} {n m : Int64} (actor : record "actor_id" = .int n)
  (grants : record "grant_id" = .int m)

include actor grants

theorem admits_link : Admits Schema.definitions "actor_grants" record where
  columns := by
    rw [columnsOf_links]
    intro column hcolumn
    simp only [List.mem_cons, List.not_mem_nil, or_false] at hcolumn
    rcases hcolumn with rfl | rfl
    · rw [actor]
      exact ⟨fun own hown _ => hown, fun _ => by simp⟩
    · rw [grants]
      exact ⟨fun own hown _ => hown, fun _ => by simp⟩
  checks := by
    have hchecks : checksOf Schema.definitions "actor_grants" = [] := by decide
    rw [hchecks]
    exact fun _ hnone => absurd hnone List.not_mem_nil

theorem refers_link (hactor : ∃ row ∈ tables "actors", row "id" = .int n)
    (hgrant : ∃ row ∈ tables "permission_grants", row "id" = .int m) :
    Refers Schema.definitions "actor_grants" tables record := by
  rw [Refers, columnsOf_links]
  intro column hcolumn target key hrule _
  simp only [List.mem_cons, List.not_mem_nil, or_false] at hcolumn
  rcases hcolumn with rfl | rfl
  · simp only [List.mem_cons, reduceCtorEq, ColumnRule.references.injEq, List.not_mem_nil,
      or_false, false_or] at hrule
    obtain ⟨rfl, rfl⟩ := hrule
    rwa [actor]
  · simp only [List.mem_cons, reduceCtorEq, ColumnRule.references.injEq, List.not_mem_nil,
      or_false, false_or] at hrule
    obtain ⟨rfl, rfl⟩ := hrule
    rwa [grants]

end Linked

variable [DecidableEq Party]

/-- A grant is inserted under a new number, or its slot is taken. -/
theorem executes_store
    (h : Executes Schema.definitions server party (order.command (.store template)) answer after)
    (plain : ∀ record ∈ server.visible party "permission_grants", Plain order.id record)
    (there : ∃ row ∈ server.visible party "permission_templates",
      row "id" = .int template.id.value) :
    ∃ written, server.standing party = .active written ∧
      ((∃ record grant, Fills order.id template record ∧ record "id" = .int grant ∧
          (∀ other, server.Stores "permission_grants" other →
            ¬ Collide Schema.definitions "permission_grants" record other) ∧
          answer = .ok ⟨[[.int grant]], 1⟩ ∧
            after = server.become party (.active (written.add "permission_grants" record))) ∨
        (∃ record ∈ server.visible party "permission_grants", Fills order.id template record) ∧
          (∃ text, answer = .error (.rejected DatabaseError.uniqueViolation text)) ∧
            after = server.become party .failed) := by
  rw [command_store] at h
  obtain _ | _ | ⟨active, makes, settles⟩ := h
  obtain ⟨hfills, ⟨grant, hid⟩, hfresh⟩ := makes_grant makes
  obtain ⟨row, hrow, hsame⟩ := there
  refine ⟨_, active, ?_⟩
  rcases settles.cases_of_fit (hfills.admits hid) (hfills.refers hrow hsame) with
    ⟨rfl, rfl, free⟩ | ⟨other, hother, collide, ⟨ignores, _⟩ | ⟨_, htext, rfl⟩⟩
  · refine Or.inl ⟨_, grant.value, hfills, hid, free, ?_, rfl⟩
    simp [Insert.reply, grantInsertion, hid]
  · cases ignores
  · have hplain := plain other hother
    have hother' := hfills.of_collide hplain (hfresh other (.of_visible hother)) collide
    exact Or.inr ⟨⟨other, hother, hother'⟩, htext, rfl⟩

/-- The owner is linked to the grant, or was so already. -/
theorem executes_link
    (h : Executes Schema.definitions server party (order.command (.link grant)) answer after)
    (hactor : ∃ row ∈ server.visible party "actors", row "id" = .int order.owner.value)
    (hgrant : ∃ row ∈ server.visible party "permission_grants", row "id" = .int grant.id.value) :
    ∃ written, server.standing party = .active written ∧ ∃ reply, answer = .ok reply ∧
      (after = server ∨ ∃ record, record "grant_id" = .int grant.id.value ∧
        after = server.become party (.active (written.add "actor_grants" record))) := by
  rw [command_link] at h
  obtain _ | _ | ⟨active, makes, settles⟩ := h
  obtain ⟨hown, hlinked⟩ := makes_link makes
  refine ⟨_, active, ?_⟩
  rcases settles.cases_of_fit (admits_link hown hlinked) (refers_link hown hlinked hactor hgrant)
    with ⟨rfl, rfl, _⟩ | ⟨_, _, _, ⟨_, rfl, rfl⟩ | ⟨refuses, _⟩⟩
  · exact ⟨_, rfl, Or.inr ⟨_, hlinked, rfl⟩⟩
  · exact ⟨_, rfl, Or.inl rfl⟩
  · cases refuses

variable (order template) in
/-- Only a grant for the same slot that is not committed keeps a grant waiting. -/
theorem store_or_waits (active : server.standing party = .active written)
    (plain : ∀ other, ∀ record ∈ server.own other "permission_grants", Plain order.id record)
    {n : Int64} (positive : 0 < n)
    (free : ∀ other, server.Stores "permission_grants" other → other "id" ≠ .int n) :
    (∃ answer after,
        Executes Schema.definitions server party (order.command (.store template)) answer after) ∨
      ∃ other, other ≠ party ∧
        ∃ record ∈ server.own other "permission_grants", Fills order.id template record := by
  obtain ⟨record, makes⟩ := exists_makes_grant order template positive free
  obtain ⟨hfills, _, hfresh⟩ := makes_grant makes
  refine (Executes.insert_or_waits active makes (Or.inl rfl)).imp_right ?_
  rintro ⟨other, hne, theirs, hown, collide⟩
  have hstored : server.Stores "permission_grants" theirs := Or.inr ⟨other, hown⟩
  have htheirs := hfills.of_collide (plain other theirs hown) (hfresh theirs hstored) collide
  exact ⟨other, hne, theirs, hown, htheirs⟩

variable (order grant) in
/-- Only a link to the same grant that is not committed keeps a link waiting. -/
theorem link_or_waits (active : server.standing party = .active written) :
    (∃ answer after,
        Executes Schema.definitions server party (order.command (.link grant)) answer after) ∨
      ∃ other, other ≠ party ∧
        ∃ record ∈ server.own other "actor_grants", record "grant_id" = .int grant.id.value := by
  obtain ⟨record, makes⟩ := exists_makes_link server order.owner.value grant.id.value
  obtain ⟨_, hlinked⟩ := makes_link makes
  refine (Executes.insert_or_waits active makes (Or.inr rfl)).imp_right ?_
  rintro ⟨other, hne, theirs, hown, collide⟩
  obtain ⟨_, hsame, _⟩ := collide_links_iff.mp collide
  exact ⟨other, hne, theirs, hown, hsame.symm.trans hlinked⟩

end Insertions

end Provisioning

end AccessGrants.Database

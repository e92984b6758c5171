import AccessGrants.Proofs.Database.Columns
import AccessGrants.Proofs.Database.Replies

/-!
Which replies a read can use. Every read sends one command and answers from the reply
alone. A reply is of no use if the server refused the command, if one of the rows that
are looked at is not of the kind that the read looks for, or if there has to be a row
and there is none; from every other reply the read has its answer.
-/

namespace AccessGrants

open Sql

namespace Sql.Row

variable {row : Row} {index : Nat}

/-- The value may stand in a cell that is expected to be so. -/
def Fits (expected : Expected) (value : Value) : Prop :=
  value.columnType? = some expected.type ∨ value = .null ∧ expected.nullable = true

theorem columnType?_eq_none_iff {value : Value} : value.columnType? = none ↔ value = .null := by
  cases value <;> simp [Value.columnType?]

theorem cell_eq_ok_iff {expected : Expected} {value : Value} :
    row.cell index expected = .ok value ↔ row[index]? = some value ∧ Fits expected value := by
  constructor
  · intro h
    unfold cell at h
    cases hfound : row[index]? with
    | none => simp [hfound] at h
    | some found =>
        simp only [hfound] at h
        split at h
        · next hnull =>
            split_ifs at h with hnullable
            cases h
            exact ⟨rfl, Or.inr ⟨columnType?_eq_none_iff.mp hnull, hnullable⟩⟩
        · next type htype =>
            split_ifs at h with hexpected
            cases h
            exact ⟨rfl, Or.inl (htype.trans (congrArg some hexpected))⟩
  · rintro ⟨hvalue, htype | ⟨rfl, hnullable⟩⟩
    · simp [cell, hvalue, htype]
    · simp [cell, hvalue, Value.columnType?, hnullable]

/-- Reading a cell as a thing that some values stand for. -/
theorem map_cell_eq_ok_iff {α : Type} {expected : Expected} {read : Value → α}
    {written : α → Value} {a : α} (fits : ∀ value, Fits expected value ↔ ∃ a, value = written a)
    (back : ∀ a, read (written a) = a) :
    (row.cell index expected).map read = .ok a ↔ row[index]? = some (written a) := by
  have hcell : ∀ value, row.cell index expected = .ok value ↔
      row[index]? = some value ∧ ∃ a, value = written a := by
    intro value
    rw [cell_eq_ok_iff, fits]
  constructor
  · intro h
    cases hread : row.cell index expected with
    | error error => rw [hread] at h; cases h
    | ok value =>
        rw [hread] at h
        obtain ⟨hvalue, b, rfl⟩ := (hcell value).mp hread
        rw [hvalue, ← Except.ok.inj h, back]
  · intro h
    rw [(hcell _).mpr ⟨h, a, rfl⟩, Except.map, back]

theorem int_eq_ok_iff {n : Int64} : row.int index = .ok n ↔ row[index]? = some (.int n) :=
  map_cell_eq_ok_iff (by intro value; cases value <;> simp [Fits, Value.columnType?])
    fun _ => rfl

theorem int?_eq_ok_iff {n : Option Int64} :
    row.int? index = .ok n ↔ row[index]? = some (.ofInt? n) :=
  map_cell_eq_ok_iff
    (by intro value; cases value <;> simp [Fits, Value.columnType?, Option.exists, Value.ofInt?])
    fun n => by cases n <;> rfl

theorem bool_eq_ok_iff {b : Bool} : row.bool index = .ok b ↔ row[index]? = some (.bool b) :=
  map_cell_eq_ok_iff (by intro value; cases value <;> simp [Fits, Value.columnType?])
    fun _ => rfl

theorem text_eq_ok_iff {s : String} : row.text index = .ok s ↔ row[index]? = some (.text s) :=
  map_cell_eq_ok_iff (by intro value; cases value <;> simp [Fits, Value.columnType?])
    fun _ => rfl

/-- A row begins with cells if each of them is in its place. -/
theorem cons_prefix_drop_iff {value : Value} {cells : List Value} :
    value :: cells <+: row.drop index ↔
      row[index]? = some value ∧ cells <+: row.drop (index + 1) := by
  rw [List.cons_prefix_iff, ← List.drop_drop, ← List.head?_drop]
  cases row.drop index with
  | nil => simp
  | cons first rest => simp [eq_comm]

theorem singleton_prefix_iff {value : Value} : [value] <+: row ↔ row[0]? = some value := by
  have hfirst : [value] <+: row.drop 0 ↔ row[0]? = some value ∧ [] <+: row.drop 1 :=
    cons_prefix_drop_iff
  simpa using hfirst

end Sql.Row

theorem bind_eq_ok_iff {ε α β : Type} {first : Except ε α} {next : α → Except ε β}
    {value : β} : (first >>= next) = .ok value ↔ ∃ a, first = .ok a ∧ next a = .ok value := by
  cases first with
  | error error => simp [bind, Except.bind]
  | ok a => simp [bind, Except.bind]

namespace Database

def actorRow (actor : Actor) : Row :=
  [.int actor.id.value, .bool actor.active, .bool actor.superuser]

variable {row : Row} {question : Read}

theorem rowId_eq_ok_iff {kind : Entity} {index : Nat} {id : RowId kind} :
    rowId kind row index = .ok id ↔ row[index]? = some (.int id.value) := by
  obtain ⟨n⟩ := id
  rw [← Row.int_eq_ok_iff, rowId]
  cases row.int index <;> simp [Except.map]

theorem actorOfRow_eq_ok_iff {actor : Actor} :
    actorOfRow row = .ok actor ↔ actorRow actor <+: row := by
  rw [actorRow, ← List.drop_zero (l := row)]
  simp only [actorOfRow, Row.cons_prefix_drop_iff, bind_eq_ok_iff, rowId_eq_ok_iff,
    Row.bool_eq_ok_iff, List.nil_prefix, and_true]
  constructor
  · rintro ⟨id, hid, active, hactive, superuser, hsuperuser, ⟨⟩⟩
    exact ⟨hid, hactive, hsuperuser⟩
  · rintro ⟨hid, hactive, hsuperuser⟩
    exact ⟨_, hid, _, hactive, _, hsuperuser, rfl⟩

theorem grantOfRow_eq_ok_iff {record : GrantRecord} :
    grantOfRow row = .ok record ↔
      [.int record.id.value, .int record.template.value, .text record.subject,
        .text record.action] ++ record.columns.parameters <+: row := by
  rw [ScopeColumns.parameters, ← List.drop_zero (l := row)]
  simp only [grantOfRow, List.cons_append, List.nil_append, Row.cons_prefix_drop_iff,
    bind_eq_ok_iff, rowId_eq_ok_iff, Row.bool_eq_ok_iff, Row.text_eq_ok_iff,
    Row.int?_eq_ok_iff, List.nil_prefix, and_true]
  constructor
  · rintro ⟨id, hid, template, htemplate, subject, hsubject, action, haction, isOverride,
      hoverride, client, hclient, object, hobject, ⟨⟩⟩
    exact ⟨hid, htemplate, hsubject, haction, hoverride, hclient, hobject⟩
  · rintro ⟨hid, htemplate, hsubject, haction, hoverride, hclient, hobject⟩
    exact ⟨_, hid, _, htemplate, _, hsubject, _, haction, _, hoverride, _, hclient, _, hobject,
      rfl⟩

/-- A row of a listing gives a grant if it begins with the cells of it. -/
theorem exists_grant_iff_prefix :
    (∃ record, grantOfRow row = .ok record ∧ ∃ grant, record.grant = .ok grant) ↔
      ∃ grant, grantRow grant <+: row := by
  constructor
  · rintro ⟨record, hrecord, grant, hgrant⟩
    obtain ⟨scope, hscope, ⟨⟩⟩ := bind_eq_ok_iff.mp hgrant
    refine ⟨⟨record.id, record.template, record.subject, record.action, scope⟩, ?_⟩
    rw [grantRow, ScopeColumns.columns_of_scope hscope]
    exact grantOfRow_eq_ok_iff.mp hrecord
  · rintro ⟨grant, hprefix⟩
    exact ⟨grantRecord grant, grantOfRow_eq_ok_iff.mpr hprefix, grant, grant_grantRecord grant⟩

theorem exists_bool_iff_prefix :
    (∃ answer, row.bool 0 = .ok answer) ↔ ∃ answer : Bool, [.bool answer] <+: row := by
  simp only [Row.bool_eq_ok_iff, Row.singleton_prefix_iff]

theorem exists_state_iff_prefix :
    (∃ state, (row.text 0).map Visibility.ofText = .ok state) ↔
      ∃ state : String, [.text state] <+: row := by
  simp only [Row.singleton_prefix_iff, ← Row.text_eq_ok_iff]
  cases row.text 0 <;> simp [Except.map]

section Replies

/-- The command that a read sends. -/
def commandOf : Read → Command
  | .actorForSession session => ⟨actorForSession, [.int session.value]⟩
  | .actorGrants actor subject => ⟨actorGrants, [.int actor.value, .ofText? subject]⟩
  | .organizationGrants actor subject =>
    ⟨organizationGrants, [.int actor.value, .ofText? subject]⟩
  | .subjectGrants subject target =>
    ⟨subjectGrants target, .text subject :: target.numbers.map .int⟩
  | .grantExistsForActor wanted actor =>
    ⟨grantExists .actor wanted.target, [.int actor.value, .text wanted.subject,
      .text wanted.action] ++ wanted.target.numbers.map .int⟩
  | .grantExistsForOrganizations wanted actor =>
    ⟨grantExists .organizations wanted.target, [.int actor.value, .text wanted.subject,
      .text wanted.action] ++ wanted.target.numbers.map .int⟩
  | .visibility id => ⟨visibilityOf, [.int id.client, .int id.object]⟩

/-- The grants of a listing, or why there are none. -/
def grantsOf? (reply : Except DatabaseError Reply) : Except StorageError (List Grant) :=
  ((reply.bind (Reply.all grantOfRow)).mapError .ofDatabase).bind fun records =>
    records.mapM GrantRecord.grant

/-- What a read makes of the reply to its command. -/
def answerOf : (question : Read) → Except DatabaseError Reply → question.Answer
  | .actorForSession _, reply => (reply.bind (Reply.first? actorOfRow)).mapError .ofDatabase
  | .actorGrants _ _, reply | .organizationGrants _ _, reply | .subjectGrants _ _, reply =>
    grantsOf? reply
  | .grantExistsForActor _ _, reply | .grantExistsForOrganizations _ _, reply =>
    (reply.bind (Reply.first fun row => row.bool 0)).mapError .ofDatabase
  | .visibility _, reply =>
    (reply.bind (Reply.first? fun row => (row.text 0).map Visibility.ofText)).mapError
      .ofDatabase

/-- A read sends one command and looks at nothing but the reply. -/
theorem run_read (question : Read) :
    (read question).run = .ask (commandOf question) fun reply =>
      .done (answerOf question reply) := by
  cases question with
  | actorGrants actor subject | organizationGrants actor subject | subjectGrants actor subject =>
      exact run_fetchGrants _ _
  | actorForSession session | grantExistsForActor wanted actor
  | grantExistsForOrganizations wanted actor | visibility id => rfl

/-- The rows of a reply that are looked at: all rows of a listing, and of
everything else the first. -/
def rowsRead : Read → Reply → List Row
  | .actorGrants _ _, reply | .organizationGrants _ _, reply | .subjectGrants _ _, reply =>
    reply.rows
  | .actorForSession _, reply | .grantExistsForActor _ _, reply
  | .grantExistsForOrganizations _ _, reply | .visibility _, reply => reply.rows.take 1

/-- The row begins with the cells of something that the read looks for. -/
def Decodable : Read → Row → Prop
  | .actorForSession _, row => ∃ actor, actorRow actor <+: row
  | .actorGrants _ _, row | .organizationGrants _ _, row | .subjectGrants _ _, row =>
    ∃ grant, grantRow grant <+: row
  | .grantExistsForActor _ _, row | .grantExistsForOrganizations _ _, row =>
    ∃ answer : Bool, [.bool answer] <+: row
  | .visibility _, row => ∃ state : String, [.text state] <+: row

/-- Whether something exists is told by a row in any case. -/
def NeedsRow : Read → Prop
  | .grantExistsForActor _ _ | .grantExistsForOrganizations _ _ => True
  | _ => False

/-- A reply from which the read has no answer. -/
inductive Unusable (question : Read) : Except DatabaseError Reply → Prop where
  | refused (error : DatabaseError) : Unusable question (.error error)
  | undecodable {reply : Reply} {row : Row} (read : row ∈ rowsRead question reply)
      (bad : ¬Decodable question row) : Unusable question (.ok reply)
  | missing {reply : Reply} (needed : NeedsRow question) (nothing : reply.rows = []) :
      Unusable question (.ok reply)

theorem not_unusable_iff {reply : Except DatabaseError Reply} :
    ¬Unusable question reply ↔ ∃ given, reply = .ok given ∧
      (∀ row ∈ rowsRead question given, Decodable question row) ∧
        (NeedsRow question → given.rows ≠ []) := by
  constructor
  · intro husable
    cases reply with
    | error error => exact absurd (.refused error) husable
    | ok given =>
        refine ⟨given, rfl, fun row hread => ?_, fun hneeded hnothing => ?_⟩
        · exact Classical.byContradiction fun hbad => husable (.undecodable hread hbad)
        · exact husable (.missing hneeded hnothing)
  · rintro ⟨given, rfl, hrows, hsome⟩ (_ | ⟨hread, hbad⟩ | ⟨hneeded, hnothing⟩)
    · exact hbad (hrows _ hread)
    · exact hsome hneeded hnothing

section Decoders

variable {α β : Type} {reply : Except DatabaseError Reply} {decode : Row → Except DatabaseError α}
  {wrap : DatabaseError → StorageError}

theorem exists_first?_iff :
    (∃ value, (reply.bind (Reply.first? decode)).mapError wrap = .ok value) ↔
      ∃ given, reply = .ok given ∧ ∀ row ∈ given.rows.take 1, ∃ thing, decode row = .ok thing := by
  cases reply with
  | error error => simp [Except.bind, Except.mapError]
  | ok given =>
      obtain ⟨rows, affected⟩ := given
      cases rows with
      | nil => simp [Except.bind, Except.mapError, Reply.first?]
      | cons row rest =>
          cases h : decode row <;> simp [Except.bind, Except.mapError, Reply.first?, h, Except.map]

theorem exists_first_iff :
    (∃ value, (reply.bind (Reply.first decode)).mapError wrap = .ok value) ↔
      ∃ given, reply = .ok given ∧ (∀ row ∈ given.rows.take 1, ∃ thing, decode row = .ok thing) ∧
        given.rows ≠ [] := by
  cases reply with
  | error error => simp [Except.bind, Except.mapError]
  | ok given =>
      obtain ⟨rows, affected⟩ := given
      cases rows with
      | nil => simp [Except.bind, Except.mapError, Reply.first]
      | cons row rest =>
          cases h : decode row <;> simp [Except.bind, Except.mapError, Reply.first, h]

/-- Two rounds of decoding, the second of which starts when the first is through. -/
theorem exists_mapM_mapM_iff {ε δ γ : Type} {rows : List γ} {first : γ → Except ε α}
    {second : α → Except δ β} :
    (∃ middle, rows.mapM first = .ok middle ∧ ∃ things, middle.mapM second = .ok things) ↔
      ∀ row ∈ rows, ∃ a, first row = .ok a ∧ ∃ thing, second a = .ok thing := by
  induction rows with
  | nil => simp [pure, Except.pure]
  | cons row rest ih =>
      rw [List.forall_mem_cons, ← ih]
      simp only [List.mapM_cons, bind_eq_ok_iff]
      constructor
      · rintro ⟨_, ⟨a, ha, middle, hmiddle, ⟨⟩⟩, things, hthings⟩
        rw [List.mapM_cons] at hthings
        obtain ⟨thing, hthing, later, hlater, ⟨⟩⟩ := by
          simpa only [bind_eq_ok_iff] using hthings
        exact ⟨⟨a, ha, thing, hthing⟩, middle, hmiddle, later, hlater⟩
      · rintro ⟨⟨a, ha, thing, hthing⟩, middle, hmiddle, later, hlater⟩
        refine ⟨a :: middle, ⟨a, ha, middle, hmiddle, rfl⟩, thing :: later, ?_⟩
        rw [List.mapM_cons, hthing, hlater]
        rfl

theorem exists_grantsOf?_iff :
    (∃ grants, grantsOf? reply = .ok grants) ↔
      ∃ given, reply = .ok given ∧ ∀ row ∈ given.rows, ∃ grant, grantRow grant <+: row := by
  cases reply with
  | error error => simp [grantsOf?, Except.bind, Except.mapError]
  | ok given =>
      simp only [← exists_grant_iff_prefix, ← exists_mapM_mapM_iff, Except.ok.injEq,
        exists_eq_left']
      cases h : given.rows.mapM grantOfRow <;>
        simp [grantsOf?, Except.bind, Except.mapError, Reply.all, h]

end Decoders

/-- A read has its answer from every reply that it can use. -/
theorem exists_answerOf_iff {reply : Except DatabaseError Reply} :
    (∃ value, answerOf question reply = .ok value) ↔ ¬Unusable question reply := by
  rw [not_unusable_iff]
  cases question with
  | actorForSession session =>
      refine exists_first?_iff.trans ?_
      simp [rowsRead, Decodable, NeedsRow, actorOfRow_eq_ok_iff]
  | actorGrants actor subject | organizationGrants actor subject | subjectGrants actor subject =>
      refine exists_grantsOf?_iff.trans ?_
      simp [rowsRead, Decodable, NeedsRow]
  | grantExistsForActor wanted actor | grantExistsForOrganizations wanted actor =>
      refine exists_first_iff.trans ?_
      simp only [rowsRead, Decodable, NeedsRow, exists_bool_iff_prefix, true_implies]
  | visibility id =>
      refine exists_first?_iff.trans ?_
      simp only [rowsRead, Decodable, NeedsRow, exists_state_iff_prefix, false_implies, and_true]

end Replies

end Database

end AccessGrants

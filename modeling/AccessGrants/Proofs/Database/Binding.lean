import AccessGrants.Proofs.Database.Columns

/-!
The parameters of the conditions on scopes. Read as it is written, the text of
the condition chooses the scopes that cover the target, whatever number its
first placeholder has. The queries that use it number their placeholders from
one on, one for each parameter that is sent with them, and each parameter is
compared with the column that it is meant for.
-/

namespace AccessGrants

open Sql

namespace Sql.Expr

/-- The expression with numbers in the places of its placeholders. -/
def fill (numbers : Nat → Option Int64) : Expr → Expr
  | .placeholder index => ((numbers index).map fun n => .number n.toInt).getD (.placeholder index)
  | .typed index type => ((numbers index).map fun n => .number n.toInt).getD (.typed index type)
  | .column source name => .column source name
  | .bare name => .bare name
  | .number n => .number n
  | .equal left right => .equal (left.fill numbers) (right.fill numbers)
  | .notDistinct left right => .notDistinct (left.fill numbers) (right.fill numbers)
  | .isNull e => .isNull (e.fill numbers)
  | .isNotNull e => .isNotNull (e.fill numbers)
  | .both left right => .both (left.fill numbers) (right.fill numbers)
  | .either left right => .either (left.fill numbers) (right.fill numbers)
  | .negation e => .negation (e.fill numbers)
  | .coalesce left right => .coalesce (left.fill numbers) (right.fill numbers)
  | .group e => .group (e.fill numbers)

end Sql.Expr

namespace Target

open Sql.Expr

/-- The numbers of the target by the placeholders that they are for. -/
def binds (target : Target) (first index : Nat) : Option Int64 :=
  if first ≤ index then target.numbers[index - first]? else none

theorem legible_condition (target : Target) (first : Nat) :
    Legible .operand (target.condition first) := by
  have hoverride {level : Level} : Legible level (.column "g" "is_override") :=
    (Legible.column rfl rfl).of_operand
  have hclient (index : Nat) :
      Legible .conjunction (.equal (.column "g" "subject_client_id") (.placeholder index)) :=
    (Legible.equal (.column rfl rfl) (.placeholder index)).of_comparison Level.noConfusion
  have hobject {level : Level} (other : level ≠ .operand) (index : Nat) :
      Legible level (.equal (.column "g" "subject_object_id") (.placeholder index)) :=
    (Legible.equal (.column rfl rfl) (.placeholder index)).of_comparison other
  cases target with
  | creation => exact hoverride
  | single object => exact .group (.either hoverride (hobject Level.noConfusion first))
  | composite id =>
      have hboth := (hclient first).both (hobject Level.noConfusion (first + 1))
      exact .group (.either hoverride (Legible.group (.ofConjunction hboth)).of_operand)

/-- The placeholders are numbered on from the first, one for each number. -/
theorem placeholders_condition (target : Target) (first : Nat) :
    (target.condition first).placeholders = List.range' first target.numbers.length := by
  cases target <;> rfl

/-- With the numbers of the target in the places of its placeholders, the
condition is true of the row of a scope exactly if the scope covers the target. -/
theorem fill_condition_holds_iff (target : Target) (first : Nat) (scope : Scope) :
    ((target.condition first).fill (target.binds first)).Holds [] [("g", scope.columns.record)] ↔
      scope.covers target = true := by
  have hcolumn (name : String) : (Expr.column "g" name).value [] [("g", scope.columns.record)] =
      scope.columns.record name := by
    rw [Expr.value, Frame.column_cons_self]
  have hoverride : scope.columns.record "is_override" = .bool scope.columns.isOverride := rfl
  have hclient : scope.columns.record "subject_client_id" = .ofInt? scope.columns.client := rfl
  have hobject : scope.columns.record "subject_object_id" = .ofInt? scope.columns.object := rfl
  cases target with
  | creation =>
      rw [condition, fill, Expr.holds_column, Frame.column_cons_self, hoverride]
      cases scope <;> simp [Scope.columns, Scope.covers]
  | single object =>
      have hfirst : binds (.single object) first first = some object := by
        simp [binds, numbers]
      simp only [condition, fill, Expr.holds_group, Expr.holds_either, Expr.holds_column,
        Expr.holds_equal, Frame.column_cons_self, hcolumn, hoverride, hobject, hfirst]
      cases scope <;> simp [Scope.columns, Scope.covers, Value.ofInt?, Expr.value]
  | composite id =>
      have hfirst : binds (.composite id) first first = some id.client := by
        simp [binds, numbers]
      have hsecond : binds (.composite id) first (first + 1) = some id.object := by
        simp [binds, numbers]
      simp only [condition, fill, Expr.holds_group, Expr.holds_either, Expr.holds_column,
        Expr.holds_both, Expr.holds_equal, Frame.column_cons_self, hcolumn, hoverride, hclient,
        hobject, hfirst, hsecond]
      cases scope <;> simp [Scope.columns, Scope.covers, Value.ofInt?, Expr.value,
        InstanceId.ext_iff]

end Target

namespace Database

/-- A read whose query chooses grants by a target. -/
inductive Choice where
  | held (holder : Holder) (wanted : GrantQuery) (actor : ActorId)
  | stored (subject : String) (target : Target)

namespace Choice

def question : Choice → Read
  | .held .actor wanted actor => .grantExistsForActor wanted actor
  | .held .organizations wanted actor => .grantExistsForOrganizations wanted actor
  | .stored subject target => .subjectGrants subject target

/-- The command that is sent. -/
def command : Choice → Command
  | .held holder wanted actor => ⟨grantExists holder wanted.target,
    [.int actor.value, .text wanted.subject, .text wanted.action] ++
      wanted.target.numbers.map .int⟩
  | .stored subject target => ⟨subjectGrants target, .text subject :: target.numbers.map .int⟩

/-- The text of the query up to its condition. -/
def front : Choice → String
  | .held holder _ _ => "SELECT EXISTS (" ++
    Select.text ⟨false, [.number 1], holder.source, holder.joins ++ [templatesOfGrants], none, none⟩
  | .stored _ _ =>
    Select.text ⟨false, grantColumns, table "permission_grants" "g", [templatesOfGrants], none,
      none⟩

/-- The text behind the condition. -/
def back : Choice → String
  | .held _ _ _ => ")"
  | .stored _ _ => " ORDER BY g.id"

def condition : Choice → Expr
  | .held holder wanted _ => .all (isParameter holder.label "actor_id" 1)
    [isParameter "t" "subject" 2, isParameter "t" "action" 3, wanted.target.condition 4]
  | .stored _ target => .both (isParameter "t" "subject" 1) (target.condition 2)

/-- What the rows of a frame have to be, of which the grant has the scope. -/
def Chooses (frame : Frame) (scope : Scope) : Choice → Prop
  | .held holder wanted actor => frame.column holder.label "actor_id" = .int actor.value ∧
    frame.column "t" "subject" = .text wanted.subject ∧
      frame.column "t" "action" = .text wanted.action ∧ scope.covers wanted.target = true
  | .stored subject target =>
    frame.column "t" "subject" = .text subject ∧ scope.covers target = true

open Sql.Expr

theorem run_read (choice : Choice) :
    ∃ finish : Except DatabaseError Reply → Except StorageError choice.question.Result,
      (read choice.question).run = .ask choice.command fun answer => .done (finish answer) := by
  cases choice with
  | held holder wanted actor =>
      cases holder with
      | actor => exact ⟨_, rfl⟩
      | organizations => exact ⟨_, rfl⟩
  | stored subject target => exact ⟨_, run_fetchGrants _ _⟩

theorem text_select (distinct : Bool) (columns : List Expr) (source : Source) (joins : List Join)
    (condition : Expr) (order : Option Expr) :
    Select.text ⟨distinct, columns, source, joins, some condition, order⟩ =
      Select.text ⟨distinct, columns, source, joins, none, none⟩ ++ " WHERE " ++ condition.text ++
        order.elim "" fun order => " ORDER BY " ++ order.text := by
  cases order with
  | none => simp only [Select.text, Option.elim, String.append_assoc, String.append_empty]
  | some order => simp only [Select.text, Option.elim, String.append_assoc, String.append_empty]

theorem text_command (choice : Choice) :
    choice.command.statement.text =
      choice.front ++ " WHERE " ++ choice.condition.text ++ choice.back := by
  cases choice with
  | held holder wanted actor =>
      have htext : (held holder wanted actor).command.statement.text = "SELECT EXISTS (" ++
          Select.text ⟨false, [.number 1], holder.source, holder.joins ++ [templatesOfGrants],
            some (held holder wanted actor).condition, none⟩ ++ ")" := rfl
      have hfront : (held holder wanted actor).front = "SELECT EXISTS (" ++
          Select.text ⟨false, [.number 1], holder.source, holder.joins ++ [templatesOfGrants],
            none, none⟩ := rfl
      have hback : (held holder wanted actor).back = ")" := rfl
      rw [htext, hfront, hback, text_select]
      simp only [Option.elim, String.append_assoc, String.append_empty]
  | stored subject target =>
      have htext : (stored subject target).command.statement.text = Select.text ⟨false,
          grantColumns, table "permission_grants" "g", [templatesOfGrants],
            some (stored subject target).condition, some (.column "g" "id")⟩ := rfl
      exact htext.trans (text_select _ _ _ _ _ _)

theorem plain_join {name label column otherLabel otherColumn : String}
    (plain : ∀ part ∈ [name, label, column, otherLabel, otherColumn], '$' ∉ part.toList) :
    '$' ∉ (join name label column otherLabel otherColumn).text.toList := by
  simp only [List.forall_mem_cons] at plain
  obtain ⟨hname, hlabel, hcolumn, hother, hotherColumn, _⟩ := plain
  simp [join, table, Join.text, Source.text, Expr.text, hname, hlabel, hcolumn, hother,
    hotherColumn]

/-- In front of the condition there is no parameter. -/
theorem plain_front (choice : Choice) : '$' ∉ (choice.front ++ " WHERE ").toList := by
  have hone : '$' ∉ Text.decimalChars 1 := by decide
  have hgrants : '$' ∉ (grantsOf "h").text.toList := plain_join (by decide)
  have htemplates : '$' ∉ templatesOfGrants.text.toList := plain_join (by decide)
  have hmembers : '$' ∉ (join "organization_grants" "h" "organization_id" "m"
      "organization_id").text.toList := plain_join (by decide)
  cases choice with
  | held holder wanted actor =>
      change '$' ∉ ("SELECT EXISTS (" ++ Select.text ⟨false, [.number 1], holder.source,
        holder.joins ++ [templatesOfGrants], none, none⟩ ++ " WHERE ").toList
      cases holder with
      | actor =>
          simp [Select.text, Source.text, Expr.text, commas, Holder.source, Holder.joins, table,
            hone, hgrants, htemplates]
      | organizations =>
          simp [Select.text, Source.text, Expr.text, commas, Holder.source, Holder.joins, table,
            hone, hmembers, hgrants, htemplates]
  | stored subject target =>
      change '$' ∉ (Select.text ⟨false, grantColumns, table "permission_grants" "g",
        [templatesOfGrants], none, none⟩ ++ " WHERE ").toList
      simp [Select.text, Source.text, Expr.text, commas, grantColumns, table, htemplates]

theorem plain_back (choice : Choice) :
    choice.back.toList.head?.any Char.isDigit = false ∧ '$' ∉ choice.back.toList := by
  cases choice with
  | held holder wanted actor => simp [back]
  | stored subject target => simp [back]

theorem legible_isParameter {label column : String} (hlabel : isName label.toList = true)
    (hcolumn : isName column.toList = true) (index : Nat) :
    Legible .negation (isParameter label column index) :=
  .ofComparison (.equal (.column hlabel hcolumn) (.placeholder index))

theorem legible_condition (choice : Choice) : Legible .disjunction choice.condition := by
  have hsubject (index : Nat) : Legible .negation (isParameter "t" "subject" index) :=
    legible_isParameter rfl rfl index
  have haction (index : Nat) : Legible .negation (isParameter "t" "action" index) :=
    legible_isParameter rfl rfl index
  cases choice with
  | held holder wanted actor =>
      have hholder : Legible .negation (isParameter holder.label "actor_id" 1) := by
        cases holder with
        | actor => exact legible_isParameter rfl rfl 1
        | organizations => exact legible_isParameter rfl rfl 1
      have hquery := ((Legible.ofNegation hholder).both (hsubject 2)).both (haction 3)
      exact .ofConjunction (hquery.both (wanted.target.legible_condition 4).of_operand)
  | stored subject target =>
      exact .ofConjunction ((Legible.ofNegation (hsubject 1)).both
        (target.legible_condition 2).of_operand)

theorem placeholders_condition (choice : Choice) :
    choice.condition.placeholders = List.range' 1 choice.command.parameters.length := by
  cases choice with
  | held holder wanted actor =>
      have hcondition := wanted.target.placeholders_condition 4
      have hlength : (command (held holder wanted actor)).parameters.length =
          3 + wanted.target.numbers.length := by
        simp [command]
        omega
      rw [hlength, ← List.range'_append_1, ← hcondition]
      rfl
  | stored subject target =>
      have hcondition := target.placeholders_condition 2
      have hlength : (command (stored subject target)).parameters.length =
          1 + target.numbers.length := by
        simp [command]
        omega
      rw [hlength, ← List.range'_append_1, ← hcondition]
      rfl

/-- Each parameter is compared with the column that it is meant for. -/
theorem condition_holds_iff (choice : Choice) {frame : Frame} {scope : Scope}
    (shown : scopeNames.map (frame.column "g") = scope.columns.parameters) :
    choice.condition.Holds choice.command.parameters frame ↔ choice.Chooses frame scope := by
  simp only [scopeNames, ScopeColumns.parameters, List.map_cons, List.map_nil, List.cons.injEq,
    and_true] at shown
  obtain ⟨hoverride, hclient, hobject⟩ := shown
  have htarget (target : Target) (before : List Value) :
      (target.condition (before.length + 1)).Holds (before ++ target.numbers.map .int) frame ↔
        scope.covers target = true :=
    target.condition_holds_iff hoverride hclient hobject
  cases choice with
  | held holder wanted actor =>
      have hplaced :=
        htarget wanted.target [.int actor.value, .text wanted.subject, .text wanted.action]
      simp only [List.length_cons, List.length_nil, Nat.reduceAdd] at hplaced
      simp only [condition, Expr.all, List.foldl_cons, List.foldl_nil, Expr.holds_both, command,
        hplaced, holds_isParameter, Chooses]
      simp [and_assoc]
  | stored subject target =>
      have hplaced := htarget target [.text subject]
      simp only [List.length_singleton, Nat.reduceAdd, List.singleton_append] at hplaced
      simp only [condition, Expr.holds_both, command, hplaced, holds_isParameter, Chooses]
      simp

end Choice

/-- The text of the condition of a target has one placeholder for each number of
the target, from the first on, wherever the numbers begin; the queries that use it
let them begin at 2 and at 4. Read as it is written and with the numbers in
these places, it is true of the scopes that cover the target and of no others.
In the queries that use it the placeholders are those of the parameters that are
sent, and each parameter is compared where it has to be. -/
theorem scope_conditions_choose_covering :
    (∀ (target : Target) (first : Nat),
      placeholdersIn (target.condition first).text.toList =
        List.range' first target.numbers.length ∧
        ∃ condition, Expr.ofText? (target.condition first).text = some condition ∧
          ∀ scope : Scope,
            (condition.fill (target.binds first)).Holds [] [("g", scope.columns.record)] ↔
              scope.covers target = true) ∧
      ∀ choice : Choice,
        (∃ finish : Except DatabaseError Reply → Except StorageError choice.question.Result,
          (read choice.question).run = .ask choice.command fun answer => .done (finish answer)) ∧
        placeholdersIn choice.command.statement.text.toList =
          List.range' 1 choice.command.parameters.length ∧
        ∃ clause condition,
          choice.command.statement.text = choice.front ++ " WHERE " ++ clause ++ choice.back ∧
          Expr.ofText? clause = some condition ∧
          ∀ (frame : Frame) (scope : Scope),
            scopeNames.map (frame.column "g") = scope.columns.parameters →
              (condition.Holds choice.command.parameters frame ↔ choice.Chooses frame scope) := by
  constructor
  · intro target first
    have hlegible : Expr.Legible .disjunction (target.condition first) :=
      (target.legible_condition first).of_operand
    refine ⟨?_, _, hlegible.ofText?_text, target.fill_condition_holds_iff first⟩
    rw [hlegible.placeholdersIn_text, target.placeholders_condition]
  · intro choice
    have hlegible := choice.legible_condition
    have htext := choice.text_command
    refine ⟨choice.run_read, ?_, _, _, htext, hlegible.ofText?_text, fun frame scope shown =>
      choice.condition_holds_iff shown⟩
    rw [← choice.placeholders_condition, ← hlegible.placeholdersIn_text]
    exact placeholdersIn_around htext choice.plain_front choice.plain_back.1 choice.plain_back.2

end Database

end AccessGrants

import AccessGrants.Database.Writing
import AccessGrants.Proofs.Database.Tables

/-!
A server that keeps the states of instances. Setting a state changes it in the
row of the instance, or adds a row where there is none, unless the server refuses;
asking for a state is answered from the rows that are there. How all other
statements are answered is left open: those that do not write to the table leave
its rows as they are, and so does a dialogue that sends no others.
-/

namespace AccessGrants

namespace Dialogue

variable {Q : Type} {A : Q → Type} {α β ε σ : Type}

/-- Whatever the answers are, no other questions are asked. -/
def Uses (allowed : Q → Prop) : Dialogue Q A α → Prop
  | .done _ => True
  | .report _ rest => rest.Uses allowed
  | .ask question next => allowed question ∧ ∀ answer, (next answer).Uses allowed

variable {allowed : Q → Prop}

theorem Uses.bind {d : Dialogue Q A α} {next : α → Dialogue Q A β} (first : d.Uses allowed)
    (rest : ∀ value, (next value).Uses allowed) : (d >>= next).Uses allowed := by
  induction d with
  | done result => exact rest result
  | report event later ih => exact ih first
  | ask question answered ih => exact ⟨first.1, fun answer => ih answer (first.2 answer)⟩

/-- A call that fails asks nothing more. -/
theorem Uses.call_bind {call : ExceptT ε (Dialogue Q A) α}
    {next : α → ExceptT ε (Dialogue Q A) β} (first : call.run.Uses allowed)
    (rest : ∀ value, (next value).run.Uses allowed) : (call >>= next).run.Uses allowed := by
  refine first.bind fun outcome => ?_
  cases outcome with
  | error error => trivial
  | ok value => exact rest value

/-- What each of the questions leaves true is true at the end. -/
theorem Uses.keeps {answer : (q : Q) → σ → A q × σ} {I : σ → Prop} {d : Dialogue Q A α}
    (h : d.Uses allowed)
    (step : ∀ question, allowed question → ∀ state, I state → I (answer question state).2)
    {state : σ} (holds : I state) : I (d.run answer state).state := by
  induction d generalizing state with
  | done result => exact holds
  | report event rest ih => exact ih h holds
  | ask question next ih => exact ih _ (h.2 _) (step question h.1 state holds)

end Dialogue

namespace Sql

/-- The table that a statement writes to. -/
def Statement.written? : Statement → Option String
  | .insert row => some row.table
  | .update table _ => some table
  | _ => none

end Sql

namespace Database

open Sql

/-- The rows after an insertion that overwrites a column of the row with the same
key. -/
def overwritten (key : List String) (column : String) (fresh : Record) (rows : List Record) :
    List Record :=
  if ∃ row ∈ rows, key.map row = key.map fresh then
    rows.map fun row =>
      if key.map row = key.map fresh then Function.update row column (fresh column) else row
  else rows ++ [fresh]

section Overwriting

variable {key : List String} {column : String} {fresh row : Record} {rows : List Record}
  (apart : column ∉ key)

include apart

/-- To overwrite the column does not change the key. -/
theorem map_update_of_not_mem (value : Value) :
    key.map (Function.update row column value) = key.map row := by
  apply List.map_congr_left
  intro name hname
  have hne : name ≠ column := fun h => apart (h ▸ hname)
  exact Function.update_of_ne hne ..

/-- There is a row with the key afterwards, if there was none before. -/
theorem exists_mem_overwritten :
    ∃ row ∈ overwritten key column fresh rows, key.map row = key.map fresh := by
  unfold overwritten
  split
  · next hthere =>
      obtain ⟨row, hrow, hsame⟩ := hthere
      refine ⟨_, List.mem_map_of_mem hrow, ?_⟩
      rw [if_pos hsame, map_update_of_not_mem apart, hsame]
  · exact ⟨fresh, List.mem_append_right _ (List.mem_singleton_self _), rfl⟩

omit apart in
/-- Every row with the key has the new value. -/
theorem overwritten_column (h : row ∈ overwritten key column fresh rows)
    (same : key.map row = key.map fresh) : row column = fresh column := by
  unfold overwritten at h
  split at h
  · obtain ⟨before, hbefore, rfl⟩ := List.mem_map.mp h
    by_cases hsame : key.map before = key.map fresh
    · rw [if_pos hsame, Function.update_self]
    · rw [if_neg hsame] at same
      exact absurd same hsame
  · next hnone =>
      rcases List.mem_append.mp h with hbefore | hfresh
      · exact absurd ⟨row, hbefore, same⟩ hnone
      · rw [List.mem_singleton.mp hfresh]

/-- The rows with other keys stay, and none are added. -/
theorem mem_overwritten_of_ne (other : key.map row ≠ key.map fresh) :
    row ∈ overwritten key column fresh rows ↔ row ∈ rows := by
  unfold overwritten
  split
  · rw [List.mem_map]
    constructor
    · rintro ⟨before, hbefore, rfl⟩
      by_cases hsame : key.map before = key.map fresh
      · rw [if_pos hsame, map_update_of_not_mem apart] at other
        exact absurd hsame other
      · rwa [if_neg hsame]
    · intro hrow
      exact ⟨row, hrow, if_neg other⟩
  · have hne : row ≠ fresh := fun h => other (by rw [h])
    simp [hne]

end Overwriting

/-- The columns that make up the key of a row of states. -/
def instanceColumns : List String :=
  ["client_id", "object_id"]

def instanceKey (id : InstanceId) : List Value :=
  [.int id.client, .int id.object]

def setState (id : InstanceId) (text : String) : Command :=
  ⟨insertVisibility, [.int id.client, .int id.object, .text text]⟩

def stateRow (id : InstanceId) (text : String) : Record :=
  recordOf ["client_id", "object_id", "state"] [.int id.client, .int id.object, .text text]

def askState (id : InstanceId) : Command :=
  ⟨visibilityOf, instanceKey id⟩

theorem state_not_mem_instanceColumns : "state" ∉ instanceColumns := by
  decide

@[simp] theorem instanceColumns_stateRow (id : InstanceId) (text : String) :
    instanceColumns.map (stateRow id text) = instanceKey id := rfl

@[simp] theorem stateRow_state (id : InstanceId) (text : String) :
    stateRow id text "state" = .text text := rfl

theorem instanceKey_injective : Function.Injective instanceKey := by
  rintro ⟨client, object⟩ ⟨client', object'⟩ h
  simpa [instanceKey] using h

/-- The server keeps these rows of states. -/
structure Upkeep {σ : Type} (partner : (command : Command) → σ → command.Answer × σ)
    (rows : σ → List Record) : Prop where
  sets : ∀ (id : InstanceId) (text : String) (state : σ),
    (∃ reply, (partner (setState id text) state).1 = .ok reply) ∧
        rows (partner (setState id text) state).2 =
          overwritten instanceColumns "state" (stateRow id text) (rows state) ∨
      (∃ error, (partner (setState id text) state).1 = .error error) ∧
        rows (partner (setState id text) state).2 = rows state
  /-- The query looks at no other table. -/
  finds : ∀ (id : InstanceId) (state : σ),
    ∃ reply, (partner (askState id) state).1 = .ok reply ∧
      Answers (fun _ => rows state) (instanceKey id) visibilityOf reply
  spares : ∀ (command : Command) (state : σ),
    command.statement.written? ≠ some "subject_visibility" →
    rows (partner command state).2 = rows state

section Keeper

/-- A server that has no other table, and so refuses whatever is about one. -/
def keeper (command : Command) (rows : List Record) : command.Answer × List Record :=
  match command with
  | ⟨.insert ⟨"subject_visibility", columns, some (.overwrite key column), _⟩, parameters⟩ =>
    (.ok ⟨[], 1⟩, overwritten key column (recordOf columns parameters) rows)
  | ⟨.select ⟨distinct, columns, ⟨"subject_visibility", label⟩, [], condition, order⟩,
      parameters⟩ =>
    (.ok ⟨Select.rows (fun _ => rows) parameters
      ⟨distinct, columns, ⟨"subject_visibility", label⟩, [], condition, order⟩, 0⟩, rows)
  | _ => (.error (.rejected "42P01" "relation does not exist"), rows)

theorem upkeep_keeper : Upkeep keeper fun rows => rows where
  sets := fun _ _ _ => Or.inl ⟨⟨_, rfl⟩, rfl⟩
  finds := fun _ _ => ⟨_, rfl, .select (Select.yields_rows _ _ _)⟩
  spares := by
    intro command rows spared
    unfold keeper
    split
    · exact absurd rfl spared
    · rfl
    · rfl

end Keeper

end Database

end AccessGrants

import AccessGrants.Proofs.Database.Backends
import AccessGrants.Proofs.Database.Statements
import AccessGrants.Proofs.Database.Upkeep
import AccessGrants.Proofs.Store.Change
import AccessGrants.Proofs.Store.Frame

/-!
States that are read back. A store keeps a state as it is, and a database keeps
its text. No write but the setting of a state touches what is kept for the
instance, so both are found again after any other writes; but the text of a
state tells the named states from the others only as long as no other state has
the text of a named one.
-/

namespace AccessGrants

namespace Visibility

/-- A state without a name of its own whose text is that of a named state. -/
def Misnamed (state : Visibility) : Prop :=
  ∃ named : Visibility, (∀ text, named ≠ .other text) ∧ state = .other named.text

variable {state : Visibility}

theorem ofText_text_of_named (named : ∀ text, state ≠ .other text) : ofText state.text = state := by
  cases state with
  | other text => exact absurd rfl (named text)
  | _ => rfl

/-- A state is read from its text, unless it is misnamed. -/
theorem ofText_text_iff : ofText state.text = state ↔ ¬ state.Misnamed := by
  constructor
  · rintro hread ⟨named, hnamed, rfl⟩
    have hread' : ofText named.text = .other named.text := hread
    rw [ofText_text_of_named hnamed] at hread'
    exact hnamed _ hread'
  · intro hnot
    cases state with
    | other text =>
        have hsame : (ofText text).text = text := text_ofText text
        cases hread : ofText text with
        | other kept =>
            rw [hread] at hsame
            exact hread.trans (congrArg other hsame)
        | _ =>
            refine absurd ⟨ofText text, ?_, ?_⟩ hnot
            · rw [hread]
              exact nofun
            · rw [hsame]
    | _ => rfl

theorem isPublic_ofText_text_iff :
    (ofText state.text).isPublic = state.isPublic ↔
      state ≠ .other "Published" ∧ state ≠ .other "Limited access" := by
  cases state with
  | other text =>
      have hpublic : (other text).isPublic = false := rfl
      simp only [Visibility.text, hpublic, ne_eq, other.injEq]
      unfold ofText
      split_ifs with hpublished hlimited hdraft hhidden
      · simp [isPublic, hpublished]
      · simp [isPublic, hlimited]
      · simp [isPublic, hpublished, hlimited]
      · simp [isPublic, hpublished, hlimited]
      · simp [isPublic, hpublished, hlimited]
  | _ => simp [ofText, Visibility.text]

end Visibility

/-- Only the setting of its state changes the state of an instance. -/
theorem Store.get?_visibility_after {store : Store} {id : InstanceId} {writes : List Write}
    (elsewhere : ∀ write ∈ writes, ∀ state, write ≠ .setVisibility id state) :
    (store.after writes).visibility.get? id = store.visibility.get? id := by
  induction writes generalizing store with
  | nil => rfl
  | cons write rest ih =>
      have hrest : ((store.write write).2.after rest).visibility.get? id =
          (store.write write).2.visibility.get? id :=
        ih fun later hlater => elsewhere later (List.mem_cons_of_mem _ hlater)
      rcases store.get?_visibility_write write id with hsame | ⟨state, hset⟩
      · exact hrest.trans hsame
      · exact absurd hset (elsewhere write List.mem_cons_self state)

namespace Database

open Sql

variable {σ : Type} {partner : (command : Command) → σ → command.Answer × σ}
  {rows : σ → List Record} {id : InstanceId} {text : String}

/-- The command sets no state of the instance. -/
def SetsOther (id : InstanceId) (command : Command) : Prop :=
  command.statement.written? ≠ some "subject_visibility" ∨
    ∃ other text, other ≠ id ∧ command = setState other text

section Sending

variable {α : Type} {allowed : Command → Prop} {statement : Statement} {parameters : List Value}

/-- A statement about another table is enough. -/
theorem SetsOther.of_statement (h : statement.written? ≠ some "subject_visibility") :
    SetsOther id ⟨statement, parameters⟩ :=
  Or.inl h

theorem uses_fetch {decode : Reply → Except DatabaseError α}
    (h : allowed ⟨statement, parameters⟩) :
    (fetch statement parameters decode).run.Uses allowed :=
  ⟨h, fun _ => trivial⟩

/-- No step of a provisioning writes to the table of states. -/
theorem Provisioning.setsOther_command (order : Provisioning) (step : Provisioning.Step) :
    SetsOther id (order.command step) := by
  cases step with
  | list => exact .of_statement nofun
  | _ => exact .of_statement (by decide)

theorem Provisioning.uses_talk (order : Provisioning) (stage : Provisioning.Stage) :
    (order.talk stage).Uses (SetsOther id) := by
  fun_induction order.talk stage with
  | case1 step done left ih => exact ⟨order.setsOther_command step, ih⟩
  | case2 error => exact ⟨.of_statement nofun, fun _ => trivial⟩
  | case3 result => trivial

/-- A write that sets no state of the instance sends no command that does. -/
theorem uses_write {order : Write} (elsewhere : ∀ state, order ≠ .setVisibility id state) :
    (write order).run.Uses (SetsOther id) := by
  cases order with
  | setVisibility other state =>
      have hne : other ≠ id := by
        rintro rfl
        exact elsewhere state rfl
      exact ⟨Or.inr ⟨other, state.text, hne, rfl⟩, fun _ => trivial⟩
  | setActorActive actor flag | setActorSuperuser actor flag =>
      refine Dialogue.Uses.call_bind (uses_fetch (.of_statement (by decide))) fun touched => ?_
      split
      · trivial
      · trivial
  | createGrant template scope =>
      refine Dialogue.Uses.call_bind (uses_fetch (.of_statement nofun)) fun found => ?_
      cases found with
      | none => trivial
      | some template => exact ⟨.of_statement (by decide), fun _ => trivial⟩
  | provisionDefaults kind instanceId owner =>
      have htalk := (Provisioning.mk kind instanceId owner).write_provisionDefaults
      exact htalk ▸ Provisioning.uses_talk _ _
  | defaultTemplates kind => exact ⟨.of_statement nofun, fun _ => trivial⟩
  | _ => exact ⟨.of_statement (by decide), fun _ => trivial⟩

end Sending

/-- There is a row of the instance, and every such row has the text. -/
structure Stated (rows : List Record) (id : InstanceId) (text : String) : Prop where
  there : ∃ row ∈ rows, instanceColumns.map row = instanceKey id
  text : ∀ row ∈ rows, instanceColumns.map row = instanceKey id → row "state" = .text text

theorem stated_overwritten (before : List Record) (id : InstanceId) (text : String) :
    Stated (overwritten instanceColumns "state" (stateRow id text) before) id text where
  there := exists_mem_overwritten state_not_mem_instanceColumns
  text := fun _ hrow hkey => overwritten_column hrow hkey

theorem Stated.overwritten_other {before : List Record} {other : InstanceId} {later : String}
    (h : Stated before id text) (hne : other ≠ id) :
    Stated (overwritten instanceColumns "state" (stateRow other later) before) id text := by
  have hmem {row : Record} (hkey : instanceColumns.map row = instanceKey id) :
      row ∈ overwritten instanceColumns "state" (stateRow other later) before ↔ row ∈ before := by
    apply mem_overwritten_of_ne state_not_mem_instanceColumns
    rw [hkey, instanceColumns_stateRow]
    exact fun hsame => hne (instanceKey_injective hsame).symm
  constructor
  · obtain ⟨row, hrow, hkey⟩ := h.there
    exact ⟨row, (hmem hkey).mpr hrow, hkey⟩
  · intro row hrow hkey
    exact h.text row ((hmem hkey).mp hrow) hkey

/-- The reply to the question for a state has the state of each row of the
instance. -/
theorem mem_rows_askState {tables : Tables} {reply : Reply}
    (h : Answers tables (instanceKey id) visibilityOf reply) (row : Row) :
    row ∈ reply.rows ↔ ∃ record ∈ tables "subject_visibility",
      instanceColumns.map record = instanceKey id ∧ row = [record "state"] := by
  have hkey (record : Record) :
      (Expr.both (.equal (.bare "client_id") (.placeholder 1))
        (.equal (.bare "object_id") (.placeholder 2))).Holds (instanceKey id)
          [("subject_visibility", record)] ↔ instanceColumns.map record = instanceKey id := by
    simp [instanceColumns, instanceKey, Expr.value]
  cases h with
  | select yields =>
      rw [mem_yields_of_table ["state"] yields]
      simp only [hkey, List.map_cons, List.map_nil]

/-- What a sequence of writes leaves of the server, refused writes included. -/
def after (partner : (command : Command) → σ → command.Answer × σ) (state : σ)
    (writes : List Write) : σ :=
  writes.foldl (fun state order => ((write order).run.run partner state).state) state

section Keeping

variable (upkeep : Upkeep partner rows)

include upkeep

theorem Upkeep.stated_setState {state : σ} {reply : Reply}
    (accepted : (partner (setState id text) state).1 = .ok reply) :
    Stated (rows (partner (setState id text) state).2) id text := by
  rcases upkeep.sets id text state with ⟨_, hrows⟩ | ⟨⟨error, hrefused⟩, _⟩
  · rw [hrows]
    exact stated_overwritten _ id text
  · rw [accepted] at hrefused
    cases hrefused

/-- A command that sets no state of the instance leaves its rows as they are. -/
theorem Upkeep.stated_step {command : Command} (other : SetsOther id command) (state : σ)
    (h : Stated (rows state) id text) : Stated (rows (partner command state).2) id text := by
  rcases other with hspared | ⟨other, later, hne, rfl⟩
  · rwa [upkeep.spares command state hspared]
  · rcases upkeep.sets other later state with ⟨_, hrows⟩ | ⟨_, hrows⟩
    · rw [hrows]
      exact h.overwritten_other hne
    · rwa [hrows]

/-- So does a sequence of writes that set no state of the instance. -/
theorem Upkeep.stated_after {writes : List Write}
    (elsewhere : ∀ order ∈ writes, ∀ state, order ≠ .setVisibility id state) {state : σ}
    (h : Stated (rows state) id text) : Stated (rows (after partner state writes)) id text := by
  induction writes generalizing state with
  | nil => exact h
  | cons order rest ih =>
      apply ih (fun later hlater => elsewhere later (List.mem_cons_of_mem _ hlater))
      have huses := uses_write (elsewhere order List.mem_cons_self)
      exact huses.keeps (I := fun state => Stated (rows state) id text)
        (fun _ hother state => upkeep.stated_step hother state) h

/-- The state that is read is the one that the text stands for. -/
theorem Upkeep.read_of_stated {state : σ} (h : Stated (rows state) id text) :
    ((read (.visibility id)).run.run partner state).result = .ok (some (.ofText text)) := by
  obtain ⟨reply, hreply, hanswers⟩ := upkeep.finds id state
  have hrows : ∀ row, row ∈ reply.rows ↔
      ∃ found, some (Visibility.ofText text) = some found ∧ row = [.text text] := by
    intro row
    rw [mem_rows_askState hanswers]
    constructor
    · rintro ⟨record, hrecord, hkey, rfl⟩
      exact ⟨_, rfl, by rw [h.text record hrecord hkey]⟩
    · rintro ⟨_, _, rfl⟩
      obtain ⟨record, hrecord, hkey⟩ := h.there
      exact ⟨record, hrecord, hkey, by rw [h.text record hrecord hkey]⟩
  refine result_fetch hreply (first?_of_rows hrows ?_)
  rintro _ ⟨⟩
  rfl

end Keeping

/-- A state that is set is read back after any writes that set no state of the
instance: by a store as it was, and by a database as what its text stands for.
That is the state itself unless the state is misnamed, and it is as public as the
state unless the state is misnamed as one of the two public ones. -/
theorem states_read_back_unless_misnamed (id : InstanceId) (state : Visibility)
    (later : List Write) (elsewhere : ∀ write ∈ later, ∀ other, write ≠ .setVisibility id other) :
    (∀ store : Store,
      (store.write (.setVisibility id state)).1 = .ok () ∧
        ((store.write (.setVisibility id state)).2.after later).read (.visibility id) =
          some state) ∧
    ∀ {σ : Type} (partner : (command : Command) → σ → command.Answer × σ)
      (rows : σ → List Record), Upkeep partner rows → ∀ (start : σ) (reply : Reply),
      (partner (setState id state.text) start).1 = .ok reply →
      let written := (write (.setVisibility id state)).run.run partner start
      let back := Visibility.ofText state.text
      written.result = .ok () ∧
        ((read (.visibility id)).run.run partner (after partner written.state later)).result =
          .ok (some back) ∧
        (back = state ↔ ¬ state.Misnamed) ∧
        (back.isPublic = state.isPublic ↔
          state ≠ .other "Published" ∧ state ≠ .other "Limited access") := by
  constructor
  · intro store
    have hset : (store.visibility.insert id state).get? id = some state := by
      rw [Table.get?_insert, if_pos rfl]
    exact ⟨rfl, (Store.get?_visibility_after elsewhere).trans hset⟩
  · intro σ partner rows upkeep start reply accepted written back
    have hwritten : written.state = (partner (setState id state.text) start).2 := rfl
    have hstated := upkeep.stated_setState accepted
    rw [← hwritten] at hstated
    exact ⟨result_fetch accepted rfl, upkeep.read_of_stated (upkeep.stated_after elsewhere hstated),
      Visibility.ofText_text_iff, Visibility.isPublic_ofText_text_iff⟩

theorem unnamed_state_read_back :
    let state : Visibility := .other "Withdrawn"
    let later : List Write := [.setVisibility ⟨5, 43⟩ .published, .createActor]
    let written := (write (.setVisibility ⟨5, 42⟩ state)).run.run keeper []
    (∀ write ∈ later, ∀ other, write ≠ .setVisibility ⟨5, 42⟩ other) ∧
      ((Store.empty.write (.setVisibility ⟨5, 42⟩ state)).2.after later).read
          (.visibility ⟨5, 42⟩) = some state ∧
      Upkeep keeper (fun rows => rows) ∧
      (keeper (setState ⟨5, 42⟩ state.text) []).1 = .ok ⟨[], 1⟩ ∧
      ((read (.visibility ⟨5, 42⟩)).run.run keeper (after keeper written.state later)).result =
        .ok (some state) := by
  have elsewhere : ∀ write ∈ [Write.setVisibility ⟨5, 43⟩ .published, .createActor],
      ∀ other, write ≠ .setVisibility ⟨5, 42⟩ other := by
    simp
  have hkept := states_read_back_unless_misnamed ⟨5, 42⟩ (.other "Withdrawn")
    [.setVisibility ⟨5, 43⟩ .published, .createActor] elsewhere
  exact ⟨elsewhere, (hkept.1 Store.empty).2, upkeep_keeper, rfl,
    (hkept.2 keeper _ upkeep_keeper [] _ rfl).2.1⟩

/-- A misnamed state is another one when it is read from the database, and one
that is set under the text of a public state has become public. -/
theorem misnamed_state_not_read_back :
    let state : Visibility := .other "Published"
    let written := (write (.setVisibility ⟨5, 42⟩ state)).run.run keeper []
    Upkeep keeper (fun rows => rows) ∧ written.result = .ok () ∧
      ∃ back, ((read (.visibility ⟨5, 42⟩)).run.run keeper written.state).result =
          .ok (some back) ∧ back ≠ state ∧ back.isPublic ≠ state.isPublic := by
  have hstated : Stated (keeper (setState ⟨5, 42⟩ "Published") []).2 ⟨5, 42⟩ "Published" :=
    upkeep_keeper.stated_setState rfl
  refine ⟨upkeep_keeper, rfl, .ofText "Published", upkeep_keeper.read_of_stated hstated, ?_, ?_⟩
  · decide
  · decide

end Database

end AccessGrants

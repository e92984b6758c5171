import AccessGrants.Proofs.Sql.Concurrency

/-!
A database with one client. A statement outside of a transaction is one of its
own: what it writes is committed if it succeeds and undone if it is refused. A
dialogue ensures something if it always gets an answer, whatever the answers
before it were, and if what is left at its end is always such.
-/

namespace AccessGrants.Sql

/-- A server whose only client stands so. -/
def Server.lone (tables : Tables) (standing : Standing) : Server Unit :=
  ⟨tables, fun _ => standing⟩

/-- The end of a transaction of one statement. -/
def Server.conclude (server : Server Unit) : Except DatabaseError Reply → Server Unit
  | .ok _ => server.commit ()
  | .error _ => server.become () .idle

variable (schema : List Statement)

/-- What a server does for its only client. -/
inductive Handles (server : Server Unit) :
    Command → Except DatabaseError Reply → Server Unit → Prop where
  | within {command : Command} {answer : Except DatabaseError Reply} {after : Server Unit}
      (executes : Executes schema server () command answer after) :
      Handles server command answer after
  | apart {command : Command} {answer : Except DatabaseError Reply} {during : Server Unit}
      (idle : server.standing () = .idle)
      (plain : command.statement ≠ .commit ∧ command.statement ≠ .rollBack)
      (executes : Executes schema (server.become () (.active .empty)) () command answer during) :
      Handles server command answer (during.conclude answer)

/-- From every point on there is an answer, and at every end this holds of what
is left. -/
def Ensures {α : Type} : Dialogue Command Command.Answer α → Server Unit →
    (Transcript Command.Answer α (Server Unit) → Prop) → Prop
  | .done result, server, P => P ⟨result, [], [], server⟩
  | .report event rest, server, P => Ensures rest server fun left =>
    P { left with audit := [event].filter Event.isAudit ++ left.audit }
  | .ask command next, server, P =>
    (∃ answer after, Handles schema server command answer after) ∧
      ∀ answer after, Handles schema server command answer after →
        Ensures (next answer) after fun left =>
          P { left with asked := ⟨command, answer⟩ :: left.asked }

section Rules

variable {schema} {α β : Type} {server : Server Unit} {d : Dialogue Command Command.Answer α}
  {P Q : Transcript Command.Answer α (Server Unit) → Prop}

theorem Ensures.mono (h : Ensures schema d server P) (weaker : ∀ left, P left → Q left) :
    Ensures schema d server Q := by
  induction d generalizing server P Q with
  | done result => exact weaker _ h
  | report event rest ih => exact ih h fun left => weaker _
  | ask command next ih =>
      exact ⟨h.1, fun answer after handles =>
        ih answer (h.2 answer after handles) fun left => weaker _⟩

theorem Ensures.and (h : Ensures schema d server P) (h' : Ensures schema d server Q) :
    Ensures schema d server fun left => P left ∧ Q left := by
  induction d generalizing server P Q with
  | done result => exact ⟨h, h'⟩
  | report event rest ih => exact ih h h'
  | ask command next ih =>
      exact ⟨h.1, fun answer after handles =>
        ih answer (h.2 answer after handles) (h'.2 answer after handles)⟩

/-- A dialogue that ensures something comes to an end. -/
theorem Ensures.exists_left (h : Ensures schema d server P) : ∃ left, P left := by
  induction d generalizing server P with
  | done result => exact ⟨_, h⟩
  | report event rest ih =>
      obtain ⟨left, hleft⟩ := ih h
      exact ⟨_, hleft⟩
  | ask command next ih =>
      obtain ⟨⟨answer, after, handles⟩, hnext⟩ := h
      obtain ⟨left, hleft⟩ := ih answer (hnext answer after handles)
      exact ⟨_, hleft⟩

/-- What follows a dialogue starts from what the dialogue leaves. -/
theorem Ensures.bind {next : α → Dialogue Command Command.Answer β}
    {R : Transcript Command.Answer β (Server Unit) → Prop}
    (h : Ensures schema d server fun first =>
      Ensures schema (next first.result) first.left fun rest => R (first.followed rest)) :
    Ensures schema (d >>= next) server R := by
  induction d generalizing server R with
  | done result => exact h
  | report event rest ih =>
      have hrest : Ensures schema rest server fun first =>
          Ensures schema (next first.result) first.left fun later => R (Transcript.followed
            { first with audit := [event].filter Event.isAudit ++ first.audit } later) := h
      refine ih (hrest.mono fun first hfirst => hfirst.mono fun later hlater => ?_)
      rwa [Transcript.followed, List.append_assoc] at hlater
  | ask command answered ih =>
      exact ⟨h.1, fun answer after handles => ih answer (h.2 answer after handles)⟩

end Rules

section Statements

variable {schema} {tables written : Tables} {standing : Standing} {after : Server Unit}
  {answer : Except DatabaseError Reply} {parameters : List Value}

@[simp] theorem Server.become_lone (later : Standing) :
    (Server.lone tables standing).become () later = .lone tables later := by
  refine congrArg (Server.mk tables) (funext fun _ => ?_)
  exact Function.update_self ..

@[simp] theorem Server.visible_quiet : (Server.lone tables .idle).visible () = tables :=
  funext fun _ => List.append_nil _

@[simp] theorem Server.visible_active :
    (Server.lone tables (.active written)).visible () = tables.append written := rfl

@[simp] theorem Server.commit_active :
    (Server.lone tables (.active written)).commit () = .lone (tables.append written) .idle := by
  refine congrArg (Server.mk _) (funext fun _ => ?_)
  exact Function.update_self ..

@[simp] theorem Server.stores_active {table : String} {record : Record} :
    (Server.lone tables (.active written)).Stores table record ↔
      record ∈ tables.append written table := by
  rw [Tables.mem_append]
  exact or_congr_right ⟨fun ⟨_, hown⟩ => hown, fun hown => ⟨(), hown⟩⟩

theorem Tables.append_empty : tables.append .empty = tables :=
  funext fun _ => List.append_nil _

/-- Outside of a transaction a statement does what it does in one that was opened
for it. -/
theorem handles_apart {command : Command} (begins : command.statement ≠ .beginTransaction)
    (ends : command.statement ≠ .commit ∧ command.statement ≠ .rollBack) :
    Handles schema (.lone tables .idle) command answer after ↔
      ∃ during, Handles schema (.lone tables (.active .empty)) command answer during ∧
        after = during.conclude answer := by
  have hopened : (Server.lone tables .idle).become () (.active .empty) =
      .lone tables (.active .empty) := Server.become_lone _
  constructor
  · intro h
    cases h with
    | within executes =>
        cases executes with
        | begin => exact absurd rfl begins
        | select active => cases active
        | insert active => cases active
        | commit active => cases active
        | rollBack begun => exact absurd rfl begun
    | apart _ _ executes =>
        rw [hopened] at executes
        exact ⟨_, .within executes, rfl⟩
  · rintro ⟨during, handles, rfl⟩
    cases handles with
    | within executes =>
        refine .apart rfl ends ?_
        rw [hopened]
        exact executes
    | apart idle => cases idle

/-- A transaction is opened. -/
theorem handles_begin :
    Handles schema (.lone tables .idle) ⟨.beginTransaction, []⟩ answer after ↔
      (∃ reply, answer = .ok reply) ∧ after = .lone tables (.active .empty) := by
  constructor
  · intro h
    cases h with
    | within executes =>
        cases executes with
        | begin _ reply => exact ⟨⟨reply, rfl⟩, Server.become_lone _⟩
    | apart _ _ executes =>
        cases executes with
        | begin idle =>
            rw [Server.standing_become_self] at idle
            cases idle
  · rintro ⟨⟨reply, rfl⟩, rfl⟩
    have hbegun : (Server.lone tables .idle).become () (.active .empty) =
        .lone tables (.active .empty) := Server.become_lone _
    rw [← hbegun]
    exact .within (.begin rfl reply)

/-- A query is answered, and changes nothing. -/
theorem handles_select {query : Select} :
    Handles schema (.lone tables (.active written)) ⟨.select query, parameters⟩ answer after ↔
      (∃ rows affected, answer = .ok ⟨rows, affected⟩ ∧
        query.Yields (tables.append written) parameters rows) ∧
        after = .lone tables (.active written) := by
  constructor
  · intro h
    cases h with
    | within executes =>
        cases executes with
        | select _ affected yields => exact ⟨⟨_, affected, rfl, yields⟩, rfl⟩
    | apart idle => cases idle
  · rintro ⟨⟨rows, affected, rfl, yields⟩, rfl⟩
    exact .within (.select rfl affected yields)

theorem exists_handles_select {query : Select} :
    ∃ answer after,
      Handles schema (.lone tables (.active written)) ⟨.select query, parameters⟩ answer after :=
  ⟨_, _, handles_select.mpr ⟨⟨_, 0, rfl, Select.yields_rows ..⟩, rfl⟩⟩

theorem handles_select_apart {query : Select} :
    Handles schema (.lone tables .idle) ⟨.select query, parameters⟩ answer after ↔
      (∃ rows affected, answer = .ok ⟨rows, affected⟩ ∧ query.Yields tables parameters rows) ∧
        after = .lone tables .idle := by
  have hclosed (reply : Reply) :
      (Server.lone tables (.active .empty)).conclude (.ok reply) = .lone tables .idle := by
    rw [Server.conclude, Server.commit_active, Tables.append_empty]
  rw [handles_apart Statement.noConfusion ⟨Statement.noConfusion, Statement.noConfusion⟩]
  simp only [handles_select, Tables.append_empty]
  constructor
  · rintro ⟨_, ⟨⟨rows, affected, rfl, yields⟩, rfl⟩, rfl⟩
    exact ⟨⟨rows, affected, rfl, yields⟩, hclosed _⟩
  · rintro ⟨⟨rows, affected, rfl, yields⟩, rfl⟩
    exact ⟨_, ⟨⟨rows, affected, rfl, yields⟩, rfl⟩, (hclosed _).symm⟩

theorem handles_commit :
    Handles schema (.lone tables (.active written)) ⟨.commit, []⟩ answer after ↔
      (∃ reply, answer = .ok reply) ∧ after = .lone (tables.append written) .idle := by
  constructor
  · intro h
    cases h with
    | within executes =>
        cases executes with
        | commit _ reply => exact ⟨⟨reply, rfl⟩, Server.commit_active⟩
    | apart idle => cases idle
  · rintro ⟨⟨reply, rfl⟩, rfl⟩
    rw [← Server.commit_active]
    exact .within (.commit rfl reply)

theorem handles_rollBack (begun : standing ≠ .idle) :
    Handles schema (.lone tables standing) ⟨.rollBack, []⟩ answer after ↔
      (∃ reply, answer = .ok reply) ∧ after = .lone tables .idle := by
  constructor
  · intro h
    cases h with
    | within executes =>
        cases executes with
        | rollBack _ reply => exact ⟨⟨reply, rfl⟩, Server.become_lone _⟩
    | apart idle => exact absurd idle begun
  · rintro ⟨⟨reply, rfl⟩, rfl⟩
    have hundone : (Server.lone tables standing).become () .idle = .lone tables .idle :=
      Server.become_lone _
    rw [← hundone]
    exact .within (.rollBack begun reply)

section Insertions

variable {row : Insert} {record : Record}

/-- A row is made, and it is settled what becomes of it. -/
theorem handles_insert :
    Handles schema (.lone tables (.active written)) ⟨.insert row, parameters⟩ answer after ↔
      ∃ record, row.Makes schema (.lone tables (.active written)) parameters record ∧
        row.Settles schema (.lone tables (.active written)) () written record answer after := by
  constructor
  · intro h
    cases h with
    | within executes =>
        cases executes with
        | insert active makes settles =>
            cases active
            exact ⟨_, makes, settles⟩
    | apart idle => cases idle
  · rintro ⟨record, makes, settles⟩
    exact .within (.insert rfl makes settles)

/-- With one client nothing has to wait. -/
theorem exists_handles_insert (conflict : row.conflict = none ∨ row.conflict = some .ignore)
    (makes : row.Makes schema (.lone tables (.active written)) parameters record) :
    ∃ answer after, Handles schema (.lone tables (.active written)) ⟨.insert row, parameters⟩
      answer after := by
  rcases Executes.insert_or_waits rfl makes conflict with ⟨answer, after, executes⟩ | ⟨_, hne, _⟩
  · exact ⟨answer, after, .within executes⟩
  · exact absurd rfl hne

end Insertions

end Statements

end AccessGrants.Sql

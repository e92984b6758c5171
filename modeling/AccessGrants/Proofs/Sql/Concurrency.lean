import AccessGrants.Proofs.Dialogue
import AccessGrants.Proofs.Sql.Constraint
import Mathlib.Logic.Function.Basic

/-!
Transactions side by side. A statement sees what is committed and what its own
transaction has written, and nothing that others have not committed. A row that
collides with one that its transaction sees is refused, or passed over if the
insertion asks for it; one that collides with a row that another transaction has
written and not committed has to wait until that one has ended, which here means
that its statement is not executed. The first refusal makes a transaction good
for nothing but its rollback.
-/

namespace AccessGrants.Sql

namespace Tables

def empty : Tables := fun _ => []

def append (tables added : Tables) : Tables := fun table => tables table ++ added table

def add (tables : Tables) (table : String) (record : Record) : Tables :=
  Function.update tables table (tables table ++ [record])

end Tables

section Tables

variable {tables added : Tables} {table other : String} {record fresh : Record}

@[simp] theorem Tables.not_mem_empty : record ∉ Tables.empty table :=
  List.not_mem_nil

@[simp] theorem Tables.mem_append :
    record ∈ tables.append added table ↔ record ∈ tables table ∨ record ∈ added table :=
  List.mem_append

@[simp] theorem Tables.mem_add :
    record ∈ tables.add table fresh other ↔
      record ∈ tables other ∨ other = table ∧ record = fresh := by
  unfold Tables.add
  by_cases h : other = table
  · subst h
    simp
  · simp [h]

end Tables

/-- Where a party is with its transaction. -/
inductive Standing where
  | idle
  /-- The rows that are written and not committed. -/
  | active (written : Tables)
  | failed

def Standing.written : Standing → Tables
  | .active written => written
  | _ => .empty

structure Server (Party : Type) where
  committed : Tables
  standing : Party → Standing

namespace Server

variable {Party : Type}

/-- What a party has written and not committed. -/
def own (server : Server Party) (party : Party) : Tables :=
  (server.standing party).written

def visible (server : Server Party) (party : Party) : Tables :=
  server.committed.append (server.own party)

/-- The row is in the table, be it committed or not. -/
def Stores (server : Server Party) (table : String) (record : Record) : Prop :=
  record ∈ server.committed table ∨ ∃ party, record ∈ server.own party table

/-- The other parties stand where they stood, and what is committed stays. -/
structure Spares (server after : Server Party) (party : Party) : Prop where
  standing : ∀ other, other ≠ party → after.standing other = server.standing other
  committed : ∀ table, ∀ record ∈ server.committed table, record ∈ after.committed table

/-- The party stands somewhere else, and nobody else does. -/
def become [DecidableEq Party] (server : Server Party) (party : Party) (standing : Standing) :
    Server Party :=
  { server with standing := Function.update server.standing party standing }

def commit [DecidableEq Party] (server : Server Party) (party : Party) : Server Party where
  committed := server.visible party
  standing := Function.update server.standing party .idle

variable (server : Server Party) {party other : Party} {standing : Standing} {table : String}
  {record : Record}

theorem mem_visible :
    record ∈ server.visible party table ↔
      record ∈ server.committed table ∨ record ∈ server.own party table :=
  Tables.mem_append

theorem Stores.of_visible {server : Server Party} (h : record ∈ server.visible party table) :
    server.Stores table record := by
  rcases server.mem_visible.mp h with hcommitted | hown
  · exact Or.inl hcommitted
  · exact Or.inr ⟨party, hown⟩

section Frame

variable [DecidableEq Party]

@[simp] theorem committed_become : (server.become party standing).committed = server.committed :=
  rfl

@[simp] theorem standing_become_self : (server.become party standing).standing party = standing :=
  Function.update_self ..

theorem standing_become_of_ne (h : other ≠ party) :
    (server.become party standing).standing other = server.standing other :=
  Function.update_of_ne h ..

@[simp] theorem own_become_self : (server.become party standing).own party = standing.written := by
  rw [own, standing_become_self]

theorem own_become_of_ne (h : other ≠ party) :
    (server.become party standing).own other = server.own other := by
  rw [own, own, standing_become_of_ne server h]

/-- A row that is written is added to what the party has written. -/
theorem own_write {written : Tables} (active : server.standing party = .active written) :
    (server.become party (.active (written.add table record))).own party =
      (server.own party).add table record := by
  rw [own_become_self, own, active]
  rfl

@[simp] theorem standing_commit_self : (server.commit party).standing party = .idle :=
  Function.update_self ..

theorem standing_commit_of_ne (h : other ≠ party) :
    (server.commit party).standing other = server.standing other :=
  Function.update_of_ne h ..

@[simp] theorem own_commit_self : (server.commit party).own party = .empty := by
  rw [own, standing_commit_self]
  rfl

theorem own_commit_of_ne (h : other ≠ party) :
    (server.commit party).own other = server.own other := by
  rw [own, own, standing_commit_of_ne server h]

end Frame

end Server

section Execution

variable {Party : Type} [DecidableEq Party] (schema : List Statement)

/-- The row that an insertion makes. What is not given is a positive number that
no row of the table has, or some default that the column takes, or null. -/
structure Insert.Makes (server : Server Party) (row : Insert) (parameters : List Value)
    (record : Record) : Prop where
  given : ∀ cell ∈ row.columns.zip parameters, record cell.1 = cell.2
  numbered : ∀ column ∈ columnsOf schema row.table, column.name ∉ row.columns →
    column.type = .serial → (∃ n, 0 < n ∧ record column.name = .int n) ∧
      ∀ other, server.Stores row.table other → other column.name ≠ record column.name
  defaulted : ∀ column ∈ columnsOf schema row.table, column.name ∉ row.columns →
    column.type ≠ .serial → (∃ value, .default value ∈ column.rules) →
      column.Admits (record column.name)
  blank : ∀ column ∈ columnsOf schema row.table, column.name ∉ row.columns →
    column.type ≠ .serial → (∀ value, .default value ∉ column.rules) →
      record column.name = .null

/-- What an insertion gives back of its row. -/
def Insert.reply (row : Insert) (record : Record) : Reply :=
  ⟨if row.returning.isEmpty then [] else [row.returning.map record], 1⟩

/-- What becomes of a row that an insertion has made. There is no outcome while
the row collides with one that another party has written and not committed. -/
inductive Insert.Settles (server : Server Party) (party : Party) (written : Tables)
    (row : Insert) (record : Record) : Except DatabaseError Reply → Server Party → Prop where
  | inserted (admitted : Admits schema row.table record)
      (free : ∀ other, server.Stores row.table other → ¬ Collide schema row.table record other)
      (refers : Refers schema row.table (server.visible party) record) :
      Settles server party written row record (.ok (row.reply record))
        (server.become party (.active (written.add row.table record)))
  /-- The insertion passes over a row that is there. -/
  | ignored {other : Record} (ignores : row.conflict = some .ignore)
      (admitted : Admits schema row.table record) (there : other ∈ server.visible party row.table)
      (collide : Collide schema row.table record other) :
      Settles server party written row record (.ok ⟨[], 0⟩) server
  | duplicate {other : Record} (refuses : row.conflict = none)
      (admitted : Admits schema row.table record) (there : other ∈ server.visible party row.table)
      (collide : Collide schema row.table record other) (text : String) :
      Settles server party written row record
        (.error (.rejected DatabaseError.uniqueViolation text)) (server.become party .failed)
  | dangling (admitted : Admits schema row.table record)
      (free : ∀ other, server.Stores row.table other → ¬ Collide schema row.table record other)
      (missing : ¬ Refers schema row.table (server.visible party) record) (text : String) :
      Settles server party written row record
        (.error (.rejected DatabaseError.foreignKeyViolation text)) (server.become party .failed)
  | malformed (refused : ¬ Admits schema row.table record) {state : String}
      (unique : state ≠ DatabaseError.uniqueViolation)
      (foreign : state ≠ DatabaseError.foreignKeyViolation) (text : String) :
      Settles server party written row record (.error (.rejected state text))
        (server.become party .failed)

/-- A party's statement is executed: with this answer, and to this effect. -/
inductive Executes (server : Server Party) (party : Party) :
    Command → Except DatabaseError Reply → Server Party → Prop where
  | begin (idle : server.standing party = .idle) (reply : Reply) :
      Executes server party ⟨.beginTransaction, []⟩ (.ok reply)
        (server.become party (.active .empty))
  | select {written : Tables} {query : Select} {parameters : List Value} {rows : List Row}
      (active : server.standing party = .active written) (affected : Nat)
      (yields : query.Yields (server.visible party) parameters rows) :
      Executes server party ⟨.select query, parameters⟩ (.ok ⟨rows, affected⟩) server
  | insert {written : Tables} {row : Insert} {parameters : List Value} {record : Record}
      {answer : Except DatabaseError Reply} {after : Server Party}
      (active : server.standing party = .active written)
      (makes : row.Makes schema server parameters record)
      (settles : row.Settles schema server party written record answer after) :
      Executes server party ⟨.insert row, parameters⟩ answer after
  | commit {written : Tables} (active : server.standing party = .active written) (reply : Reply) :
      Executes server party ⟨.commit, []⟩ (.ok reply) (server.commit party)
  | rollBack (begun : server.standing party ≠ .idle) (reply : Reply) :
      Executes server party ⟨.rollBack, []⟩ (.ok reply) (server.become party .idle)

section Outcomes

variable {schema} {server after : Server Party} {party : Party} {written : Tables} {row : Insert}
  {parameters : List Value} {record : Record} {answer : Except DatabaseError Reply}

/-- A row that is fit to be there is inserted, or collides with one that is seen. -/
theorem Insert.Settles.cases_of_fit
    (h : row.Settles schema server party written record answer after)
    (admitted : Admits schema row.table record)
    (refers : Refers schema row.table (server.visible party) record) :
    (answer = .ok (row.reply record) ∧
        after = server.become party (.active (written.add row.table record)) ∧
          ∀ other, server.Stores row.table other → ¬ Collide schema row.table record other) ∨
      ∃ other ∈ server.visible party row.table, Collide schema row.table record other ∧
        (row.conflict = some .ignore ∧ answer = .ok ⟨[], 0⟩ ∧ after = server ∨
          row.conflict = none ∧
            (∃ text, answer = .error (.rejected DatabaseError.uniqueViolation text)) ∧
              after = server.become party .failed) := by
  cases h with
  | inserted _ free _ => exact Or.inl ⟨rfl, rfl, free⟩
  | ignored ignores _ there collide =>
      exact Or.inr ⟨_, there, collide, Or.inl ⟨ignores, rfl, rfl⟩⟩
  | duplicate refuses _ there collide text =>
      exact Or.inr ⟨_, there, collide, Or.inr ⟨refuses, ⟨text, rfl⟩, rfl⟩⟩
  | dangling _ _ missing => exact absurd refers missing
  | malformed refused => exact absurd admitted refused

/-- An insertion comes to an end, unless it has to wait for another party. -/
theorem Executes.insert_or_waits (active : server.standing party = .active written)
    (makes : row.Makes schema server parameters record)
    (conflict : row.conflict = none ∨ row.conflict = some .ignore) :
    (∃ answer after, Executes schema server party ⟨.insert row, parameters⟩ answer after) ∨
      ∃ other, other ≠ party ∧ ∃ theirs ∈ server.own other row.table,
        Collide schema row.table record theirs := by
  by_cases admitted : Admits schema row.table record
  swap
  · exact Or.inl ⟨_, _, .insert active makes
      (.malformed admitted (by decide : "23514" ≠ _) (by decide) "check")⟩
  by_cases seen : ∃ other ∈ server.visible party row.table, Collide schema row.table record other
  · obtain ⟨other, there, collide⟩ := seen
    rcases conflict with refuses | ignores
    · exact Or.inl ⟨_, _, .insert active makes (.duplicate refuses admitted there collide "key")⟩
    · exact Or.inl ⟨_, _, .insert active makes (.ignored ignores admitted there collide)⟩
  by_cases free : ∀ other, server.Stores row.table other → ¬ Collide schema row.table record other
  · by_cases refers : Refers schema row.table (server.visible party) record
    · exact Or.inl ⟨_, _, .insert active makes (.inserted admitted free refers)⟩
    · exact Or.inl ⟨_, _, .insert active makes (.dangling admitted free refers "reference")⟩
  · push Not at free
    obtain ⟨theirs, stored, collide⟩ := free
    rcases stored with committed | ⟨other, own⟩
    · exact absurd ⟨theirs, server.mem_visible.mpr (Or.inl committed), collide⟩ seen
    · refine Or.inr ⟨other, ?_, theirs, own, collide⟩
      rintro rfl
      exact seen ⟨theirs, server.mem_visible.mpr (Or.inr own), collide⟩

theorem Server.spares_become {standing : Standing} :
    server.Spares (server.become party standing) party :=
  ⟨fun _ hne => server.standing_become_of_ne hne, fun _ _ h => h⟩

theorem Executes.spares {command : Command}
    (h : Executes schema server party command answer after) : server.Spares after party := by
  cases h with
  | select => exact ⟨fun _ _ => rfl, fun _ _ h => h⟩
  | insert _ _ settles =>
      cases settles with
      | ignored => exact ⟨fun _ _ => rfl, fun _ _ h => h⟩
      | _ => exact server.spares_become
  | commit =>
      refine ⟨fun _ hne => server.standing_commit_of_ne hne, fun _ _ h => ?_⟩
      exact server.mem_visible.mpr (Or.inl h)
  | _ => exact server.spares_become

end Outcomes

end Execution

section Soundness

variable {Party : Type} {schema : List Statement} {server after : Server Party} {party : Party}
  {table : String} {record : Record}

/-- Rows that collide are one row, and no row of a party collides with a row
that is committed or is another party's. -/
structure Server.Sound (schema : List Statement) (server : Server Party) : Prop where
  distinct : ∀ table record other, server.Stores table record → server.Stores table other →
    Collide schema table record other → record = other
  apart : ∀ party table record other, record ∈ server.own party table →
    (other ∈ server.committed table ∨ ∃ third, third ≠ party ∧ other ∈ server.own third table) →
      ¬ Collide schema table record other

theorem Server.sound_start {tables : Tables} (consistent : Consistent schema tables) :
    Server.Sound schema (⟨tables, fun _ => .idle⟩ : Server Party) where
  distinct := by
    rintro table record other (hrecord | ⟨_, hnone⟩) (hother | ⟨_, hnone'⟩) collide
    · exact consistent.eq_of_collide hrecord hother collide
    · cases hnone'
    · cases hnone
    · cases hnone
  apart := by
    intro party table record other hnone
    cases hnone

namespace Server.Sound

variable [DecidableEq Party] {standing : Standing} {written : Tables}

/-- A party that gives up rows, and takes none, leaves the server sound. -/
theorem become (h : server.Sound schema)
    (kept : ∀ table, ∀ record ∈ standing.written table, record ∈ server.own party table) :
    (server.become party standing).Sound schema := by
  have hown (other : Party) {table : String} {record : Record}
      (hmem : record ∈ (server.become party standing).own other table) :
      record ∈ server.own other table := by
    by_cases hsame : other = party
    · subst hsame
      rw [server.own_become_self] at hmem
      exact kept table record hmem
    · rwa [server.own_become_of_ne hsame] at hmem
  have hstores {table : String} {record : Record}
      (hstored : (server.become party standing).Stores table record) :
      server.Stores table record := by
    rcases hstored with hcommitted | ⟨other, hmem⟩
    · exact Or.inl hcommitted
    · exact Or.inr ⟨other, hown other hmem⟩
  constructor
  · intro table record other hrecord hother
    exact h.distinct table record other (hstores hrecord) (hstores hother)
  · intro party table record other hrecord hother
    refine h.apart party table record other (hown party hrecord) ?_
    rcases hother with hcommitted | ⟨third, hne, hmem⟩
    · exact Or.inl hcommitted
    · exact Or.inr ⟨third, hne, hown third hmem⟩

/-- A row that collides with none may be written. -/
theorem write (h : server.Sound schema) (active : server.standing party = .active written)
    (free : ∀ other, server.Stores table other → ¬ Collide schema table record other) :
    (server.become party (.active (written.add table record))).Sound schema := by
  have hwritten : server.own party = written := by rw [Server.own, active, Standing.written]
  have hown (each : Party) {place : String} {row : Record}
      (hmem : row ∈ (server.become party (.active (written.add table record))).own each place) :
      row ∈ server.own each place ∨ each = party ∧ place = table ∧ row = record := by
    by_cases hsame : each = party
    · subst hsame
      rw [server.own_become_self, Standing.written, Tables.mem_add, ← hwritten] at hmem
      exact hmem.imp_right fun hnew => ⟨rfl, hnew⟩
    · rw [server.own_become_of_ne hsame] at hmem
      exact Or.inl hmem
  have hstores {place : String} {row : Record}
      (hstored : (server.become party (.active (written.add table record))).Stores place row) :
      server.Stores place row ∨ place = table ∧ row = record := by
    rcases hstored with hcommitted | ⟨each, hmem⟩
    · exact Or.inl (Or.inl hcommitted)
    · rcases hown each hmem with hold | ⟨_, hnew⟩
      · exact Or.inl (Or.inr ⟨each, hold⟩)
      · exact Or.inr hnew
  constructor
  · intro place row other hrow hother collide
    rcases hstores hrow with hold | ⟨rfl, rfl⟩
    · rcases hstores hother with hold' | ⟨rfl, rfl⟩
      · exact h.distinct place row other hold hold' collide
      · exact absurd collide.symm (free row hold)
    · rcases hstores hother with hold' | ⟨_, rfl⟩
      · exact absurd collide (free other hold')
      · rfl
  · intro each place row other hrow hother collide
    rcases hown each hrow with hold | ⟨rfl, rfl, rfl⟩
    · rcases hother with hcommitted | ⟨third, hne, hmem⟩
      · exact h.apart each place row other hold (Or.inl hcommitted) collide
      · rcases hown third hmem with hold' | ⟨rfl, rfl, rfl⟩
        · exact h.apart each place row other hold (Or.inr ⟨third, hne, hold'⟩) collide
        · exact free row (Or.inr ⟨each, hold⟩) collide.symm
    · rcases hother with hcommitted | ⟨third, hne, hmem⟩
      · exact free other (Or.inl hcommitted) collide
      · rw [server.own_become_of_ne hne] at hmem
        exact free other (Or.inr ⟨third, hmem⟩) collide

theorem commit (h : server.Sound schema) : (server.commit party).Sound schema := by
  have hown (each : Party) {table : String} {record : Record}
      (hmem : record ∈ (server.commit party).own each table) :
      each ≠ party ∧ record ∈ server.own each table := by
    by_cases hsame : each = party
    · subst hsame
      rw [server.own_commit_self] at hmem
      cases hmem
    · rw [server.own_commit_of_ne hsame] at hmem
      exact ⟨hsame, hmem⟩
  have hstores {table : String} {record : Record}
      (hstored : (server.commit party).Stores table record) : server.Stores table record := by
    rcases hstored with hvisible | ⟨each, hmem⟩
    · exact Server.Stores.of_visible hvisible
    · exact Or.inr ⟨each, (hown each hmem).2⟩
  constructor
  · intro table record other hrecord hother
    exact h.distinct table record other (hstores hrecord) (hstores hother)
  · intro each table record other hrecord hother
    obtain ⟨hne, hmem⟩ := hown each hrecord
    refine h.apart each table record other hmem ?_
    rcases hother with hvisible | ⟨third, hthird, hmem'⟩
    · rcases server.mem_visible.mp hvisible with hcommitted | hparty
      · exact Or.inl hcommitted
      · exact Or.inr ⟨party, hne.symm, hparty⟩
    · exact Or.inr ⟨third, hthird, (hown third hmem').2⟩

/-- Whatever statement is executed, the server stays sound. -/
theorem executes (h : server.Sound schema) {command : Command}
    {answer : Except DatabaseError Reply}
    (executes : Executes schema server party command answer after) : after.Sound schema := by
  cases executes with
  | begin => exact h.become (by rintro _ _ ⟨⟩)
  | select => exact h
  | insert active _ settles =>
      cases settles with
      | inserted _ free _ => exact h.write active free
      | ignored => exact h
      | _ => exact h.become (by rintro _ _ ⟨⟩)
  | commit => exact h.commit
  | rollBack => exact h.become (by rintro _ _ ⟨⟩)

end Server.Sound

end Soundness

/-- Parties that talk to one server, with what each has said so far. -/
structure System (Party α : Type) where
  server : Server Party
  program : Party → Dialogue Command Command.Answer α
  said : Party → List (Exchange Command.Answer)

namespace System

variable {Party α : Type} [DecidableEq Party] (schema : List Statement)

def start (tables : Tables) (program : Party → Dialogue Command Command.Answer α) :
    System Party α :=
  ⟨⟨tables, fun _ => .idle⟩, program, fun _ => []⟩

/-- What a party asks is answered, and the party goes on from the answer. -/
def answered (system : System Party α) (party : Party) (question : Command)
    (answer : Except DatabaseError Reply) (rest : Dialogue Command Command.Answer α)
    (server : Server Party) : System Party α where
  server := server
  program := Function.update system.program party rest
  said := Function.update system.said party (system.said party ++ [⟨question, answer⟩])

section Answered

variable {schema} {system : System Party α} {party other : Party} {question : Command}
  {answer : Except DatabaseError Reply} {rest : Dialogue Command Command.Answer α}
  {server : Server Party}

theorem program_answered_self :
    (system.answered party question answer rest server).program party = rest :=
  Function.update_self ..

theorem program_answered_of_ne (h : other ≠ party) :
    (system.answered party question answer rest server).program other = system.program other :=
  Function.update_of_ne h ..

theorem said_answered_self : (system.answered party question answer rest server).said party =
    system.said party ++ [⟨question, answer⟩] :=
  Function.update_self ..

theorem said_answered_of_ne (h : other ≠ party) :
    (system.answered party question answer rest server).said other = system.said other :=
  Function.update_of_ne h ..

end Answered

/-- One party takes one step. -/
inductive Step (system : System Party α) : System Party α → Prop where
  | asks {party : Party} {question : Command}
      {next : Except DatabaseError Reply → Dialogue Command Command.Answer α}
      {answer : Except DatabaseError Reply} {server : Server Party}
      (asking : system.program party = .ask question next)
      (executes : Executes schema system.server party question answer server) :
      Step system (system.answered party question answer (next answer) server)
  | reports {party : Party} {event : Event} {rest : Dialogue Command Command.Answer α}
      (reporting : system.program party = .report event rest) :
      Step system { system with program := Function.update system.program party rest }

/-- A run of so many steps, in any order of the parties. -/
inductive Runs (first : System Party α) : Nat → System Party α → Prop where
  | none : Runs first 0 first
  | step {n : Nat} {system next : System Party α} (run : Runs first n system)
      (step : Step schema system next) : Runs first (n + 1) next

/-- What has been said is not taken back. -/
theorem Step.said_prefix {schema : List Statement} {system next : System Party α}
    (step : Step schema system next) (party : Party) :
    system.said party <+: next.said party := by
  cases step with
  | @asks other =>
      rcases eq_or_ne party other with rfl | hne
      · rw [said_answered_self]
        exact List.prefix_append ..
      · exact (said_answered_of_ne hne).symm ▸ List.prefix_refl _
  | reports => exact List.prefix_refl _

end System

end AccessGrants.Sql

import AccessGrants.Proofs.Database.Statements
import AccessGrants.Proofs.Database.Transaction

/-!
Provisionings of one instance side by side, each with its own transaction. Where
a call stands with its transaction tells which templates are done and by which
grants, and a call that stands there moves in few ways: it goes on, or the grant
that it wants to store is there by now and it is beaten.
-/

namespace AccessGrants.Database

open Sql Provisioning

/-- The call has returned grants. -/
def Provisioning.Stage.Won (stage : Stage) : Prop :=
  ∃ grants, stage = .ended (.ok grants)

/-- Calls that provision one instance, each for an owner of its own. -/
structure Overlap (Party : Type) where
  kind : InstanceKind
  id : InstanceId
  owner : Party → ActorId
  /-- What the database holds before. -/
  tables : Tables
  /-- The default templates, in the order of the listing. -/
  templates : List Template

/-- The search for the grant of the template has been answered by no row. -/
def InVain (id : InstanceId) (said : List (Exchange Command.Answer)) (template : TemplateId) :
    Prop :=
  ∃ affected, ⟨⟨grantByScope, .int template.value :: (Scope.composite id).columns.parameters⟩,
    .ok ⟨[], affected⟩⟩ ∈ said

theorem InVain.append {id : InstanceId} {said later : List (Exchange Command.Answer)}
    {template : TemplateId} (h : InVain id said template) : InVain id (said ++ later) template := by
  obtain ⟨affected, hmem⟩ := h
  exact ⟨affected, List.mem_append_left later hmem⟩

theorem InVain.of_prefix {id : InstanceId} {said later : List (Exchange Command.Answer)}
    {template : TemplateId} (h : InVain id said template) (goes_on : said <+: later) :
    InVain id later template := by
  obtain ⟨rest, rfl⟩ := goes_on
  exact h.append

namespace Overlap

variable {Party : Type} (overlap : Overlap Party)

def order (party : Party) : Provisioning :=
  ⟨overlap.kind, overlap.id, overlap.owner party⟩

/-- How many templates the listing has behind this one. -/
def rank (template : TemplateId) : Nat :=
  (overlap.templates.map Template.id).reverse.idxOf template

/-- How many statements may follow at most. -/
def budget : Stage → Nat
  | .asking .begin _ _ => 3 * overlap.templates.length + 4
  | .asking .list _ _ => 3 * overlap.templates.length + 3
  | stage => stage.measure.2

section Budget

variable {step : Step} {template : Template} {grant : Grant} {done : List Grant}
  {left : List Template} {error : StorageError} {result : Except StorageError (List Grant)}

@[simp] theorem budget_begin :
    overlap.budget (.asking .begin done left) = 3 * overlap.templates.length + 4 := rfl

@[simp] theorem budget_list :
    overlap.budget (.asking .list done left) = 3 * overlap.templates.length + 3 := rfl

@[simp] theorem budget_find :
    overlap.budget (.asking (.find template) done left) = 3 * left.length + 5 := rfl

@[simp] theorem budget_store :
    overlap.budget (.asking (.store template) done left) = 3 * left.length + 4 := rfl

@[simp] theorem budget_link :
    overlap.budget (.asking (.link grant) done left) = 3 * left.length + 3 := rfl

@[simp] theorem budget_commit : overlap.budget (.asking .commit done left) = 2 := rfl

@[simp] theorem budget_undoing : overlap.budget (.undoing error) = 1 := rfl

@[simp] theorem budget_ended : overlap.budget (.ended result) = 0 := rfl

@[simp] theorem budget_turn : overlap.budget (turn done left) = 3 * left.length + 2 := by
  cases left with
  | nil => rfl
  | cons template left =>
      change 3 * left.length + 5 = 3 * (left.length + 1) + 2
      omega

end Budget

/-- The grant is the template's for the instance, and it is in the tables. -/
structure Gets (tables : Tables) (template : Template) (grant : Grant) : Prop where
  ofTemplate : grant = Grant.ofTemplate grant.id template (.composite overlap.id)
  filled : Filled overlap.id tables template grant.id

section Calls

variable (server : Server Party) (party : Party)

/-- A party that stands at the stage with its transaction. -/
inductive Stands : Stage → Prop where
  | beginning (idle : server.standing party = .idle) : Stands (.asking .begin [] [])
  | listing (active : server.standing party = .active .empty) : Stands (.asking .list [] [])
  | finding {written : Tables} {past left : List Template} {template : Template}
      {done : List Grant} (active : server.standing party = .active written)
      (split : overlap.templates = past ++ template :: left)
      (got : List.Forall₂ (overlap.Gets (server.visible party)) past done) :
      Stands (.asking (.find template) done left)
  | storing {written : Tables} {past left : List Template} {template : Template}
      {done : List Grant} (active : server.standing party = .active written)
      (split : overlap.templates = past ++ template :: left)
      (got : List.Forall₂ (overlap.Gets (server.visible party)) past done) :
      Stands (.asking (.store template) done left)
  | linking {written : Tables} {past left : List Template} {template : Template}
      {done : List Grant} {grant : Grant} (active : server.standing party = .active written)
      (split : overlap.templates = past ++ template :: left)
      (got : List.Forall₂ (overlap.Gets (server.visible party)) past done)
      (gets : overlap.Gets (server.visible party) template grant) :
      Stands (.asking (.link grant) done left)
  | committing {written : Tables} {done : List Grant}
      (active : server.standing party = .active written)
      (got : List.Forall₂ (overlap.Gets (server.visible party)) overlap.templates done) :
      Stands (.asking .commit done [])
  | undoing {error : StorageError} (failed : server.standing party = .failed) :
      Stands (.undoing error)
  | succeeded {grants : List Grant} (idle : server.standing party = .idle)
      (got : List.Forall₂ (overlap.Gets (server.visible party)) overlap.templates grants) :
      Stands (.ended (.ok grants))
  | refused {error : StorageError} (idle : server.standing party = .idle) :
      Stands (.ended (.error error))

variable [DecidableEq Party]

/-- The ways in which a party moves from a stage to the next one: what it sends
and hears, and what becomes of the server. -/
inductive Moves : Stage → Exchange Command.Answer → Server Party → Stage → Prop where
  | begins (idle : server.standing party = .idle) (reply : Reply) :
      Moves (.asking .begin [] []) ⟨(overlap.order party).command .begin, .ok reply⟩
        (server.become party (.active .empty)) (.asking .list [] [])
  | lists (reply : Reply) :
      Moves (.asking .list [] []) ⟨(overlap.order party).command .list, .ok reply⟩ server
        (turn [] overlap.templates)
  | finds {template : Template} {done : List Grant} {left : List Template} {grant : Grant}
      {row : Row} {rest : List Row} {affected : Nat}
      (gets : overlap.Gets (server.visible party) template grant) :
      Moves (.asking (.find template) done left)
        ⟨(overlap.order party).command (.find template), .ok ⟨row :: rest, affected⟩⟩ server
        (.asking (.link grant) done left)
  | misses {template : Template} {done : List Grant} {left : List Template} {affected : Nat}
      (missing : ∀ record ∈ server.visible party "permission_grants",
        ¬ Fills overlap.id template record) :
      Moves (.asking (.find template) done left)
        ⟨(overlap.order party).command (.find template), .ok ⟨[], affected⟩⟩ server
        (.asking (.store template) done left)
  | stores {written : Tables} {template : Template} {done : List Grant} {left : List Template}
      {reply : Reply} {record : Record} {grant : GrantId}
      (active : server.standing party = .active written)
      (fills : Fills overlap.id template record) (numbered : record "id" = .int grant.value) :
      Moves (.asking (.store template) done left)
        ⟨(overlap.order party).command (.store template), .ok reply⟩
        (server.become party (.active (written.add "permission_grants" record)))
        (.asking (.link (.ofTemplate grant template (.composite overlap.id))) done left)
  /-- The grant is there by now. -/
  | loses {template : Template} {done : List Grant} {left : List Template} {record : Record}
      {text : String} (there : record ∈ server.visible party "permission_grants")
      (fills : Fills overlap.id template record) :
      Moves (.asking (.store template) done left)
        ⟨(overlap.order party).command (.store template),
          .error (.rejected DatabaseError.uniqueViolation text)⟩
        (server.become party .failed) (.undoing (.duplicate ("grant of " ++ template.id.label)))
  | links {written : Tables} {grant : Grant} {done : List Grant} {left : List Template}
      {reply : Reply} {record : Record} (active : server.standing party = .active written)
      (linked : record "grant_id" = .int grant.id.value) :
      Moves (.asking (.link grant) done left)
        ⟨(overlap.order party).command (.link grant), .ok reply⟩
        (server.become party (.active (written.add "actor_grants" record)))
        (turn (done ++ [grant]) left)
  | relinks {grant : Grant} {done : List Grant} {left : List Template} (reply : Reply) :
      Moves (.asking (.link grant) done left)
        ⟨(overlap.order party).command (.link grant), .ok reply⟩ server
        (turn (done ++ [grant]) left)
  | commits {done : List Grant} (reply : Reply) :
      Moves (.asking .commit done []) ⟨(overlap.order party).command .commit, .ok reply⟩
        (server.commit party) (.ended (.ok done))
  | undoes {error : StorageError} (answer : Answer) :
      Moves (.undoing error) ⟨⟨.rollBack, []⟩, answer⟩ (server.become party .idle)
        (.ended (.error error))

end Calls

/-- What does not change while the calls run: the listing has one answer, and
the owners are there. -/
structure Founded : Prop where
  lists : Lists overlap.kind overlap.tables overlap.templates
  owners : ∀ party, ∃ row ∈ overlap.tables "actors", row "id" = .int (overlap.owner party).value

/-- The server has what it had before the calls, and of other tables nothing
else; a row of grants that is in the slot of a template fills it. -/
structure Serves (server : Server Party) : Prop where
  sound : server.Sound Schema.definitions
  plain : ∀ record, server.Stores "permission_grants" record → Plain overlap.id record
  kept : ∀ table, ∀ record ∈ overlap.tables table, record ∈ server.committed table
  others : ∀ table, table ≠ "permission_grants" → table ≠ "actor_grants" →
    server.committed table = overlap.tables table ∧ ∀ party, server.own party table = []

section Standing

variable {overlap} {server : Server Party} {party : Party} {template : Template}

theorem stands_turn {written : Tables} {past left : List Template} {done : List Grant}
    (active : server.standing party = .active written)
    (split : overlap.templates = past ++ left)
    (got : List.Forall₂ (overlap.Gets (server.visible party)) past done) :
    overlap.Stands server party (turn done left) := by
  cases left with
  | nil =>
      rw [List.append_nil] at split
      rw [← split] at got
      exact .committing active got
  | cons template left => exact .finding active split got

theorem Gets.mono {tables others : Tables} {grant : Grant}
    (h : overlap.Gets tables template grant)
    (sub : ∀ record ∈ tables "permission_grants", record ∈ others "permission_grants") :
    overlap.Gets others template grant := by
  obtain ⟨record, hrecord, hfills, hid⟩ := h.filled
  exact ⟨h.ofTemplate, record, sub record hrecord, hfills, hid⟩

/-- A number is that of one row, so it is that of a grant of one template. -/
theorem Serves.template_eq (serves : overlap.Serves server) {other : Party} {own : Template}
    {grant : GrantId} (h : Filled overlap.id (server.visible party) template grant)
    (h' : Filled overlap.id (server.visible other) own grant) : template.id = own.id := by
  obtain ⟨record, hrecord, hfills, hid⟩ := h
  obtain ⟨record', hrecord', hfills', hid'⟩ := h'
  have hcollide : Collide Schema.definitions "permission_grants" record record' := by
    refine collide_grants_iff.mpr (Or.inl ⟨hid.trans hid'.symm, ?_⟩)
    rw [hid]
    exact Value.noConfusion
  have hsame : record = record' :=
    serves.sound.distinct _ _ _ (.of_visible hrecord) (.of_visible hrecord') hcollide
  rw [← hsame] at hfills'
  exact hfills.id_eq hfills'

theorem Serves.kept_visible (serves : overlap.Serves server) {table : String} {record : Record}
    (h : record ∈ overlap.tables table) : record ∈ server.visible party table :=
  server.mem_visible.mpr (Or.inl (serves.kept table record h))

theorem Serves.plain_visible (serves : overlap.Serves server) :
    ∀ record ∈ server.visible party "permission_grants", Plain overlap.id record :=
  fun record hrecord => serves.plain record (.of_visible hrecord)

theorem Serves.lists (serves : overlap.Serves server) (founded : overlap.Founded) :
    Lists overlap.kind (server.visible party) overlap.templates := by
  obtain ⟨hcommitted, hown⟩ := serves.others "permission_templates" (by decide) (by decide)
  refine founded.lists.congr ?_
  change server.committed _ ++ server.own party _ = _
  rw [hcommitted, hown, List.append_nil]

theorem Founded.template_row (founded : overlap.Founded) (serves : overlap.Serves server)
    (h : template ∈ overlap.templates) :
    ∃ row ∈ server.visible party "permission_templates", row "id" = .int template.id.value := by
  obtain ⟨row, hrow, hid⟩ := founded.lists.stored template h
  exact ⟨row, serves.kept_visible hrow, hid⟩

theorem Founded.owner_row (founded : overlap.Founded) (serves : overlap.Serves server) :
    ∃ row ∈ server.visible party "actors", row "id" = .int (overlap.owner party).value := by
  obtain ⟨row, hrow, hid⟩ := founded.owners party
  exact ⟨row, serves.kept_visible hrow, hid⟩

end Standing

section Moving

variable {overlap} [DecidableEq Party] {server after : Server Party} {party : Party}
  {stage : Stage} {question : Command} {answer : Answer}
  {next : Answer → Dialogue Command Command.Answer (Except StorageError (List Grant))}

/-- A statement that is executed for a party moves it in one of the ways. -/
theorem exists_moves (founded : overlap.Founded) (serves : overlap.Serves server)
    (stands : overlap.Stands server party stage)
    (asking : (overlap.order party).talk stage = .ask question next)
    (executes : Executes Schema.definitions server party question answer after) :
    ∃ stage', next answer = (overlap.order party).talk stage' ∧
      overlap.Moves server party stage ⟨question, answer⟩ after stage' := by
  cases stands with
  | beginning idle =>
      rw [talk] at asking
      cases asking
      refine ⟨_, rfl, ?_⟩
      cases executes with
      | begin _ reply => exact .begins idle reply
  | listing active =>
      rw [talk] at asking
      cases asking
      refine ⟨_, rfl, ?_⟩
      have hexecutes := executes
      rw [command_list] at hexecutes
      obtain _ | ⟨_, affected, yields⟩ := hexecutes
      have hrows := (serves.lists founded).read _ yields
      have hread : (overlap.order party).read .list (.ok ⟨_, affected⟩) = .ok overlap.templates :=
        read_eq_ok_iff.mpr ⟨_, rfl, mapM_templateOfRow overlap.templates⟩
      rw [hrows, advance, hread]
      exact .lists _
  | finding active split got =>
      rw [talk] at asking
      cases asking
      refine ⟨_, rfl, ?_⟩
      have hexecutes := executes
      rw [command_find] at hexecutes
      obtain _ | ⟨_, affected, yields⟩ := hexecutes
      rcases search_cases yields fun record h => (serves.plain_visible record h).numbered with
        ⟨rfl, missing⟩ | ⟨grant, rest, rfl, filled⟩
      · exact .misses missing
      · exact .finds ⟨rfl, filled⟩
  | storing active split got =>
      rw [talk] at asking
      cases asking
      refine ⟨_, rfl, ?_⟩
      have htemplate : _ ∈ overlap.templates := split ▸ List.mem_append_cons_self
      obtain ⟨written, hactive, hcases⟩ := executes_store executes serves.plain_visible
        (founded.template_row serves htemplate)
      rcases hcases with ⟨record, grant, hfills, hid, _, rfl, rfl⟩ |
        ⟨⟨record, hrecord, hfills⟩, ⟨text, rfl⟩, rfl⟩
      · have hnumber : record "id" = .int (RowId.mk grant : GrantId).value := hid
        exact .stores hactive hfills hnumber
      · exact .loses hrecord hfills
  | linking active split got gets =>
      rw [talk] at asking
      cases asking
      refine ⟨_, rfl, ?_⟩
      obtain ⟨record, hrecord, _, hid⟩ := gets.filled
      obtain ⟨written, hactive, reply, rfl, hcases⟩ := executes_link executes
        (founded.owner_row serves) ⟨record, hrecord, hid⟩
      rcases hcases with rfl | ⟨link, hlinked, rfl⟩
      · exact .relinks reply
      · exact .links hactive hlinked
  | committing active got =>
      rw [talk] at asking
      cases asking
      refine ⟨_, rfl, ?_⟩
      cases executes with
      | commit _ reply => exact .commits reply
  | undoing failed =>
      rw [talk] at asking
      cases asking
      cases executes
      exact ⟨.ended _, by rw [talk], .undoes _⟩
  | succeeded =>
      rw [talk] at asking
      cases asking
  | refused =>
      rw [talk] at asking
      cases asking

end Moving

end Overlap

end AccessGrants.Database

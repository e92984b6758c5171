import AccessGrants.Database.Writing
import AccessGrants.Proofs.Dialogue

/-!
Provisioning over a database, step by step. A step is a statement of the
transaction together with what its reply is read as; the stage that a reply
leads to is known from the grants that are done and the templates that are left.
The stages and the dialogue that the program holds are one and the same, so
whatever a partner answers, and whatever happens between two statements, can be
followed from stage to stage.
-/

namespace AccessGrants.Database

open Sql

/-- What a provisioning is for. -/
structure Provisioning where
  kind : InstanceKind
  id : InstanceId
  owner : ActorId
  deriving DecidableEq, Repr

namespace Provisioning

/-- A statement of the transaction; the rollback of one that failed is none. -/
inductive Step where
  | begin
  /-- The default templates of the kind. -/
  | list
  /-- The grant that a template has for the instance, if there is one. -/
  | find (template : Template)
  | store (template : Template)
  /-- The owner gets the grant. -/
  | link (grant : Grant)
  | commit
  deriving DecidableEq, Repr

/-- What the reply to a step is read as. -/
abbrev Step.Result : Step → Type
  | .begin | .link _ | .commit => Unit
  | .list => List Template
  | .find _ => Option Grant
  | .store _ => Grant

abbrev Answer : Type := Except DatabaseError Reply

variable (order : Provisioning)

def scope : Scope := .composite order.id

/-- The columns of the grant of a template for the instance. -/
def key (template : Template) : List Value :=
  [.int template.id.value, .bool false, .int order.id.client, .int order.id.object]

def command : Step → Command
  | .begin => ⟨.beginTransaction, []⟩
  | .list => ⟨defaultTemplates order.kind, []⟩
  | .find template => ⟨grantByScope, order.key template⟩
  | .store template => ⟨insertGrant, order.key template⟩
  | .link grant => ⟨insertActorGrant, [.int order.owner.value, .int grant.id.value]⟩
  | .commit => ⟨.commit, []⟩

def grantOfRow (template : Template) (row : Row) : Except DatabaseError Grant := do
  return Grant.ofTemplate (← rowId .grant row 0) template order.scope

/-- What a reply says, before an error is one of the store. -/
def decode : (step : Step) → Reply → Except DatabaseError step.Result
  | .begin | .link _ | .commit => fun _ => .ok ()
  | .list => Reply.all templateOfRow
  | .find template => Reply.first? (order.grantOfRow template)
  | .store template => Reply.first (order.grantOfRow template)

/-- What an insertion is of, for the error that says that it was refused. -/
def inserted? : Step → Option String
  | .store template => some ("grant of " ++ template.id.label)
  | .link grant => some (grant.id.label ++ " or " ++ order.owner.label)
  | _ => none

def wrap (step : Step) : DatabaseError → StorageError :=
  match order.inserted? step with
  | some what => .ofInsertion what
  | none => .ofDatabase

/-- The value or the error that the answer to a step stands for. -/
def read (step : Step) (answer : Answer) : Except StorageError step.Result :=
  (answer.bind (order.decode step)).mapError (order.wrap step)

/-- Where a provisioning stands between two statements: what it asks next, with
the grants that are done and the templates that are left. -/
inductive Stage where
  | asking (step : Step) (done : List Grant) (left : List Template)
  | undoing (error : StorageError)
  | ended (result : Except StorageError (List Grant))

/-- The next template is looked at, and after the last one all is committed. -/
def turn (done : List Grant) : List Template → Stage
  | [] => .asking .commit done []
  | template :: left => .asking (.find template) done left

/-- What follows a step that succeeded. -/
def Step.then : (step : Step) → step.Result → List Grant → List Template → Stage
  | .begin, _, done, left => .asking .list done left
  | .list, templates, done, _ => turn done templates
  | .find _, some grant, done, left => .asking (.link grant) done left
  | .find template, none, done, left => .asking (.store template) done left
  | .store _, grant, done, left => .asking (.link grant) done left
  | .link grant, _, done, left => turn (done ++ [grant]) left
  | .commit, _, done, _ => .ended (.ok done)

/-- What follows a step that failed: a transaction that has begun is undone. -/
def Step.fail (step : Step) (error : StorageError) : Stage :=
  if step = .begin then .ended (.error error) else .undoing error

def advance (step : Step) (done : List Grant) (left : List Template) (answer : Answer) : Stage :=
  match order.read step answer with
  | .ok result => step.then result done left
  | .error error => step.fail error

theorem advance_of_ok {step : Step} {done : List Grant} {left : List Template} {answer : Answer}
    {result : step.Result} (h : order.read step answer = .ok result) :
    order.advance step done left answer = step.then result done left := by
  rw [advance, h]

namespace Stage

/-- How many statements may still follow; before the listing there is no bound. -/
def measure : Stage → Nat × Nat
  | .asking .begin _ _ => (2, 0)
  | .asking .list _ _ => (1, 0)
  | .asking (.find _) _ left => (0, 3 * left.length + 5)
  | .asking (.store _) _ left => (0, 3 * left.length + 4)
  | .asking (.link _) _ left => (0, 3 * left.length + 3)
  | .asking .commit _ _ => (0, 2)
  | .undoing _ => (0, 1)
  | .ended _ => (0, 0)

end Stage

theorem measure_turn (done : List Grant) (templates : List Template) :
    (turn done templates).measure = (0, 3 * templates.length + 2) := by
  cases templates with
  | nil => rfl
  | cons template left => rfl

/-- One stage comes after another: fewer statements may follow it. -/
def Stage.After (later earlier : Stage) : Prop :=
  Prod.Lex (· < ·) (· < ·) later.measure earlier.measure

theorem then_after (step : Step) (result : step.Result) (done : List Grant)
    (left : List Template) : (step.then result done left).After (.asking step done left) := by
  cases step with
  | begin => exact .left _ _ (by decide)
  | list =>
      rw [Stage.After, Step.then, measure_turn]
      exact .left _ _ (by decide)
  | find template =>
      cases result with
      | none => exact .right _ (by omega)
      | some grant => exact .right _ (by omega)
  | store template => exact .right _ (by omega)
  | link grant =>
      rw [Stage.After, Step.then, measure_turn]
      exact .right _ (by omega)
  | commit => exact .right _ (by decide)

theorem fail_after (step : Step) (error : StorageError) (done : List Grant)
    (left : List Template) : (step.fail error).After (.asking step done left) := by
  cases step with
  | begin => exact .left _ _ (by decide)
  | list => exact .left _ _ (by decide)
  | commit => exact .right _ (by decide)
  | _ => exact .right _ (by omega)

theorem advance_after (step : Step) (done : List Grant) (left : List Template)
    (answer : Answer) : (order.advance step done left answer).After (.asking step done left) := by
  unfold advance
  split
  · exact then_after step _ done left
  · exact fail_after step _ done left

/-- What the program says from a stage on. -/
def talk : Stage → Dialogue Command Command.Answer (Except StorageError (List Grant))
  | .asking step done left => .ask (order.command step) fun answer =>
    talk (order.advance step done left answer)
  | .undoing error => .ask ⟨.rollBack, []⟩ fun _ => .done (.error error)
  | .ended result => .done result
termination_by stage => stage.measure
decreasing_by exact order.advance_after step done left answer

section Program

/-- A step as a call of its own. -/
def call (step : Step) : Access step.Result :=
  ExceptT.mk (.ask (order.command step) fun answer => .done (order.read step answer))

/-- The templates that are left, for a list that has begun. -/
def attachLeft (done : List Grant) (left : List Template) : Access (List Grant) := do
  let later ← left.mapM (attachTemplate order.scope order.owner)
  return done ++ later

/-- The end of a transaction, whether its statements succeeded or not. -/
def close : Except StorageError (List Grant) →
    Dialogue Command Command.Answer (Except StorageError (List Grant))
  | .error error => order.talk (.undoing error)
  | .ok grants => order.talk (.asking .commit grants [])

variable {α : Type}

theorem call_bind_close (step : Step) (next : step.Result → Access (List Grant)) :
    (order.call step >>= next).run >>= order.close =
      .ask (order.command step) fun answer =>
        match order.read step answer with
        | .ok result => (next result).run >>= order.close
        | .error error => order.close (.error error) := by
  have hrest (result : Except StorageError step.Result) :
      ExceptT.bindCont next result >>= order.close =
        match result with
        | .ok result => (next result).run >>= order.close
        | .error error => order.close (.error error) := by
    cases result with
    | ok result => rfl
    | error error => rfl
  exact congrArg (Dialogue.ask _) (funext fun answer => hrest _)

theorem attachTemplate_eq_calls (template : Template) :
    attachTemplate order.scope order.owner template = do
      let found ← order.call (.find template)
      let grant ←
        match found with
        | some grant => pure grant
        | none => order.call (.store template)
      order.call (.link grant)
      return grant := by
  refine congrArg (fun rest => order.call (.find template) >>= rest) (funext fun found => ?_)
  cases found with
  | none => rfl
  | some grant => rfl

theorem attachLeft_cons (done : List Grant) (template : Template) (left : List Template) :
    order.attachLeft done (template :: left) =
      attachTemplate order.scope order.owner template >>= fun grant =>
        order.attachLeft (done ++ [grant]) left := by
  simp [attachLeft, List.mapM_cons]

/-- A step of the transaction, as it is asked and as its reply is used. -/
theorem talk_asking (step : Step) (done : List Grant) (left : List Template) :
    order.talk (.asking step done left) =
      .ask (order.command step) fun answer =>
        match order.read step answer with
        | .ok result => order.talk (step.then result done left)
        | .error error => order.talk (step.fail error) := by
  rw [talk]
  refine congrArg (Dialogue.ask _) (funext fun answer => ?_)
  unfold advance
  cases order.read step answer with
  | ok result => rfl
  | error error => rfl

theorem attachLeft_bind_close (done : List Grant) (left : List Template) :
    (order.attachLeft done left).run >>= order.close = order.talk (turn done left) := by
  induction left generalizing done with
  | nil => simp [attachLeft, close, turn]
  | cons template left ih =>
      have hlink (grant : Grant) :
          (order.call (.link grant) >>= fun _ => order.attachLeft (done ++ [grant]) left).run >>=
              order.close =
            order.talk (.asking (.link grant) done left) := by
        rw [call_bind_close, talk_asking]
        simp only [ih]
        rfl
      have hstore : (order.call (.store template) >>= fun grant => order.call (.link grant) >>=
          fun _ => order.attachLeft (done ++ [grant]) left).run >>= order.close =
            order.talk (.asking (.store template) done left) := by
        rw [call_bind_close, talk_asking]
        simp only [hlink]
        rfl
      rw [attachLeft_cons, attachTemplate_eq_calls, bind_assoc, call_bind_close, turn, talk_asking]
      refine congrArg (Dialogue.ask _) (funext fun answer => ?_)
      cases order.read (.find template) answer with
      | error error => rfl
      | ok found =>
          cases found with
          | none => simpa [bind_assoc, Step.then] using hstore
          | some grant => simpa [bind_assoc, Step.then] using hlink grant

/-- The program is the dialogue of the first stage. -/
theorem write_provisionDefaults :
    (write (.provisionDefaults order.kind order.id order.owner)).run =
      order.talk (.asking .begin [] []) := by
  have hbody : attachDefaults order.kind order.id order.owner =
      order.call .list >>= fun templates => order.attachLeft [] templates := by
    simp [attachLeft, attachDefaults]
    rfl
  have hlist : (attachDefaults order.kind order.id order.owner).run >>= order.close =
      order.talk (.asking .list [] []) := by
    rw [hbody, call_bind_close, talk_asking]
    simp only [attachLeft_bind_close]
    rfl
  rw [talk_asking]
  refine congrArg (Dialogue.ask _) (funext fun answer => ?_)
  cases answer with
  | error error =>
      change Dialogue.done (.error (.ofDatabase error)) = order.talk (.ended _)
      rw [talk]
      rfl
  | ok reply =>
      refine Eq.trans ?_ hlist
      refine congrArg (Dialogue.bind (attachDefaults order.kind order.id order.owner).run)
        (funext fun outcome => ?_)
      cases outcome with
      | error error =>
          rw [close, talk]
          rfl
      | ok grants =>
          rw [close, talk_asking]
          refine congrArg (Dialogue.ask _) (funext fun answer => ?_)
          cases answer with
          | error error =>
              change Dialogue.ask _ _ = order.talk (.undoing _)
              rw [talk]
              rfl
          | ok reply =>
              change Dialogue.done _ = order.talk (.ended _)
              rw [talk]

end Program

end Provisioning

end AccessGrants.Database

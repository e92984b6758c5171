import AccessGrants.Event

/-!
Dialogues: computations that put questions to a partner outside themselves and
report log events on the way. A dialogue is data, so the same definition runs
against a store in memory, a store that fails, a store that others write to
between two questions, or a database that answers from a script.
-/

namespace AccessGrants

/-- A computation of an `α` that asks questions from `Q`; `A q` is the type of
the answers to `q`. -/
inductive Dialogue (Q : Type) (A : Q → Type) (α : Type) : Type where
  | done (result : α)
  | report (event : Event) (rest : Dialogue Q A α)
  | ask (question : Q) (next : A question → Dialogue Q A α)

namespace Dialogue

variable {Q : Type} {A : Q → Type} {α β σ : Type}

def bind (first : Dialogue Q A α) (next : α → Dialogue Q A β) : Dialogue Q A β :=
  match first with
  | .done result => next result
  | .report event rest => .report event (rest.bind next)
  | .ask question answered => .ask question fun answer => (answered answer).bind next

instance : Monad (Dialogue Q A) where
  pure := .done
  bind := bind

@[simp] theorem bind_done (result : α) (next : α → Dialogue Q A β) :
    (done result : Dialogue Q A α) >>= next = next result := rfl

@[simp] theorem bind_report (event : Event) (rest : Dialogue Q A α) (next : α → Dialogue Q A β) :
    report event rest >>= next = report event (rest >>= next) := rfl

@[simp] theorem bind_ask (question : Q) (answered : A question → Dialogue Q A α)
    (next : α → Dialogue Q A β) :
    ask question answered >>= next = ask question fun answer => answered answer >>= next := rfl

@[simp] theorem pure_eq_done (result : α) : (pure result : Dialogue Q A α) = done result := rfl

private theorem bind_done_right (d : Dialogue Q A α) : d.bind done = d := by
  induction d with
  | done result => rfl
  | report event rest ih => simp [bind, ih]
  | ask question next ih => simp [bind, ih]

private theorem bind_bind {γ : Type} (d : Dialogue Q A α) (f : α → Dialogue Q A β)
    (g : β → Dialogue Q A γ) : (d.bind f).bind g = d.bind fun a => (f a).bind g := by
  induction d with
  | done result => rfl
  | report event rest ih => simp [bind, ih]
  | ask question next ih => simp [bind, ih]

instance : LawfulMonad (Dialogue Q A) :=
  LawfulMonad.mk' (Dialogue Q A) bind_done_right (fun _ _ => rfl) bind_bind

def emit (event : Event) : Dialogue Q A Unit :=
  .report event (.done ())

/-- Puts each question of a dialogue to a partner that works in `m`. -/
def runM {m : Type → Type} [Monad m] (answer : (q : Q) → m (A q)) (log : Event → m Unit) :
    Dialogue Q A α → m α
  | .done result => pure result
  | .report event rest => do
    log event
    rest.runM answer log
  | .ask question next => do
    let given ← answer question
    (next given).runM answer log

/-- What a run leaves: the result, the events in order and the partner's state. -/
structure Run (α σ : Type) where
  result : α
  events : List Event
  state : σ

/-- Puts each question to a partner with a state. -/
def run (answer : (q : Q) → σ → A q × σ) : Dialogue Q A α → σ → Run α σ
  | .done result, state => ⟨result, [], state⟩
  | .report event rest, state =>
    let after := rest.run answer state
    ⟨after.result, event :: after.events, after.state⟩
  | .ask question next, state =>
    let (given, state) := answer question state
    (next given).run answer state

/-- Replaces every question by a dialogue with another partner. -/
def relay {R : Type} {B : R → Type} (answer : (q : Q) → Dialogue R B (A q)) :
    Dialogue Q A α → Dialogue R B α
  | .done result => .done result
  | .report event rest => .report event (rest.relay answer)
  | .ask question next => (answer question).bind fun given => (next given).relay answer

end Dialogue

end AccessGrants

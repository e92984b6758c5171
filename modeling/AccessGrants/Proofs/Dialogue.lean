import AccessGrants.Dialogue

/-!
What a dialogue leaves behind, whoever its partner is: a result, the audit
trail, the questions with the answers that they got, and the partner's state.
A dialogue that goes on leaves what its parts leave, one after the other, and a
call that fails keeps what follows it from being asked.
-/

namespace AccessGrants

/-- A question together with the answer that it got. -/
structure Exchange {Q : Type} (A : Q → Type) where
  question : Q
  answer : A question

/-- What is left of a run: its events are kept as far as they are audited. -/
structure Transcript {Q : Type} (A : Q → Type) (α σ : Type) where
  result : α
  audit : List Event
  asked : List (Exchange A)
  left : σ

variable {Q : Type} {A : Q → Type} {α β ε σ : Type}

/-- One run after the other: the second has the result. -/
def Transcript.followed (first : Transcript A α σ) (rest : Transcript A β σ) :
    Transcript A β σ :=
  ⟨rest.result, first.audit ++ rest.audit, first.asked ++ rest.asked, rest.left⟩

namespace Dialogue

/-- The questions that a run comes to, in order. -/
def exchanges (answer : (q : Q) → σ → A q × σ) : Dialogue Q A α → σ → List (Exchange A)
  | .done _, _ => []
  | .report _ rest, state => rest.exchanges answer state
  | .ask question next, state =>
    let (given, state) := answer question state
    ⟨question, given⟩ :: (next given).exchanges answer state

def transcript (answer : (q : Q) → σ → A q × σ) (d : Dialogue Q A α) (state : σ) :
    Transcript A α σ :=
  let run := d.run answer state
  ⟨run.result, run.events.filter Event.isAudit, d.exchanges answer state, run.state⟩

variable {answer : (q : Q) → σ → A q × σ} {state : σ}

theorem transcript_of_result {d : Dialogue Q A α} {result : α}
    (h : (d.run answer state).result = result) :
    d.transcript answer state =
      ⟨result, (d.run answer state).events.filter Event.isAudit, d.exchanges answer state,
        (d.run answer state).state⟩ := by
  rw [← h]
  rfl

theorem transcript_done (result : α) :
    (done result : Dialogue Q A α).transcript answer state = ⟨result, [], [], state⟩ := rfl

theorem transcript_report (event : Event) (rest : Dialogue Q A α) :
    (report event rest).transcript answer state =
      { rest.transcript answer state with
        audit := [event].filter Event.isAudit ++ (rest.transcript answer state).audit } := by
  simp only [transcript, run, exchanges, ← List.filter_append, List.singleton_append]

theorem transcript_report_silent {event : Event} {rest : Dialogue Q A α}
    (silent : event.isAudit = false) :
    (report event rest).transcript answer state = rest.transcript answer state := by
  simp [transcript_report, silent]

theorem transcript_ask {question : Q} {next : A question → Dialogue Q A α} :
    (ask question next).transcript answer state =
      let (given, left) := answer question state
      let rest := (next given).transcript answer left
      { rest with asked := ⟨question, given⟩ :: rest.asked } := rfl

theorem transcript_bind (d : Dialogue Q A α) (next : α → Dialogue Q A β) :
    (d >>= next).transcript answer state =
      (d.transcript answer state).followed
        ((next (d.transcript answer state).result).transcript answer
          (d.transcript answer state).left) := by
  induction d generalizing state with
  | done result => rfl
  | report event rest ih =>
      rw [bind_report, transcript_report, transcript_report, ih]
      simp only [Transcript.followed, List.append_assoc]
  | ask question answered ih =>
      simp only [bind_ask, transcript_ask, ih]
      rfl

theorem transcript_map {d : Dialogue Q A α} {result : α} {audit : List Event}
    {asked : List (Exchange A)} {left : σ} (f : α → β)
    (h : d.transcript answer state = ⟨result, audit, asked, left⟩) :
    (f <$> d).transcript answer state = ⟨f result, audit, asked, left⟩ := by
  rw [← bind_pure_comp, transcript_bind, h]
  simp [Transcript.followed, transcript_done]

/-- A partner that holds a dialogue of its own with another one to find each answer. -/
def through {R : Type} {B : R → Type} (answer : (r : R) → σ → B r × σ)
    (inner : (q : Q) → Dialogue R B (A q)) (question : Q) (state : σ) : A question × σ :=
  let run := (inner question).run answer state
  (run.result, run.state)

/-- To replace the questions by dialogues is to put them to such a partner. -/
theorem run_relay {R : Type} {B : R → Type} (answer : (r : R) → σ → B r × σ)
    (inner : (q : Q) → Dialogue R B (A q)) (d : Dialogue Q A α) (state : σ) :
    ((d.relay inner).run answer state).result = (d.run (through answer inner) state).result := by
  induction d generalizing state with
  | done result => rfl
  | report event rest ih => exact ih state
  | ask question next ih =>
      have hgoes_on : (inner question >>= fun given => (next given).relay inner).transcript
          answer state = _ :=
        transcript_bind (inner question) fun given => (next given).relay inner
      exact (congrArg Transcript.result hgoes_on).trans (ih _ _)

section Calls

variable {call : ExceptT ε (Dialogue Q A) α} {next : α → ExceptT ε (Dialogue Q A) β}
  {audit : List Event} {asked : List (Exchange A)} {left : σ}

/-- A call that answers hands its value to what follows it. -/
theorem transcript_call_bind {value : α}
    (h : call.run.transcript answer state = ⟨.ok value, audit, asked, left⟩) :
    (call >>= next).run.transcript answer state =
      Transcript.followed ⟨value, audit, asked, left⟩
        ((next value).run.transcript answer left) := by
  rw [ExceptT.run_bind, transcript_bind, h]
  rfl

/-- After a call that fails nothing more is asked and nothing more is audited. -/
theorem transcript_call_bind_error {error : ε}
    (h : call.run.transcript answer state = ⟨.error error, audit, asked, left⟩) :
    (call >>= next).run.transcript answer state = ⟨.error error, audit, asked, left⟩ := by
  rw [ExceptT.run_bind, transcript_bind, h]
  simp [Transcript.followed, transcript_done]

theorem result_call_bind {value : α} (h : (call.run.run answer state).result = .ok value) :
    ((call >>= next).run.run answer state).result =
      ((next value).run.run answer (call.run.run answer state).state).result :=
  congrArg Transcript.result (transcript_call_bind (transcript_of_result h))

end Calls

end Dialogue

end AccessGrants

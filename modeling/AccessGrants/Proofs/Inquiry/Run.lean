import AccessGrants.Proofs.Store.Consultation

/-!
What an inquiry leaves of a run, every event of its log included. The parts of a
call log one after the other. Over a store that nobody writes to a read logs
nothing and leaves the store as it is.
-/

namespace AccessGrants

namespace Dialogue

variable {Q : Type} {A : Q → Type} {α β ε σ : Type} {answer : (q : Q) → σ → A q × σ}
  {state left : σ} {events : List Event}

/-- The run of what follows, with what was logged before it. -/
def Run.after (rest : Run α σ) (events : List Event) : Run α σ :=
  { rest with events := events ++ rest.events }

theorem Run.after_after (rest : Run α σ) (first second : List Event) :
    (rest.after second).after first = rest.after (first ++ second) := by
  simp only [Run.after, List.append_assoc]

theorem run_bind (d : Dialogue Q A α) (next : α → Dialogue Q A β) :
    (d >>= next).run answer state =
      ((next (d.run answer state).result).run answer (d.run answer state).state).after
        (d.run answer state).events := by
  induction d generalizing state with
  | done result => rfl
  | report event rest ih =>
      have hrest : (report event (rest >>= next)).run answer state =
          ((rest >>= next).run answer state).after [event] := rfl
      rw [bind_report, hrest, ih, Run.after_after]
      rfl
  | ask question answered ih => exact ih _

/-- A call that answers hands its value to what follows it. -/
theorem run_call_bind {call : ExceptT ε (Dialogue Q A) α} {value : α}
    (next : α → ExceptT ε (Dialogue Q A) β)
    (h : call.run.run answer state = ⟨.ok value, events, left⟩) :
    (call >>= next).run.run answer state = ((next value).run.run answer left).after events := by
  rw [ExceptT.run_bind, run_bind, h]

end Dialogue

namespace Store

variable {β : Type} (store : Store)

theorem run_read (question : Read) :
    (Inquiry.read question).run.run still store = ⟨.ok (store.read question), [], store⟩ := rfl

theorem run_readThen (question : Read) (next : question.Result → Inquiry β) :
    (Inquiry.read question >>= next).run.run still store =
      (next (store.read question)).run.run still store :=
  Dialogue.run_call_bind next (store.run_read question)

end Store

end AccessGrants

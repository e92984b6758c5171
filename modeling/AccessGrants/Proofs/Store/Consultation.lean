import AccessGrants.Inquiry
import AccessGrants.Store.Reading

/-!
Consulting a store: a dialogue whose questions are all answered from one state.
Such a store refuses nothing, so a call made of reads and reports arrives at a
value. The reads of the direct evaluator have their spec lemmas here, and a call
is taken apart at its binds; no later proof opens a dialogue.
-/

namespace AccessGrants.Store

/-- A partner that nobody writes to between two questions. -/
def still (question : Read) (store : Store) : question.Answer × Store :=
  (store.answer question, store)

/-- What a dialogue arrives at over a store that nobody writes to. -/
def consult {α : Type} (store : Store) (dialogue : Dialogue Read Read.Answer α) : α :=
  (dialogue.run still store).result

/-- The call answers, whatever its partner holds, and allows exactly if `P`. -/
def Decides {ε : Type} (store : Store) (call : ExceptT ε (Dialogue Read Read.Answer) Bool)
    (P : Prop) : Prop :=
  ∃ allowed, store.consult call.run = .ok allowed ∧ (allowed = true ↔ P)

variable {α β ε : Type} (store : Store)

/-- A partner that holds no state and answers from this store. -/
def constant (question : Read) (_ : Unit) : question.Answer × Unit :=
  (store.answer question, ())

theorem consult_eq_run (dialogue : Dialogue Read Read.Answer α) :
    store.consult dialogue = (dialogue.run store.constant ()).result := by
  induction dialogue with
  | done result => rfl
  | report event rest ih => exact ih
  | ask question next ih => exact ih _

theorem consult_bind (first : Dialogue Read Read.Answer α)
    (next : α → Dialogue Read Read.Answer β) :
    store.consult (first >>= next) = store.consult (next (store.consult first)) := by
  induction first with
  | done result => rfl
  | report event rest ih => exact ih
  | ask question answered ih => exact ih (store.answer question)

theorem consult_map (f : α → β) (dialogue : Dialogue Read Read.Answer α) :
    store.consult (f <$> dialogue) = f (store.consult dialogue) := by
  rw [← bind_pure_comp, consult_bind]
  rfl

/-- A call that answers hands its value to what follows it. -/
theorem consult_call_bind {call : ExceptT ε (Dialogue Read Read.Answer) α} {value : α}
    (next : α → ExceptT ε (Dialogue Read Read.Answer) β)
    (h : store.consult call.run = .ok value) :
    store.consult (call >>= next).run = store.consult (next value).run := by
  rw [ExceptT.run_bind, consult_bind, h]

theorem consult_actorForSession (session : SessionId) :
    store.consult (Inquiry.actorForSession session).run =
      .ok (store.actorForSession session) := rfl

theorem consult_grantExistsForActor (query : GrantQuery) (actor : ActorId) :
    store.consult (Inquiry.grantExistsForActor query actor).run =
      .ok (store.grantExistsForActor query actor) := rfl

theorem consult_grantExistsForOrganizations (query : GrantQuery) (actor : ActorId) :
    store.consult (Inquiry.grantExistsForOrganizations query actor).run =
      .ok (store.grantExistsForOrganizations query actor) := rfl

theorem consult_visibility (id : InstanceId) :
    store.consult (Inquiry.visibility id).run = .ok (store.visibility.get? id) := rfl

end AccessGrants.Store

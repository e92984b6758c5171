import AccessGrants.Evaluator.Direct
import AccessGrants.Evaluator.General
import AccessGrants.Proofs.Dialogue

/-!
How the evaluators ask. Their inquiries are orderly: the reads come in stages,
none of them twice, no event of the audit trail is reported on the way, and a
read that is refused ends the inquiry with the wording of the refusal. The
evaluators are walked through once, here; what an orderly inquiry leaves with a
partner, and what it makes of a store that changes meanwhile, follows from it.
-/

namespace AccessGrants

namespace Exchange

/-- The read was answered, and not refused. -/
def Answered (exchange : Exchange Read.Answer) : Prop :=
  ∃ value, exchange.answer = .ok value

/-- The read was refused. -/
def Failed (exchange : Exchange Read.Answer) : Prop :=
  ∃ error, exchange.answer = .error error

theorem Answered.not_failed {exchange : Exchange Read.Answer} (h : exchange.Answered) :
    ¬ exchange.Failed := by
  obtain ⟨value, hvalue⟩ := h
  rintro ⟨error, herror⟩
  rw [hvalue] at herror
  cases herror

end Exchange

namespace Inquiry

/-- An inquiry that asks at the stages from `first` on, before `last`. -/
inductive Orderly {α : Type} (stage : Read → Nat) (last : Nat) :
    Nat → Dialogue Read Read.Answer (Except CheckError α) → Prop where
  | answered {first : Nat} (value : α) (within : first ≤ last) :
      Orderly stage last first (.done (.ok value))
  | reports {first : Nat} {event : Event}
      {rest : Dialogue Read Read.Answer (Except CheckError α)}
      (silent : event.isAudit = false) (h : Orderly stage last first rest) :
      Orderly stage last first (.report event rest)
  /-- What comes after an answer is asked at a later stage. -/
  | asks {first : Nat} {question : Read}
      {next : question.Answer → Dialogue Read Read.Answer (Except CheckError α)}
      (after : first ≤ stage question) (before : stage question < last)
      (refused : ∀ error, next (.error error) = .done (.error (.ofStorage error)))
      (h : ∀ value, Orderly stage last (stage question + 1) (next (.ok value))) :
      Orderly stage last first (.ask question next)

namespace Orderly

variable {α β : Type} {stage : Read → Nat} {first middle last : Nat}

theorem mono {d : Dialogue Read Read.Answer (Except CheckError α)} {first' last' : Nat}
    (h : Orderly stage last first d) (hfirst : first' ≤ first) (hlast : last ≤ last') :
    Orderly stage last' first' d := by
  induction h generalizing first' with
  | answered value within => exact .answered value (by omega)
  | reports silent _ ih => exact .reports silent (ih hfirst)
  | asks after before refused _ ih =>
      exact .asks (by omega) (by omega) refused fun value => ih value (Nat.le_refl _)

theorem pure (value : α) (within : first ≤ last) :
    Orderly stage last first (pure value : Inquiry α).run :=
  .answered value within

theorem read {question : Read} (number : Nat) (h : stage question = number)
    (after : first ≤ number) (before : number < last) :
    Orderly stage last first (Inquiry.read question).run := by
  subst h
  exact .asks after before (fun _ => rfl) fun value => .answered value before

/-- One inquiry after the other, if the second asks at later stages. -/
theorem bind {call : Inquiry α} {next : α → Inquiry β} (within : middle ≤ last)
    (h : Orderly stage middle first call.run)
    (hnext : ∀ value, Orderly stage last middle (next value).run) :
    Orderly stage last first (call >>= next).run := by
  rw [ExceptT.run_bind]
  generalize call.run = d at h ⊢
  induction h with
  | answered value hfirst => exact (hnext value).mono hfirst (Nat.le_refl _)
  | reports silent _ ih => exact .reports silent ih
  | asks after before refused _ ih =>
      refine .asks after (by omega) ?_ ih
      intro error
      rw [refused]
      rfl

theorem readThen {question : Read} {next : question.Result → Inquiry β} (number : Nat)
    (h : stage question = number) (after : first ≤ number) (before : number < last)
    (hnext : ∀ value, Orderly stage last (number + 1) (next value).run) :
    Orderly stage last first (Inquiry.read question >>= next).run :=
  .bind before (.read number h after (Nat.lt_succ_self number)) hnext

theorem reportThen {event : Event} {next : Unit → Inquiry β} (silent : event.isAudit = false)
    (hnext : Orderly stage last first (next ()).run) :
    Orderly stage last first (Inquiry.report event >>= next).run :=
  .reports silent hnext

end Orderly

/-- What an inquiry leaves that is conducted in order: an audit trail without an
event, and a value after answers only or, where the last read was refused, the
wording of the refusal. -/
inductive Conducted {α σ : Type} : Transcript Read.Answer (Except CheckError α) σ → Prop where
  | answered {value : α} {asked : List (Exchange Read.Answer)} {left : σ}
      (answers : ∀ exchange ∈ asked, exchange.Answered) :
      Conducted ⟨.ok value, [], asked, left⟩
  | refused {before : List (Exchange Read.Answer)} {left : σ} (question : Read)
      (error : StorageError) (answers : ∀ exchange ∈ before, exchange.Answered) :
      Conducted
        ⟨.error (.ofStorage error), [], before ++ [⟨question, .error error⟩], left⟩

theorem Conducted.cons {α σ : Type} {rest : Transcript Read.Answer (Except CheckError α) σ}
    {exchange : Exchange Read.Answer} (h : Conducted rest) (answered : exchange.Answered) :
    Conducted { rest with asked := exchange :: rest.asked } := by
  cases h with
  | answered answers => exact .answered (List.forall_mem_cons.mpr ⟨answered, answers⟩)
  | refused question error answers =>
      simp only [← List.cons_append]
      exact .refused question error (List.forall_mem_cons.mpr ⟨answered, answers⟩)

/-- Whoever answers an orderly inquiry, it is conducted in order. -/
theorem Orderly.conducted {α σ : Type} {stage : Read → Nat} {first last : Nat}
    {d : Dialogue Read Read.Answer (Except CheckError α)} (h : Orderly stage last first d)
    (answer : (read : Read) → σ → read.Answer × σ) (state : σ) :
    Conducted (d.transcript answer state) := by
  induction h generalizing state with
  | answered value within => exact .answered fun _ hmem => absurd hmem List.not_mem_nil
  | reports silent _ ih =>
      rw [Dialogue.transcript_report_silent silent]
      exact ih state
  | @asks first question next after before refused _ ih =>
      -- The run goes on with the answer, so it is split by what the answer is.
      rw [Dialogue.transcript_ask]
      cases answer question state with
      | mk given left =>
          cases given with
          | ok value => exact (ih value left).cons ⟨value, rfl⟩
          | error error =>
              simp only [refused error]
              exact Conducted.refused question error fun _ hmem => absurd hmem List.not_mem_nil

end Inquiry

open Inquiry (Orderly)

namespace General

/-- The caller, its own grants, those of its organizations, the state of the
target, the stored grants. -/
def stage : Read → Nat
  | .actorForSession _ => 0
  | .actorGrants _ _ => 1
  | .organizationGrants _ _ => 2
  | .visibility _ => 3
  | .subjectGrants _ _ => 4
  | _ => 5

theorem orderly_resolve (session : Option SessionId) (subject : String) :
    Orderly stage 3 0 (Principal.resolve session (some subject)).run := by
  cases session with
  | none => exact .pure _ (by omega)
  | some session =>
      apply Orderly.readThen 0 rfl (by omega) (by omega)
      rintro (_ | actor)
      · exact .reportThen rfl (.pure _ (by omega))
      · apply Orderly.readThen 1 rfl (by omega) (by omega)
        intro direct
        apply Orderly.readThen 2 rfl (by omega) (by omega)
        intro inherited
        exact .reportThen rfl (.pure _ (by omega))

theorem orderly_visibilityEntries (policy : Policy) (subject : String) (target : Target) :
    Orderly stage 4 3 (Acl.visibilityEntries policy subject target).run := by
  cases target with
  | creation => exact .pure _ (by omega)
  | single object => exact .pure _ (by omega)
  | composite id =>
      simp only [Acl.visibilityEntries]
      split
      · exact .pure _ (by omega)
      · apply Orderly.readThen 3 rfl (by omega) (by omega)
        intro state
        split
        · exact .pure _ (Nat.le_refl _)
        · exact .pure _ (Nat.le_refl _)

theorem orderly_decide (held : PrincipalSet) (action : String) (acl : List Acl.Entry) :
    Orderly stage 5 5 (decide held action acl).run := by
  unfold decide
  cases Acl.decisive? held action acl with
  | none => exact .pure _ (Nat.le_refl _)
  | some entry => exact .reportThen rfl (.pure _ (Nat.le_refl _))

theorem orderly_check (policy : Policy) (request : Request) :
    Orderly stage 5 0 (check policy request).run := by
  apply Orderly.bind (by omega : 3 ≤ 5) (orderly_resolve _ _)
  intro resolution
  apply Orderly.bind (Nat.le_refl 5)
  · apply Orderly.bind (by omega : 4 ≤ 5) (orderly_visibilityEntries _ _ _)
    intro reading
    apply Orderly.readThen 4 rfl (by omega) (by omega)
    intro grants
    exact .pure _ (Nat.le_refl _)
  · intro acl
    exact orderly_decide _ _ _

end General

namespace Direct

/-- The caller, the state of the target, a grant of its own, a grant of an
organization. -/
def stage : Read → Nat
  | .actorForSession _ => 0
  | .visibility _ => 1
  | .grantExistsForActor _ _ => 2
  | .grantExistsForOrganizations _ _ => 3
  | _ => 4

theorem orderly_publiclyVisible (action : String) (target : Target) :
    Orderly stage 2 1 (publiclyVisible action target).run := by
  cases target with
  | creation => exact .pure _ (by omega)
  | single object => exact .pure _ (by omega)
  | composite id =>
      simp only [publiclyVisible]
      split
      · apply Orderly.readThen 1 rfl (by omega) (by omega)
        intro state
        exact .pure _ (Nat.le_refl _)
      · exact .pure _ (by omega)

theorem orderly_checkAnonymous (policy : Policy) (request : Request) :
    Orderly stage 4 1 (checkAnonymous policy request).run := by
  unfold checkAnonymous
  split
  · exact (orderly_publiclyVisible _ _).mono (Nat.le_refl _) (by omega)
  · exact .pure _ (by omega)

theorem orderly_checkGrants (actor : Actor) (request : Request) :
    Orderly stage 4 2 (checkGrants actor request).run := by
  simp only [checkGrants]
  split
  · exact .pure _ (by omega)
  · apply Orderly.readThen 2 rfl (by omega) (by omega)
    intro own
    split
    · exact .pure _ (by omega)
    · split
      · exact .pure _ (by omega)
      · exact .read 3 rfl (by omega) (by omega)

theorem orderly_checkActor (policy : Policy) (actor : Actor) (request : Request) :
    Orderly stage 4 1 (checkActor policy actor request).run := by
  unfold checkActor
  split
  · exact .pure _ (by omega)
  · split
    · apply Orderly.bind (by omega : 2 ≤ 4) (orderly_publiclyVisible _ _)
      intro readable
      split
      · exact .pure _ (by omega)
      · exact orderly_checkGrants actor request
    · exact (orderly_checkGrants actor request).mono (by omega) (Nat.le_refl _)

theorem orderly_check (policy : Policy) (request : Request) :
    Orderly stage 4 0 (check policy request).run := by
  unfold check
  split
  · exact (orderly_checkAnonymous policy request).mono (by omega) (Nat.le_refl _)
  · apply Orderly.readThen 0 rfl (by omega) (by omega)
    rintro (_ | actor)
    · exact orderly_checkAnonymous policy request
    · exact orderly_checkActor policy actor request

end Direct

end AccessGrants

import AccessGrants.Proofs.Inquiry
import AccessGrants.Proofs.Service.Transcript

/-!
The audit trail of an authorization. The store may be anything: it may answer a
read with any value, refuse any read, and give other answers the next time. A
request whose target is not one or that meets a refusal ends with one fault and
a denial, and every other request ends with one decision that says what was
answered; a disagreement of the evaluators is on the trail before the denial
that follows from it.
-/

namespace AccessGrants

/-- The audited events are those that a log reader finds under the target `audit`. -/
theorem Event.isAudit_iff {event : Event} :
    event.isAudit = true ↔ event.record.target = "audit" := by
  cases event with
  | decided | sessionInvalidated | fault | disagreement | provisioned =>
      exact ⟨fun _ => rfl, fun _ => rfl⟩
  | _ => simp [isAudit, record]

namespace Service

variable {σ : Type}

/-- How an authorization ends that could not be evaluated: what was asked, the
answer and the audit trail. -/
inductive Faulted (subject action : String) (target : Json) :
    List (Exchange Read.Answer) → Bool → List Event → Prop where
  /-- Nothing is asked about a value that is no target. -/
  | unrecognized (unread : Target.ofJson? target = none) :
      Faulted subject action target [] false
        [.fault subject action (CheckError.unrecognizedTarget target.compact).message]
  /-- The read that was refused was the last one. -/
  | refused {before : List (Exchange Read.Answer)} (question : Read) (error : StorageError)
      (answers : ∀ exchange ∈ before, exchange.Answered) :
      Faulted subject action target (before ++ [⟨question, .error error⟩]) false
        [.fault subject action (ServiceError.check (.ofStorage error)).message]

/-- The event that closes an evaluation. -/
def decision (service : Service) (request : Request) (allowed : Bool) : Event :=
  .decided service.evaluator.name request.session request.subject request.action request.target
    allowed

section Evaluation

variable (answer : (read : Read) → σ → read.Answer × σ) (state : σ) (service : Service)
  (request : Request)

/-- The run of the general evaluator, which comes first when both are asked. -/
def generalRun : Dialogue.Run (Except CheckError Bool) σ :=
  (General.check service.policy request).run.run answer state

/-- The run of the direct evaluator on a store in the given state. -/
def directRun : Dialogue.Run (Except CheckError Bool) σ :=
  (Direct.check service.policy request).run.run answer state

/-- How an authorization ends that was evaluated: the answer and the audit trail. -/
inductive Concluded : Bool → List Event → Prop where
  | general {allowed : Bool} (mode : service.evaluator = .general)
      (verdict : (generalRun answer state service request).result = .ok allowed) :
      Concluded allowed [service.decision request allowed]
  | direct {allowed : Bool} (mode : service.evaluator = .direct)
      (verdict : (directRun answer state service request).result = .ok allowed) :
      Concluded allowed [service.decision request allowed]
  | agreed {allowed : Bool} (mode : service.evaluator = .verify)
      (general : (generalRun answer state service request).result = .ok allowed)
      (direct : (directRun answer (generalRun answer state service request).state service
        request).result = .ok allowed) :
      Concluded allowed [service.decision request allowed]
  | disagreed {general direct : Bool} (mode : service.evaluator = .verify)
      (generally : (generalRun answer state service request).result = .ok general)
      (directly : (directRun answer (generalRun answer state service request).state service
        request).result = .ok direct)
      (differ : general ≠ direct) :
      Concluded false
        [.disagreement request.session request.subject request.action request.target general direct,
          service.decision request false]

/-- What a check leaves: a conclusion after answers only, or nothing on the
trail when the last read was refused. -/
inductive Carried : Transcript Read.Answer (Except ServiceError Bool) σ → Prop where
  | concluded {allowed : Bool} {audit : List Event} {asked : List (Exchange Read.Answer)}
      {left : σ} (h : Concluded answer state service request allowed audit)
      (answers : ∀ exchange ∈ asked, exchange.Answered) :
      Carried ⟨.ok allowed, audit, asked, left⟩
  | refused {before : List (Exchange Read.Answer)} {left : σ} (question : Read)
      (error : StorageError) (answers : ∀ exchange ∈ before, exchange.Answered) :
      Carried ⟨.error (.check (.ofStorage error)), [], before ++ [⟨question, .error error⟩], left⟩

end Evaluation

variable (answer : (read : Read) → σ → read.Answer × σ) (state : σ) (service : Service)
  (input : CheckInput)

/-- One evaluator that concludes by its verdict. -/
theorem carried_evaluate {inquiry : Request → Inquiry Bool} {stage : Read → Nat}
    {first last : Nat}
    (orderly : Inquiry.Orderly stage last first (inquiry (service.requestOf input)).run)
    (concludes : ∀ allowed,
      ((inquiry (service.requestOf input)).run.run answer state).result = .ok allowed →
        Concluded answer state service (service.requestOf input) allowed
          [service.decision (service.requestOf input) allowed]) :
    Carried answer state service (service.requestOf input)
      ((service.request input >>= fun request => Call.ofInquiry (inquiry request) >>=
        conclude service.evaluator request).run.transcript answer state) := by
  have hconducted := orderly.conducted answer state
  generalize h : (inquiry (service.requestOf input)).run.transcript answer state = left
    at hconducted
  cases hconducted with
  | @answered allowed asked left answers =>
      have hverdict : ((inquiry (service.requestOf input)).run.run answer state).result =
          .ok allowed := congrArg Transcript.result h
      rw [transcript_evaluate service.evaluator h]
      exact .concluded (concludes allowed hverdict) answers
  | refused question error answers =>
      rw [transcript_evaluate_error service.evaluator h]
      exact .refused question error answers

private theorem and_eq_false_of_ne :
    ∀ general direct : Bool, general ≠ direct → (general && direct) = false := by
  decide

theorem carried_checkVerified (mode : service.evaluator = .verify) :
    Carried answer state service (service.requestOf input)
      ((service.checkVerified input).run.transcript answer state) := by
  have hconducted :=
    (General.orderly_check service.policy (service.requestOf input)).conducted answer state
  generalize hgeneral : (General.check service.policy (service.requestOf input)).run.transcript
    answer state = first at hconducted
  cases hconducted with
  | refused question error answers =>
      rw [transcript_checkVerified_error hgeneral]
      exact .refused question error answers
  | @answered general asked middle answers =>
      have hmiddle : (generalRun answer state service (service.requestOf input)).state = middle :=
        congrArg Transcript.left hgeneral
      have hgenerally : (generalRun answer state service (service.requestOf input)).result =
          .ok general := congrArg Transcript.result hgeneral
      have hconducted :=
        (Direct.orderly_check service.policy (service.requestOf input)).conducted answer middle
      generalize hdirect : (Direct.check service.policy (service.requestOf input)).run.transcript
        answer middle = second at hconducted
      cases hconducted with
      | refused question error answers' =>
          rw [transcript_checkVerified_later_error hgeneral hdirect, ← List.append_assoc]
          exact .refused question error (List.forall_mem_append.mpr ⟨answers, answers'⟩)
      | @answered direct asked' left answers' =>
          have hdirectly : (directRun answer
              (generalRun answer state service (service.requestOf input)).state service
              (service.requestOf input)).result = .ok direct := by
            rw [hmiddle]
            exact congrArg Transcript.result hdirect
          have hanswers : ∀ exchange ∈ asked ++ asked', exchange.Answered :=
            List.forall_mem_append.mpr ⟨answers, answers'⟩
          rw [transcript_checkVerified hgeneral hdirect, ← mode]
          by_cases hsame : general = direct
          · subst hsame
            rw [if_pos rfl, Bool.and_self]
            exact .concluded (.agreed mode hgenerally hdirectly) hanswers
          · rw [if_neg hsame, and_eq_false_of_ne general direct hsame]
            exact .concluded (.disagreed mode hgenerally hdirectly hsame) hanswers

/-- Whichever evaluator is chosen, a check is carried to one of its two ends. -/
theorem carried_checkPermission :
    Carried answer state service (service.requestOf input)
      ((service.checkPermission input).run.transcript answer state) := by
  unfold checkPermission
  split
  · next mode =>
      have hcarried := carried_evaluate answer state service input
        (General.orderly_check service.policy (service.requestOf input))
        fun _ verdict => .general mode verdict
      rw [mode] at hcarried
      exact hcarried
  · next mode =>
      have hcarried := carried_evaluate answer state service input
        (Direct.orderly_check service.policy (service.requestOf input))
        fun _ verdict => .direct mode verdict
      rw [mode] at hcarried
      exact hcarried
  · next mode => exact carried_checkVerified answer state service input mode

section Ends

variable {answer state service} {request : Request} {subject action : String} {target : Json}
  {asked : List (Exchange Read.Answer)} {allowed : Bool} {audit : List Event}

/-- A fault has its cause. -/
theorem Faulted.failed (h : Faulted subject action target asked allowed audit) :
    Target.ofJson? target = none ∨ ∃ exchange ∈ asked, exchange.Failed := by
  cases h with
  | unrecognized unread => exact Or.inl unread
  | refused question error answers =>
      exact Or.inr ⟨⟨question, .error error⟩, List.mem_concat_self, error, rfl⟩

/-- No trail is that of both ends. -/
theorem Faulted.not_concluded (h : Faulted subject action target asked allowed audit) :
    ¬ Concluded answer state service request allowed audit := by
  obtain ⟨reason, haudit⟩ : ∃ reason, audit = [.fault subject action reason] := by
    cases h with
    | unrecognized unread => exact ⟨_, rfl⟩
    | refused question error answers => exact ⟨_, rfl⟩
  rintro (_ | _ | _ | _)
  · cases haudit
  · cases haudit
  · cases haudit
  · cases haudit

end Ends

theorem transcript_failClosed (subject action reason : String) :
    (failClosed subject action reason).transcript answer state =
      ⟨false, [.fault subject action reason], [], state⟩ := rfl

theorem transcript_authorize_unrecognized {raw : Option SessionId} {cookie : Option String}
    (action subject : String) {target : Json} (unread : Target.ofJson? target = none) :
    (service.authorize raw cookie action subject target).transcript answer state =
      ⟨false, [.fault subject action (CheckError.unrecognizedTarget target.compact).message], [],
        state⟩ := by
  have herror : Target.ofJson target = .error (.unrecognizedTarget target.compact) := by
    rw [Target.ofJson, unread]
  rw [authorize, herror]
  rfl

section Check

variable {raw : Option SessionId} {cookie : Option String} {action subject : String}
  {target : Json} {place : Target} {audit : List Event} {asked : List (Exchange Read.Answer)}
  {left : σ}

theorem authorize_recognized (read : Target.ofJson? target = some place) :
    service.authorize raw cookie action subject target =
      (service.checkPermission ⟨raw, cookie, action, subject, place⟩).run >>= fun
        | .ok allowed => .done allowed
        | .error error => failClosed subject action error.message := by
  have hread : Target.ofJson target = .ok place := by
    rw [Target.ofJson, read]
  rw [authorize, hread]
  rfl

theorem transcript_authorize {allowed : Bool} (read : Target.ofJson? target = some place)
    (h : (service.checkPermission ⟨raw, cookie, action, subject, place⟩).run.transcript
      answer state = ⟨.ok allowed, audit, asked, left⟩) :
    (service.authorize raw cookie action subject target).transcript answer state =
      ⟨allowed, audit, asked, left⟩ := by
  rw [authorize_recognized service read, Dialogue.transcript_bind, h]
  simp [Transcript.followed, Dialogue.transcript_done]

theorem transcript_authorize_error {error : ServiceError}
    (read : Target.ofJson? target = some place)
    (h : (service.checkPermission ⟨raw, cookie, action, subject, place⟩).run.transcript
      answer state = ⟨.error error, audit, asked, left⟩) :
    (service.authorize raw cookie action subject target).transcript answer state =
      ⟨false, audit ++ [.fault subject action error.message], asked, left⟩ := by
  rw [authorize_recognized service read, Dialogue.transcript_bind, h]
  simp [Transcript.followed, transcript_failClosed]

end Check

/-- One of the two ends is reached. -/
theorem authorize_ends (raw : Option SessionId) (cookie : Option String)
    (action subject : String) (target : Json) :
    let ended := (service.authorize raw cookie action subject target).transcript answer state
    Faulted subject action target ended.asked ended.result ended.audit ∨
      ∃ place, Target.ofJson? target = some place ∧
        Concluded answer state service (service.requestOf ⟨raw, cookie, action, subject, place⟩)
          ended.result ended.audit ∧ ∀ exchange ∈ ended.asked, exchange.Answered := by
  cases hplace : Target.ofJson? target with
  | none =>
      rw [transcript_authorize_unrecognized answer state service action subject hplace]
      exact Or.inl (.unrecognized hplace)
  | some place =>
      have hcarried := carried_checkPermission answer state service
        ⟨raw, cookie, action, subject, place⟩
      cases hended : (service.checkPermission ⟨raw, cookie, action, subject, place⟩).run.transcript
          answer state with
      | mk result audit asked left =>
          rw [hended] at hcarried
          cases hcarried with
          | concluded hconcluded answers =>
              rw [transcript_authorize answer state service hplace hended]
              exact Or.inr ⟨place, rfl, hconcluded, answers⟩
          | refused question error answers =>
              rw [transcript_authorize_error answer state service hplace hended]
              exact Or.inl (.refused question error answers)

/-- An authorization has one of two ends, whatever the store does. It fails,
because the target is none or because a read was refused, exactly if it ends
with a fault and a denial, and after the refusal nothing more was read. It ends
in every other case with a decision, and says what the evaluators said. -/
theorem authorize_fails_closed_and_is_audited (raw : Option SessionId) (cookie : Option String)
    (action subject : String) (target : Json) :
    let ended := (service.authorize raw cookie action subject target).transcript answer state
    let failed := Target.ofJson? target = none ∨ ∃ exchange ∈ ended.asked, exchange.Failed
    (failed ↔ Faulted subject action target ended.asked ended.result ended.audit) ∧
      (¬ failed ↔ ∃ place, Target.ofJson? target = some place ∧
        Concluded answer state service (service.requestOf ⟨raw, cookie, action, subject, place⟩)
          ended.result ended.audit) := by
  intro ended failed
  rcases authorize_ends answer state service raw cookie action subject target with
    hfaulted | ⟨place, hplace, hconcluded, answers⟩
  · have hfailed : failed := hfaulted.failed
    refine ⟨⟨fun _ => hfaulted, fun _ => hfailed⟩, fun h => absurd hfailed h, ?_⟩
    rintro ⟨place, _, hconcluded⟩
    exact absurd hconcluded hfaulted.not_concluded
  · have hsucceeded : ¬ failed := by
      rintro (hnone | ⟨exchange, hmem, hfailed⟩)
      · rw [hplace] at hnone
        cases hnone
      · exact (answers exchange hmem).not_failed hfailed
    refine ⟨⟨fun h => absurd h hsucceeded, fun h => absurd hconcluded h.not_concluded⟩, ?_⟩
    exact ⟨fun _ => ⟨place, hplace, hconcluded⟩, fun _ => hsucceeded⟩

end Service

end AccessGrants

import AccessGrants.Proofs.Dialogue
import AccessGrants.Proofs.Service

/-!
What the service leaves with a store of any kind. Picking the session asks
nothing; the verdict of an evaluator is written to the audit trail and answered,
and when a read is refused nothing is concluded.
-/

namespace AccessGrants.Service

open Dialogue

variable {α σ : Type} {answer : (read : Read) → σ → read.Answer × σ} {state : σ}
  {service : Service} {input : CheckInput} {audit : List Event}
  {asked : List (Exchange Read.Answer)} {left : σ}

theorem transcript_effectiveSession (desktop : Bool) (raw : Option SessionId)
    (cookie : Option String) :
    (AccessGrants.effectiveSession desktop raw cookie).transcript answer state =
      ⟨SessionId.inEffect desktop raw cookie, [], [], state⟩ := by
  rcases effectiveSession_cases desktop raw cookie with hpicked | ⟨named, hpicked⟩
  · rw [hpicked]
    rfl
  · rw [hpicked]
    rfl

theorem transcript_request :
    (service.request input).run.transcript answer state =
      ⟨.ok (service.requestOf input), [], [], state⟩ := by
  have hsession : (service.effectiveSession input.session input.cookie).run.transcript
      answer state = ⟨.ok (SessionId.inEffect service.desktop input.session input.cookie),
        [], [], state⟩ :=
    transcript_map Except.ok (transcript_effectiveSession _ _ _)
  unfold request
  rw [transcript_call_bind hsession]
  rfl

/-- An inquiry leaves with the service what it leaves by itself. -/
theorem transcript_ofInquiry {inquiry : Inquiry α} {result : Except CheckError α}
    (h : inquiry.run.transcript answer state = ⟨result, audit, asked, left⟩) :
    (Call.ofInquiry inquiry).run.transcript answer state =
      ⟨result.mapError .check, audit, asked, left⟩ :=
  transcript_map _ h

theorem transcript_conclude (evaluator : Evaluator) (request : Request) (allowed : Bool) :
    (conclude evaluator request allowed).run.transcript answer state =
      ⟨.ok allowed, [.decided evaluator.name request.session request.subject request.action
        request.target allowed], [], state⟩ := rfl

section OneEvaluator

variable (evaluator : Evaluator) {inquiry : Request → Inquiry Bool}

/-- One evaluator is asked, and its verdict is the conclusion. -/
theorem transcript_evaluate {allowed : Bool}
    (h : (inquiry (service.requestOf input)).run.transcript answer state =
      ⟨.ok allowed, audit, asked, left⟩) :
    (service.request input >>= fun request => Call.ofInquiry (inquiry request) >>=
        conclude evaluator request).run.transcript answer state =
      ⟨.ok allowed,
        audit ++ [.decided evaluator.name (service.requestOf input).session input.subject
          input.action input.target allowed], asked, left⟩ := by
  rw [transcript_call_bind transcript_request, transcript_call_bind (transcript_ofInquiry h),
    transcript_conclude]
  simp [Transcript.followed, requestOf]

theorem transcript_evaluate_error {error : CheckError}
    (h : (inquiry (service.requestOf input)).run.transcript answer state =
      ⟨.error error, audit, asked, left⟩) :
    (service.request input >>= fun request => Call.ofInquiry (inquiry request) >>=
        conclude evaluator request).run.transcript answer state =
      ⟨.error (.check error), audit, asked, left⟩ := by
  rw [transcript_call_bind transcript_request,
    transcript_call_bind_error (transcript_ofInquiry h)]
  simp [Transcript.followed]

end OneEvaluator

section BothEvaluators

variable {general direct : Bool} {audit' : List Event} {asked' : List (Exchange Read.Answer)}
  {middle : σ}

/-- Two verdicts that differ are reported before the conclusion. -/
theorem transcript_compared (request : Request) (general direct : Bool) :
    (do
      if general != direct then
        Call.report (.disagreement request.session request.subject request.action request.target
          general direct)
      conclude .verify request (general && direct) : Call Bool).run.transcript answer state =
      ⟨.ok (general && direct),
        (if general = direct then [] else
            [.disagreement request.session request.subject request.action request.target
              general direct]) ++
          [.decided Evaluator.verify.name request.session request.subject request.action
            request.target (general && direct)], [], state⟩ := by
  cases general <;> cases direct <;> rfl

/-- The direct evaluator meets the store as the general one left it. -/
theorem transcript_checkVerified
    (hgeneral : (General.check service.policy (service.requestOf input)).run.transcript
      answer state = ⟨.ok general, audit, asked, middle⟩)
    (hdirect : (Direct.check service.policy (service.requestOf input)).run.transcript
      answer middle = ⟨.ok direct, audit', asked', left⟩) :
    (service.checkVerified input).run.transcript answer state =
      ⟨.ok (general && direct),
        audit ++ audit' ++
          (if general = direct then [] else
            [.disagreement (service.requestOf input).session input.subject input.action
              input.target general direct]) ++
          [.decided Evaluator.verify.name (service.requestOf input).session input.subject
            input.action input.target (general && direct)],
        asked ++ asked', left⟩ := by
  unfold checkVerified
  rw [transcript_call_bind transcript_request, evaluateGeneral,
    transcript_call_bind (transcript_ofInquiry hgeneral), evaluateDirect,
    transcript_call_bind (transcript_ofInquiry hdirect), transcript_compared]
  simp [Transcript.followed, requestOf]

theorem transcript_checkVerified_error {error : CheckError}
    (hgeneral : (General.check service.policy (service.requestOf input)).run.transcript
      answer state = ⟨.error error, audit, asked, left⟩) :
    (service.checkVerified input).run.transcript answer state =
      ⟨.error (.check error), audit, asked, left⟩ := by
  unfold checkVerified
  rw [transcript_call_bind transcript_request, evaluateGeneral,
    transcript_call_bind_error (transcript_ofInquiry hgeneral)]
  simp [Transcript.followed]

/-- The general evaluator has answered already when a read is refused to the
direct one. -/
theorem transcript_checkVerified_later_error {error : CheckError}
    (hgeneral : (General.check service.policy (service.requestOf input)).run.transcript
      answer state = ⟨.ok general, audit, asked, middle⟩)
    (hdirect : (Direct.check service.policy (service.requestOf input)).run.transcript
      answer middle = ⟨.error error, audit', asked', left⟩) :
    (service.checkVerified input).run.transcript answer state =
      ⟨.error (.check error), audit ++ audit', asked ++ asked', left⟩ := by
  unfold checkVerified
  rw [transcript_call_bind transcript_request, evaluateGeneral,
    transcript_call_bind (transcript_ofInquiry hgeneral), evaluateDirect,
    transcript_call_bind_error (transcript_ofInquiry hdirect)]
  simp [Transcript.followed]

end BothEvaluators

section Results

variable {general direct : Bool}

theorem result_check
    (h : ((General.check service.policy (service.requestOf input)).run.run answer state).result =
      .ok general) :
    ((service.check input).run.run answer state).result = .ok general :=
  congrArg Transcript.result (transcript_evaluate .general (transcript_of_result h))

theorem result_checkDirect
    (h : ((Direct.check service.policy (service.requestOf input)).run.run answer state).result =
      .ok direct) :
    ((service.checkDirect input).run.run answer state).result = .ok direct :=
  congrArg Transcript.result (transcript_evaluate .direct (transcript_of_result h))

theorem result_checkVerified
    (hgeneral : ((General.check service.policy (service.requestOf input)).run.run
      answer state).result = .ok general)
    (hdirect : ((Direct.check service.policy (service.requestOf input)).run.run answer
      ((General.check service.policy (service.requestOf input)).run.run
        answer state).state).result = .ok direct) :
    ((service.checkVerified input).run.run answer state).result = .ok (general && direct) :=
  congrArg Transcript.result
    (transcript_checkVerified (transcript_of_result hgeneral) (transcript_of_result hdirect))

end Results

end AccessGrants.Service

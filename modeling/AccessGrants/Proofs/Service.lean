import AccessGrants.Proofs.Evaluator.General
import AccessGrants.Service

/-!
The service over a store that nobody writes to: it evaluates one request, that
of the session in effect, and answers what the configured evaluator answers;
the reports it makes on the way change nothing.
-/

namespace AccessGrants

/-- The session in effect: that of the cookie on a desktop, else the raw one. -/
def SessionId.inEffect (desktop : Bool) (raw : Option SessionId) (cookie : Option String) :
    Option SessionId :=
  if desktop then cookie.bind SessionId.ofCookie? else raw

namespace Service

/-- The request that an input stands for. -/
def requestOf (service : Service) (input : CheckInput) : Request :=
  ⟨SessionId.inEffect service.desktop input.session input.cookie, input.action, input.subject,
    input.target⟩

variable {store : Store} {service : Service} {input : CheckInput} {general direct : Bool}

/-- Picking the session asks nothing. It reports at most a cookie that names none. -/
theorem effectiveSession_cases {Q : Type} {A : Q → Type} (desktop : Bool) (raw : Option SessionId)
    (cookie : Option String) :
    AccessGrants.effectiveSession desktop raw cookie =
        (.done (SessionId.inEffect desktop raw cookie) : Dialogue Q A (Option SessionId)) ∨
      ∃ named, AccessGrants.effectiveSession desktop raw cookie =
        (.report (.malformedCookie named) (.done (SessionId.inEffect desktop raw cookie)) :
          Dialogue Q A (Option SessionId)) := by
  cases desktop with
  | false => exact Or.inl rfl
  | true =>
      cases cookie with
      | none => exact Or.inl rfl
      | some cookie =>
          simp only [AccessGrants.effectiveSession, SessionId.inEffect, if_true,
            Option.bind_some]
          cases SessionId.ofCookie? cookie with
          | none => exact Or.inr ⟨cookie, rfl⟩
          | some session => exact Or.inl rfl

theorem consult_effectiveSession (store : Store) (desktop : Bool) (raw : Option SessionId)
    (cookie : Option String) :
    store.consult (AccessGrants.effectiveSession desktop raw cookie) =
      SessionId.inEffect desktop raw cookie := by
  rcases effectiveSession_cases desktop raw cookie with hpicked | ⟨named, hpicked⟩
  · rw [hpicked]
    rfl
  · rw [hpicked]
    rfl

theorem consult_request :
    store.consult (service.request input).run = .ok (service.requestOf input) := by
  have hsession : store.consult (service.effectiveSession input.session input.cookie).run =
      .ok (SessionId.inEffect service.desktop input.session input.cookie) := by
    rw [← consult_effectiveSession store]
    exact Store.consult_bind store _ _
  unfold request
  rw [Store.consult_call_bind _ _ hsession]
  rfl

/-- What an inquiry answers, the service hears. -/
theorem consult_ofInquiry {α : Type} {inquiry : Inquiry α} {value : α}
    (h : store.consult inquiry.run = .ok value) :
    store.consult (Call.ofInquiry inquiry).run = .ok value := by
  have hmap : store.consult (Call.ofInquiry inquiry).run =
      Except.mapError .check (store.consult inquiry.run) :=
    Store.consult_map store _ _
  rw [hmap, h]
  rfl

theorem consult_conclude (evaluator : Evaluator) (request : Request) (allowed : Bool) :
    store.consult (conclude evaluator request allowed).run = .ok allowed := rfl

/-- One evaluator is asked, and its verdict is the conclusion. -/
theorem consult_evaluate (evaluator : Evaluator) {inquiry : Request → Inquiry Bool} {allowed : Bool}
    (h : store.consult (inquiry (service.requestOf input)).run = .ok allowed) :
    store.consult (service.request input >>= fun request => Call.ofInquiry (inquiry request) >>=
      conclude evaluator request).run = .ok allowed := by
  rw [Store.consult_call_bind _ _ consult_request,
    Store.consult_call_bind _ _ (consult_ofInquiry h)]
  exact consult_conclude _ _ _

theorem consult_check
    (h : store.consult (General.check service.policy (service.requestOf input)).run =
      .ok general) :
    store.consult (service.check input).run = .ok general :=
  consult_evaluate .general h

theorem consult_checkDirect
    (h : store.consult (Direct.check service.policy (service.requestOf input)).run =
      .ok direct) :
    store.consult (service.checkDirect input).run = .ok direct :=
  consult_evaluate .direct h

/-- A disagreement is reported before the conclusion, and changes nothing in it. -/
theorem consult_checkVerified
    (hgeneral : store.consult (General.check service.policy (service.requestOf input)).run =
      .ok general)
    (hdirect : store.consult (Direct.check service.policy (service.requestOf input)).run =
      .ok direct) :
    store.consult (service.checkVerified input).run = .ok (general && direct) := by
  unfold checkVerified
  rw [Store.consult_call_bind _ _ consult_request, evaluateGeneral,
    Store.consult_call_bind _ _ (consult_ofInquiry hgeneral), evaluateDirect,
    Store.consult_call_bind _ _ (consult_ofInquiry hdirect)]
  cases general <;> cases direct <;> rfl

/-- Two evaluators of which the direct one never allows more conclude together
what the direct one says. -/
theorem consult_verify (hverify : service.evaluator = .verify)
    (hgeneral : store.consult (General.check service.policy (service.requestOf input)).run =
      .ok general)
    (hdirect : store.consult (Direct.check service.policy (service.requestOf input)).run =
      .ok direct)
    (honeSided : direct = true → general = true) :
    store.consult (service.checkPermission input).run = .ok direct := by
  have hboth : (general && direct) = direct := by
    cases direct with
    | false => simp
    | true => simp [honeSided rfl]
  simp only [checkPermission, hverify]
  rw [consult_checkVerified hgeneral hdirect, hboth]

end Service

end AccessGrants

import AccessGrants.Program
import AccessGrants.Proofs.Service.Transcript
import AccessGrants.Proofs.Text.Blank
import AccessGrants.Proofs.Text.Numeral

/-!
Which session an operation runs under. On a desktop it is the one that the
cookie names, and everywhere else the raw one; no operation looks at the other
of the two. A cookie names a session by a numeral between blanks, and whatever
else it holds leaves the operation without a session.
-/

namespace AccessGrants

namespace SessionId

/-- Between the outer blanks of the cookie stands a numeral of the session's number. -/
def NamedBy (session : SessionId) (cookie : String) : Prop :=
  ∃ numeral, Text.Trimmed cookie.toList numeral ∧ Text.Denotes numeral session.value.toInt

theorem ofCookie?_eq_some_iff {cookie : String} {session : SessionId} :
    ofCookie? cookie = some session ↔ session.NamedBy cookie := by
  simp only [NamedBy, Text.trimmed_iff, exists_eq_left, ← Text.readInt64?_eq_some_iff]
  rw [ofCookie?, Option.map_eq_some_iff]
  constructor
  · rintro ⟨word, hread, rfl⟩
    exact hread
  · intro hread
    exact ⟨session.value, hread, rfl⟩

example : [" +007\t", "-9223372036854775808", "9223372036854775808"].map ofCookie? =
    [some ⟨7⟩, some ⟨-9223372036854775808⟩, none] := by decide

/-- The text of a session is a cookie that names it. -/
theorem namedBy_text (session : SessionId) : session.NamedBy session.text := by
  have hnumeral : session.text.toList = Text.decimalChars session.value.toInt :=
    Text.toList_decimal _
  have hblank : ∀ c ∈ Text.decimalChars session.value.toInt, Text.isBlank c = false := by
    intro c hc
    rcases Text.mem_decimalChars hc with rfl | hdigit
    · decide
    · exact Text.isBlank_of_isDigit hdigit
  rw [NamedBy, hnumeral]
  exact ⟨_, Text.trimmed_self hblank, Text.denotes_decimalChars _⟩

end SessionId

namespace Service

/-- The operations that are given a raw session and a cookie. -/
inductive Operation where
  | effectiveSession
  | resolvePrincipals (subject : Option String)
  | requirePrincipals (subject : Option String)
  | check (action subject : String) (target : Target)
  | checkDirect (action subject : String) (target : Target)
  | checkPermission (action subject : String) (target : Target)
  | authorize (action subject : String) (target : Json)

abbrev Operation.Result : Operation → Type
  | .effectiveSession => Except ServiceError (Option SessionId)
  | .resolvePrincipals _ => Except ServiceError Resolution
  | .requirePrincipals _ => Except ServiceError PrincipalSet
  | .check _ _ _ | .checkDirect _ _ _ | .checkPermission _ _ _ => Except ServiceError Bool
  | .authorize _ _ _ => Bool

def perform (service : Service) (raw : Option SessionId) (cookie : Option String) :
    (operation : Operation) → Dialogue Read Read.Answer operation.Result
  | .effectiveSession => (service.effectiveSession raw cookie).run
  | .resolvePrincipals subject => (service.resolvePrincipals raw cookie subject).run
  | .requirePrincipals subject => (service.requirePrincipals raw cookie subject).run
  | .check action subject target => (service.check ⟨raw, cookie, action, subject, target⟩).run
  | .checkDirect action subject target =>
    (service.checkDirect ⟨raw, cookie, action, subject, target⟩).run
  | .checkPermission action subject target =>
    (service.checkPermission ⟨raw, cookie, action, subject, target⟩).run
  | .authorize action subject target => service.authorize raw cookie action subject target

section Picking

variable {service : Service} {raw : Option SessionId} {cookie : Option String}

/-- The service as it is away from a desktop. -/
def plain (service : Service) : Service := { service with desktop := false }

/-- How the service picks a session. -/
abbrev picked (service : Service) (raw : Option SessionId) (cookie : Option String) :
    Dialogue Read Read.Answer (Option SessionId) :=
  AccessGrants.effectiveSession service.desktop raw cookie

theorem run_effectiveSession_bind {α : Type} (next : Option SessionId → Call α) :
    (service.effectiveSession raw cookie >>= next).run =
      service.picked raw cookie >>= fun session =>
        (next session).run :=
  ExceptT.run_bind_lift _ _

theorem run_request_bind {α : Type} {action subject : String} {target : Target}
    (next : Request → Call α) :
    (service.request ⟨raw, cookie, action, subject, target⟩ >>= next).run =
      service.picked raw cookie >>= fun session =>
        (next ⟨session, action, subject, target⟩).run := by
  simp only [request, bind_assoc, run_effectiveSession_bind, pure_bind]

/-- Away from a desktop the raw session is picked. -/
theorem picked_plain {α : Type} (session : Option SessionId)
    (next : Option SessionId → Dialogue Read Read.Answer α) :
    service.plain.picked session cookie >>= next = next session :=
  rfl

/-- A check is that of the session that is picked for it. -/
theorem run_checkPermission_eq (action subject : String) (target : Target) :
    (service.checkPermission ⟨raw, cookie, action, subject, target⟩).run =
      service.picked raw cookie >>= fun session =>
        (service.plain.checkPermission ⟨session, none, action, subject, target⟩).run := by
  have hevaluator : service.plain.evaluator = service.evaluator := rfl
  simp only [checkPermission, hevaluator]
  cases service.evaluator with
  | general => simp only [check, run_request_bind, picked_plain]; rfl
  | direct => simp only [checkDirect, run_request_bind, picked_plain]; rfl
  | verify => simp only [checkVerified, run_request_bind, picked_plain]; rfl

/-- What an operation does once its session is picked is what it does under that
session away from a desktop. Only an authorization whose target is none does not
come to pick one. -/
theorem perform_eq (operation : Operation) :
    (∀ raw cookie, service.perform raw cookie operation =
        service.picked raw cookie >>= fun session =>
          service.plain.perform session none operation) ∨
      ∀ raw cookie session,
        service.perform raw cookie operation = service.plain.perform session none operation := by
  cases operation with
  | effectiveSession => exact Or.inl fun raw cookie => rfl
  | resolvePrincipals subject =>
      refine Or.inl fun raw cookie => ?_
      simp only [perform, resolvePrincipals, run_effectiveSession_bind, picked_plain]
  | requirePrincipals subject =>
      refine Or.inl fun raw cookie => ?_
      simp only [perform, requirePrincipals, resolvePrincipals, bind_assoc,
        run_effectiveSession_bind, picked_plain]
  | check action subject target =>
      refine Or.inl fun raw cookie => ?_
      simp only [perform, check, run_request_bind, picked_plain]
      rfl
  | checkDirect action subject target =>
      refine Or.inl fun raw cookie => ?_
      simp only [perform, checkDirect, run_request_bind, picked_plain]
      rfl
  | checkPermission action subject target =>
      exact Or.inl fun raw cookie => run_checkPermission_eq action subject target
  | authorize action subject target =>
      cases htarget : Target.ofJson target with
      | error error =>
          refine Or.inr fun raw cookie session => ?_
          simp only [perform, authorize, htarget]
      | ok place =>
          refine Or.inl fun raw cookie => ?_
          simp only [perform, authorize, htarget]
          rw [run_checkPermission_eq, bind_assoc]

theorem perform_of_picked {session : Option SessionId}
    (h : service.picked raw cookie = .done session) (operation : Operation) :
    service.perform raw cookie operation = service.plain.perform session none operation := by
  rcases perform_eq operation with hpicks | hsame
  · rw [hpicks, h, Dialogue.bind_done]
  · exact hsame raw cookie session

/-- Two ways to give a session that pick it alike. -/
theorem perform_congr {raw' : Option SessionId} {cookie' : Option String}
    (h : service.picked raw cookie = service.picked raw' cookie') (operation : Operation) :
    service.perform raw cookie operation = service.perform raw' cookie' operation := by
  rcases perform_eq operation with hpicks | hsame
  · rw [hpicks, hpicks, h]
  · rw [hsame raw cookie none, hsame raw' cookie' none]

theorem picked_of_namedBy (hdesktop : service.desktop = true) {text : String}
    {session : SessionId} (h : session.NamedBy text) :
    service.picked raw (some text) = .done (some session) := by
  have hread := SessionId.ofCookie?_eq_some_iff.mpr h
  simp only [picked, AccessGrants.effectiveSession, hdesktop, if_true, hread]

/-- Whatever a cookie holds, the operation leaves what it leaves under the session
in effect: that a cookie cannot be read is not on the audit trail. -/
theorem transcript_perform {σ : Type} (answer : (read : Read) → σ → read.Answer × σ) (state : σ)
    (operation : Operation) :
    (service.perform raw cookie operation).transcript answer state =
      (service.plain.perform (SessionId.inEffect service.desktop raw cookie) none
        operation).transcript answer state := by
  rcases perform_eq operation with hpicks | hsame
  · rw [hpicks, Dialogue.transcript_bind, transcript_effectiveSession]
    simp [Transcript.followed]
  · rw [hsame]

end Picking

end Service

/-- The program gives the session both ways, so it is picked in every deployment. -/
theorem Program.principals_desktop (settings : Settings) (session : Int64)
    (subject : Option String) :
    Program.principals { settings with desktop := true } session subject =
      Program.principals { settings with desktop := false } session subject := by
  let id : SessionId := ⟨session⟩
  have hcall : (serviceOf { settings with desktop := true } none).requirePrincipals
        (some id) (some id.text) subject =
      (serviceOf { settings with desktop := false } none).requirePrincipals
        (some id) (some id.text) subject :=
    Service.perform_of_picked (Service.picked_of_namedBy rfl id.namedBy_text)
      (.requirePrincipals subject)
  simp only [principals]
  rw [hcall]
  rfl

namespace Service

end Service

end AccessGrants

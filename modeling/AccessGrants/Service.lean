import AccessGrants.Evaluator
import AccessGrants.Evaluator.Direct
import AccessGrants.Evaluator.General
import AccessGrants.Json.Target
import AccessGrants.Session

/-!
The authorization service. It picks the session that a request runs under,
hands the request to the configured evaluator and writes the audit trail: one
event for each decision, one for each request that could not be evaluated, and
one for each disagreement between the evaluators.
-/

namespace AccessGrants

structure Service where
  policy : Policy
  desktop : Bool
  evaluator : Evaluator
  deriving DecidableEq

/-- A request as it arrives, before its session is picked. -/
structure CheckInput where
  session : Option SessionId
  cookie : Option String
  action : String
  subject : String
  target : Target
  deriving DecidableEq, Repr

namespace Service

/-- An operation of the service that reads the store and may fail. -/
abbrev Call (α : Type) : Type := ExceptT ServiceError (Dialogue Read Read.Answer) α

namespace Call

def report (event : Event) : Call Unit :=
  ExceptT.lift (Dialogue.emit event)

def ofInquiry {α : Type} (inquiry : Inquiry α) : Call α :=
  ExceptT.adapt .check inquiry

end Call

def effectiveSession (service : Service) (raw : Option SessionId) (cookie : Option String) :
    Call (Option SessionId) :=
  ExceptT.lift (AccessGrants.effectiveSession service.desktop raw cookie)

def resolvePrincipals (service : Service) (raw : Option SessionId) (cookie : Option String)
    (subject : Option String) : Call Resolution := do
  let session ← service.effectiveSession raw cookie
  let resolution ← Call.ofInquiry (Principal.resolve session subject)
  match resolution with
  | .invalidSession session =>
    Call.report (.sessionInvalidated session)
    return resolution
  | _ => return resolution

/-- A session that does not resolve is an error, so that the caller can ask for
a new sign-in. -/
def requirePrincipals (service : Service) (raw : Option SessionId) (cookie : Option String)
    (subject : Option String) : Call PrincipalSet := do
  match ← service.resolvePrincipals raw cookie subject with
  | .invalidSession session => throw (.invalidSession session)
  | resolution => return resolution.held

def request (service : Service) (input : CheckInput) : Call Request := do
  let session ← service.effectiveSession input.session input.cookie
  return ⟨session, input.action, input.subject, input.target⟩

def evaluateGeneral (service : Service) (request : Request) : Call Bool :=
  Call.ofInquiry (General.check service.policy request)

def evaluateDirect (service : Service) (request : Request) : Call Bool :=
  Call.ofInquiry (Direct.check service.policy request)

/-- Every decision is written to the audit trail. -/
def conclude (evaluator : Evaluator) (request : Request) (allowed : Bool) : Call Bool := do
  Call.report
    (.decided evaluator.name request.session request.subject request.action request.target allowed)
  return allowed

def check (service : Service) (input : CheckInput) : Call Bool := do
  let request ← service.request input
  conclude .general request (← service.evaluateGeneral request)

def checkDirect (service : Service) (input : CheckInput) : Call Bool := do
  let request ← service.request input
  conclude .direct request (← service.evaluateDirect request)

/-- Asks both evaluators, the general one first, and allows what both allow. -/
def checkVerified (service : Service) (input : CheckInput) : Call Bool := do
  let request ← service.request input
  let general ← service.evaluateGeneral request
  let direct ← service.evaluateDirect request
  if general != direct then
    Call.report
      (.disagreement request.session request.subject request.action request.target general direct)
  conclude .verify request (general && direct)

def checkPermission (service : Service) (input : CheckInput) : Call Bool :=
  match service.evaluator with
  | .general => service.check input
  | .direct => service.checkDirect input
  | .verify => service.checkVerified input

/-- A fault is written to the audit trail and denies the request. -/
def failClosed (subject action reason : String) : Dialogue Read Read.Answer Bool := do
  Dialogue.emit (.fault subject action reason)
  return false

/-- Decides a request whose target arrives as a JSON value. It always answers:
whatever goes wrong is a denial. -/
def authorize (service : Service) (raw : Option SessionId) (cookie : Option String)
    (action subject : String) (target : Json) : Dialogue Read Read.Answer Bool :=
  match Target.ofJson target with
  | .error error => failClosed subject action error.message
  | .ok target => do
    match ← (service.checkPermission ⟨raw, cookie, action, subject, target⟩).run with
    | .ok allowed => return allowed
    | .error error => failClosed subject action error.message

def provisionSubject (kind : InstanceKind) (id : InstanceId) (owner : ActorId) :
    ExceptT ServiceError (Dialogue Write Write.Answer) (List Grant) :=
  ExceptT.mk <| .ask (.provisionDefaults kind id owner) fun
    | .ok grants => .report (.provisioned kind id owner grants.length) (.done (.ok grants))
    | .error error => .done (.error (.storage error))

end Service

end AccessGrants

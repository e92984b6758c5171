import AccessGrants.CommandLine.Reader
import AccessGrants.Database.Schema
import AccessGrants.Database.Writing
import AccessGrants.Diagnosis
import AccessGrants.Service
import AccessGrants.Settings.Loading

/-!
The program: it reads its command line, loads its settings and carries out one
command against the database. All it needs from the machine it runs on are the
bytes of a file, a connection, and replies to the commands it sends.
-/

namespace AccessGrants.Program

open Sql CommandLine

inductive Request where
  | file (path : String)
  | connect (endpoint : Sql.Endpoint) (maxConnections : UInt32)
  | send (command : Sql.Command)

abbrev Request.Answer : Request → Type
  | .file _ => Except Settings.FileError ByteArray
  | .connect _ _ => Except DatabaseError Unit
  | .send _ => Except DatabaseError Reply

abbrev Action (α : Type) : Type := ExceptT Failure (Dialogue Request Request.Answer) α

namespace Action

def ask (request : Request) : Action request.Answer :=
  ExceptT.lift (.ask request .done)

def report (event : Event) : Action Unit :=
  ExceptT.lift (Dialogue.emit event)

/-- Sends the commands of a conversation over the connection. -/
def converse {ε α : Type} (wrap : ε → Failure) (conversation : Conversation ε α) : Action α :=
  ExceptT.adapt wrap <| ExceptT.mk <|
    conversation.run.relay fun command => .ask (.send command) .done

def serve {α : Type} (call : Service.Call α) : Action α :=
  converse .service (Database.serve call)

end Action

/-- Nothing is asked of the machine if the endpoint makes no sense. -/
def connect (settings : Settings) : Action Unit := do
  let answer ←
    match Endpoint.ofText settings.database.url with
    | .ok endpoint => Action.ask (.connect endpoint settings.database.maxConnections)
    | .error error => pure (.error (.badEndpoint error))
  match answer with
  | .ok _ => return ()
  | .error error => throw (.connection (.ofDatabase error))

def serviceOf (settings : Settings) (evaluator : Option Evaluator) : Service :=
  ⟨settings.policy, settings.desktop, evaluator.getD settings.evaluator⟩

def migrate (settings : Settings) : Action (List String) := do
  Action.report .migrationStarted
  connect settings
  Action.converse .migration Database.migrate
  Action.report .migrationFinished
  return []

/-- The target is read before anything is sent. -/
def check (settings : Settings) (session : Option Int64) (cookie : Option String)
    (action subject target : String) (evaluator : Option Evaluator) : Action (List String) := do
  match Target.ofText target with
  | .error error => throw (.target error)
  | .ok target =>
    connect settings
    let service := serviceOf settings evaluator
    let allowed ←
      Action.serve (service.checkPermission ⟨session.map RowId.mk, cookie, action, subject, target⟩)
    Action.report (.checkFinished service.evaluator.name allowed)
    return [if allowed then "allowed" else "denied"]

/-- The session is given both ways, so it takes effect in every deployment. A
session that leads to no actor is an answer and not a failure. -/
def principals (settings : Settings) (session : Int64) (subject : Option String) :
    Action (List String) := do
  connect settings
  let id : SessionId := ⟨session⟩
  let service := serviceOf settings none
  let answer ← Action.serve <| ExceptT.mk <| do
    match ← (service.requirePrincipals (some id) (some id.text) subject).run with
    | .ok principals => return .ok (principals.toList.map Token.text)
    | .error (.invalidSession _) => return .ok ["invalid session"]
    | .error error => return .error error
  return answer

structure Report where
  exit : UInt32
  output : List String
  warnings : List String
  failure : Option Failure
  deriving DecidableEq, Repr

def versionLine : String := "glossgate 0.1.0"

def usageLine : String := "Usage: glossgate [OPTIONS] <COMMAND>"

/-- Help and version are answers; everything else is the user's mistake. -/
def refuse : Refusal → Report
  | .version => ⟨0, [versionLine], [], none⟩
  | .help => ⟨0, [usageLine], [], none⟩
  | _ => ⟨2, [], [], none⟩

def warnings (settings : Settings) : List String :=
  if settings.tracing.enabled then
    ["tracing.enabled is set but glossgate was built without the telemetry feature"]
  else []

def execute (settings : Settings) : CommandLine.Command → Action (List String)
  | .migrate => migrate settings
  | .check session cookie action subject target evaluator =>
    check settings session cookie action subject target evaluator
  | .principals session subject => principals settings session subject

def loadSettings (environment : Settings.Environment) (path : Option String) :
    Action Settings := do
  let file ←
    match path with
    | none => pure none
    | some path => do pure (some ⟨path, ← Action.ask (.file path)⟩)
  match Settings.load environment file with
  | .ok settings => return settings
  | .error error => throw (.settings error)

def run (environment : Settings.Environment) (words : List String) :
    Dialogue Request Request.Answer Report := do
  match readWords words with
  | .error refusal => return refuse refusal
  | .ok invocation =>
    match ← (loadSettings environment invocation.config).run with
    | .error failure => return ⟨1, [], [], some failure⟩
    | .ok settings =>
      match ← (execute settings invocation.command).run with
      | .error failure => return ⟨1, [], warnings settings, some failure⟩
      | .ok lines => return ⟨0, lines, warnings settings, none⟩

end AccessGrants.Program

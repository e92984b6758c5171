import AccessGrants.Principal.Token

/-!
Log events. An event is a value that says what happened; `record` is what a log
reader sees of it, with the target, the level, the named fields and the
message. Events of the `audit` target are the trail of decisions, the others
explain how a decision came about.
-/

namespace AccessGrants

inductive Event where
  /-- A request was decided by the named evaluator. -/
  | decided (evaluator : String) (session : Option SessionId) (subject action : String)
      (target : Target) (allowed : Bool)
  | sessionInvalidated (session : SessionId)
  /-- A request that could not be evaluated was denied. -/
  | fault (subject action reason : String)
  | disagreement (session : Option SessionId) (subject action : String) (target : Target)
      (general direct : Bool)
  | provisioned (kind : InstanceKind) (id : InstanceId) (owner : ActorId) (grants : Nat)
  | malformedCookie (cookie : String)
  | sessionUnresolved (session : SessionId)
  | principalsResolved (actor : ActorId) (subject : String) (count : Nat)
  | entryMatched (principal : Token) (allowed : Bool)
  | migrationsApplied (statements : Nat)
  | migrationStarted
  | migrationFinished
  | checkFinished (evaluator : String) (allowed : Bool)
  deriving DecidableEq, Repr

namespace Event

inductive Level where
  | trace
  | debug
  | info
  | warn
  | error
  deriving DecidableEq, Repr

def Level.name : Level → String
  | .trace => "TRACE"
  | .debug => "DEBUG"
  | .info => "INFO"
  | .warn => "WARN"
  | .error => "ERROR"

inductive Field where
  | text (value : String)
  | number (value : Nat)
  | flag (value : Bool)
  deriving DecidableEq, Repr

structure Record where
  target : String
  level : Level
  fields : List (String × Field)
  message : String
  deriving DecidableEq, Repr

def sessionLabel : Option SessionId → String
  | none => "anonymous"
  | some session => session.text

def isAudit : Event → Bool
  | .decided .. | .sessionInvalidated _ | .fault .. | .disagreement .. | .provisioned .. => true
  | _ => false

private def audit (level : Level) (event : String) (fields : List (String × Field))
    (message : String) : Record :=
  ⟨"audit", level, ("event", .text event) :: fields, message⟩

def record : Event → Record
  | .decided evaluator session subject action target allowed =>
    audit .info "decision"
      [("evaluator", .text evaluator), ("session", .text (sessionLabel session)),
        ("subject", .text subject), ("action", .text action), ("subject_ref", .text target.text),
        ("allowed", .flag allowed)]
      "authorization decided"
  | .sessionInvalidated session =>
    audit .warn "session_invalidated" [("session", .text session.text)]
      "session no longer resolves to an actor"
  | .fault subject action reason =>
    audit .warn "fault"
      [("subject", .text subject), ("action", .text action), ("reason", .text reason)]
      "authorization failed closed"
  | .disagreement session subject action target general direct =>
    audit .error "disagreement"
      [("session", .text (sessionLabel session)), ("subject", .text subject),
        ("action", .text action), ("subject_ref", .text target.text), ("general", .flag general),
        ("direct", .flag direct)]
      "evaluators disagree"
  | .provisioned kind id owner grants =>
    audit .info "provisioned"
      [("kind", .text kind.name), ("subject_ref", .text id.text), ("owner", .text owner.text),
        ("grant_count", .number grants)]
      "default grants attached"
  | .malformedCookie cookie =>
    ⟨"glossgate_core::session", .debug, [("cookie", .text cookie)],
      "ignoring malformed desktop session cookie"⟩
  | .sessionUnresolved session =>
    ⟨"glossgate_core::engine::principals", .debug, [("session", .text session.text)],
      "session does not resolve to an actor"⟩
  | .principalsResolved actor subject count =>
    ⟨"glossgate_core::engine::principals", .debug,
      [("actor", .text actor.text), ("subject", .text subject), ("count", .number count)],
      "resolved principals"⟩
  | .entryMatched principal allowed =>
    ⟨"glossgate_core::engine::check", .trace,
      [("principal", .text principal.text), ("allowed", .flag allowed)], "acl entry matched"⟩
  | .migrationsApplied statements =>
    ⟨"glossgate_storage::postgres::migrations", .info, [("statements", .number statements)],
      "migrations applied"⟩
  | .migrationStarted => ⟨"glossgate", .info, [], "running database migrations"⟩
  | .migrationFinished => ⟨"glossgate", .info, [], "migrations completed successfully"⟩
  | .checkFinished evaluator allowed =>
    ⟨"glossgate", .debug, [("evaluator", .text evaluator), ("allowed", .flag allowed)],
      "check finished"⟩

end Event

end AccessGrants

import AccessGrants.Decimal.Shortest
import AccessGrants.Evaluator
import AccessGrants.Policy
import AccessGrants.Text.Blank

/-!
Settings of the program: their defaults, what makes them invalid, and the
reasons for which they cannot be loaded.
-/

namespace AccessGrants

inductive LogFormat where
  | json
  | pretty
  deriving DecidableEq, Repr

namespace LogFormat

def all : List LogFormat := [.json, .pretty]

def name : LogFormat → String
  | .json => "json"
  | .pretty => "pretty"

def ofName? (name : String) : Option LogFormat :=
  all.find? fun format => format.name == name

end LogFormat

namespace Settings

structure Connection where
  url : String
  maxConnections : UInt32
  deriving DecidableEq, Repr

structure Log where
  format : LogFormat
  level : String
  deriving DecidableEq, Repr

structure Tracing where
  enabled : Bool
  endpoint : String
  serviceName : String
  sampleRate : Binary64
  deriving DecidableEq, Repr

/-- Rates of ordinary size are written without an exponent. -/
def rateLayout : Decimal.Layout := ⟨-4, 15, false⟩

def Tracing.rateText (tracing : Tracing) : String :=
  rateLayout.text tracing.sampleRate

end Settings

structure Settings where
  database : Settings.Connection
  desktop : Bool
  evaluator : Evaluator
  policy : Policy
  log : Settings.Log
  tracing : Settings.Tracing
  deriving DecidableEq

namespace Settings

def standard : Settings where
  database := ⟨"postgresql://localhost:5432/glossgate", 10⟩
  desktop := false
  evaluator := .general
  policy := .standard
  log := ⟨.json, "info"⟩
  tracing := ⟨false, "http://localhost:4317", "glossgate", .ofInt 1⟩

inductive Problem where
  | noConnections
  | sampleRate
  | blankSubject (subject : String)
  deriving DecidableEq, Repr

def Problem.message : Problem → String
  | .noConnections => "database.max_connections must be non-zero"
  | .sampleRate => "tracing.sample_rate must be between 0.0 and 1.0"
  | .blankSubject subject => "policy subjects must be non-empty, got '" ++ subject ++ "'"

/-- The first blank subject type of the policy; the public ones come first. -/
def blankSubject? (policy : Policy) : Option String :=
  (policy.publicSubjects.toList ++ policy.anonymousSubjects.toList).find? Text.isAllBlank

def problem? (settings : Settings) : Option Problem :=
  if settings.database.maxConnections = 0 then some .noConnections
  else if !settings.tracing.sampleRate.isUnitInterval then some .sampleRate
  else (blankSubject? settings.policy).map .blankSubject

inductive FileError where
  | absent
  | denied
  /-- The path leads through something that is no directory. -/
  | notDirectory
  | isDirectory
  | nameTooLong
  | notText
  | other (reason : String)
  deriving DecidableEq, Repr

def FileError.message : FileError → String
  | .absent => "No such file or directory (os error 2)"
  | .denied => "Permission denied (os error 13)"
  | .notDirectory => "Not a directory (os error 20)"
  | .isDirectory => "Is a directory (os error 21)"
  | .nameTooLong => "File name too long (os error 36)"
  | .notText => "stream did not contain valid UTF-8"
  | .other reason => reason

inductive LoadError where
  | unreadable (path : String) (error : FileError)
  | malformed
  | invalid (problem : Problem)
  deriving DecidableEq, Repr

def LoadError.message : LoadError → String
  | .unreadable path error => "failed to read config file '" ++ path ++ "': " ++ error.message
  | .malformed => "failed to parse TOML config"
  | .invalid problem => "config validation failed: " ++ problem.message

end Settings

end AccessGrants

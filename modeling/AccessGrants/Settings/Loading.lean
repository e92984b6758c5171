import AccessGrants.Settings.Decoding
import AccessGrants.Toml.Reader

/-!
Loading settings: the defaults, over them the file if there is one, over both
the environment. A variable that cannot be read changes nothing. Only the
result has to be valid, so a variable can mend what the file has wrong.
-/

namespace AccessGrants.Settings

abbrev Environment : Type := String → Option String

def variableNames : List String :=
  ["GLOSSGATE_DATABASE_URL", "GLOSSGATE_DATABASE_MAX_CONNECTIONS", "GLOSSGATE_DESKTOP_ENABLED",
    "GLOSSGATE_ENGINE_EVALUATOR", "GLOSSGATE_LOG_LEVEL", "GLOSSGATE_LOG_FORMAT",
    "GLOSSGATE_TRACING_ENABLED", "GLOSSGATE_TRACING_OTLP_ENDPOINT"]

def readFlag? (text : String) : Option Bool :=
  if text = "true" then some true else if text = "false" then some false else none

/-- The value of a variable that is set and can be read, or else the value from
below. -/
def layered {α : Type} (environment : Environment) (name : String)
    (read : String → Option α) (below : α) : α :=
  ((environment name).bind read).getD below

def withEnvironment (environment : Environment) (settings : Settings) : Settings where
  database :=
    { url := layered environment "GLOSSGATE_DATABASE_URL" some settings.database.url
      maxConnections :=
        layered environment "GLOSSGATE_DATABASE_MAX_CONNECTIONS"
          (fun text => Text.readUInt32? text.toList) settings.database.maxConnections }
  desktop := layered environment "GLOSSGATE_DESKTOP_ENABLED" readFlag? settings.desktop
  evaluator := layered environment "GLOSSGATE_ENGINE_EVALUATOR" Evaluator.ofName? settings.evaluator
  policy := settings.policy
  log :=
    { format := layered environment "GLOSSGATE_LOG_FORMAT" LogFormat.ofName? settings.log.format
      level := layered environment "GLOSSGATE_LOG_LEVEL" some settings.log.level }
  tracing :=
    { settings.tracing with
      enabled := layered environment "GLOSSGATE_TRACING_ENABLED" readFlag? settings.tracing.enabled
      endpoint :=
        layered environment "GLOSSGATE_TRACING_OTLP_ENDPOINT" some settings.tracing.endpoint }

/-- Settings under an environment, if they are valid then. -/
def layer (environment : Environment) (settings : Settings) : Except LoadError Settings :=
  let merged := settings.withEnvironment environment
  match merged.problem? with
  | some problem => .error (.invalid problem)
  | none => .ok merged

/-- The bytes of a file, or the reason why there are none. -/
structure File where
  path : String
  content : Except FileError ByteArray

def ofFile (file : File) : Except LoadError Settings :=
  match file.content with
  | .error error => .error (.unreadable file.path error)
  | .ok bytes =>
    match String.fromUTF8? bytes with
    | none => .error (.unreadable file.path .notText)
    | some text =>
      match (Toml.read? text).bind ofEntries? with
      | none => .error .malformed
      | some settings => .ok settings

def load (environment : Environment) (file : Option File) : Except LoadError Settings :=
  match file with
  | none => layer environment standard
  | some file => (ofFile file).bind (layer environment)

end AccessGrants.Settings

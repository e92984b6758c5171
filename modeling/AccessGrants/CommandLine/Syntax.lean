import AccessGrants.Evaluator
import AccessGrants.Text.Numeral

/-!
The words of a command line and what is declared about them: the commands, the
parameters that each of them knows, and the values that a parameter takes. A
word with two hyphens is a long name, with or without a value behind an equals
sign; a word with one hyphen is a row of short names, the last of which may
have its value attached.
-/

namespace AccessGrants.CommandLine

/-- Why a command line is not a command. Help and version are asked for, all
others are mistakes. -/
inductive Refusal where
  | help
  | version
  | nothingGiven
  | missingCommand
  | unknownCommand
  | unknownArgument
  | missingParameter
  /-- The value is missing, or is none of those that are allowed. -/
  | invalidValue
  | notANumber
  | unneededValue
  | repeatedParameter
  deriving DecidableEq, Repr

inductive Param where
  | config
  | session
  | cookie
  | action
  | subject
  | target
  | evaluator
  deriving DecidableEq, Repr

def Param.name : Param → String
  | .config => "config"
  | .session => "session"
  | .cookie => "cookie"
  | .action => "action"
  | .subject => "subject"
  | .target => "target"
  | .evaluator => "evaluator"

inductive Level where
  | program
  | migrate
  | check
  | principals
  deriving DecidableEq, Repr

namespace Level

def commands : List (String × Level) :=
  [("migrate", .migrate), ("check", .check), ("principals", .principals)]

/-- The parameter for the settings file is known everywhere. -/
def params : Level → List Param
  | .program | .migrate => [.config]
  | .check => [.config, .session, .cookie, .action, .subject, .target, .evaluator]
  | .principals => [.config, .session, .subject]

end Level

inductive Meaning where
  | takesValue (param : Param)
  | asksFor (what : Refusal)

namespace Level

def longName? (level : Level) (name : String) : Option Meaning :=
  if name = "help" then some (.asksFor .help)
  else if name = "version" && level = .program then some (.asksFor .version)
  else (level.params.find? fun param => param.name == name).map .takesValue

def shortName? (level : Level) (c : Char) : Option Meaning :=
  if c = 'h' then some (.asksFor .help)
  else if c = 'V' && level = .program then some (.asksFor .version)
  else if c = 'c' then some (.takesValue .config)
  else none

end Level

inductive Word where
  /-- Two hyphens alone: only plain words follow. -/
  | separator
  | long (name : String) (value : Option String)
  | short (names : List Char)
  | plain
  deriving DecidableEq, Repr

def Word.ofText (text : String) : Word :=
  match text.toList with
  | ['-', '-'] => .separator
  | '-' :: '-' :: rest =>
    let name := rest.takeWhile (· ≠ '=')
    match rest.dropWhile (· ≠ '=') with
    | [] => .long (String.ofList name) none
    | _ :: value => .long (String.ofList name) (some (String.ofList value))
  | '-' :: c :: rest => .short (c :: rest)
  | _ => .plain

structure Values where
  config : Option String
  session : Option Int64
  cookie : Option String
  action : Option String
  subject : Option String
  target : Option String
  evaluator : Option Evaluator
  deriving DecidableEq, Repr

namespace Values

def none : Values :=
  ⟨.none, .none, .none, .none, .none, .none, .none⟩

def has (values : Values) : Param → Bool
  | .config => values.config.isSome
  | .session => values.session.isSome
  | .cookie => values.cookie.isSome
  | .action => values.action.isSome
  | .subject => values.subject.isSome
  | .target => values.target.isSome
  | .evaluator => values.evaluator.isSome

/-- Adds the value of a parameter that has none yet. -/
def set (values : Values) (text : String) : Param → Except Refusal Values
  | .config =>
    if text.isEmpty then .error .invalidValue else .ok { values with config := some text }
  | .session =>
    match Text.readInt64? text.toList with
    | some session => .ok { values with session := some session }
    | _ => .error .notANumber
  | .cookie => .ok { values with cookie := some text }
  | .action => .ok { values with action := some text }
  | .subject => .ok { values with subject := some text }
  | .target => .ok { values with target := some text }
  | .evaluator =>
    match Evaluator.ofName? text with
    | some evaluator => .ok { values with evaluator := some evaluator }
    | _ => .error .invalidValue

end Values

end AccessGrants.CommandLine

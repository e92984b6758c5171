import AccessGrants.CommandLine.Syntax

/-!
Reading a command line. Words are read from the left. A parameter is open from
its name on until another parameter, or the end, closes it, and only then is its
value looked at; so a word that is not known is reported before a value that is
not allowed. The command reads all words that follow it before the parameters
in front of it are closed.
-/

namespace AccessGrants.CommandLine

/-- A parameter whose value has not been looked at, or has yet to come. -/
structure Open where
  param : Param
  value : Option String
  deriving DecidableEq, Repr

structure Progress where
  values : Values
  current : Option Open
  onlyPlain : Bool
  deriving DecidableEq, Repr

namespace Progress

def start : Progress := ⟨.none, none, false⟩

def awaitsValue (progress : Progress) : Bool :=
  match progress.current with
  | some ⟨_, none⟩ => true
  | _ => false

def add (values : Values) (param : Param) (text : String) : Except Refusal Values :=
  if values.has param then .error .repeatedParameter else values.set text param

def close (progress : Progress) : Except Refusal Values :=
  match progress.current with
  | none => .ok progress.values
  | some ⟨_, none⟩ => .error .invalidValue
  | some ⟨param, some text⟩ => add progress.values param text

/-- Begins a parameter. An attached value is looked at right away. -/
def begin (progress : Progress) (param : Param) (attached : Option String) :
    Except Refusal Progress := do
  let values ← progress.close
  match attached with
  | some text => return { progress with values := ← add values param text, current := none }
  | none => return { progress with values := values, current := some ⟨param, none⟩ }

def takeLong (level : Level) (progress : Progress) (name : String) (value : Option String) :
    Except Refusal Progress :=
  match level.longName? name, value with
  | none, _ => .error .unknownArgument
  | some (.takesValue param), value => progress.begin param value
  | some (.asksFor _), some _ => .error .unneededValue
  | some (.asksFor what), none => do
    discard progress.close
    throw what

/-- The value behind a short name; an equals sign may stand before it. -/
def attachedValue : List Char → Option String
  | [] => none
  | '=' :: rest => some (String.ofList rest)
  | rest => some (String.ofList rest)

/-- Every short name but that of a parameter ends the reading, so only the first
one counts. -/
def takeShort (level : Level) (progress : Progress) : List Char → Except Refusal Progress
  | [] => .ok progress
  | c :: rest =>
    match level.shortName? c with
    | none => .error .unknownArgument
    | some (.takesValue param) => progress.begin param (attachedValue rest)
    | some (.asksFor what) => do
      discard progress.close
      throw what

end Progress

/-- The commands that can be named on a level, and the one that explains them. -/
def Level.subcommands : Level → List String
  | .program => "help" :: Level.commands.map Prod.fst
  | _ => []

def strayWord (level : Level) (onlyPlain : Bool) (word : String) : Refusal :=
  if level.subcommands.isEmpty || (onlyPlain && level.subcommands.contains word) then
    .unknownArgument
  else .unknownCommand

/-- Where the words of a level end: at the end of the line, or at the name of a
command. -/
structure Stop where
  progress : Progress
  command : Option (String × List String)

def scan (level : Level) (progress : Progress) : List String → Except Refusal Stop
  | [] => .ok ⟨progress, none⟩
  | word :: rest =>
    if progress.onlyPlain then .error (strayWord level true word)
    else if !progress.awaitsValue && level.subcommands.contains word then
      .ok ⟨progress, some (word, rest)⟩
    else
      match Word.ofText word with
      | .separator => scan level { progress with onlyPlain := true } rest
      | .long name value => do scan level (← progress.takeLong level name value) rest
      | .short names => do scan level (← progress.takeShort level names) rest
      | .plain =>
        match progress.current with
        | some ⟨param, none⟩ =>
          scan level { progress with current := some ⟨param, some word⟩ } rest
        | _ => .error (strayWord level false word)

inductive Command where
  | migrate
  | check (session : Option Int64) (cookie : Option String) (action subject target : String)
      (evaluator : Option Evaluator)
  | principals (session : Int64) (subject : Option String)
  deriving DecidableEq, Repr

structure Invocation where
  config : Option String
  command : Command
  deriving DecidableEq, Repr

/-- The command of a level from its values. A check without a target is a check
for creation. -/
def Command.ofValues (level : Level) (values : Values) : Except Refusal Command :=
  match level with
  | .program => .error .missingCommand
  | .migrate => .ok .migrate
  | .check =>
    match values.action, values.subject with
    | some action, some subject =>
      .ok (.check values.session values.cookie action subject (values.target.getD "none")
        values.evaluator)
    | _, _ => .error .missingParameter
  | .principals =>
    match values.session with
    | some session => .ok (.principals session values.subject)
    | none => .error .missingParameter

/-- Help is given on the program, or on one command that it names. -/
def helpOn : List String → Refusal
  | [] => .help
  | [name] => if Level.program.subcommands.contains name then .help else .unknownCommand
  | _ => .unknownCommand

def readWords (words : List String) : Except Refusal Invocation := do
  let stop ← scan .program .start words
  match stop.command with
  | none =>
    let values ← stop.progress.close
    throw (if values = .none then .nothingGiven else .missingCommand)
  | some (name, rest) =>
    match Level.commands.lookup name with
    | none => throw (helpOn rest)
    | some level =>
      let inner ← (← scan level .start rest).progress.close
      let command ← Command.ofValues level inner
      let outer ← stop.progress.close
      return ⟨inner.config <|> outer.config, command⟩

/-- Reads a command line, the first word of which is the program's name. -/
def read (line : List String) : Except Refusal Invocation :=
  readWords (line.drop 1)

end AccessGrants.CommandLine

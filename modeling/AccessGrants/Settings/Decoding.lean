import AccessGrants.Settings.Basic
import AccessGrants.Toml.Value

/-!
Settings read from a TOML table. What is not given keeps its default and what
is not known is ignored, but a value of the wrong kind spoils the whole table.
A group of settings may also be an array of their values in order.
-/

namespace AccessGrants.Settings

open Toml

abbrev Members : Type := String → Option Value

/-- The members of a value that is a group with these names. A date is a group
that gives none of them. -/
def members? (names : List String) : Value → Option Members
  | .table _ entries => some (Entries.get? entries)
  | .array _ items => some fun name => (names.zip items).lookup name
  | .moment => some fun _ => none
  | _ => none

def Members.value? {α : Type} (members : Members) (name : String) (decode : Value → Option α)
    (default : α) : Option α :=
  match members name with
  | none => some default
  | some value => decode value

def decodeText : Value → Option String
  | .text s => some s
  | _ => none

def decodeFlag : Value → Option Bool
  | .boolean b => some b
  | _ => none

def decodeCount : Value → Option UInt32
  | .integer n => if 0 ≤ n && n < 4294967296 then some (UInt32.ofNat n.toInt.toNat) else none
  | _ => none

def decodeRate : Value → Option Binary64
  | .float x => some x
  | .integer n => some (.ofInt n.toInt)
  | _ => none

def decodeSubjects : Value → Option (SortedSet String)
  | .array _ items => (items.mapM decodeText).map .ofList
  | _ => none

/-- A name, or a table whose only key is the name and whose only value is
empty. -/
def decodeName : Value → Option String
  | .text s => some s
  | .table _ [(name, .array _ [])] => some name
  | .table _ [(name, .table _ [])] => some name
  | _ => none

def decodeConnection (default : Connection) (value : Value) : Option Connection := do
  let members ← members? ["url", "max_connections"] value
  return {
    url := ← members.value? "url" decodeText default.url
    maxConnections := ← members.value? "max_connections" decodeCount default.maxConnections }

def decodeDesktop (default : Bool) (value : Value) : Option Bool := do
  (← members? ["enabled"] value).value? "enabled" decodeFlag default

def decodeEngine (default : Evaluator) (value : Value) : Option Evaluator := do
  (← members? ["evaluator"] value).value? "evaluator"
    (fun value => (decodeName value).bind Evaluator.ofName?) default

def decodePolicy (default : Policy) (value : Value) : Option Policy := do
  let members ← members? ["anonymous_subjects", "public_subjects"] value
  return {
    anonymousSubjects :=
      ← members.value? "anonymous_subjects" decodeSubjects default.anonymousSubjects
    publicSubjects := ← members.value? "public_subjects" decodeSubjects default.publicSubjects }

def decodeLog (default : Log) (value : Value) : Option Log := do
  let members ← members? ["format", "level"] value
  return {
    format := ← members.value? "format"
      (fun value => (decodeName value).bind LogFormat.ofName?) default.format
    level := ← members.value? "level" decodeText default.level }

def decodeTracing (default : Tracing) (value : Value) : Option Tracing := do
  let members ← members? ["enabled", "otlp_endpoint", "service_name", "sample_rate"] value
  return {
    enabled := ← members.value? "enabled" decodeFlag default.enabled
    endpoint := ← members.value? "otlp_endpoint" decodeText default.endpoint
    serviceName := ← members.value? "service_name" decodeText default.serviceName
    sampleRate := ← members.value? "sample_rate" decodeRate default.sampleRate }

def ofEntries? (entries : Entries) : Option Settings := do
  let members : Members := entries.get?
  return {
    database := ← members.value? "database" (decodeConnection standard.database) standard.database
    desktop := ← members.value? "desktop" (decodeDesktop standard.desktop) standard.desktop
    evaluator := ← members.value? "engine" (decodeEngine standard.evaluator) standard.evaluator
    policy := ← members.value? "policy" (decodePolicy standard.policy) standard.policy
    log := ← members.value? "log" (decodeLog standard.log) standard.log
    tracing := ← members.value? "tracing" (decodeTracing standard.tracing) standard.tracing }

end AccessGrants.Settings

import AccessGrants.Program
import AccessGrants.Proofs.Settings.Validity
import AccessGrants.Proofs.Text.Numeral
import AccessGrants.Settings.Loading
import Mathlib.Logic.Function.Basic

/-!
Settings under an environment. Each of eight settings has a variable, and what can be
read there counts over what the file says, or over the default where there is no file.
A variable that cannot be read counts as one that is not set. All else is as the file
has it. Whether the settings are valid is asked of the result alone, so that the
environment can mend what the file has wrong and spoil what it has right.
-/

namespace AccessGrants.Settings

/-- A setting that has a variable. -/
inductive Setting where
  | url
  | maxConnections
  | desktop
  | evaluator
  | level
  | format
  | tracing
  | endpoint
  deriving DecidableEq, Repr

namespace Setting

def variableName : Setting → String
  | .url => "GLOSSGATE_DATABASE_URL"
  | .maxConnections => "GLOSSGATE_DATABASE_MAX_CONNECTIONS"
  | .desktop => "GLOSSGATE_DESKTOP_ENABLED"
  | .evaluator => "GLOSSGATE_ENGINE_EVALUATOR"
  | .level => "GLOSSGATE_LOG_LEVEL"
  | .format => "GLOSSGATE_LOG_FORMAT"
  | .tracing => "GLOSSGATE_TRACING_ENABLED"
  | .endpoint => "GLOSSGATE_TRACING_OTLP_ENDPOINT"

abbrev Value : Setting → Type
  | .url | .level | .endpoint => String
  | .maxConnections => UInt32
  | .desktop | .tracing => Bool
  | .evaluator => Evaluator
  | .format => LogFormat

/-- The text of a variable stands for this value of the setting. -/
def Reads : (setting : Setting) → String → setting.Value → Prop
  | .url, text, value | .level, text, value | .endpoint, text, value => text = value
  | .maxConnections, text, value => Text.DenotesUnsigned text.toList value.toNat
  | .desktop, text, value | .tracing, text, value =>
    text = "true" ∧ value = true ∨ text = "false" ∧ value = false
  | .evaluator, text, value =>
    text = "general" ∧ value = .general ∨ text = "direct" ∧ value = .direct ∨
      text = "verify" ∧ value = .verify
  | .format, text, value =>
    text = "json" ∧ value = .json ∨ text = "pretty" ∧ value = .pretty

def read? : (setting : Setting) → String → Option setting.Value
  | .url, text | .level, text | .endpoint, text => some text
  | .maxConnections, text => Text.readUInt32? text.toList
  | .desktop, text | .tracing, text => readFlag? text
  | .evaluator, text => Evaluator.ofName? text
  | .format, text => LogFormat.ofName? text

end Setting

/-- The value of a setting that has a variable. -/
def value (settings : Settings) : (setting : Setting) → setting.Value
  | .url => settings.database.url
  | .maxConnections => settings.database.maxConnections
  | .desktop => settings.desktop
  | .evaluator => settings.evaluator
  | .level => settings.log.level
  | .format => settings.log.format
  | .tracing => settings.tracing.enabled
  | .endpoint => settings.tracing.endpoint

/-- The variable of the setting is set to a text that stands for no value. -/
def Unreadable (environment : Environment) (setting : Setting) : Prop :=
  ∃ text, environment setting.variableName = some text ∧ ∀ value, ¬setting.Reads text value

/-- What a setting is under an environment, given what it is below. -/
inductive Overridden (environment : Environment) (setting : Setting) (below : setting.Value) :
    setting.Value → Prop where
  | given {text : String} {value : setting.Value}
      (set : environment setting.variableName = some text) (reads : setting.Reads text value) :
      Overridden environment setting below value
  | unset (unset : environment setting.variableName = none) :
      Overridden environment setting below below
  | unreadable (unreadable : Unreadable environment setting) :
      Overridden environment setting below below

/-- What an environment makes of the settings below it. -/
structure Layered (environment : Environment) (below merged : Settings) : Prop where
  overridden : ∀ setting, Overridden environment setting (below.value setting)
    (merged.value setting)
  policy : merged.policy = below.policy
  serviceName : merged.tracing.serviceName = below.tracing.serviceName
  sampleRate : merged.tracing.sampleRate = below.tracing.sampleRate

variable {environment : Environment} {setting : Setting} {settings below merged : Settings}

namespace Setting

/-- Looking for a name among all things that have one. -/
theorem find?_name_eq_some_iff {α : Type} {all : List α} {name : α → String} {text : String}
    {x : α} (complete : ∀ y, y ∈ all) (injective : Function.Injective name) :
    (all.find? fun y => name y == text) = some x ↔ text = name x := by
  constructor
  · intro h
    have hname := List.find?_some h
    exact (beq_iff_eq.mp hname).symm
  · rintro rfl
    cases h : all.find? fun y => name y == name x with
    | none => exact absurd (List.find?_eq_none.mp h x (complete x)) (by simp)
    | some y =>
        have hname := List.find?_some h
        rw [injective (beq_iff_eq.mp hname)]

theorem evaluatorOfName?_eq_some_iff {text : String} {evaluator : Evaluator} :
    Evaluator.ofName? text = some evaluator ↔ text = evaluator.name :=
  find?_name_eq_some_iff (by intro evaluator; cases evaluator <;> decide)
    (by intro first second; cases first <;> cases second <;> decide)

theorem formatOfName?_eq_some_iff {text : String} {format : LogFormat} :
    LogFormat.ofName? text = some format ↔ text = format.name :=
  find?_name_eq_some_iff (by intro format; cases format <;> decide)
    (by intro first second; cases first <;> cases second <;> decide)

theorem readFlag?_eq_some_iff {text : String} {flag : Bool} :
    readFlag? text = some flag ↔ text = "true" ∧ flag = true ∨ text = "false" ∧ flag = false := by
  unfold readFlag?
  split_ifs <;> simp_all [eq_comm]

theorem read?_eq_some_iff {text : String} {value : setting.Value} :
    setting.read? text = some value ↔ setting.Reads text value := by
  cases setting with
  | url | level | endpoint => exact Option.some_inj
  | maxConnections => exact Text.readUInt32?_eq_some_iff
  | desktop | tracing => exact readFlag?_eq_some_iff
  | evaluator =>
      refine evaluatorOfName?_eq_some_iff.trans ?_
      cases value <;> simp [Reads, Evaluator.name]
  | format =>
      refine formatOfName?_eq_some_iff.trans ?_
      cases value <;> simp [Reads, LogFormat.name]

theorem read?_eq_none_iff {text : String} :
    setting.read? text = none ↔ ∀ value, ¬setting.Reads text value := by
  simp only [← read?_eq_some_iff, Option.eq_none_iff_forall_ne_some, ne_eq]

theorem variableName_injective : Function.Injective variableName := by
  intro first second
  cases first <;> cases second <;> decide

end Setting

theorem value_withEnvironment : (settings.withEnvironment environment).value setting =
    layered environment setting.variableName setting.read? (settings.value setting) := by
  cases setting <;> rfl

/-- What a setting is under an environment is one thing. -/
theorem overridden_iff {value below : setting.Value} :
    Overridden environment setting below value ↔
      value = layered environment setting.variableName setting.read? below := by
  unfold layered
  constructor
  · rintro (⟨hset, hreads⟩ | hunset | ⟨text, hset, hunreadable⟩)
    · simp [hset, Setting.read?_eq_some_iff.mpr hreads]
    · simp [hunset]
    · simp [hset, Setting.read?_eq_none_iff.mpr hunreadable]
  · rintro rfl
    cases hset : environment setting.variableName with
    | none => exact .unset hset
    | some text =>
        cases hread : setting.read? text with
        | none =>
            simp only [Option.bind_some, hread, Option.getD_none]
            exact .unreadable ⟨text, hset, Setting.read?_eq_none_iff.mp hread⟩
        | some value =>
            simp only [Option.bind_some, hread, Option.getD_some]
            exact .given hset (Setting.read?_eq_some_iff.mp hread)

/-- Settings are their eight values and the rest. -/
theorem eq_of_values (values : ∀ setting, settings.value setting = merged.value setting)
    (policy : settings.policy = merged.policy)
    (serviceName : settings.tracing.serviceName = merged.tracing.serviceName)
    (sampleRate : settings.tracing.sampleRate = merged.tracing.sampleRate) :
    settings = merged := by
  obtain ⟨⟨url, maxConnections⟩, desktop, evaluator, _, ⟨format, level⟩,
    ⟨enabled, endpoint, _, _⟩⟩ := settings
  obtain rfl : url = _ := values .url
  obtain rfl : maxConnections = _ := values .maxConnections
  obtain rfl : desktop = _ := values .desktop
  obtain rfl : evaluator = _ := values .evaluator
  obtain rfl : format = _ := values .format
  obtain rfl : level = _ := values .level
  obtain rfl : enabled = _ := values .tracing
  obtain rfl : endpoint = _ := values .endpoint
  subst policy serviceName sampleRate
  rfl

theorem layered_iff :
    Layered environment below merged ↔ merged = below.withEnvironment environment := by
  constructor
  · intro h
    refine eq_of_values (fun setting => ?_) h.policy h.serviceName h.sampleRate
    rw [value_withEnvironment]
    exact overridden_iff.mp (h.overridden setting)
  · rintro rfl
    exact ⟨fun setting => overridden_iff.mpr value_withEnvironment, rfl, rfl, rfl⟩

/-- An unreadable variable may as well not be set. -/
theorem withEnvironment_unset (h : Unreadable environment setting) :
    below.withEnvironment (Function.update environment setting.variableName none) =
      below.withEnvironment environment := by
  refine eq_of_values (fun other => ?_) rfl rfl rfl
  rw [value_withEnvironment, value_withEnvironment]
  by_cases hother : other = setting
  · subst hother
    have hunset : Function.update environment other.variableName none other.variableName = none :=
      Function.update_self _ _ _
    exact (overridden_iff.mp (.unset hunset)).symm.trans (overridden_iff.mp (.unreadable h))
  · have hname : other.variableName ≠ setting.variableName :=
      fun heq => hother (Setting.variableName_injective heq)
    rw [layered, layered, Function.update_of_ne hname]

/-- What the environment is laid over: the settings of the file, or the defaults
where there is no file. -/
inductive Below : Option File → Settings → Prop where
  | standard : Below none standard
  | file {file : File} {base : Settings} (decoded : ofFile file = .ok base) :
      Below (some file) base

section Loading

variable {file : Option File} {base : Settings}

theorem Below.load_eq (h : Below file base) : load environment file = layer environment base := by
  cases h with
  | standard => rfl
  | file decoded =>
      rw [load, decoded]
      rfl

theorem layer_eq_ok_iff :
    layer environment base = .ok merged ↔ Layered environment base merged ∧ merged.Valid := by
  rw [layered_iff, layer]
  split
  · next problem hproblem =>
      refine iff_of_false (by simp) ?_
      rintro ⟨rfl, hvalid⟩
      rw [problem?_eq_none_iff.mpr hvalid] at hproblem
      cases hproblem
  · next hvalid =>
      rw [Except.ok.injEq, eq_comm]
      exact ⟨fun h => ⟨h, h ▸ problem?_eq_none_iff.mp hvalid⟩, fun h => h.1⟩

theorem layer_eq_error_iff {error : LoadError} :
    layer environment base = .error error ↔ ∃ merged problem,
      Layered environment base merged ∧ Fails merged problem ∧ error = .invalid problem := by
  simp only [layered_iff, exists_and_left, exists_eq_left, ← problem?_eq_some_iff, layer]
  split
  · next problem hproblem =>
      simp [hproblem, eq_comm]
  · next hvalid => simp [hvalid]

theorem load_unset (h : Unreadable environment setting) :
    load (Function.update environment setting.variableName none) file = load environment file := by
  have hlayer : layer (Function.update environment setting.variableName none) =
      layer environment := by
    funext base
    rw [layer, withEnvironment_unset h, layer]
  unfold load
  rw [hlayer]

/-- Loading over settings that the file or the defaults give. The result is what the
environment makes of them if that is valid, and the first thing that is wrong with it
otherwise. So a policy that decides requests has no blank subject type. -/
theorem load_layers_then_validates (below : Below file base) :
    (∃! merged, Layered environment base merged) ∧
      (∀ merged, load environment file = .ok merged ↔
        Layered environment base merged ∧ merged.Valid) ∧
      (∀ error, load environment file = .error error ↔ ∃ merged problem,
        Layered environment base merged ∧ Fails merged problem ∧ error = .invalid problem) ∧
      (∀ setting, Unreadable environment setting →
        load (Function.update environment setting.variableName none) file =
          load environment file) ∧
      ∀ merged evaluator, load environment file = .ok merged →
        (∀ subject ∈ (Program.serviceOf merged evaluator).policy.publicSubjects,
          ¬IsBlank subject) ∧
        ∀ subject ∈ (Program.serviceOf merged evaluator).policy.anonymousSubjects,
          ¬IsBlank subject := by
  have hok : ∀ merged, load environment file = .ok merged ↔
      Layered environment base merged ∧ merged.Valid := by
    intro merged
    rw [below.load_eq]
    exact layer_eq_ok_iff
  refine ⟨⟨_, layered_iff.mpr rfl, fun _ h => layered_iff.mp h⟩, hok, ?_, ?_, ?_⟩
  · intro error
    rw [below.load_eq]
    exact layer_eq_error_iff
  · intro setting
    exact load_unset
  · intro merged evaluator hload
    have hvalid : merged.Valid := ((hok merged).mp hload).2
    exact ⟨hvalid.publicSubjects, hvalid.anonymousSubjects⟩

/-- One variable that is read, and one that is not. -/
def sixteenConnections : Environment := fun name =>
  if name = "GLOSSGATE_DATABASE_MAX_CONNECTIONS" then some "+16"
  else if name = "GLOSSGATE_ENGINE_EVALUATOR" then some "Direct"
  else none

theorem sixteen_connections_loaded :
    Below none standard ∧
      let merged := { standard with database := { standard.database with maxConnections := 16 } }
      load sixteenConnections none = .ok merged ∧
        Layered sixteenConnections standard merged ∧ merged.Valid := by
  refine ⟨.standard, ?_, ?_⟩
  · decide
  · exact ((load_layers_then_validates .standard).2.1 _).mp (by decide)

end Loading

end AccessGrants.Settings

import CampaignCheck.Data.Misuse
import CampaignCheck.Data.Print
import CampaignCheck.Live.Config
import CampaignCheck.Text.Casing
import CampaignCheck.Text.Digit
import CampaignCheck.Text.Lines

namespace CampaignCheck

abbrev Environment := List (String × String)

namespace Environment

/-- The value of a variable that is set and not empty. -/
def get? (env : Environment) (name : String) : Option String :=
  (env.lookup name).filter (!·.isEmpty)

/-- A number above zero. -/
def positive? (env : Environment) (name : String) : Option Int := do
  let s ← env.get? name
  let n ← Text.integer? s.toList
  if 0 < n then some n else none

/-- A switch: one of a few words in any case, with blanks around it. -/
def switch? (env : Environment) (name : String) : Option Bool := do
  let s ← env.get? name
  let word := Text.lowerString (Text.trimString s)
  if ["1", "true", "yes", "on"].contains word then some true
  else if ["0", "false", "no", "off"].contains word then some false
  else none

end Environment

/-- What a settings file holds. What the environment says counts first, then what is said here, then
a default. -/
structure Settings where
  data : Value

/-- The place of a settings file. -/
inductive SettingsFile where
  | missing
  | unusable
  | holds (text : String)
deriving DecidableEq, Repr, Inhabited

/-- Where settings are kept, which may be a place that nothing can be written to. -/
structure SettingsStore where
  file : SettingsFile := .missing
  writable : Bool := true
deriving DecidableEq, Repr, Inhabited

namespace Settings

def default : Settings := ⟨.object [("analysis", LiveConfig.toValue {})]⟩

def load : SettingsFile → Settings
  | .holds text => ((Json.read? text).map Settings.mk).getD default
  | _ => default

/-- A section of the settings; a missing one is empty. -/
def part (s : Settings) (name : String) : Except Misuse Value := do
  let fs ← s.data.fields
  return (Fields.get? fs name).getD (.object [])

def inSection (s : Settings) (name field : String) : Except Misuse (Option Value) := do
  let held ← s.part name
  let fs ← held.fields
  return Fields.get? fs field

/-- The milliseconds to wait for a pause: a number above zero, where the word for true is one. -/
def debounce (s : Settings) (env : Environment) : Except Misuse Value :=
  match env.positive? "ANALYSIS_DEBOUNCE_MS" with
  | some n => .ok (.int n)
  | none => do
    let v ← s.inSection "analysis" "debounce_ms"
    return match v with
      | some (.int n) => if 0 < n then .int n else .int 300
      | some (.bool true) => .bool true
      | _ => .int 300

/-- A switch of the analysis; in the file, anything that does not count as false switches on. -/
def flag (s : Settings) (env : Environment) (name field : String) : Except Misuse Bool :=
  match env.switch? name with
  | some b => .ok b
  | none => do
    let v ← s.inSection "analysis" field
    return (v.getD (.bool true)).isTruthy

def validation (s : Settings) (env : Environment) : Except Misuse Bool :=
  s.flag env "ENABLE_LIVE_VALIDATION" "enable_live_validation"

def metrics (s : Settings) (env : Environment) : Except Misuse Bool :=
  s.flag env "ENABLE_PERFORMANCE_METRICS" "enable_performance_metrics"

def bestPractices (s : Settings) (env : Environment) : Except Misuse Bool :=
  s.flag env "ENABLE_BEST_PRACTICES" "enable_best_practices"

/-- The number of milliseconds that a value of the settings stands for. -/
def millis : Value → Nat
  | .int n => n.toNat
  | .bool true => 1
  | _ => 300

def live (s : Settings) (env : Environment) : Except Misuse LiveConfig := do
  let debounce ← s.debounce env
  let validation ← s.validation env
  let metrics ← s.metrics env
  let bestPractices ← s.bestPractices env
  return ⟨millis debounce, validation, metrics, bestPractices⟩

/-- The directory of rule files; nothing for the rules that come with the program. -/
def rulesDirectory (s : Settings) (env : Environment) : Except Misuse Value :=
  match env.get? "RULES_DIR" with
  | some dir => .ok (.text dir)
  | none => do
    let v ← s.inSection "paths" "rules_dir"
    return v.getD .null

def logLevel (s : Settings) (env : Environment) : Except Misuse String :=
  match env.get? "LOG_LEVEL" with
  | some level => .ok (Text.upperString level)
  | none => do
    let v ← s.inSection "logging" "level"
    let level := v.getD .null
    return if level.isTruthy then Text.upperString level.display else "INFO"

/-- The origins that may call unless others are given. -/
def defaultOrigins : List String := ["http://localhost:3000", "http://localhost:5173"]

/-- The texts between commas that are not blank. -/
def splitOrigins (s : String) : List String :=
  ((Text.cut ',' s.toList).map fun cs => String.ofList (Text.trim cs)).filter (!·.isEmpty)

def origins (s : Settings) (env : Environment) : Except Misuse Value :=
  match env.get? "CORS_ORIGINS" with
  | some text => .ok (.ofTexts (splitOrigins text))
  | none => do
    let fs ← s.data.fields
    let v := (Fields.get? fs "cors_origins").getD .null
    return if v.isTruthy then v else .ofTexts defaultOrigins

def withLive (s : Settings) (c : LiveConfig) : Except Misuse Settings :=
  match s.data with
  | .object fs => .ok ⟨.object (Fields.put fs "analysis" c.toValue)⟩
  | .list _ => .error .indexedByText
  | v => .error (.notAssignable v.kind)

def text (s : Settings) : String := Json.pretty s.data

/-- The file after the settings were written to it. -/
def save (s : Settings) : SettingsFile → SettingsFile
  | .unusable => .unusable
  | _ => .holds s.text

end Settings

/-- Write settings. If that fails nothing is said, and all stays as it was. -/
def SettingsStore.write (store : SettingsStore) (s : Settings) : SettingsStore :=
  if store.writable then { store with file := s.save store.file } else store

end CampaignCheck

namespace CampaignCheck

/-- How serious a finding is. -/
inductive Severity where
  | error
  | warning
  | info
deriving DecidableEq, Repr, Inhabited

/-- What a finding is about. -/
inductive Category where
  | syntactic
  | semantic
  | security
  | performance
  | style
deriving DecidableEq, Repr, Inhabited

/-- What a suggestion improves. -/
inductive SuggestionKind where
  | performance
  | bestPractice
  | security
  | maintainability
deriving DecidableEq, Repr, Inhabited

/-- How much a suggestion matters. -/
inductive Impact where
  | low
  | medium
  | high
deriving DecidableEq, Repr, Inhabited

namespace Severity

/-- Every severity, in the order of declaration. -/
def all : List Severity := [error, warning, info]

def name : Severity → String
  | error => "error"
  | warning => "warning"
  | info => "info"

def rank : Severity → Nat
  | error => 3
  | warning => 2
  | info => 1

def impact : Severity → Impact
  | error => .high
  | warning => .medium
  | info => .low

end Severity

namespace Category

/-- Every category, in the order of declaration. -/
def all : List Category := [syntactic, semantic, security, performance, style]

def name : Category → String
  | syntactic => "syntax"
  | semantic => "semantic"
  | security => "security"
  | performance => "performance"
  | style => "style"

end Category

namespace SuggestionKind

/-- Every kind of suggestion, in the order of declaration. -/
def all : List SuggestionKind := [performance, bestPractice, security, maintainability]

def name : SuggestionKind → String
  | performance => "performance"
  | bestPractice => "best_practice"
  | security => "security"
  | maintainability => "maintainability"

end SuggestionKind

namespace Impact

/-- Every impact, in the order of declaration. -/
def all : List Impact := [low, medium, high]

def name : Impact → String
  | low => "low"
  | medium => "medium"
  | high => "high"

end Impact

/-- Something that an analysis found: line from one, column from zero. -/
structure Finding where
  line : Nat
  column : Option Nat
  message : String
  rule : String
  category : Category
  severity : Severity
  hint : Option String
deriving DecidableEq, Repr, Inhabited

namespace Finding

def report (line : Nat) (column : Option Nat) (rule message : String) (category : Category)
    (severity : Severity) (hint : String) : Finding :=
  ⟨max 1 line, column, message, rule, category, severity, some hint⟩

/-- A finding at a place, without a hint. -/
def note (line : Nat) (column : Option Nat) (rule message : String) (category : Category)
    (severity : Severity) : Finding :=
  ⟨max 1 line, column, message, rule, category, severity, none⟩

/-- A finding at a place that may lie before the source: it is moved to the source's start. -/
def clamped (line : Int) (column : Option Int) (rule message : String) (category : Category)
    (severity : Severity) : Finding :=
  ⟨max 1 line.toNat, column.map Int.toNat, message, rule, category, severity, none⟩

def key (f : Finding) : String × Nat × Option Nat := (f.rule, f.line, f.column)

/-- The order of reports: the most serious first, then by place, then by the rule's name. -/
def notAfter (f g : Finding) : Bool :=
  if f.severity.rank ≠ g.severity.rank then g.severity.rank < f.severity.rank
  else if f.line ≠ g.line then f.line < g.line
  else if f.column.getD 0 ≠ g.column.getD 0 then f.column.getD 0 < g.column.getD 0
  else f.rule ≤ g.rule

/-- The finding makes its source invalid. -/
def isError (f : Finding) : Bool := f.severity == .error

end Finding

/-- The first element with each key; the keys in `seen` are taken. -/
def firstByKey {α κ : Type} [DecidableEq κ] (key : α → κ) : List κ → List α → List α
  | _, [] => []
  | seen, a :: rest =>
    if key a ∈ seen then firstByKey key seen rest
    else a :: firstByKey key (key a :: seen) rest

/-- Advice on a source. -/
structure Suggestion where
  message : String
  kind : SuggestionKind
  id : Option String
  title : Option String
  impact : Option Impact
  line : Option Int
deriving DecidableEq, Repr, Inhabited

/-- Advice on a line of a source. -/
def Suggestion.on (line : Nat) (id title message : String) (kind : SuggestionKind)
    (impact : Impact) : Suggestion :=
  ⟨message, kind, some id, some title, some impact, some line⟩

/-- The outcome of all checks of a validator. -/
structure Verdict where
  errors : List Finding
  warnings : List Finding
  suggestions : List Suggestion
deriving DecidableEq, Repr, Inhabited

namespace Verdict

/-- A source is valid when nothing found in it is an error. -/
def isValid (v : Verdict) : Bool := v.errors.isEmpty

def ofFindings (fs : List Finding) (ss : List Suggestion) : Verdict :=
  ⟨fs.filter (·.isError), fs.filter (!·.isError), ss⟩

def findings (v : Verdict) : List Finding := v.errors ++ v.warnings

end Verdict

end CampaignCheck

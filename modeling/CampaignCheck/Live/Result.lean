import CampaignCheck.Rules.Rule

namespace CampaignCheck

/-- Something that an editor marks: a finding, or the violation of a rule with its details. -/
inductive Mark where
  | finding (f : Finding)
  | violation (v : Violation)
deriving DecidableEq, Repr, Inhabited

def Mark.toFinding : Mark → Finding
  | finding f => f
  | violation v => v.toFinding

/-- What an editor shows. The sequence number tells which pass it comes from. -/
structure LiveResult where
  errors : List Mark := []
  warnings : List Mark := []
  suggestions : List Suggestion := []
  sequence : Int := 0
deriving DecidableEq, Repr, Inhabited

namespace LiveResult

def isValid (r : LiveResult) : Bool := r.errors.isEmpty

/-- Nothing to show, from a pass with a number. -/
def empty (sequence : Int) : LiveResult := { sequence := sequence }

def adviceKind : RuleCategory → SuggestionKind
  | .security => .security
  | .performance => .performance
  | .maintainability => .maintainability
  | .documentation => .maintainability
  | .structural => .maintainability
  | .naming => .bestPractice
  | .errorHandling => .bestPractice

def adviceOn (v : Violation) : Suggestion where
  message := if v.suggestion.isEmpty then v.message else v.suggestion
  kind := adviceKind v.ruleCategory
  id := some v.id
  title := some v.ruleName
  impact := some v.severity.impact
  line := some v.line

/-- The marks for findings and violations, each rule once per place. -/
def marks (found : List Finding) (violations : List Violation) : List Mark :=
  firstByKey (·.toFinding.key) [] (found.map .finding ++ violations.map .violation)

def sortMarks (ms : List Mark) : List Mark :=
  ms.mergeSort fun a b => a.toFinding.notAfter b.toFinding

/-- Merge findings and violations into one result, each place once per rule, the findings of
validators first. -/
def merge (found : List Finding) (violations : List Violation) (sequence : Int) : LiveResult :=
  let all := marks found violations
  { errors := sortMarks (all.filter (·.toFinding.isError))
    warnings := sortMarks (all.filter (!·.toFinding.isError))
    suggestions := violations.map adviceOn
    sequence := sequence }

end LiveResult

end CampaignCheck

import CampaignCheck.Dialect
import CampaignCheck.Finding
import CampaignCheck.Pattern.Reader
import CampaignCheck.Pattern.Search

namespace CampaignCheck

/-- What a rule is about. -/
inductive RuleCategory where
  | naming
  | structural
  | performance
  | security
  | maintainability
  | documentation
  | errorHandling
deriving DecidableEq, Repr, Inhabited

/-- What a rule looks at: every line on its own, or the whole text as well. -/
inductive RuleScope where
  | line
  | text
deriving DecidableEq, Repr, Inhabited

namespace RuleCategory

/-- Every category, in the order of declaration. -/
def all : List RuleCategory :=
  [naming, structural, performance, security, maintainability, documentation, errorHandling]

def name : RuleCategory → String
  | naming => "naming"
  | structural => "structure"
  | performance => "performance"
  | security => "security"
  | maintainability => "maintainability"
  | documentation => "documentation"
  | errorHandling => "error_handling"

def ofFindings : RuleCategory → Category
  | security => .security
  | performance => .performance
  | _ => .style

end RuleCategory

namespace RuleScope

/-- Every scope, in the order of declaration. -/
def all : List RuleScope := [line, text]

def name : RuleScope → String
  | line => "line"
  | text => "text"

end RuleScope

/-- A rule of good practice. It looks for a pattern in the sources of some dialects; what it finds
is a violation of the rule. -/
structure Rule where
  id : String
  name : String
  category : RuleCategory
  severity : Severity
  pattern : String
  ignoreCase : Bool := false
  multiline : Bool := false
  scope : RuleScope := .line
  message : String
  suggestion : String := ""
  reference : Option String := none
  dialects : List Dialect
deriving DecidableEq, Repr, Inhabited

namespace Rule

/-- The pattern that the rule looks for; none if its text is no pattern. -/
def compiled? (r : Rule) : Option Pattern :=
  (Pattern.read r.pattern { caseless := r.ignoreCase, eachLine := r.multiline }).toOption

/-- The rule holds for sources of the dialect. -/
def appliesTo (r : Rule) (d : Dialect) : Bool := r.dialects.contains d

end Rule

/-- A place where a source violates a rule. -/
structure Violation extends Finding where
  id : String
  ruleName : String
  ruleCategory : RuleCategory
  suggestion : String := ""
  reference : Option String := none
deriving DecidableEq, Repr, Inhabited

namespace Violation

/-- The name of a violation: its rule, line and column. -/
def idOf (rule : String) (line : Int) (column : Option Int) : String :=
  rule ++ ":" ++ toString line ++ ":" ++ toString (column.getD 0)

def ofRule (r : Rule) (p : Text.Position) : Violation where
  line := p.line
  column := some p.column
  message := r.message
  rule := r.id
  category := r.category.ofFindings
  severity := r.severity
  hint := if r.suggestion.isEmpty then none else some r.suggestion
  id := idOf r.id p.line (some p.column)
  ruleName := r.name
  ruleCategory := r.category
  suggestion := r.suggestion
  reference := r.reference

end Violation

end CampaignCheck

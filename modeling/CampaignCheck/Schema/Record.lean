import CampaignCheck.Rules.Rule
import CampaignCheck.Schema.Scalar

namespace CampaignCheck

open Schema

def Severity.ofValue : Value → Checked Severity := oneOf Severity.all Severity.name

def Category.ofValue : Value → Checked Category := oneOf Category.all Category.name

def Impact.ofValue : Value → Checked Impact := oneOf Impact.all Impact.name

/-- A dialect by its name; other names of dialects do not count. -/
def Dialect.ofValue : Value → Checked Dialect := oneOf Dialect.all Dialect.name

def RuleCategory.ofValue : Value → Checked RuleCategory := oneOf RuleCategory.all RuleCategory.name

def Finding.ofFields (fs : Fields) : Checked Finding :=
  Finding.mk <$> required fs "line" (naturalFrom 1)
    <*> withDefault fs "column" none (maybe (naturalFrom 0))
    <*> required fs "message" text
    <*> required fs "rule" text
    <*> required fs "category" Category.ofValue
    <*> required fs "severity" Severity.ofValue
    <*> withDefault fs "fix_suggestion" none (maybe text)

def Finding.ofValue : Value → Checked Finding := record "Diagnostic" Finding.ofFields

def Suggestion.ofFields (fs : Fields) : Checked Suggestion :=
  Suggestion.mk <$> required fs "message" text
    <*> required fs "kind" (oneOf SuggestionKind.all SuggestionKind.name)
    <*> withDefault fs "id" none (maybe text)
    <*> withDefault fs "title" none (maybe text)
    <*> withDefault fs "impact" none (maybe Impact.ofValue)
    <*> withDefault fs "line" none (maybe integer)

def Suggestion.ofValue : Value → Checked Suggestion := record "Suggestion" Suggestion.ofFields

/-- A verdict from the fields of an object; whether it is valid follows from its errors. -/
def Verdict.ofFields (fs : Fields) : Checked Verdict :=
  (fun (_ : Bool) => Verdict.mk) <$> withDefault fs "is_valid" true switch
    <*> withDefault fs "errors" [] (list Finding.ofValue)
    <*> withDefault fs "warnings" [] (list Finding.ofValue)
    <*> withDefault fs "suggestions" [] (list Suggestion.ofValue)

def Rule.patternOfValue (v : Value) : Checked String :=
  (text v).andThen fun s =>
    match Pattern.read s {} with
    | .ok _ => .ok s
    | .error _ => .fail .badPattern

/-- Each dialect of a list once, in the order of declaration. -/
def Dialect.gather (ds : List Dialect) : List Dialect := Dialect.all.filter ds.contains

def Rule.dialectsOfValue : Value → Checked (List Dialect)
  | .list vs => (Checked.all (itemsFrom Dialect.ofValue 0 vs)).andThen fun ds =>
    if ds.isEmpty then .fail (.refused "a rule must apply to at least one dialect")
    else .ok (Dialect.gather ds)
  | _ => .fail .notSet

/-- A rule from the fields of an object, with its dialects read by a reader of their own. -/
def Rule.ofFieldsWith (dialects : Checked (List Dialect)) (fs : Fields) : Checked Rule :=
  Rule.mk <$> required fs "id" filledText
    <*> required fs "name" text
    <*> required fs "category" RuleCategory.ofValue
    <*> required fs "severity" Severity.ofValue
    <*> required fs "pattern" Rule.patternOfValue
    <*> withDefault fs "ignore_case" false switch
    <*> withDefault fs "multiline" false switch
    <*> withDefault fs "scope" .line (oneOf RuleScope.all RuleScope.name)
    <*> required fs "message" text
    <*> withDefault fs "suggestion" "" text
    <*> withDefault fs "documentation_ref" none (maybe text)
    <*> dialects

def Rule.dialectsOfFields (fs : Fields) : Checked (List Dialect) :=
  required fs "dialects" Rule.dialectsOfValue

def Violation.ofFields (fs : Fields) : Checked Violation :=
  Violation.mk <$> Finding.ofFields fs
    <*> required fs "id" text
    <*> required fs "rule_name" text
    <*> required fs "rule_category" RuleCategory.ofValue
    <*> withDefault fs "suggestion" "" text
    <*> withDefault fs "documentation_ref" none (maybe text)

def Violation.ofValue : Value → Checked Violation := record "Violation" Violation.ofFields

end CampaignCheck

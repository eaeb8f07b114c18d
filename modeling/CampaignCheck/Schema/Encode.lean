import CampaignCheck.Data.Value
import CampaignCheck.Fix.Report
import CampaignCheck.Metrics.Basic
import CampaignCheck.Rules.Rule
import CampaignCheck.Schema.Fault

namespace CampaignCheck

def Finding.fields (f : Finding) : Fields :=
  [("line", .ofNat f.line), ("column", .ofNat? f.column), ("message", .text f.message),
    ("rule", .text f.rule), ("category", .text f.category.name),
    ("severity", .text f.severity.name), ("fix_suggestion", .ofText? f.hint)]

def Finding.toValue (f : Finding) : Value := .object f.fields

def Finding.listValue (fs : List Finding) : Value := .list (fs.map Finding.toValue)

def Suggestion.toValue (s : Suggestion) : Value :=
  .object [("message", .text s.message), ("kind", .text s.kind.name), ("id", .ofText? s.id),
    ("title", .ofText? s.title), ("impact", .ofText? (s.impact.map Impact.name)),
    ("line", (s.line.map Value.int).getD .null)]

def Verdict.toValue (v : Verdict) : Value :=
  .object [("is_valid", .bool v.isValid), ("errors", Finding.listValue v.errors),
    ("warnings", Finding.listValue v.warnings),
    ("suggestions", .list (v.suggestions.map Suggestion.toValue))]

def Dialect.sortedNames (ds : List Dialect) : List String :=
  (ds.map Dialect.name).mergeSort fun a b => decide (a ≤ b)

def Rule.toValue (r : Rule) : Value :=
  .object [("id", .text r.id), ("name", .text r.name), ("category", .text r.category.name),
    ("severity", .text r.severity.name), ("pattern", .text r.pattern),
    ("ignore_case", .bool r.ignoreCase), ("multiline", .bool r.multiline),
    ("scope", .text r.scope.name), ("message", .text r.message),
    ("suggestion", .text r.suggestion), ("documentation_ref", .ofText? r.reference),
    ("dialects", .ofTexts (Dialect.sortedNames r.dialects))]

def Violation.toValue (v : Violation) : Value :=
  .object (v.toFinding.fields ++ [("id", .text v.id), ("rule_name", .text v.ruleName),
    ("rule_category", .text v.ruleCategory.name), ("suggestion", .text v.suggestion),
    ("documentation_ref", .ofText? v.reference)])

def Violation.listValue (vs : List Violation) : Value := .list (vs.map Violation.toValue)

def Recommendation.toValue (r : Recommendation) : Value :=
  .object [("kind", .text r.kind.name), ("message", .text r.message),
    ("impact", .text r.impact.name), ("line", .ofNat? r.line)]

def Metrics.toValue (m : Metrics) : Value :=
  .object [
    ("complexity", .object [("cyclomatic", .ofNat m.complexity.cyclomatic),
      ("cognitive", .ofNat m.complexity.cognitive), ("nesting_depth", .ofNat m.complexity.nesting),
      ("lines_of_code", .ofNat m.complexity.lines)]),
    ("memory_usage", .object [("estimated_bytes", .text m.memory.bytes),
      ("variable_count", .ofNat m.memory.bindings),
      ("string_concatenations", .ofNat m.memory.concatenations),
      ("array_operations", .ofNat m.memory.listOperations)]),
    ("estimated_execution_time_ms", .text m.millis), ("api_call_count", .ofNat m.calls),
    ("loop_complexity", .ofNat m.loops),
    ("recommendations", .list (m.recommendations.map Recommendation.toValue))]

def FixChange.toValue (c : FixChange) : Value :=
  .object [("rule_id", .text c.rule), ("message", .text c.message), ("line", .ofNat c.line)]

def FixReport.toValue (r : FixReport) : Value :=
  .object [("applied", .bool r.applied), ("original_code", .ofChars r.source),
    ("fixed_code", (r.edit.map fun e => Value.ofChars e.code).getD .null),
    ("diff", (r.edit.map fun e => Value.ofChars e.diff).getD .null),
    ("changes", .list (((r.edit.map (·.changes)).getD []).map FixChange.toValue)),
    ("skipped_rules", .ofTexts r.skipped)]

def Schema.Step.toValue : Step → Value
  | .field name => .text name
  | .item index => .ofNat index

def Schema.Fault.toValue (f : Fault) : Value :=
  .object ([("loc", .list (f.path.map Step.toValue)), ("type", .text f.cause.code)] ++
    (f.cause.message?.map fun m => ("msg", Value.text m)).toList)

end CampaignCheck

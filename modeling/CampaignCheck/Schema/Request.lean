import CampaignCheck.Analysis.Full
import CampaignCheck.Live.Result
import CampaignCheck.Schema.Encode
import CampaignCheck.Schema.Moment
import CampaignCheck.Schema.Record

namespace CampaignCheck

open Schema

/-- A source of a dialect. -/
structure SourceUnit where
  code : List Char
  dialect : Dialect
deriving DecidableEq, Repr, Inhabited

/-- A source that is being edited in a session. -/
structure EditedSource extends SourceUnit where
  session : String
deriving DecidableEq, Repr, Inhabited

def Schema.chars (v : Value) : Checked (List Char) := (text v).map String.toList

def SourceUnit.ofFields (fs : Fields) : Checked SourceUnit :=
  SourceUnit.mk <$> required fs "code" chars <*> required fs "dialect" Dialect.ofValue

def EditedSource.ofFields (fs : Fields) : Checked EditedSource :=
  EditedSource.mk <$> SourceUnit.ofFields fs <*> required fs "session_id" filledText

def AnalysisRequest.ofFields (fs : Fields) : Checked AnalysisRequest :=
  AnalysisRequest.mk <$> required fs "code" chars
    <*> required fs "dialect" Dialect.ofValue
    <*> withDefault fs "analysis_level" .comprehensive (oneOf AnalysisLevel.all AnalysisLevel.name)
    <*> withDefault fs "include_fixes" true switch

/-- A live result whose errors are errors and whose validity follows from them. When it was computed
is not kept. -/
def LiveResult.checked (errors warnings : List Finding) (suggestions : List Suggestion)
    (isValid : Bool) (_computed : Unit) (sequence : Int) : Checked LiveResult :=
  if errors.any (!·.isError) then
    .fail (.refused "errors may only contain error-severity diagnostics")
  else if isValid != errors.isEmpty then
    .fail (.refused "is_valid must be true exactly when there are no errors")
  else
    .ok ⟨errors.map .finding, warnings.map .finding, suggestions, sequence⟩

def LiveResult.ofFields (fs : Fields) : Checked LiveResult :=
  let read : Checked (Checked LiveResult) :=
    LiveResult.checked <$> withDefault fs "errors" [] (list Finding.ofValue)
      <*> withDefault fs "warnings" [] (list Finding.ofValue)
      <*> withDefault fs "suggestions" [] (list Suggestion.ofValue)
      <*> withDefault fs "is_valid" true switch
      <*> withDefault fs "computed_at" () moment
      <*> withDefault fs "sequence" 0 integer
  read.andThen id

def Mark.toValue : Mark → Value
  | .finding f => f.toValue
  | .violation v => v.toValue

/-- A live result as a value, each mark written by the function given. -/
def LiveResult.toValueWith (mark : Mark → Value) (r : LiveResult) : Value :=
  .object [("errors", .list (r.errors.map mark)), ("warnings", .list (r.warnings.map mark)),
    ("suggestions", .list (r.suggestions.map Suggestion.toValue)), ("is_valid", .bool r.isValid),
    ("sequence", .int r.sequence)]

def LiveResult.toValue (r : LiveResult) : Value := r.toValueWith Mark.toValue

def LiveResult.toPlainValue (r : LiveResult) : Value :=
  r.toValueWith fun m => m.toFinding.toValue

def SourceUnit.toValue (s : SourceUnit) : Value :=
  .object [("code", .ofChars s.code), ("dialect", .text s.dialect.name)]

def EditedSource.toValue (s : EditedSource) : Value :=
  .object [("code", .ofChars s.code), ("dialect", .text s.dialect.name),
    ("session_id", .text s.session)]

def AnalysisRequest.toValue (r : AnalysisRequest) : Value :=
  .object [("code", .ofChars r.code), ("dialect", .text r.dialect.name),
    ("analysis_level", .text r.level.name), ("include_fixes", .bool r.fixes)]

def Analysis.toValue (a : Analysis) : Value :=
  .object [("dialect", .text a.dialect.name), ("is_valid", .bool a.isValid),
    ("syntax_errors", Finding.listValue a.grammar),
    ("semantic_warnings", Finding.listValue a.meaning),
    ("performance_issues", Finding.listValue a.cost),
    ("best_practice_violations", Violation.listValue a.violations),
    ("optimization_suggestions", .list (a.advice.map Suggestion.toValue)),
    ("metrics", (a.metrics.map Metrics.toValue).getD .null),
    ("fixed_code", (a.fixedCode?.map Value.ofChars).getD .null),
    ("autofix", (a.fixes.map FixReport.toValue).getD .null),
    ("confidence", .text (confidenceText a.confidence))]

end CampaignCheck

import CampaignCheck.Ampscript.Cost
import CampaignCheck.Ampscript.Fixers
import CampaignCheck.Ampscript.Grammar
import CampaignCheck.Ampscript.Meaning
import CampaignCheck.Css.Checks
import CampaignCheck.Html.Cost
import CampaignCheck.Html.Fixers
import CampaignCheck.Html.Grammar
import CampaignCheck.Html.Meaning
import CampaignCheck.Javascript.Cost
import CampaignCheck.Javascript.Grammar
import CampaignCheck.Javascript.Meaning
import CampaignCheck.Sql.Cost
import CampaignCheck.Sql.Grammar
import CampaignCheck.Sql.Meaning
import CampaignCheck.Ssjs.Cost
import CampaignCheck.Ssjs.Grammar
import CampaignCheck.Ssjs.Meaning
import CampaignCheck.Validator.Basic

namespace CampaignCheck

def ampscriptValidator : Validator :=
  .complete "ampscript_validator" "AMPscriptValidator" .ampscript Ampscript.grammarFindings
    Ampscript.meaningFindings Ampscript.costFindings Ampscript.advice Ampscript.fixers

def cssValidator : Validator :=
  .complete "css_validator" "CSSValidator" .css Css.grammarFindings Css.meaningFindings
    Css.costFindings Css.advice Css.fixers

def htmlValidator : Validator :=
  .complete "html_validator" "HTMLValidator" .html Html.grammarFindings Html.meaningFindings
    Html.costFindings Html.advice Html.fixers

/-- The validator of server-side scripts. -/
def ssjsValidator : Validator :=
  .complete "ssjs_validator" "SSJSValidator" .ssjs Ssjs.grammarFindings Ssjs.meaningFindings
    Ssjs.costFindings Ssjs.advice Ssjs.fixers

def javascriptValidator : Validator :=
  .complete "javascript_validator" "JavaScriptValidator" .javascript Javascript.grammarFindings
    Javascript.meaningFindings Javascript.costFindings Javascript.advice Javascript.fixers

def sqlValidator : Validator :=
  .complete "sql_validator" "SQLValidator" .sql Sql.grammarFindings Sql.meaningFindings
    Sql.costFindings Sql.advice Sql.fixers

def Validator.of : Dialect → Validator
  | .ampscript => ampscriptValidator
  | .ssjs => ssjsValidator
  | .sql => sqlValidator
  | .html => htmlValidator
  | .css => cssValidator
  | .javascript => javascriptValidator

abbrev Registry := List Validator

namespace Registry

def builtin : Registry :=
  [ampscriptValidator, cssValidator, htmlValidator, ssjsValidator, javascriptValidator,
    sqlValidator]

def get? (r : Registry) (d : Dialect) : Option Validator := r.find? fun v => decide (v.dialect = d)

/-- Replace the validator of a dialect in its place, or add one at the end. -/
def register (r : Registry) (v : Validator) : Registry :=
  if (r.get? v.dialect).isSome then
    r.map fun w => if w.dialect = v.dialect then v else w
  else r ++ [v]

def remove (r : Registry) (d : Dialect) : Registry := r.filter fun v => decide (v.dialect ≠ d)

end Registry

end CampaignCheck

import CampaignCheck.Diff.Unified
import CampaignCheck.Text.Lines
import CampaignCheck.Validator.Basic

namespace CampaignCheck

/-- A fixed source with its difference. -/
structure Edit where
  code : List Char
  diff : List Char
  changes : List FixChange
deriving DecidableEq, Repr, Inhabited

/-- What fixing did to a source. -/
structure FixReport where
  source : List Char
  edit : Option Edit
  skipped : List String
deriving DecidableEq, Repr, Inhabited

namespace FixReport

def applied (r : FixReport) : Bool := r.edit.isSome

def diffOf (d : Dialect) (before after : List Char) : List Char :=
  Text.unlines (Diff.unified ("before." ++ d.name) ("after." ++ d.name)
    (Text.breakLines before) (Text.breakLines after))

def build (v : Validator) (code : List Char) (fs : List Finding) : FixReport :=
  if fs.isEmpty || !v.supports .fix then ⟨code, none, []⟩
  else
    let fixed := v.applyFixes code fs
    let text := Fix.text fixed
    if text = code then ⟨code, none, fixed.skipped⟩
    else ⟨code, some ⟨text, diffOf v.dialect code text, fixed.changes⟩, fixed.skipped⟩

end FixReport

end CampaignCheck

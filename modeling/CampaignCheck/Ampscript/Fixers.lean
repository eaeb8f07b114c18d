import CampaignCheck.Ampscript.Vocabulary
import CampaignCheck.Fix.Basic
import CampaignCheck.Lexical.Mask

namespace CampaignCheck.Ampscript

def fixComparison : Fixer := fun line _ =>
  let masked := Mask.alone (.of .ampscript) line
  (condition.find? masked).bind fun m =>
    match (loneEquals.findAll (m.group masked 1)).map (m.startOf 1 + ·.start) with
    | [] => none
    | positions => some (Fix.substitute positions "==".toList line)

/-- Close a block that is never closed, which is reported without a column, or open one before a
delimiter that closes nothing. -/
def fixDelimiters : Fixer := fun line f =>
  match f.column with
  | none => some (Text.trimRight line ++ " ]%%".toList)
  | some column =>
    if Text.startsWith (line.drop column) "]%%".toList then some ("%%[ ".toList ++ line) else none

/-- Complete the broken end of an output block, or add one at the end of the line. -/
def fixOutputBlock : Fixer := fun line f =>
  let start := f.column.getD 0
  if !Text.startsWith (line.drop start) "%%=".toList then none
  else match brokenTerminator.findFrom? line (start + 3) with
    | some m => some (line.take m.start ++ "=%%".toList ++ line.drop m.stop)
    | none => some (Text.trimRight line ++ "=%%".toList)

def fixers : List (String × Fixer) := [
  ("ampscript-comparison", fixComparison),
  ("ampscript-delimiters", fixDelimiters),
  ("ampscript-output-syntax", fixOutputBlock)]

end CampaignCheck.Ampscript

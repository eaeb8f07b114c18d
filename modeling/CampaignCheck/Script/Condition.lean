import CampaignCheck.Finding
import CampaignCheck.Fix.Basic
import CampaignCheck.Lexical.Arguments
import CampaignCheck.Lexical.Mask
import CampaignCheck.Pattern.Search

namespace CampaignCheck.Script

open Pattern

/-- The word and the parenthesis that start a condition. -/
def conditionHead : Pattern := wordEdge ++ litOf ["if", "while"] ++ blanks ++ lit "("

/-- An equals sign that is part of no other operator. -/
def assignmentSign : Pattern :=
  behind false 1 (one (.chars "=!<>+-*/%&|^")) ++ lit "=" ++ ahead false (one (.chars "=>"))

/-- The columns of the first assignment in each condition of a masked line. -/
def assignedColumns (masked : List Char) : List Nat :=
  (conditionHead.findAll masked).filterMap fun m =>
    (Arguments.extentAt? masked (m.stop - 1)).bind fun e =>
      (assignmentSign.find? (Text.slice masked e.1 e.2)).map (e.1 + ·.start)

/-- Compare with the given operator where the first condition of the line assigns. -/
def fixCondition (operator : String) : Fixer := fun line _ =>
  let masked := Mask.alone (.of .ssjs) line
  (conditionHead.find? masked).bind fun m =>
    (Arguments.extentAt? masked (m.stop - 1)).bind fun e =>
      match (assignmentSign.findAll (Text.slice masked e.1 e.2)).map (e.1 + ·.start) with
      | [] => none
      | positions => some (Fix.substitute positions operator.toList line)

end CampaignCheck.Script

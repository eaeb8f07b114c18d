import CampaignCheck.Ampscript.Regions
import CampaignCheck.Validator.Checks

namespace CampaignCheck.Ampscript

/-- Calls of functions that are not known; names in PascalCase pass as custom functions. -/
def unknownFunctions (l : Line) : List Finding :=
  (call.findAll l.masked).filterMap fun m =>
    let name := m.group l.masked 1
    if isOneOf functions name || isOneOf systemFunctions name || isOneOf keywords name ||
        pascalCase.matchesAll name then none
    else some (.report l.number (some (m.startOf 1)) "ampscript-unknown-function"
      ("Unknown AMPscript function: " ++ String.ofList name) .syntactic .error
      "Check the function name spelling against the AMPscript function reference")

def assignedConditions (l : Line) : List Finding :=
  (condition.findAll l.masked).filterMap fun m =>
    (loneEquals.find? (m.group l.masked 1)).map fun e =>
      .report l.number (some (m.startOf 1 + e.start)) "ampscript-comparison"
        "Use == for comparison, not = (assignment)" .syntactic .error
        "Replace = with == for comparison"

/-- A loop or a condition without its end. -/
def unclosedBlock (f : Frame) : Finding :=
  let word := String.ofList (Text.upper f.token)
  if word == "FOR" then
    .report f.line (some f.column) "ampscript-loop-structure" (word ++ " without matching NEXT")
      .syntactic .error "Add the missing NEXT statement"
  else
    .report f.line (some f.column) "ampscript-block-structure" (word ++ " without matching ENDIF")
      .syntactic .error "Add the missing ENDIF statement"

/-- The end of a loop or a condition without its start. -/
def strayBlockEnd (c : StrayCloser) : Finding :=
  let word := String.ofList (Text.upper c.token)
  let hint := "Remove the extra statement or add the opening one"
  if word == "NEXT" then
    .report c.line (some c.column) "ampscript-loop-structure" (word ++ " without matching FOR")
      .syntactic .error hint
  else
    .report c.line (some c.column) "ampscript-block-structure" (word ++ " without matching IF")
      .syntactic .error hint

def unclosedLiteral (p : Text.Position) : Finding :=
  .report p.line (some p.column) "ampscript-unterminated-string" "String literal is not closed"
    .syntactic .error "Close the string with a matching quote"

def grammarFindings (code : List Char) : List Finding :=
  let s := Source.of code
  s.issues ++ Checks.perLine [unknownFunctions, assignedConditions] s.lines ++
    s.blocks.unclosed.map unclosedBlock ++ s.blocks.stray.map strayBlockEnd ++
    s.unclosed.map unclosedLiteral

end CampaignCheck.Ampscript

import CampaignCheck.Lexical.Delimiters
import CampaignCheck.Script.Condition
import CampaignCheck.Ssjs.View
import CampaignCheck.Ssjs.Vocabulary
import CampaignCheck.Validator.Checks

namespace CampaignCheck.Ssjs

def clientScriptTag (l : Line) : List Finding :=
  match scriptTag.find? l.raw with
  | some m =>
    if runsOnServer.occursIn (m.text l.raw) then []
    else [.report l.number (some m.start) "ssjs-script-tag"
      "SSJS script tag is missing runat=\"server\"" .syntactic .error
      "Add runat=\"server\" to the script tag"]
  | none => []

def assignedConditions (l : Line) : List Finding :=
  (Script.assignedColumns l.masked).map fun column =>
    .report l.number (some column) "ssjs-comparison"
      "Assignment inside a condition; use == or === for comparison" .syntactic .error
      "Replace = with == for comparison"

/-- A data extension made with the word new. -/
def constructorUse (l : Line) : List Finding :=
  (constructor.find? l.masked).toList.map fun m =>
    .report l.number (some m.start) "ssjs-de-constructor"
      "DataExtension is not constructed with new" .syntactic .error
      "Use DataExtension.Init(\"ExternalKey\") instead"

/-- The depth of round and square brackets after a line; it never falls below zero. -/
def bracketDepth (depth : Nat) (cs : List Char) : Nat :=
  cs.foldl (fun d c =>
    if c == '(' || c == '[' then d + 1 else if c == ')' || c == ']' then d - 1 else d) depth

/-- A statement that should end with a semicolon, given the code of the next line. -/
def needsSemicolon (code next : List Char) : Bool :=
  !(openEnds.any fun e => Text.endsWith code e.toList) &&
    (statementHead.matchStart? code).isNone &&
    (propertyHead.matchStart? code).isNone &&
    !(continuations.any fun s => Text.startsWith next s.toList) &&
    !(Text.startsWith next ['}'] && (plainItem.matchStart? code).isSome)

/-- Missing semicolons in lines of code, given the bracket depth before them. -/
def missingSemicolons : Nat → List Line → List Finding
  | _, [] => []
  | depth, l :: ls =>
    let depth := bracketDepth depth l.masked
    let next := match ls with
      | n :: _ => Text.trim n.masked
      | [] => []
    let here :=
      if depth = 0 && needsSemicolon (Text.trim l.masked) next then
        [Finding.report l.number (some (Text.trimRight l.masked).length) "ssjs-semicolon"
          "Missing semicolon at end of statement" .syntactic .warning
          "Add ; at the end of the statement"]
      else []
    here ++ missingSemicolons depth ls

def delimiterFinding (i : Imbalance) : Finding :=
  let rule :=
    if i.char == '{' || i.char == '}' then "ssjs-brace-matching" else "ssjs-paren-matching"
  let what := match i.kind with
    | .unclosed => "Unclosed"
    | .unexpected => "Unexpected"
  .report i.line (some i.column) rule (what ++ " '" ++ i.char.toString ++ "'") .syntactic .error
    "Balance the opening and closing delimiters"

/-- A string literal without its end. -/
def unclosedLiteral (p : Text.Position) : Finding :=
  .report p.line (some p.column) "ssjs-unterminated-string" "String literal is not closed"
    .syntactic .error "Close the string with a matching quote"

def grammarFindings (code : List Char) : List Finding :=
  let s := Source.of code
  Checks.perLine [clientScriptTag, assignedConditions, constructorUse] s.lines ++
    missingSemicolons 0 (s.lines.filter (!·.isBlank)) ++
    (Delimiters.imbalances Delimiters.brackets s.lines).map delimiterFinding ++
    s.unclosed.map unclosedLiteral

/-- Add a semicolon behind the last character of code. -/
def fixSemicolon : Fixer := fun line _ =>
  match (Text.trimRight (Mask.alone (.of .ssjs) line)).length with
  | 0 => none
  | n => some (line.take n ++ [';'] ++ line.drop n)

def fixScriptTag : Fixer := fun line _ =>
  (scriptTag.find? line).bind fun m =>
    if runsOnServer.occursIn (m.text line) then none
    else some (line.take m.start ++ "<script runat=\"server\"".toList ++
      line.drop (m.start + "<script".length))

/-- Open data extensions instead of making them. -/
def fixConstructor : Fixer := fun line _ =>
  some (constructor.replaceAll (fun _ => "DataExtension.Init(".toList) line)

def fixers : List (String × Fixer) := [
  ("ssjs-semicolon", fixSemicolon),
  ("ssjs-comparison", Script.fixCondition "=="),
  ("ssjs-script-tag", fixScriptTag),
  ("ssjs-de-constructor", fixConstructor)]

end CampaignCheck.Ssjs

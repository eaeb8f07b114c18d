import CampaignCheck.Javascript.Source
import CampaignCheck.Javascript.Vocabulary
import CampaignCheck.Lexical.Delimiters
import CampaignCheck.Script.Condition
import CampaignCheck.Validator.Checks

namespace CampaignCheck.Javascript

/-- Each kind of delimiter with the rule that watches it. -/
def delimiterRules : List (Pair × String) := [
  (⟨'{', '}'⟩, "js-brace-matching"),
  (⟨'(', ')'⟩, "js-paren-matching"),
  (⟨'[', ']'⟩, "js-bracket-matching")]

def delimiterFinding (rule : String) (i : Imbalance) : Finding :=
  let what := match i.kind with
    | .unclosed => "Unclosed"
    | .unexpected => "Unexpected"
  .report i.line (some i.column) rule (what ++ " '" ++ i.char.toString ++ "'") .syntactic .error
    "Balance the delimiters"

/-- A string literal without its end. -/
def unclosedLiteral (p : Text.Position) : Finding :=
  .report p.line (some p.column) "js-unterminated-string" "String literal is not closed"
    .syntactic .error "Close the string with a matching quote"

def assignedConditions (l : Line) : List Finding :=
  (Script.assignedColumns l.masked).map fun column =>
    .report l.number (some column) "js-assignment-in-condition" "Assignment inside a condition"
      .syntactic .error "Use === to compare"

def bareConstants (l : Line) : List Finding :=
  (bareConst.find? l.masked).toList.map fun m =>
    .report l.number (some m.start) "js-const-initialization"
      "const declaration without an initializer" .syntactic .error
      "Initialize the constant or declare it with let"

def grammarFindings (code : List Char) : List Finding :=
  let s := Source.of code
  (delimiterRules.flatMap fun (pair, rule) =>
      (Delimiters.imbalances [pair] s.masked.lines).map (delimiterFinding rule)) ++
    s.masked.unclosed.map unclosedLiteral ++
    Checks.perLine [assignedConditions, bareConstants] s.masked.lines

/-- The text with a character put in at some offsets. -/
def insertAt (positions : List Nat) (new : Char) : Nat → List Char → List Char
  | i, [] => if positions.contains i then [new] else []
  | i, c :: cs =>
    (if positions.contains i then [new, c] else [c]) ++ insertAt positions new (i + 1) cs

/-- Make every loose comparison of the line strict. -/
def fixEquality : Fixer := fun line _ =>
  match (looseEquality.findAll (Mask.alone (.of .javascript) line)).map (·.stop) with
  | [] => none
  | positions => some (insertAt positions '=' 0 line)

def fixers : List (String × Fixer) := [
  ("js-assignment-in-condition", Script.fixCondition "==="),
  ("js-strict-equality", fixEquality)]

end CampaignCheck.Javascript

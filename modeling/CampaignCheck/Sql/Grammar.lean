import CampaignCheck.Fix.Basic
import CampaignCheck.Lexical.Delimiters
import CampaignCheck.Sql.Statement
import CampaignCheck.Sql.Vocabulary
import CampaignCheck.Validator.Checks

namespace CampaignCheck.Sql

def delimiterFinding (i : Imbalance) : Finding :=
  .report i.line (some i.column) "sql-parentheses-mismatch"
    (match i.kind with
      | .unclosed => "Unclosed parenthesis"
      | .unexpected => "Unexpected closing parenthesis")
    .syntactic .error "Balance the parentheses"

/-- A string literal without its end. -/
def unclosedLiteral (p : Text.Position) : Finding :=
  .report p.line (some p.column) "sql-quote-mismatch" "String literal is not closed" .syntactic
    .error "Close the string with a single quote"

/-- Calls of functions that are not known, apart from names of tables and members. -/
def unknownFunctions (l : Line) : List Finding :=
  (call.findAll l.masked).filterMap fun m =>
    let name := m.group l.masked 1
    let key := String.ofList (Text.upper name)
    let before := Text.upper (Text.trimRight (l.masked.take m.start))
    if functions.contains key || keywords.contains key || tablePosition.occursIn before ||
        Text.endsWith before ['.'] then none
    else some (.report l.number (some (m.startOf 1)) "sql-unknown-function"
      ("Unknown or unsupported SQL function: " ++ String.ofList name) .syntactic .error
      "Query activities support a subset of T-SQL functions; check the name")

/-- A comparison with two equals signs. -/
def doubledEquals (l : Line) : List Finding :=
  (doubleEquals.find? l.masked).toList.map fun m =>
    .report l.number (some m.start) "sql-double-equals" "SQL compares with =, not ==" .syntactic
      .error "Replace == with ="

def missingFrom (s : Source) (st : Statement) : List Finding :=
  match selectWord.find? st.text with
  | some m =>
    if upperFrom.occursIn (Text.upper st.text) || st.text.contains '(' then []
    else [s.report st m.start "sql-missing-from" "SELECT statement missing FROM clause" .syntactic
      .error "Add a FROM clause naming the source data extension"]
  | none => []

def missingOn (s : Source) (st : Statement) : List Finding :=
  (join.findAll st.text).filterMap fun m =>
    if (m.bounds? 1).isSome || Text.upper (m.group st.text 2) == "APPLY".toList then none
    else
      let rest := st.text.drop m.stop
      let segment := match clauseEnd.find? rest with
        | some e => rest.take e.start
        | none => rest
      if joinCondition.occursIn segment then none
      else some (s.report st m.start "sql-join-on" "JOIN without an ON condition" .syntactic .error
        "Add ON <left>.<key> = <right>.<key>")

def missingGroupBy (s : Source) (st : Statement) : List Finding :=
  match havingWord.find? st.text with
  | some m =>
    if groupBy.occursIn st.text then []
    else [s.report st m.start "sql-having-group-by" "HAVING used without GROUP BY" .syntactic .error
      "Add GROUP BY or move the condition to WHERE"]
  | none => []

def everyColumn (s : Source) (st : Statement) : List Finding :=
  (selectStar.find? st.text).toList.map fun m =>
    s.report st m.start "sql-select-star" "Avoid SELECT *; list the columns you need" .performance
      .warning "Specify the needed columns explicitly"

def missingTop (s : Source) (st : Statement) : List Finding :=
  match selectWord.find? st.text with
  | some m =>
    let upper := Text.upper st.text
    if upperLimit.occursIn upper || upperInsert.occursIn upper then []
    else [s.report st m.start "sql-missing-top"
      "Unfiltered SELECT; consider TOP to limit the result size" .performance .info
      "Add TOP n or a WHERE clause"]
  | none => []

def structureFindings (s : Source) (st : Statement) : List Finding :=
  missingFrom s st ++ missingOn s st ++ missingGroupBy s st ++ everyColumn s st ++ missingTop s st

def grammarFindings (code : List Char) : List Finding :=
  let s := Source.of code
  (Delimiters.imbalances [⟨'(', ')'⟩] s.masked.lines).map delimiterFinding ++
    s.masked.unclosed.map unclosedLiteral ++
    Checks.perLine [unknownFunctions, doubledEquals] s.masked.lines ++
    s.statements.flatMap (structureFindings s)

/-- Compare with one equals sign throughout the line. -/
def fixDoubleEquals : Fixer := fun line _ => some (doubleEquals.replaceAll (fun _ => ['=']) line)

def fixers : List (String × Fixer) := [("sql-double-equals", fixDoubleEquals)]

end CampaignCheck.Sql

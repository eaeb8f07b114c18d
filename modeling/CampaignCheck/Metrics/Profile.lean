import CampaignCheck.Ampscript.Regions
import CampaignCheck.Ssjs.View

namespace CampaignCheck.Metrics

open Pattern

/-- What is counted in a dialect, and what it costs. -/
structure Profile where
  decisions : List Pattern
  operators : List Pattern
  calls : List Pattern
  bindings : List Pattern
  concatenations : List Pattern
  listOperations : List Pattern
  memoryFactor : Float
  millisPerLine : Float
  millisPerCall : Float
  /-- The lines that are looked at, e.g. only those of a script. -/
  view : List (List Char) → List (List Char)

def scriptIf : Pattern := wordEdge ++ lit "if" ++ blanks ++ lit "("

/-- The start of a counted loop. -/
def scriptFor : Pattern := wordEdge ++ lit "for" ++ blanks ++ lit "("

/-- The start of a conditional loop. -/
def scriptWhile : Pattern := wordEdge ++ lit "while" ++ blanks ++ lit "("

def scriptCase : Pattern := wholeWord "case"

def scriptCatch : Pattern := wordEdge ++ lit "catch" ++ blanks ++ lit "("

/-- The sign of a conditional expression. -/
def scriptTernary : Pattern :=
  behind false 1 (lit "?") ++ lit "?" ++ ahead false (one (.chars ".?:"))

def scriptDecisions : List Pattern :=
  [scriptIf, scriptFor, scriptWhile, scriptCase, scriptCatch, scriptTernary]

def scriptOperator : Pattern := litOf ["&&", "||"]

def scriptVariable : Pattern :=
  wordEdge ++ litOf ["var", "let", "const"] ++ blanks1 ++ one (.union [.range 'A' 'Z',
    .range 'a' 'z', .chars "_$"])

/-- A plus sign beside a text of a script. -/
def scriptConcatenation : Pattern :=
  oneOf [one (.chars "\"'\x60") ++ blanks ++ lit "+" ++ ahead false (lit "+"),
    behind false 1 (lit "+") ++ lit "+" ++ blanks ++ one (.chars "\"'\x60"), lit "+=" ++
    blanks ++ one (.chars "\"'\x60")]

def scriptListMethod : Pattern :=
  lit "." ++ litOf ["push", "pop", "shift", "unshift", "splice", "slice", "concat", "map",
    "filter", "reduce", "forEach", "sort", "join", "indexOf"] ++ blanks ++ lit "("

def scriptNewList : Pattern :=
  wordEdge ++ lit "new" ++ blanks1 ++ lit "Array" ++ blanks ++ lit "("

def wordIf : Pattern := wholeWordCaseless "IF"

def ampElseIf : Pattern := wholeWordCaseless "ELSEIF"

def ampFor : Pattern := wholeWordCaseless "FOR"

/-- A call of the conditional function. -/
def inlineIf : Pattern := wordEdge ++ caseless "IIF" ++ blanks ++ lit "("

def wordOperator : Pattern := wordEdge ++ caselessOf ["AND", "OR"] ++ wordEdge

/-- A call that reads or writes data, or asks another server. -/
def ampCall : Pattern :=
  wordEdge ++ oneOf [caseless "Lookup", caseless "LookupRows", caseless "LookupRowsCS",
    caseless "LookupOrderedRows", caseless "LookupOrderedRowsCS", caseless "InsertData",
    caseless "InsertDE", caseless "UpdateData", caseless "UpdateDE", caseless "UpsertData",
    caseless "UpsertDE", caseless "DeleteData", caseless "DeleteDE", caseless "HTTPGet",
    caseless "HTTPPost", caseless "HTTPPost" ++ lit "2", caseless "HTTPPut",
    caseless "HTTPDelete", caseless "InvokeCreate", caseless "InvokeRetrieve",
    caseless "InvokeUpdate", caseless "CreateSalesforceObject",
    caseless "UpdateSingleSalesforceObject", caseless "RetrieveSalesforceObjects",
    caseless "ContentBlockByKey", caseless "ContentBlockByName", caseless "ContentBlockById"] ++
    blanks ++ lit "("

def ampSet : Pattern := wordEdge ++ caseless "SET" ++ blanks1 ++ lit "@" ++ wordChars1

def ampVariable : Pattern :=
  oneOf [wholeWordCaseless "VAR", lit ","] ++ blanks ++ lit "@" ++ wordChars1 ++
    ahead true (blanks ++ oneOf [lit ",", anchor .lastLineEnd, lit "]", lit "\n"])

/-- A call that joins texts. -/
def ampConcatenation : Pattern := wordEdge ++ caseless "Concat" ++ blanks ++ lit "("

def ampRows : Pattern :=
  wordEdge ++ caselessOf ["Row", "Field", "RowCount", "BuildRowsetFromString",
    "BuildRowsetFromJSON", "BuildRowsetFromXML"] ++ blanks ++ lit "("

def fetchCall : Pattern := wordEdge ++ lit "fetch" ++ blanks ++ lit "("

def requestObject : Pattern :=
  wordEdge ++ lit "new" ++ blanks1 ++ lit "XMLHttpRequest" ++ wordEdge

def queryCall : Pattern := lit "$." ++ litOf ["ajax", "get", "post"] ++ blanks ++ lit "("

/-- A request by the client library. -/
def axiosCall : Pattern := wordEdge ++ lit "axios." ++ wordChars1 ++ blanks ++ lit "("

def sqlWhen : Pattern := wholeWordCaseless "WHEN"

def sqlWhile : Pattern := wholeWordCaseless "WHILE"

def sqlCommand : Pattern :=
  wordEdge ++ caselessOf ["SELECT", "INSERT", "UPDATE", "DELETE", "MERGE"] ++ wordEdge

def sqlVariable : Pattern := wordEdge ++ caseless "DECLARE" ++ blanks1 ++ lit "@" ++ wordChars1

/-- A plus sign beside a text. -/
def sqlPlus : Pattern := oneOf [lit "'" ++ blanks ++ lit "+", lit "+" ++ blanks ++ lit "'"]

/-- A call that joins texts. -/
def sqlConcat : Pattern := wordEdge ++ caseless "CONCAT" ++ blanks ++ lit "("

/-- A clause that sorts or gathers rows. -/
def sqlGrouping : Pattern :=
  wordEdge ++ oneOf [caseless "GROUP" ++ blanks1 ++ caseless "BY", caseless "ORDER" ++ blanks1 ++
    caseless "BY", caseless "UNION", caseless "DISTINCT", caseless "PARTITION" ++ blanks1 ++
    caseless "BY"] ++ wordEdge

def cssMedia : Pattern := lit "@media" ++ wordEdge

/-- A condition on the reader's program. -/
def cssSupports : Pattern := lit "@supports" ++ wordEdge

def cssAnd : Pattern := wholeWord "and"

def cssImport : Pattern := lit "@import" ++ wordEdge

def cssUrl : Pattern := wordEdge ++ lit "url" ++ blanks ++ lit "("

def cssVariable : Pattern :=
  lit "--" ++ many1 (one (.union [.word, .char '-'])) ++ blanks ++ lit ":"

def htmlCondition : Pattern := lit "<!--[" ++ caseless "if" ++ wordEdge

def htmlResource : Pattern :=
  lit "<" ++ caselessOf ["img", "script", "link", "iframe"] ++ wordEdge ++
    many (one (.not (.char '>'))) ++ wordEdge ++ caselessOf ["src", "href"] ++ blanks ++ lit "="

def Profile.of : Dialect → Profile
  | .ampscript => {
      decisions := [wordIf, ampElseIf, ampFor, inlineIf]
      operators := [wordOperator]
      calls := [ampCall]
      bindings := [ampSet, ampVariable]
      concatenations := [ampConcatenation]
      listOperations := [ampRows]
      memoryFactor := 1.5
      millisPerLine := 2.0
      millisPerCall := 150.0
      view := fun ls => (Ampscript.Regions.of ls).lines }
  | .ssjs => {
      decisions := scriptDecisions
      operators := [scriptOperator]
      calls := Ssjs.expensiveCalls
      bindings := [scriptVariable]
      concatenations := [scriptConcatenation]
      listOperations := [scriptListMethod, scriptNewList]
      memoryFactor := 1.3
      millisPerLine := 1.0
      millisPerCall := 100.0
      view := Ssjs.view }
  | .javascript => {
      decisions := scriptDecisions
      operators := [scriptOperator]
      calls := [fetchCall, requestObject, queryCall, axiosCall]
      bindings := [scriptVariable]
      concatenations := [scriptConcatenation]
      listOperations := [scriptListMethod, scriptNewList]
      memoryFactor := 1.2
      millisPerLine := 0.5
      millisPerCall := 80.0
      view := id }
  | .sql => {
      decisions := [sqlWhen, wordIf, sqlWhile, inlineIf]
      operators := [wordOperator]
      calls := [sqlCommand]
      bindings := [sqlVariable]
      concatenations := [sqlPlus, sqlConcat]
      listOperations := [sqlGrouping]
      memoryFactor := 1.0
      millisPerLine := 5.0
      millisPerCall := 50.0
      view := id }
  | .css => {
      decisions := [cssMedia, cssSupports]
      operators := [cssAnd]
      calls := [cssImport, cssUrl]
      bindings := [cssVariable]
      concatenations := []
      listOperations := []
      memoryFactor := 0.6
      millisPerLine := 0.2
      millisPerCall := 0.0
      view := id }
  | .html => {
      decisions := [htmlCondition]
      operators := []
      calls := [htmlResource]
      bindings := []
      concatenations := []
      listOperations := []
      memoryFactor := 0.5
      millisPerLine := 0.1
      millisPerCall := 0.0
      view := id }

end CampaignCheck.Metrics

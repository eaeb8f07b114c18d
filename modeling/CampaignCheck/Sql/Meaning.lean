import CampaignCheck.Sql.Statement
import CampaignCheck.Text.Lines

namespace CampaignCheck.Sql

/-- A name without its square brackets. -/
def unbracketed (cs : List Char) : List Char := Text.trimChars ['[', ']'] cs

/-- The tables and aliases that a statement names, in lower case. -/
def knownNames (cs : List Char) : List (List Char) :=
  (tableReference.findAll cs).flatMap (fun m =>
    (Text.cut '.' (m.group cs 1)).map (fun part => Text.lower (unbracketed part)) ++
      match m.group? cs 2 with
      | some name =>
        if aliasStops.contains (String.ofList (Text.upper (unbracketed name))) then []
        else [Text.lower (unbracketed name)]
      | none => []) ++
  (subqueryAlias.findAll cs).map (fun m => Text.lower (m.group cs 1)) ++
  (commonTable.findAll cs).map (fun m => Text.lower (m.group cs 1))

/-- Names before a dot that are not known, each reported once. -/
def unknownQualifiers (s : Source) (st : Statement) (known : List (List Char)) :
    List Match → List Finding
  | [] => []
  | m :: ms =>
    let name := m.group st.text 1
    let key := Text.lower name
    if known.contains key then unknownQualifiers s st known ms
    else
      s.report st (m.startOf 1) "sql-unknown-table-alias"
        ("'" ++ String.ofList name ++ "' is not a table or alias defined in this statement")
        .semantic .warning "Define the alias in FROM/JOIN or fix the prefix" ::
      unknownQualifiers s st (key :: known) ms

/-- Names before a dot that the statement does not define. -/
def aliasFindings (s : Source) (st : Statement) : List Finding :=
  if tableWord.occursIn st.text then
    unknownQualifiers s st (knownNames st.text) (qualifier.findAll st.text)
  else []

/-- The item is a plain column: no aggregate, no window, and not only a literal or number. -/
def isPlainColumn (cs : List Char) : Bool :=
  !aggregate.occursIn cs && !overClause.occursIn cs &&
    letter.occursIn (decoration.replaceAll (fun _ => []) cs)

def aggregateFindings (s : Source) (st : Statement) : List Finding :=
  if groupBy.occursIn st.text then []
  else match selection? st.text with
    | some sel =>
      if sel.items.any (fun i => aggregate.occursIn i.text) &&
          sel.items.any (fun i => isPlainColumn i.text) then
        [s.report st sel.start "sql-aggregate-group-by"
          "Aggregate mixed with non-aggregated columns without GROUP BY" .semantic .warning
          "Add the plain columns to GROUP BY"]
      else []
    | none => []

/-- Columns named like numbers compared with literals. -/
def conversionFindings (s : Source) (st : Statement) : List Finding :=
  let raw := s.rawOf st
  (textComparison.findAll raw).map fun m =>
    s.report st m.start "sql-implicit-conversion"
      ("Numeric column " ++ String.ofList (m.group raw 1) ++ " compared with a string literal")
      .semantic .info "Compare with a number or CAST explicitly"

def dynamicFindings (s : Source) (st : Statement) : List Finding :=
  match dynamicCall.find? st.text with
  | some m =>
    if (st.text.drop m.start).contains '+' then
      [s.report st m.start "sql-dynamic-execution" "Dynamic SQL built by string concatenation"
        .security .error "Avoid dynamic SQL; use static queries"]
    else []
  | none => []

/-- A query put together from literals. -/
def assemblyFindings (s : Source) (st : Statement) : List Finding :=
  (assembledQuery.find? (s.rawOf st)).toList.map fun m =>
    s.report st m.start "sql-injection-risk"
      "Query text assembled by concatenation; values may be injected" .security .error
      "Use parameters instead of concatenating values"

def sensitiveFindings (s : Source) (st : Statement) : List Finding :=
  match selection? st.text with
  | some sel => sel.items.filterMap fun i =>
      (sensitiveColumn.find? i.text).map fun m =>
        s.report st (i.start + m.start) "sql-sensitive-data"
          ("Selecting sensitive column " ++ String.ofList (m.text i.text)) .security .warning
          "Mask or exclude sensitive data"
  | none => []

def credentialFindings (s : Source) (st : Statement) : List Finding :=
  (credential.find? (s.rawOf st)).toList.map fun m =>
    s.report st m.start "sql-hardcoded-credential" "Credential literal in query" .security .warning
      "Do not embed secrets in queries"

def meaningFindings (code : List Char) : List Finding :=
  let s := Source.of code
  s.statements.flatMap fun st =>
    aliasFindings s st ++ aggregateFindings s st ++ conversionFindings s st ++
      dynamicFindings s st ++ assemblyFindings s st ++ sensitiveFindings s st ++
      credentialFindings s st

end CampaignCheck.Sql

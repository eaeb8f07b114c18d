import CampaignCheck.Sql.Statement

namespace CampaignCheck.Sql

def hasWhere (st : Statement) : Bool := upperWhere.occursIn (Text.upper st.text)

def wildcardFindings (s : Source) (st : Statement) : List Finding :=
  (leadingWildcard.findAll (s.rawOf st)).filterMap fun m =>
    if Text.upper (Text.slice st.text m.start (m.start + 4)) == "LIKE".toList then
      some (s.report st m.start "sql-leading-wildcard"
        "Leading wildcard in LIKE prevents index use" .performance .warning
        "Avoid a leading % when possible")
    else none

def changeFindings (s : Source) (st : Statement) : List Finding :=
  match rowChange.matchStart? st.text with
  | some m =>
    if hasWhere st then []
    else [s.report st (m.startOf 1) "sql-missing-where"
      (String.ofList (Text.upper (m.group st.text 1)) ++ " without WHERE affects every row")
      .performance .error "Add a WHERE clause"]
  | none => []

def conditionFindings (s : Source) (st : Statement) : List Finding :=
  match whereWord.find? st.text with
  | some w =>
    let rest := st.text.drop w.stop
    let clause := match afterWhere.find? rest with
      | some e => rest.take e.start
      | none => rest
    (columnFunction.find? clause).toList.map fun m =>
      s.report st (w.stop + m.start) "sql-function-in-where"
        (String.ofList (Text.upper (m.group clause 1)) ++
          "() on a column in WHERE prevents index use")
        .performance .warning "Compare the raw column against a computed value"
  | none => []

def productFindings (s : Source) (st : Statement) : List Finding :=
  let place : Option Nat := match crossJoin.find? st.text with
    | some m => some m.start
    | none => if hasWhere st then none else (commaJoin.find? st.text).map (·.start)
  place.toList.map fun offset =>
    s.report st offset "sql-cartesian-product" "Query produces a cartesian product" .performance
      .warning "Join the tables with an explicit ON condition"

/-- System tables read as a whole. -/
def systemTableFindings (s : Source) (st : Statement) : List Finding :=
  if hasWhere st || upperTop.occursIn (Text.upper st.text) then []
  else systemTables.filterMap fun name =>
    ((systemTable name).find? st.text).map fun m =>
      s.report st m.start "sfmc-system-table-filtering"
        ("System data view " ++ name ++ " queried without WHERE or TOP") .performance .warning
        ("Filter " ++ name ++ ", for example on EventDate > DATEADD(DAY, -30, GETDATE())")

def exclusionFindings (s : Source) (st : Statement) : List Finding :=
  (notIn.find? st.text).toList.map fun m =>
    s.report st m.start "sql-not-in-subquery" "NOT IN with a subquery scales poorly" .performance
      .warning "Use NOT EXISTS or a LEFT JOIN ... IS NULL"

def costFindings (code : List Char) : List Finding :=
  let s := Source.of code
  s.statements.flatMap fun st =>
    wildcardFindings s st ++ changeFindings s st ++ conditionFindings s st ++
      productFindings s st ++ systemTableFindings s st ++ exclusionFindings s st

def hasAlternative (cs : List Char) : Bool :=
  match whereClause.find? cs with
  | some m => orWord.occursIn (m.group cs 1)
  | none => false

def statementAdvice (s : Source) (st : Statement) : List Suggestion :=
  let cs := st.text
  let line := (Text.positionAt s.text (st.start + (Text.indentation cs).length)).line
  (if selectStar.occursIn cs then
    [Suggestion.on line s!"sql-columns:{line}" "Select explicit columns"
      "Listing only the needed columns reduces data moved into the target data extension"
      .performance .medium]
  else []) ++
  (if notIn.occursIn cs then
    [Suggestion.on line s!"sql-not-exists:{line}" "Prefer NOT EXISTS"
      "NOT EXISTS short-circuits and handles NULLs correctly" .performance .medium]
  else []) ++
  (if eventTables.any (fun t => (eventTable t).occursIn cs) &&
      !Text.contains "DATEADD".toList (Text.upper cs) then
    [Suggestion.on line s!"sql-date-window:{line}" "Bound event data views by date"
      "Filter tracking views with EventDate > DATEADD(DAY, -n, GETDATE())" .performance .high]
  else []) ++
  (if hasAlternative cs then
    [Suggestion.on line s!"sql-or:{line}" "Review OR conditions"
      "OR across different columns can prevent index use; consider IN or UNION" .performance .low]
  else [])

def advice (code : List Char) : List Suggestion :=
  let s := Source.of code
  s.statements.flatMap (statementAdvice s)

end CampaignCheck.Sql

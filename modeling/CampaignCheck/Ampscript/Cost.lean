import CampaignCheck.Ampscript.Regions
import CampaignCheck.Lexical.Arguments
import CampaignCheck.Text.Lines
import CampaignCheck.Validator.Checks

namespace CampaignCheck.Ampscript

def callsInLoops (blocks : BlockMap) (l : Line) : List Finding :=
  (call.findAll l.masked).filterMap fun m =>
    let name := m.group l.masked 1
    let depth := blocks.loopsAt l.number (m.startOf 1)
    if !isOneOf (dataFunctions ++ remoteFunctions) name || depth = 0 then none
    else
      let place := if 2 ≤ depth then "nested loops" else "a FOR loop"
      some (.report l.number (some (m.startOf 1)) "ampscript-lookup-in-loop"
        (String.ofList name ++ " called inside " ++ place) .performance
        (if 2 ≤ depth then .error else .warning)
        "Retrieve the rows once with LookupRows() before the loop and read them with Field()")

/-- Lookups of rows with too few arguments for a filter. -/
def unfilteredLookups (l : Line) : List Finding :=
  (lookupRows.findAll l.masked).filterMap fun m =>
    let name := m.group l.masked 1
    let least := if Text.lower name == "lookuprows".toList then 3 else 5
    match Arguments.spans? l.masked (m.stop - 1) with
    | some args =>
      if args.length < least then
        some (.report l.number (some (m.startOf 1)) "ampscript-lookuprows-filtering"
          (String.ofList name ++ " without filter criteria can return large row sets") .performance
          .warning "Add a filter column and value to restrict the rows returned")
      else none
    | none => none

def manyConcats (l : Line) : List Finding :=
  let count := concatCall.count l.masked
  if 3 < count then
    [.report l.number none "ampscript-concat-performance" s!"{count} Concat calls on one line"
      .performance .warning "Combine the pieces with a single Concat or Format call"]
  else []

/-- Lookups by the data extension that they read. -/
def lookupTargets (ls : List Line) : List (List Char × List Text.Position) :=
  Text.groupSites <| ls.flatMap fun l =>
    (lookupCall.findAll l.masked).filterMap fun m =>
      match Arguments.spans? l.masked (m.stop - 1) with
      | some (a :: _) =>
        let name := Text.trimChars ['"', '\''] (Text.trim (Text.slice l.raw a.1 a.2))
        if name.isEmpty then none else some (Text.lower name, ⟨l.number, m.start⟩)
      | _ => none

/-- Data extensions that are looked up more than once. -/
def repeatedLookups (ls : List Line) : List Finding :=
  (lookupTargets ls).filterMap fun
    | (name, sites@(_ :: second :: _)) =>
      some (.report second.line (some second.column) "ampscript-batch-lookup"
        (toString sites.length ++ " Lookup calls against '" ++ String.ofList name ++
          "' could be one LookupRows call")
        .performance .info
        "Fetch the row once with LookupRows() and read each column with Field()")
    | _ => none

def costFindings (code : List Char) : List Finding :=
  let s := Source.of code
  Checks.perLine [callsInLoops s.blocks, unfilteredLookups, manyConcats] s.lines ++
    repeatedLookups s.lines

def lineAdvice (l : Line) : List Suggestion :=
  (if 2 < concatCall.count l.masked then
    [Suggestion.on l.number s!"ampscript-format:{l.number}" "Use Format instead of chained Concat"
      "Format() builds complex strings in one call" .performance .medium]
  else []) ++
  (if httpCall.occursIn l.masked then
    [Suggestion.on l.number s!"ampscript-http-errors:{l.number}" "Handle HTTP failures"
      "Check the status of HTTP calls and provide a fallback when they fail" .maintainability .high]
  else [])

/-- Advice on data extensions that are looked up more than once. -/
def lookupAdvice (ls : List Line) : List Suggestion :=
  (lookupTargets ls).filterMap fun
    | (name, sites@(first :: _ :: _)) =>
      some (.on first.line ("ampscript-batch-lookup:" ++ String.ofList name)
        "Batch repeated lookups"
        ("Replace " ++ toString sites.length ++ " Lookup calls on '" ++ String.ofList name ++
          "' with one LookupRows call")
        .performance .medium)
    | _ => none

def advice (code : List Char) : List Suggestion :=
  let s := Source.of code
  s.lines.flatMap lineAdvice ++ lookupAdvice s.lines

end CampaignCheck.Ampscript

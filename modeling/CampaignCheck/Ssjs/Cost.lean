import CampaignCheck.Ssjs.View
import CampaignCheck.Finding
import CampaignCheck.Lexical.Arguments
import CampaignCheck.Text.Lines
import CampaignCheck.Validator.Checks

namespace CampaignCheck.Ssjs

/-- The name of a call without its parenthesis and leading dot. -/
def callName (cs : List Char) : String :=
  String.ofList ((Text.dropEndWhile (fun c => c == '(' || c == ' ') cs).dropWhile (· == '.'))

/-- The expensive calls of a line; of several that start at one place, the first kind. -/
def expensiveIn (l : Line) : List Match :=
  (expensiveCalls.flatMap (·.findAll l.masked)).foldl
    (fun ms m => if ms.any (·.start == m.start) then ms else ms ++ [m]) []

def callsInLoops (blocks : BlockMap) (l : Line) : List Finding :=
  (expensiveIn l).filterMap fun m =>
    let depth := blocks.loopsAt l.number m.start
    if depth = 0 then none
    else
      let name := callName (m.text l.masked)
      let place := if 2 ≤ depth then "nested loops" else "a loop"
      some (.report l.number (some m.start) "ssjs-performance-loop"
        (name ++ " inside " ++ place ++ " runs once per iteration") .performance
        (if 2 ≤ depth then .error else .warning)
        ("Move " ++ name ++ " outside the loop and reuse the result"))

def unfilteredReads (l : Line) : List Finding :=
  (rowsRetrieve.findAll l.masked).filterMap (fun m =>
    match Arguments.spans? l.masked (m.stop - 1) with
    | some [] =>
      some (.report l.number (some (m.start + 1)) "ssjs-unlimited-retrieve"
        "Rows.Retrieve() without a filter returns every row" .performance .error
        "Pass a filter object to Rows.Retrieve()")
    | _ => none) ++
  (proxyRetrieve.findAll l.masked).filterMap fun m =>
    match Arguments.spans? l.masked (m.stop - 1) with
    | some args =>
      if args.length < 3 then
        some (.report l.number (some (m.start + 1)) "ssjs-unlimited-retrieve"
          "WSProxy retrieve without a filter returns every object" .performance .error
          "Pass a filter as the third argument of retrieve()")
      else none
    | none => none

def concatInLoops (blocks : BlockMap) (l : Line) : List Finding :=
  match appendAssignment.find? l.masked with
  | some m =>
    if blocks.loopsAt l.number m.start = 0 || !literalConcat.occursIn (l.raw.drop m.start) then []
    else [.report l.number (some m.start) "ssjs-string-concat-loop"
      ("String concatenation on '" ++ String.ofList (m.group l.masked 1) ++ "' inside a loop")
      .performance .warning "Collect parts in an array and join() once after the loop"]
  | none => []

/-- Lookups by the data extension that they read. -/
def lookupReceivers (ls : List Line) : List (List Char × List Text.Position) :=
  Text.groupSites <| ls.flatMap fun l =>
    (rowsLookup.findAll l.masked).map fun m => (m.group l.masked 1, ⟨l.number, m.start⟩)

/-- Data extensions that are looked up more than once. -/
def repeatedLookups (ls : List Line) : List Finding :=
  (lookupReceivers ls).filterMap fun
    | (name, sites@(_ :: second :: _)) =>
      some (.report second.line (some second.column) "ssjs-batch-operations"
        (toString sites.length ++ " separate Rows.Lookup calls on '" ++ String.ofList name ++ "'")
        .performance .info "Retrieve the needed rows once with a combined filter")
    | _ => none

def costFindings (code : List Char) : List Finding :=
  let s := Source.of code
  Checks.perLine [callsInLoops s.blocks, unfilteredReads, concatInLoops s.blocks] s.lines ++
    repeatedLookups s.lines

/-- Advice on single lines; `guarded` tells that errors are caught somewhere. -/
def lineAdvice (blocks : BlockMap) (guarded : Bool) (l : Line) : List Suggestion :=
  (if expensiveCalls.any fun p =>
      ((p.find? l.masked).map fun m => decide (1 ≤ blocks.loopsAt l.number m.start)).getD false then
    [Suggestion.on l.number s!"ssjs-batch:{l.number}" "Batch data access outside the loop"
      "Retrieve data once before the loop and process records in memory" .performance .high]
  else []) ++
  (if !guarded && remoteCall.occursIn l.masked then
    [Suggestion.on l.number s!"ssjs-try-catch:{l.number}" "Wrap remote calls in try/catch"
      "HTTP and SOAP calls can fail; handle errors so the page still renders" .maintainability
      .high]
  else [])

/-- Advice on data extensions that are looked up more than once. -/
def lookupAdvice (ls : List Line) : List Suggestion :=
  (lookupReceivers ls).filterMap fun
    | (name, sites@(first :: _ :: _)) =>
      some (.on first.line ("ssjs-batch-lookup:" ++ String.ofList name) "Combine lookups"
        ("Combine " ++ toString sites.length ++ " lookups on '" ++ String.ofList name ++
          "' into one filtered retrieve")
        .performance .medium)
    | _ => none

def advice (code : List Char) : List Suggestion :=
  let s := Source.of code
  let guarded := s.lines.any fun l => tryBlock.occursIn l.masked
  s.lines.flatMap (lineAdvice s.blocks guarded) ++ lookupAdvice s.lines

end CampaignCheck.Ssjs

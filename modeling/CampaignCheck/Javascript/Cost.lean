import CampaignCheck.Javascript.Source
import CampaignCheck.Finding
import CampaignCheck.Lexical.Arguments
import CampaignCheck.Validator.Checks

namespace CampaignCheck.Javascript

/-- The name of a call without what follows it and without a leading dot. -/
def callName (cs : List Char) : String :=
  String.ofList ((Text.dropEndWhile "( +=".toList.contains cs).dropWhile (· == '.'))

def pageInLoops (blocks : BlockMap) (l : Line) : List Finding :=
  ([pageQuery, pageWrite].flatMap (·.findAll l.masked)).filterMap fun m =>
    if blocks.loopsAt l.number m.start = 0 then none
    else some (.report l.number (some m.start) "js-expensive-in-loop"
      (callName (m.text l.masked) ++ " inside a loop touches the DOM every iteration") .performance
      .warning "Query once before the loop and batch DOM writes")

def lengthLoops (l : Line) : List Finding :=
  (lengthLoop.find? l.masked).toList.map fun m =>
    .report l.number (some m.start) "js-cache-array-length"
      "Loop condition reads .length on every iteration" .performance .info
      "Cache the length in a variable before the loop"

/-- A search for elements: its function, and its arguments as written. -/
structure PageSearch where
  function : List Char
  arguments : List Char
  site : Text.Position
deriving DecidableEq, Repr, Inhabited

def searchesIn (l : Line) : List PageSearch :=
  (pageQuery.findAll l.masked).filterMap fun m =>
    (Arguments.extentAt? l.masked (m.stop - 1)).map fun e =>
      ⟨m.group l.masked 1, Text.trim (Text.slice l.raw e.1 e.2), l.number, m.start⟩

/-- The second of several equal searches, in reading order. -/
def secondSearches : List PageSearch → List PageSearch → List PageSearch
  | _, [] => []
  | seen, s :: ss =>
    let same := seen.countP fun t => t.function == s.function && t.arguments == s.arguments
    if same = 1 then s :: secondSearches (seen ++ [s]) ss else secondSearches (seen ++ [s]) ss

def repeatedSearches (ls : List Line) : List Finding :=
  (secondSearches [] (ls.flatMap searchesIn)).map fun s =>
    .report s.site.line (some s.site.column) "js-dom-caching"
      (String.ofList s.function ++ "(" ++ String.ofList s.arguments ++ ") is repeated")
      .performance .info "Store the element in a variable and reuse it"

def lastingListeners (ls : List Line) : List Finding :=
  if ls.any fun l => Text.contains "removeEventListener".toList l.masked then []
  else
    (ls.findSome? fun l => (Text.find? "addEventListener".toList l.masked).map (l, ·)).toList.map
      fun (l, column) =>
        .report l.number (some column) "js-event-listener-cleanup"
          "Event listeners are never removed" .performance .info
          "Remove listeners that outlive their element to avoid memory leaks"

def costFindings (code : List Char) : List Finding :=
  let s := Source.of code
  Checks.perLine [pageInLoops s.blocks, lengthLoops] s.masked.lines ++
    repeatedSearches s.masked.lines ++ lastingListeners s.masked.lines

/-- Advice on lines: every listener for a frequent event, and the first concatenation. -/
def lineAdvice : Bool → List Line → List Suggestion
  | _, [] => []
  | advised, l :: ls =>
    let concat := !advised && quotedConcat.occursIn l.masked
    (hotListener.find? l.raw).toList.map (fun m =>
      .on l.number s!"js-debounce:{l.number}" "Debounce frequent events"
        ("Debounce or throttle the " ++ String.ofList (m.group l.raw 1) ++ " handler")
        .performance .medium) ++
    (if concat then
      [.on l.number s!"js-template-literal:{l.number}" "Use template literals"
        "Build strings with template literals instead of + concatenation" .bestPractice .low]
    else []) ++ lineAdvice (advised || concat) ls

def readAdvice (cs : List Char) : List Suggestion :=
  match riskyRead.find? cs with
  | some m =>
    if tryWord.occursIn cs then []
    else [.on (Text.positionAt cs m.start).line "js-error-handling"
      "Handle parse and storage errors"
      ("Wrap JSON.parse and localStorage access in try/catch; both throw on bad data or blocked " ++
        "storage")
      .maintainability .high]
  | none => []

def advice (code : List Char) : List Suggestion :=
  let s := (Source.of code).masked
  lineAdvice false s.lines ++ readAdvice s.text

end CampaignCheck.Javascript

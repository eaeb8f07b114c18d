import CampaignCheck.Javascript.Source
import CampaignCheck.Finding
import CampaignCheck.Lexical.Arguments
import CampaignCheck.Validator.Checks

namespace CampaignCheck.Javascript

/-- A text that is run as code. -/
def evaluations (l : Line) : List Finding :=
  (evaluation.find? l.masked).toList.map fun m =>
    .report l.number (some m.start) "js-eval" "Code is evaluated from a string" .security .warning
      "Pass a function, or parse data with JSON.parse"

def markupWrites (l : Line) : List Finding :=
  (markupWrite.find? l.masked).toList.map fun m =>
    .report l.number (some m.start) "js-xss" "Writing HTML directly can inject untrusted content"
      .security .warning "Use textContent or sanitize the value"

def looseComparisons (l : Line) : List Finding :=
  (looseEquality.findAll l.masked).map fun m =>
    let sign := String.ofList (m.group l.masked 1)
    .report l.number (some m.start) "js-strict-equality" ("Loose comparison '" ++ sign ++ "='")
      .style .warning ("Use '" ++ sign ++ "==' to avoid type coercion")

def functionScoped (l : Line) : List Finding :=
  (varWord.find? l.masked).toList.map fun m =>
    .report l.number (some m.start) "js-var-usage" "var is function scoped" .style .info
      "Use let or const"

/-- The open braces, innermost first, and the text since the last brace or semicolon, reversed. -/
structure AwaitState where
  frames : List BraceKind
  head : List Char
deriving DecidableEq, Repr, Inhabited

/-- The innermost open function is asynchronous. -/
def AwaitState.inAsync (s : AwaitState) : Bool :=
  s.frames.find? (· != .block) == some .async

def AwaitState.step (s : AwaitState) (c : Char) : AwaitState :=
  if c == '{' then ⟨.after s.head.reverse :: s.frames, []⟩
  else if c == '}' then ⟨s.frames.drop 1, []⟩
  else if c == ';' then { s with head := [] }
  else { s with head := c :: s.head }

/-- The columns of a line where something waits outside an asynchronous function, and the state
behind the line. -/
def awaitColumns (awaits : List Nat) : Nat → AwaitState → List Char → List Nat × AwaitState
  | _, s, [] => ([], s)
  | column, s, c :: cs =>
    let (columns, last) := awaitColumns awaits (column + 1) (s.step c) cs
    (if awaits.contains column && !s.inAsync then column :: columns else columns, last)

/-- Waiting outside asynchronous functions. A line that has the word for asynchronous is passed. -/
def strayAwaits : AwaitState → List Line → List Finding
  | _, [] => []
  | s, l :: ls =>
    let awaits := if asyncWord.occursIn l.masked then []
      else (awaitWord.findAll l.masked).map (·.start)
    let (columns, s) := awaitColumns awaits 0 s l.masked
    columns.map (fun column =>
      .report l.number (some column) "js-await-async" "await used outside an async function"
        .semantic .warning "Mark the enclosing function async") ++
      strayAwaits { s with head := '\n' :: s.head } ls

/-- The text from the last semicolon or brace up to an offset. -/
def statementHead (cs : List Char) (stop : Nat) : List Char :=
  ((cs.take stop).reverse.takeWhile fun c => c != ';' && c != '{' && c != '}').reverse

/-- The promise chain at a step handles failure, or is handed to the caller. -/
def isHandled (cs : List Char) (m : Match) (stop : Nat) : Bool :=
  Text.startsWith (Text.trimLeft (statementHead cs m.start)) "return".toList ||
    Text.contains ".catch".toList (Text.slice cs m.start stop) ||
    ((Arguments.spans? cs (m.stop - 1)).map fun args => decide (2 ≤ args.length)).getD false

/-- Promise chains without a handler, one per statement; steps before `covered` belong to a
statement already seen. -/
def promiseFindings (cs : List Char) : Nat → List Match → List Finding
  | _, [] => []
  | covered, m :: ms =>
    if m.start < covered then promiseFindings cs covered ms
    else
      let stop := statementEnd cs m.start
      let p := Text.positionAt cs m.start
      let here := if isHandled cs m stop then [] else
        [Finding.report p.line (some p.column) "js-promise-catch"
          "Promise chain has no rejection handler" .semantic .warning "Add .catch() to the chain"]
      here ++ promiseFindings cs stop ms

def meaningFindings (code : List Char) : List Finding :=
  let s := (Source.of code).masked
  Checks.perLine [evaluations, markupWrites, looseComparisons, functionScoped] s.lines ++
    strayAwaits ⟨[], []⟩ s.lines ++ promiseFindings s.text 0 (thenCall.findAll s.text)

end CampaignCheck.Javascript

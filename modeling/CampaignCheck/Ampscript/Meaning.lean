import CampaignCheck.Ampscript.Regions
import CampaignCheck.Lexical.Arguments
import CampaignCheck.Validator.Checks

namespace CampaignCheck.Ampscript

/-- A variable's place, and its name as written. -/
structure Declared where
  key : List Char
  line : Nat
  column : Nat
  name : List Char
deriving DecidableEq, Repr, Inhabited

/-- Variables in reading order: which are declared, which are used, and what is wrong. -/
structure Tracking where
  declared : List Declared
  used : List (List Char)
  found : List Finding
deriving DecidableEq, Repr, Inhabited

/-- Columns of a masked line where a variable is declared or assigned. -/
def declarationColumns (cs : List Char) : List Nat :=
  (declaration.findAll cs).flatMap (fun m =>
      (variableName.findAll (m.group cs 1)).map fun v => m.startOf 1 + v.start) ++
    ([assignment, loopVariable].flatMap fun p => (p.findAll cs).map (·.startOf 1))

def Tracking.occurrence (t : Tracking) (number column : Nat) (name : List Char)
    (declares : Bool) : Tracking :=
  let key := Text.lower name
  let known := t.declared.any (·.key == key)
  if declares then
    if known then t else { t with declared := t.declared ++ [⟨key, number, column, name⟩] }
  else
    let shown := String.ofList name
    let found := if known then t.found else
      t.found ++ [.report number (some column) "ampscript-undefined-variable"
        ("Variable " ++ shown ++ " used before declaration") .semantic .warning
        ("Declare " ++ shown ++ " with VAR or SET before using it")]
    { t with used := key :: t.used, found := found }

def Tracking.line (t : Tracking) (l : Line) : Tracking :=
  let columns := declarationColumns l.masked
  (variableName.findAll l.masked).foldl
    (fun t m => t.occurrence l.number m.start (m.text l.masked) (columns.contains m.start)) t

def unusedVariable (d : Declared) : Finding :=
  let shown := String.ofList d.name
  .report d.line (some d.column) "ampscript-unused-variable"
    ("Variable " ++ shown ++ " declared but never used") .semantic .warning
    ("Remove unused variable " ++ shown ++ " or use it in the code")

def variableFindings (ls : List Line) : List Finding :=
  let t := ls.foldl Tracking.line ⟨[], [], []⟩
  t.found ++ (t.declared.filter fun d => !t.used.contains d.key).map unusedVariable

/-- Writes that do not name their target, and calls that need a connection. -/
def dataOperations (l : Line) : List Finding :=
  (call.findAll l.masked).filterMap fun m =>
    let name := m.group l.masked 1
    let shown := String.ofList name
    if isOneOf writeFunctions name then
      match Arguments.spans? l.masked (m.stop - 1) with
      | none => none
      | some args =>
        let first := match args with
          | a :: _ => Text.trim (Text.slice l.masked a.1 a.2)
          | [] => []
        if ["\"", "'", "@"].any (fun s => Text.startsWith first s.toList) ||
            (call.matchStart? first).isSome then none
        else some (.report l.number (some (m.startOf 1)) "ampscript-de-operation"
          (shown ++ " should name the target data extension") .semantic .warning
          ("Pass the data extension name as the first argument of " ++ shown))
    else if isOneOf salesforceFunctions name then
      some (.report l.number (some (m.startOf 1)) "ampscript-sf-operation"
        (shown ++ " requires a Salesforce connection and object permissions") .semantic .info
        "Ensure the Marketing Cloud Connect integration user can access the object")
    else none

def isCodeAt (l : Line) (column : Nat) : Bool :=
  !Text.allBlank (Text.slice l.masked column (column + 1))

/-- Secrets written into the source; one per line. -/
def credentials (l : Line) : List Finding :=
  let place := [credential, authorization].findSome? fun p =>
    (p.find? l.raw).bind fun m => if isCodeAt l m.start then some m.start else none
  place.toList.map fun column =>
    .report l.number (some column) "ampscript-hardcoded-credential"
      "Hardcoded credential in AMPscript" .security .warning
      "Store secrets in a protected data extension or key management and load them at runtime"

/-- Some variable in an expression holds what a visitor sent. -/
def mentions (tainted : List (List Char)) (expr : List Char) : Bool :=
  (variableName.findAll expr).any fun v => tainted.contains (Text.lower (v.text expr))

/-- An output of what a visitor sent without encoding. -/
def unencodedOutput (tainted : List (List Char)) (number column : Nat) (expr : List Char) :
    List Finding :=
  let flat := (Text.lower expr).filter (· != ' ')
  if encoders.any fun e => Text.contains (Text.lower e.toList ++ ['(']) flat then []
  else if request.occursIn expr || mentions tainted expr then
    [.report number (some column) "ampscript-xss-prevention"
      "Request parameter rendered without encoding" .security .warning
      "Wrap the value in HTMLEncode() or URLEncode() before output"]
  else []

/-- Variables that a line sets to something a visitor sent, unencoded. -/
def taintedBy (cs : List Char) : List (List Char) :=
  (assignment.findAll cs).filterMap fun m =>
    let value := cs.drop m.stop
    let lowered := Text.lower value
    if request.occursIn value &&
        !(encoders.any fun e => Text.contains (Text.lower e.toList) lowered) then
      some (Text.lower (m.group cs 1))
    else none

/-- A call that looks up or shows what a visitor sent. -/
def callFlow (tainted : List (List Char)) (l : Line) (m : Match) : List Finding :=
  let name := m.group l.masked 1
  let shown := String.ofList name
  match Arguments.spans? l.masked (m.stop - 1) with
  | none => []
  | some args =>
    let expr := match Arguments.extent? (some args) with
      | some e => Text.slice l.masked e.1 e.2
      | none => []
    let lookups :=
      if !isOneOf dataFunctions name then []
      else if request.occursIn expr then
        [.report l.number (some (m.startOf 1)) "ampscript-sql-injection"
          ("Request parameter passed directly into " ++ shown) .security .error
          "Validate and sanitize request parameters before using them in lookups"]
      else if mentions tainted expr then
        [.report l.number (some (m.startOf 1)) "ampscript-sql-injection"
          ("Unvalidated request value flows into " ++ shown) .security .warning
          "Validate the value (IsNull/Empty/RegExMatch) before the lookup"]
      else []
    lookups ++
      if isOneOf outputFunctions name then unencodedOutput tainted l.number (m.startOf 1) expr
      else []

/-- Output blocks that hold a variable or a request and nothing else. -/
def bareOutputs (tainted : List (List Char)) (l : Line) : List Finding :=
  (outputBlock.findAll l.raw).flatMap fun m =>
    let inner := Text.trim (m.group l.raw 1)
    if variableName.matchesAll inner || (request.matchStart? inner).isSome then
      unencodedOutput tainted l.number m.start inner
    else []

/-- Where what a visitor sent goes, line by line with the variables that hold it. -/
def requestFlow : List (List Char) → List Line → List Finding
  | _, [] => []
  | tainted, l :: ls =>
    let tainted := tainted ++ taintedBy l.masked
    (call.findAll l.masked).flatMap (callFlow tainted l) ++ bareOutputs tainted l ++
      requestFlow tainted ls

def meaningFindings (code : List Char) : List Finding :=
  let s := Source.of code
  variableFindings s.lines ++ Checks.perLine [dataOperations, credentials] s.lines ++
    requestFlow [] s.lines

end CampaignCheck.Ampscript

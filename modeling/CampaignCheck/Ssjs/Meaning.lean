import CampaignCheck.Ssjs.View
import CampaignCheck.Finding
import CampaignCheck.Lexical.Arguments
import CampaignCheck.Validator.Checks

namespace CampaignCheck.Ssjs

/-- A declared name and its place. -/
structure Declared where
  name : List Char
  site : Text.Position
deriving DecidableEq, Repr, Inhabited

/-- The names that a line declares: variables first, then functions. -/
def declaredIn (l : Line) : List Declared :=
  (declaration.findAll l.masked).map
      (fun m => ⟨m.group l.masked 1, l.number, m.startOf 1⟩) ++
    (functionHead.findAll l.masked).filterMap fun m =>
      (m.bounds? 1).map fun b => ⟨Text.slice l.masked b.1 b.2, l.number, b.1⟩

/-- The places of the parameters that a line declares. -/
def parametersIn (l : Line) : List Text.Position :=
  (functionHead.findAll l.masked).flatMap fun m =>
    (parameter.findAll (m.group l.masked 2)).map fun p => ⟨l.number, m.startOf 2 + p.start⟩

def firstOfEach : List Declared → List Declared
  | [] => []
  | d :: ds => d :: (firstOfEach ds).filter (·.name != d.name)

/-- The names that a line uses, apart from the given places. -/
def usedIn (sites : List Text.Position) (l : Line) : List (List Char) :=
  (identifier.findAll l.masked).filterMap fun m =>
    if sites.contains ⟨l.number, m.startOf 1⟩ then none else some (m.group l.masked 1)

def undeclaredIn (declared : List Declared) (l : Line) : List Finding :=
  match lineAssignment.matchStart? l.masked with
  | some m =>
    let name := m.group l.masked 1
    let shown := String.ofList name
    if declared.any (·.name == name) || reserved.contains shown then []
    else [.report l.number (some (m.startOf 1)) "ssjs-undeclared-variable"
      ("'" ++ shown ++ "' is assigned without being declared") .semantic .warning
      ("Declare it first: var " ++ shown ++ ";")]
  | none => []

def unusedVariable (d : Declared) : Finding :=
  let shown := String.ofList d.name
  .report d.site.line (some d.site.column) "ssjs-unused-variable"
    ("'" ++ shown ++ "' is declared but never used") .semantic .warning
    ("Remove '" ++ shown ++ "' or use it")

/-- Assignments to names declared nowhere, then names never used. -/
def variableFindings (ls : List Line) : List Finding :=
  let all := ls.flatMap declaredIn
  let declared := firstOfEach all
  let sites := all.map (·.site) ++ ls.flatMap parametersIn
  let used := ls.flatMap (usedIn sites)
  ls.flatMap (undeclaredIn declared) ++
    (declared.filter fun d => !used.contains d.name).map unusedVariable

/-- What is wrong with a line that loads a library, given the numbers of all lines of code. -/
def loadFindings (numbers : List Nat) (l : Line) (m : Match) : List Finding :=
  let position := (numbers.findIdx? (· == l.number)).getD 0
  (if 2 < position then
    [Finding.report l.number (some m.start) "ssjs-platform-load-position"
      "Platform.Load should be called at the beginning of the script" .semantic .warning
      "Move Platform.Load to the top of the script"]
  else []) ++
  (if coreName.occursIn l.raw then [] else
    [Finding.report l.number (some m.start) "ssjs-platform-load-core"
      "Platform.Load should load the \"Core\" library" .semantic .warning
      "Use Platform.Load(\"Core\", \"1.1.1\");"])

def libraryFindings (ls : List Line) : List Finding :=
  let loads := ls.filterMap fun l => (libraryLoad.find? l.masked).map (l, ·)
  if loads.isEmpty then
    (ls.find? fun l => coreObject.occursIn l.masked).toList.map fun l =>
      .report l.number none "ssjs-platform-load-missing"
        "Core library objects are used but Platform.Load is never called" .semantic .warning
        "Add Platform.Load(\"Core\", \"1.1.1\"); at the top of the script"
  else
    let numbers := (ls.filter (!·.isBlank)).map (·.number)
    loads.flatMap fun (l, m) => loadFindings numbers l m

/-- Texts before a call that take its result. -/
def receivers : List String := ["=", "(", ",", ":", "return", "?"]

/-- Data extensions opened without a key, or with nobody to take the result. -/
def initFindings (l : Line) : List Finding :=
  (initCall.findAll l.masked).flatMap fun m =>
    let args := Arguments.spans? l.masked (m.stop - 1)
    let keyless := match args with
      | some [] =>
        [Finding.report l.number (some m.start) "ssjs-de-init"
          "DataExtension.Init() needs the data extension external key" .semantic .error
          "Pass the external key: DataExtension.Init(\"MyDE\")"]
      | _ => []
    let before := Text.trimRight (l.masked.take m.start)
    let after := match args with
      | some as =>
        let close := match Arguments.extent? (some as) with
          | some e => e.2
          | none => m.stop
        Text.trimLeft (l.masked.drop (close + 1))
      | none => []
    let taken := receivers.any (fun r => Text.endsWith before r.toList) ||
      Text.startsWith after ['.']
    keyless ++ if taken then [] else
      [.report l.number (some m.start) "ssjs-de-init-assignment"
        "DataExtension.Init() result should be assigned to a variable" .semantic .error
        "Assign the result: var de = DataExtension.Init(\"MyDE\");"]

def proxyFindings (l : Line) : List Finding :=
  match proxyConstructor.find? l.masked with
  | some m =>
    match Arguments.spans? l.masked (m.stop - 1) with
    | some (_ :: _) => []
    | _ =>
      [.report l.number (some m.start) "ssjs-wsproxy-auth"
        "WSProxy created without an explicit authentication context" .semantic .warning
        "Call setClientId() or pass an access token when working across business units"]
  | none => []

/-- Queries built by concatenation or from what a visitor sent. -/
def injectionFindings (l : Line) : List Finding :=
  (queryCall.findAll l.masked).filterMap fun m =>
    (Arguments.extentAt? l.masked (m.stop - 1)).bind fun e =>
      if (Text.slice l.masked e.1 e.2).contains '+' ||
          requestCall.occursIn (Text.slice l.raw e.1 e.2) then
        some (.report l.number (some m.start) "ssjs-injection-risk"
          "Concatenated or request-supplied value passed to a query primitive" .security .error
          "Use filter objects with validated values instead of string concatenation")
      else none

/-- A secret written into the source. -/
def credentialFindings (l : Line) : List Finding :=
  match credential.find? l.raw with
  | some m =>
    if Text.allBlank (Text.slice l.masked m.start (m.start + 1)) then []
    else [.report l.number (some m.start) "ssjs-hardcoded-credential"
      "Hardcoded credential in script" .security .warning
      "Load secrets from a protected data extension or key management at runtime"]
  | none => []

/-- A text that is run as code. -/
def evalFindings (l : Line) : List Finding :=
  (evalCall.find? l.masked).toList.map fun m =>
    .report l.number (some m.start) "ssjs-eval" "eval() executes arbitrary code" .security .error
      "Parse data with Platform.Function.ParseJSON instead"

def isEncoded (cs : List Char) : Bool := encoders.any fun e => Text.contains e.toList cs

/-- Variables that a line sets to something a visitor sent, unencoded. -/
def taintedBy (l : Line) : List (List Char) :=
  (anyAssignment.findAll l.masked).filterMap fun m =>
    let value := l.raw.drop m.stop
    if requestCall.occursIn value && !isEncoded value then some (m.group l.masked 1) else none

/-- Writes to the page of what a visitor sent, unencoded. -/
def outputsIn (tainted : List (List Char)) (l : Line) : List Finding :=
  (outputCall.findAll l.masked).filterMap fun m =>
    (Arguments.extentAt? l.masked (m.stop - 1)).bind fun e =>
      let raw := Text.slice l.raw e.1 e.2
      let masked := Text.slice l.masked e.1 e.2
      let names := (identifier.findAll masked).map (·.group masked 1)
      if !isEncoded raw && (requestCall.occursIn raw || names.any tainted.contains) then
        some (.report l.number (some m.start) "ssjs-unescaped-output"
          "Request value written to the page without encoding" .security .warning
          "Encode with Platform.Function.HTMLEncode() before writing")
      else none

/-- What reaches the page, line by line with the variables that hold what a visitor sent. -/
def outputFindings : List (List Char) → List Line → List Finding
  | _, [] => []
  | tainted, l :: ls =>
    let tainted := tainted ++ taintedBy l
    outputsIn tainted l ++ outputFindings tainted ls

def meaningFindings (code : List Char) : List Finding :=
  let s := Source.of code
  variableFindings s.lines ++ libraryFindings s.lines ++
    Checks.perLine [initFindings, proxyFindings, injectionFindings, credentialFindings,
      evalFindings] s.lines ++
    outputFindings [] s.lines

end CampaignCheck.Ssjs

import CampaignCheck.Data.Print
import CampaignCheck.Http.Route
import CampaignCheck.Live.Clock
import CampaignCheck.Rules.Build
import CampaignCheck.Rules.Default
import CampaignCheck.Schema.Request
import CampaignCheck.Settings

namespace CampaignCheck.Http

open Schema

def versionText : String := "0.4.0"

def releaseDate : String := "Oct 17, 2026"

/-- The answer to a request. -/
structure Response where
  status : Nat
  body : Value

/-- What a request is answered with: a response, or the answer to a live call that is to come. -/
inductive Reply where
  | now (response : Response)
  | later (call : Nat)

/-- What a body has to be. -/
inductive BodyShape where
  | record
  | mapping

/-- Something wrong with a body, with the value that was found there. -/
structure BodyFault where
  path : List Step := []
  code : String
  message : String
  input : Value

/-- The state of the service: beside what is analysed, the settings as they are held and the place
where they are kept. -/
structure Service where
  world : Live.World
  settings : Settings
  store : SettingsStore

def BodyShape.fault (input : Value) : BodyShape → BodyFault
  | record =>
    { code := "model_attributes_type"
      message := "Input should be a valid dictionary or object to extract fields from"
      input }
  | mapping =>
    { code := "dict_type", message := "Input should be a valid dictionary", input }

/-- The value at the end of a path, or the last one on the way to it. -/
def found : Value → List Step → Value
  | .object fs, .field name :: path =>
    match Fields.get? fs name with
    | some v => found v path
    | none => .object fs
  | v, _ => v

def BodyFault.ofFault (body : Value) (f : Fault) : BodyFault where
  path := f.path
  code := f.cause.code
  message := f.cause.message?.getD ""
  input := found body f.path

def BodyFault.toValue (f : BodyFault) : Value :=
  .object [("type", .text f.code),
    ("loc", .list ((Step.field "body" :: f.path).map Step.toValue)),
    ("msg", .text f.message), ("input", f.input)]

namespace Response

def ok (body : Value) : Response := ⟨200, body⟩

def refused (status : Nat) (reason : String) : Response :=
  ⟨status, .object [("detail", .text reason)]⟩

/-- A refusal of a body that is not well formed. -/
def malformed (faults : List BodyFault) : Response :=
  ⟨422, .object [("detail", .list (faults.map BodyFault.toValue))]⟩

/-- A report on something nobody expected. -/
def broken (r : Request) (e : Misuse) : Response :=
  ⟨500, .object [("detail", .text (e.name ++ ": " ++ e.message)), ("error_type", .text e.name),
    ("error_message", .text e.message), ("request_url", .text r.address),
    ("request_method", .text r.method)]⟩

/-- A refusal of a dialect without a validator. -/
def unsupported (e : AnalysisError) : Response := refused 400 e.message

/-- The response as it is sent. If it cannot be, a report on that is sent in its place, whatever the
request has done by then. -/
def sent (r : Request) (response : Response) : Response :=
  match Json.sendingFault? response.body with
  | some e => broken r e
  | none => response

end Response

/-- The text of a body without the mark that may stand in front of it. -/
def bodyText (s : String) : String :=
  match s.toList with
  | '\uFEFF' :: cs => String.ofList cs
  | _ => s

/-- The fields of a body; a value of another shape is refused. -/
def bodyFields (r : Request) (shape : BodyShape) : Except Response Fields :=
  match r.body.filter (!·.isEmpty) with
  | none =>
    .error (.malformed [{ code := "missing", message := "Field required", input := .null }])
  | some s =>
    match Json.read (bodyText s) with
    | .error .malformed =>
      .error (.malformed
        [{ code := "json_invalid", message := "JSON decode error", input := .object [] }])
    | .error _ => .error (.refused 400 "There was an error parsing the body")
    | .ok (.object fs) => .ok fs
    | .ok v => .error (.malformed [shape.fault v])

def bodyRecord {α : Type} (r : Request) (read : Fields → Checked α) : Except Response α := do
  let fs ← bodyFields r .record
  match read fs with
  | .ok a => return a
  | .faults faults => throw (.malformed (faults.map (.ofFault (.object fs))))

namespace Service

/-- The service at its start, with the rules of the directory that the settings name. Without the
directory, the switches or the origins it does not start. -/
def start (registry : Registry) (rules : RuleTable) (store : SettingsStore) (env : Environment) :
    Except Misuse Service := do
  let settings := Settings.load store.file
  let _ ← settings.rulesDirectory env
  let config ← settings.live env
  let _ ← settings.origins env
  return { world := { engine := { registry, rules }, config }, settings, store }

/-- The service at its start without a settings file. -/
def fresh (registry : Registry) : Service :=
  { world := { engine := { registry, rules := .builtin }, config := {} }
    settings := .default
    store := {} }

def withRules (s : Service) (t : RuleTable) : Service :=
  { s with world := { s.world with engine := { s.world.engine with rules := t } } }

def analyzeLive (s : Service) (r : Request) : Service × Reply :=
  match bodyRecord r EditedSource.ofFields with
  | .error e => (s, .now e)
  | .ok source =>
    match s.world.engine.validatorOf source.dialect with
    | .error e => (s, .now (.unsupported e))
    | .ok _ =>
      ({ s with world := s.world.call source.session source.code source.dialect.name },
        .later s.world.state.calls)

/-- Answer a request about a source by a pass of the analysis at once. -/
def atOnce {α : Type} (s : Service) (r : Request)
    (pass : Live.World → String → List Char → Live.World × Except AnalysisError α)
    (write : Dialect → α → Value) : Service × Reply :=
  match bodyRecord r SourceUnit.ofFields with
  | .error e => (s, .now e)
  | .ok source =>
    let (world, result) := pass s.world source.dialect.name source.code
    ({ s with world := world },
      .now (match result with
        | .ok a => .ok (write source.dialect a)
        | .error e => .unsupported e))

def analyze (s : Service) (r : Request) : Response :=
  match bodyRecord r AnalysisRequest.ofFields with
  | .error e => e
  | .ok request =>
    match s.world.engine.analyze request with
    | .ok a => .ok a.toValue
    | .error e => .unsupported e

def showSession (s : Service) (id : String) : Response :=
  match s.world.state.result? id with
  | some result => .ok result.toPlainValue
  | none => .refused 404 ("No cached analysis for session " ++ id)

def clearSession (s : Service) (id : String) : Service × Response :=
  if (s.world.state.find? id).isSome then
    ({ s with world := s.world.clear id },
      .ok (.object [("session_id", .text id), ("cleared", .bool true)]))
  else (s, .refused 404 ("Session " ++ id ++ " not found"))

/-- Change the switches of live analysis, then hold and write them. They are in force before they
are held, also if the settings cannot hold them. -/
def changeConfig (s : Service) (r : Request) : Service × Response :=
  match bodyRecord r LiveConfigUpdate.ofFields with
  | .error e => (s, e)
  | .ok update =>
    let config := s.world.config.update update
    let s := { s with world := { s.world with config } }
    match s.settings.withLive config with
    | .ok settings => ({ s with settings, store := s.store.write settings }, .ok config.toValue)
    | .error e => (s, .broken r e)

def ruleList (rules : List Rule) : Response :=
  .ok (.object [("total", .ofNat rules.length), ("rules", .list (rules.map Rule.toValue))])

def listRules (s : Service) (r : Request) : Response :=
  let rules := s.world.engine.rules
  match (r.query.reverse.lookup "dialect").filter (!·.isEmpty) with
  | none => ruleList rules.rules
  | some name =>
    match Dialect.parse name with
    | .ok d => ruleList (rules.forDialect d)
    | .error _ => .refused 400 ("Unsupported dialect: " ++ name)

def addRule (s : Service) (r : Request) : Service × Response :=
  match bodyFields r .mapping with
  | .error e => (s, e)
  | .ok fs =>
    match Rule.build (.object fs) with
    | .ok rule => (s.withRules (s.world.engine.rules.add rule), ⟨201, rule.toValue⟩)
    | .error (.rule e) => (s, .refused 400 e.message)
    | .error (.misuse e) => (s, .broken r e)

def removeRule (s : Service) (id : String) : Service × Response :=
  let rules := s.world.engine.rules
  if rules.contains id then
    (s.withRules (rules.remove id),
      .ok (.object [("rule_id", .text id), ("removed", .bool true)]))
  else (s, .refused 404 ("Rule " ++ id ++ " not found"))

def listDialects (s : Service) : Response :=
  let sorted := s.world.engine.registry.mergeSort fun a b =>
    decide (a.dialect.name ≤ b.dialect.name)
  .ok (.list (sorted.map fun v =>
    .object [("dialect", .text v.dialect.name), ("validator", .text v.title),
      ("capabilities", .ofTexts v.capabilityNames)]))

def act (s : Service) (r : Request) : Action → Service × Reply
  | .welcome => (s, .now (.ok (.object [("message", .text "Campaign Code Analyzer API"),
      ("status", .text "running"), ("version", .text versionText)])))
  | .health => (s, .now (.ok (.object [("status", .text "healthy"), ("version", .text versionText),
      ("sessions", .ofNat s.world.state.names.length)])))
  | .analyzeLive => s.analyzeLive r
  | .diagnose => s.atOnce r Live.World.diagnoseNow fun d fs =>
      .object [("dialect", .text d.name), ("diagnostics", Finding.listValue fs)]
  | .measure => s.atOnce r Live.World.measureNow fun _ m => m.toValue
  | .enforce => s.atOnce r Live.World.enforceNow fun d vs =>
      .object [("dialect", .text d.name), ("violations", Violation.listValue vs)]
  | .analyze => (s, .now (s.analyze r))
  | .showSession id => (s, .now (s.showSession id))
  | .clearSession id => let (s, response) := s.clearSession id; (s, .now response)
  | .showConfig => (s, .now (.ok s.world.config.toValue))
  | .changeConfig => let (s, response) := s.changeConfig r; (s, .now response)
  | .listRules => (s, .now (s.listRules r))
  | .addRule => let (s, response) := s.addRule r; (s, .now response)
  | .removeRule id => let (s, response) := s.removeRule id; (s, .now response)
  | .showVersion => (s, .now (.ok (.object [("version", .text versionText),
      ("release_date", .text releaseDate)])))
  | .listDialects => (s, .now s.listDialects)

def accept (s : Service) (r : Request) : Service × Reply :=
  match r.action with
  | .ok a => s.act r a
  | .error .notFound => (s, .now (.refused 404 "Not Found"))
  | .error .methodNotAllowed => (s, .now (.refused 405 "Method Not Allowed"))

def acceptAll (s : Service) : List (Nat × Request) → Service × List (Nat × Reply)
  | [] => (s, [])
  | (i, r) :: rest =>
    let (s, reply) := s.accept r
    let (s, replies) := s.acceptAll rest
    (s, (i, reply) :: replies)

/-- The request's body has to be read before anything can be done. -/
def needsBody (r : Request) : Bool :=
  match r.action with
  | .ok a => a.readsBody
  | .error _ => false

def isWaiting (w : Live.World) : Reply → Bool
  | .now _ => false
  | .later call => !w.state.answers.any (·.call == call)

/-- The response that a reply stands for once live calls are answered. -/
def responseOf (w : Live.World) : Reply → Response
  | .now response => response
  | .later call =>
    match w.state.answers.find? (·.call == call) with
    | some a => .ok a.result.toPlainValue
    | none => .refused 500 ""

/-- Serve requests that arrive together: those without a body come first, and time passes until
all live calls among them are answered. By then everything is done that the requests ask for, and
the responses are sent. -/
def serveAll (s : Service) (requests : List Request) : Service × List Response :=
  let numbered := requests.zipIdx.map fun p => (p.2, p.1)
  let (late, early) := numbered.partition fun p => needsBody p.2
  let (s, replies) := s.acceptAll (early ++ late)
  let world := s.world.awaitWhile fun w => replies.any fun p => isWaiting w p.2
  let ordered := replies.mergeSort fun p q => decide (p.1 ≤ q.1)
  let responses := ordered.map fun p => responseOf world p.2
  ({ s with world := world }, List.zipWith Response.sent requests responses)

def serve (s : Service) (r : Request) : Service × Option Response :=
  let (s, responses) := s.serveAll [r]
  (s, responses.head?)

end Service

end CampaignCheck.Http

import CampaignCheck.Schema.Fault
import CampaignCheck.Text.Lines

namespace CampaignCheck.Http

/-- A request: the path is decoded, and the address is the one that a report names. -/
structure Request where
  method : String
  path : String
  query : List (String × String) := []
  body : Option String := none
  address : String
deriving DecidableEq, Repr, Inhabited

/-- What a path leads to. -/
inductive Resource where
  | root
  | health
  | realtime
  | grammar
  | metrics
  | bestPractices
  | full
  | session (id : String)
  | config
  | rules
  | rule (id : String)
  | version
  | dialects
deriving DecidableEq, Repr, Inhabited

/-- The parts of a path between slashes. -/
def segments (path : String) : List String := (Text.cut '/' path.toList).map String.ofList

def Resource.ofPath? (path : String) : Option Resource :=
  match segments path with
  | ["", ""] => some root
  | ["", "health"] => some health
  | ["", "api", "analysis", "realtime"] => some realtime
  | ["", "api", "analysis", "syntax"] => some grammar
  | ["", "api", "analysis", "metrics"] => some metrics
  | ["", "api", "analysis", "best-practices"] => some bestPractices
  | ["", "api", "analysis", "full"] => some full
  | ["", "api", "analysis", "config"] => some config
  | ["", "api", "analysis", "sessions", id] => if id.isEmpty then none else some (session id)
  | ["", "api", "rules"] => some rules
  | ["", "api", "rules", id] => if id.isEmpty then none else some (rule id)
  | ["", "api", "system", "version"] => some version
  | ["", "api", "system", "dialects"] => some dialects
  | _ => none

/-- What a request asks for. -/
inductive Action where
  | welcome
  | health
  | analyzeLive
  | diagnose
  | measure
  | enforce
  | analyze
  | showSession (id : String)
  | clearSession (id : String)
  | showConfig
  | changeConfig
  | listRules
  | addRule
  | removeRule (id : String)
  | showVersion
  | listDialects
deriving DecidableEq, Repr, Inhabited

/-- What a method does to a resource, if it knows the method. -/
def Resource.action? : Resource → String → Option Action
  | root, "GET" => some .welcome
  | health, "GET" => some .health
  | realtime, "POST" => some .analyzeLive
  | grammar, "POST" => some .diagnose
  | metrics, "POST" => some .measure
  | bestPractices, "POST" => some .enforce
  | full, "POST" => some .analyze
  | session id, "GET" => some (.showSession id)
  | session id, "DELETE" => some (.clearSession id)
  | config, "GET" => some .showConfig
  | config, "PATCH" => some .changeConfig
  | rules, "GET" => some .listRules
  | rules, "POST" => some .addRule
  | rule id, "DELETE" => some (.removeRule id)
  | version, "GET" => some .showVersion
  | dialects, "GET" => some .listDialects
  | _, _ => none

/-- Why a request leads to no action. -/
inductive RouteError where
  | notFound
  | methodNotAllowed
deriving DecidableEq, Repr, Inhabited

def Request.action (r : Request) : Except RouteError Action :=
  match Resource.ofPath? r.path with
  | none => .error .notFound
  | some resource =>
    match resource.action? r.method with
    | some a => .ok a
    | none => .error .methodNotAllowed

def Action.readsBody : Action → Bool
  | analyzeLive | diagnose | measure | enforce | analyze | changeConfig | addRule => true
  | _ => false

end CampaignCheck.Http

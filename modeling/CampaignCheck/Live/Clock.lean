import CampaignCheck.Analysis.Engine
import CampaignCheck.Live.Config
import CampaignCheck.Live.Machine

namespace CampaignCheck.Live

/-- A pass of the analysis. -/
inductive Pass where
  | validate
  | rules
  | metrics
deriving DecidableEq, Repr, Inhabited

def Pass.ofName? : String → Option Pass
  | "validate" => some validate
  | "rules" => some rules
  | "metrics" => some metrics
  | _ => none

def millisecond : Nat := 1000000

/-- How long a pass takes, and whether it fails. -/
structure Condition where
  delay : Nat := 0
  broken : Bool := false
deriving DecidableEq, Repr, Inhabited

/-- What is due at an instant: a cycle wakes, or one of its passes does its work. -/
inductive Due where
  | wake (cycle : Nat)
  | validate (cycle : Nat)
  | enforce (cycle : Nat)
deriving DecidableEq, Repr, Inhabited

/-- Something that is due. -/
structure Timer where
  instant : Nat
  due : Due
deriving DecidableEq, Repr, Inhabited

/-- What the passes of a cycle have yielded so far. -/
structure Progress where
  cycle : Nat
  found : Option (List Finding)
  violations : Option (List Violation)
deriving DecidableEq, Repr, Inhabited

/-- The machine with its clock. Cycles sleep for the time that is set; the two passes of a cycle run
side by side, each after its own delay, and the cycle ends with the later one or with the first that
fails. Instants are counted in nanoseconds from the start. -/
structure World where
  engine : Engine
  config : LiveConfig
  conditions : Pass → Condition := fun _ => {}
  now : Nat := 0
  state : State := {}
  timers : List Timer := []
  progress : List Progress := []

namespace World

/-- Put a timer behind those that are due not later. -/
def insertTimer (t : Timer) : List Timer → List Timer
  | [] => [t]
  | u :: rest => if u.instant ≤ t.instant then u :: insertTimer t rest else t :: u :: rest

/-- Something will be due after a while. -/
def schedule (w : World) (delay : Nat) (due : Due) : World :=
  { w with timers := insertTimer ⟨w.now + delay, due⟩ w.timers }

/-- Let something happen to the machine. -/
def happen (w : World) (e : Event) : World := { w with state := w.state.step e }

def call (w : World) (session : String) (code : List Char) (dialect : String) : World :=
  let number := w.state.calls
  (w.happen (.call session code dialect)).schedule (w.config.debounce * millisecond) (.wake number)

/-- What the passes of a cycle have yielded so far. -/
def progress? (w : World) (cycle : Nat) : Option Progress := w.progress.find? (·.cycle == cycle)

/-- Change what the passes of a cycle have yielded. -/
def amend (w : World) (cycle : Nat) (f : Progress → Progress) : World :=
  { w with progress := w.progress.map fun p => if p.cycle = cycle then f p else p }

def finish (w : World) (cycle : Nat) (yield : Option Yield) : World :=
  { w.happen (.finish cycle yield) with progress := w.progress.filter (·.cycle != cycle) }

/-- End a cycle if both of its passes have yielded something. -/
def settle (w : World) (cycle : Nat) : World :=
  match w.progress? cycle with
  | some ⟨_, some found, some violations⟩ => w.finish cycle (some ⟨found, violations⟩)
  | _ => w

/-- A cycle wakes and starts the passes that are switched on. -/
def wake (w : World) (cycle : Nat) : World :=
  match w.state.cycle? cycle with
  | none => w
  | some _ =>
    let start : Progress := ⟨cycle, if w.config.validation then none else some [],
      if w.config.bestPractices then none else some []⟩
    let w := { w.happen (.wake cycle) with progress := w.progress ++ [start] }
    let w :=
      if w.config.validation then w.schedule (w.conditions .validate).delay (.validate cycle) else w
    let w :=
      if w.config.bestPractices then w.schedule (w.conditions .rules).delay (.enforce cycle) else w
    w.settle cycle

/-- The validators' pass of a cycle does its work. -/
def validate (w : World) (cycle : Nat) : World :=
  match w.state.cycle? cycle with
  | none => w
  | some c =>
    if (w.conditions .validate).broken then w.finish cycle none
    else match w.engine.diagnose c.dialect c.code with
      | .ok found => (w.amend cycle fun p => { p with found := some found }).settle cycle
      | .error _ => w.finish cycle none

/-- The rules' pass of a cycle does its work. -/
def enforce (w : World) (cycle : Nat) : World :=
  match w.state.cycle? cycle with
  | none => w
  | some c =>
    if (w.conditions .rules).broken then w.finish cycle none
    else match w.engine.enforce c.dialect c.code with
      | .ok violations =>
        (w.amend cycle fun p => { p with violations := some violations }).settle cycle
      | .error _ => w.finish cycle none

def fire (w : World) : Due → World
  | .wake cycle => w.wake cycle
  | .validate cycle => w.validate cycle
  | .enforce cycle => w.enforce cycle

/-- The next timer goes off, if it is due by the deadline. -/
def tick? (w : World) (deadline : Option Nat) : Option World :=
  match w.timers with
  | [] => none
  | t :: rest =>
    if deadline.all (t.instant ≤ ·) then
      some ({ w with now := max w.now t.instant, timers := rest }.fire t.due)
    else none

/-- Timers go off until the deadline, at most as many as the bound says. -/
def runBy : Nat → Nat → World → World
  | 0, _, w => w
  | n + 1, deadline, w =>
    match w.tick? (some deadline) with
    | some w => runBy n deadline w
    | none => w

/-- A waking cycle sets at most two timers, so that no more than this many go off. -/
def bound (w : World) : Nat := 3 * w.timers.length

/-- Everything that is due by an instant happens. -/
def runUntil (w : World) (instant : Nat) : World :=
  { runBy w.bound instant w with now := max w.now instant }

/-- Let time pass. -/
def advance (w : World) (duration : Nat) : World := w.runUntil (w.now + duration)

/-- Timers go off until the condition holds, at most as many as the bound says. -/
def runWhile (condition : World → Bool) : Nat → World → World
  | 0, w => w
  | n + 1, w =>
    if condition w then
      match w.tick? none with
      | some w => runWhile condition n w
      | none => w
    else w

/-- Let time pass as long as the condition holds, and then everything happen that is due. -/
def awaitWhile (w : World) (condition : World → Bool) : World :=
  let w := runWhile condition w.bound w
  w.runUntil w.now

def clear (w : World) (session : String) : World := w.happen (.clear session)

/-- Close every session and wait for the passes that are under way. -/
def shutdown (w : World) : World :=
  let awaited := w.state.inFlight
  (w.happen .shutdown).awaitWhile fun w => awaited.any fun n => (w.state.cycle? n).isSome

def adjust (w : World) (pass : Pass) (f : Condition → Condition) : World :=
  { w with conditions := fun p => if p = pass then f (w.conditions p) else w.conditions p }

/-- What a pass at once yields: a failure other than an unknown dialect yields nothing. -/
def orNothing {α : Type} (broken : Bool) (nothing : α) (result : Except AnalysisError α) :
    Except AnalysisError α :=
  if broken then .ok nothing
  else match result with
    | .error (.unsupportedCapability _) => .ok nothing
    | r => r

/-- The findings of a source, at once. -/
def diagnoseNow (w : World) (dialect : String) (code : List Char) :
    World × Except AnalysisError (List Finding) :=
  if !w.config.validation then (w, .ok [])
  else
    let w := w.advance (w.conditions .validate).delay
    (w, orNothing (w.conditions .validate).broken [] (w.engine.diagnose dialect code))

/-- The violations of a source, at once. -/
def enforceNow (w : World) (dialect : String) (code : List Char) :
    World × Except AnalysisError (List Violation) :=
  if !w.config.bestPractices then (w, .ok [])
  else
    let w := w.advance (w.conditions .rules).delay
    (w, orNothing (w.conditions .rules).broken [] (w.engine.enforce dialect code))

def slowAdvice (nanos : Nat) : List Recommendation :=
  if 1000 * millisecond < nanos then
    [{ kind := .optimization
       message := "Analysis took " ++ toString (Decimal.roundDiv nanos millisecond) ++
         "ms; break the code into smaller units"
       impact := .medium }]
  else []

/-- The figures of a source, at once. -/
def measureNow (w : World) (dialect : String) (code : List Char) :
    World × Except AnalysisError Metrics :=
  if !w.config.metrics then (w, .ok {})
  else
    let delay := (w.conditions .metrics).delay
    let w := w.advance delay
    let broken := (w.conditions .metrics).broken
    let advice := if broken then [] else slowAdvice delay
    let result := orNothing broken {} (w.engine.measure dialect code)
    (w, result.map fun m => { m with recommendations := m.recommendations ++ advice })

end World

end CampaignCheck.Live

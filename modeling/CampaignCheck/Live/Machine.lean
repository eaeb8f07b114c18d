import CampaignCheck.Live.Result

/-!
Live sessions. A call arms a cycle that sleeps until there is a pause; another call in the meantime
replaces it, and the callers of both wait for the new one. A cycle that wakes takes the callers that
wait in its session, is never replaced from then on, and answers them when its pass has ended. The
result of a pass is kept unless that of a later one is there already or the session was cleared.

Time plays no part here: the machine says what may happen, the clock says when.
-/

namespace CampaignCheck.Live

/-- An editor session. Its place in the list of sessions tells it from others of the same name. -/
structure Session where
  name : String
  isOpen : Bool
  pending : Option Nat
  waiting : List Nat
  last : Option LiveResult
  issued : Nat
  cached : Nat
deriving DecidableEq, Repr, Inhabited

/-- A cycle, numbered like the call that armed it: asleep, or analysing for the callers it took. -/
structure Cycle where
  number : Nat
  session : Nat
  code : List Char
  dialect : String
  sequence : Nat
  taken : Option (List Nat)
deriving DecidableEq, Repr, Inhabited

/-- The answer to a call. -/
structure Answer where
  call : Nat
  result : LiveResult
deriving DecidableEq, Repr, Inhabited

/-- All sessions, open and cleared, the cycles that are not over, and the answers given. -/
structure State where
  sessions : List Session := []
  cycles : List Cycle := []
  answers : List Answer := []
  calls : Nat := 0
deriving DecidableEq, Repr, Inhabited

/-- What a pass has found. -/
structure Yield where
  found : List Finding
  violations : List Violation
deriving DecidableEq, Repr, Inhabited

/-- Something that happens to the machine. A pass that ends without a yield has failed. -/
inductive Event where
  | call (session : String) (code : List Char) (dialect : String)
  | wake (cycle : Nat)
  | finish (cycle : Nat) (yield : Option Yield)
  | clear (session : String)
  | shutdown
deriving DecidableEq, Repr, Inhabited

namespace Session

def fresh (name : String) : Session := ⟨name, true, none, [], none, 0, 0⟩

/-- The session after a call: the newest cycle is the pending one. -/
def afterCall (s : Session) (call : Nat) : Session :=
  { s with pending := some call, waiting := s.waiting ++ [call], issued := s.issued + 1 }

/-- The session after a cycle has taken the callers that wait. -/
def afterWake (s : Session) (cycle : Nat) : Session :=
  { s with waiting := [], pending := s.pending.filter (· != cycle) }

def closed (s : Session) : Session := { s with isOpen := false, pending := none, waiting := [] }

/-- The session after a pass has succeeded: the result is kept unless a later one is there. -/
def keep (s : Session) (r : LiveResult) (sequence : Nat) : Session :=
  if s.isOpen && !(sequence < s.cached) then { s with last := some r, cached := sequence } else s

end Session

namespace State

def find? (s : State) (name : String) : Option Nat :=
  s.sessions.findIdx? fun x => x.isOpen && x.name == name

def session? (s : State) (name : String) : Option Session :=
  s.sessions.find? fun x => x.isOpen && x.name == name

/-- The result that an open session holds. -/
def result? (s : State) (name : String) : Option LiveResult := (s.session? name).bind (·.last)

/-- The names of the open sessions in alphabetical order. -/
def names (s : State) : List String :=
  ((s.sessions.filter (·.isOpen)).map (·.name)).mergeSort fun a b => decide (a ≤ b)

def cycle? (s : State) (number : Nat) : Option Cycle := s.cycles.find? (·.number == number)

def withoutPending (cycles : List Cycle) (x : Session) : List Cycle :=
  cycles.filter fun c => some c.number != x.pending

/-- The state with an open session of the name, and its place. -/
def ensure (s : State) (name : String) : State × Nat :=
  match s.find? name with
  | some i => (s, i)
  | none => ({ s with sessions := s.sessions ++ [.fresh name] }, s.sessions.length)

/-- A new call: it replaces the pending cycle of its session. -/
def call (s : State) (name : String) (code : List Char) (dialect : String) : State :=
  let (s, i) := s.ensure name
  match s.sessions[i]? with
  | none => s
  | some x =>
    let after := x.afterCall s.calls
    { s with
      sessions := s.sessions.set i after
      cycles := withoutPending s.cycles x ++ [⟨s.calls, i, code, dialect, after.issued, none⟩]
      calls := s.calls + 1 }

/-- A sleeping cycle wakes and takes the callers that wait in its session. -/
def wake (s : State) (number : Nat) : State :=
  match s.cycle? number with
  | none => s
  | some c =>
    match c.taken, s.sessions[c.session]? with
    | none, some x =>
      { s with
        sessions := s.sessions.set c.session (x.afterWake number)
        cycles := s.cycles.map fun d =>
          if d.number = number then { d with taken := some x.waiting } else d }
    | _, _ => s

/-- The result of a pass: what it found, or what the session held before, or nothing. -/
def outcome (c : Cycle) (x : Session) : Option Yield → LiveResult
  | some y => LiveResult.merge y.found y.violations c.sequence
  | none => x.last.getD (.empty c.sequence)

/-- The pass of a cycle ends and its callers are answered. -/
def finish (s : State) (number : Nat) (yield : Option Yield) : State :=
  match s.cycle? number with
  | none => s
  | some c =>
    match c.taken, s.sessions[c.session]? with
    | some callers, some x =>
      let result := outcome c x yield
      { s with
        sessions :=
          if yield.isSome then s.sessions.set c.session (x.keep result c.sequence) else s.sessions
        cycles := s.cycles.filter (·.number != number)
        answers := s.answers ++ callers.map fun n => ⟨n, result⟩ }
    | _, _ => s

/-- Close the session at a place: its pending cycle ends, and the callers that wait get nothing. -/
def close (s : State) (i : Nat) : State :=
  match s.sessions[i]? with
  | none => s
  | some x =>
    { s with
      sessions := s.sessions.set i x.closed
      cycles := withoutPending s.cycles x
      answers := s.answers ++ x.waiting.map fun n => ⟨n, .empty 0⟩ }

/-- Clear the open session with a name. -/
def clear (s : State) (name : String) : State :=
  match s.find? name with
  | some i => s.close i
  | none => s

def shutdown (s : State) : State :=
  (List.range s.sessions.length).foldl
    (fun t i => if (s.sessions[i]?.map (·.isOpen)).getD false then t.close i else t) s

def step (s : State) : Event → State
  | .call name code dialect => s.call name code dialect
  | .wake cycle => s.wake cycle
  | .finish cycle yield => s.finish cycle yield
  | .clear name => s.clear name
  | .shutdown => s.shutdown

def inFlight (s : State) : List Nat :=
  (s.cycles.filter fun c =>
    c.taken.isSome && ((s.sessions[c.session]?.map (·.isOpen)).getD false)).map (·.number)

end State

end CampaignCheck.Live

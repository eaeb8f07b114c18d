import CampaignCheck.Rules.Build

namespace CampaignCheck

/-- What a table is given: a rule, or data that may describe one. -/
inductive RuleEntry where
  | rule (r : Rule)
  | data (v : Value)
deriving Repr, Inhabited

def RuleEntry.read : RuleEntry → Except BuildError Rule
  | rule r => .ok r
  | data v => Rule.build v

namespace RuleTable

/-- Add the rule that is meant; what is no rule leaves the table as it is. -/
def accept (t : RuleTable) (e : RuleEntry) : RuleTable × Except BuildError Rule :=
  match e.read with
  | .ok r => (t.add r, .ok r)
  | .error err => (t, .error err)

/-- Remove the rule with a name and tell whether there was one. -/
def discard (t : RuleTable) (id : String) : RuleTable × Bool := (t.remove id, t.contains id)

def copy (t : RuleTable) : RuleTable := ofList t.rules

end RuleTable

abbrev RuleShelf := List RuleTable

namespace RuleShelf

/-- What is done with the table of a number. -/
inductive Act where
  | add (i : Nat) (e : RuleEntry)
  | remove (i : Nat) (id : String)
  | get (i : Nat) (id : String)
  | list (i : Nat)
  | listFor (i : Nat) (d : Dialect)
  | copy (i : Nat)
deriving Repr, Inhabited

/-- What comes back. -/
inductive Reply where
  | added (r : Rule)
  | refused (e : BuildError)
  | removed (there : Bool)
  | found (r : Option Rule)
  | rules (rs : List Rule)
  | table (i : Nat)
  | noTable
deriving Repr, Inhabited

def Act.table : Act → Nat
  | add i _ | remove i _ | get i _ | list i | listFor i _ | copy i => i

/-- What is done may change the table with this number. -/
def Act.changes (i : Nat) : Act → Bool
  | add j _ | remove j _ => i == j
  | _ => false

/-- Do something with a table. A copy gets the next number. -/
def act (s : RuleShelf) (t : RuleTable) : Act → RuleShelf × Reply
  | .add i e =>
    match t.accept e with
    | (t', .ok r) => (s.set i t', .added r)
    | (t', .error err) => (s.set i t', .refused err)
  | .remove i id => (s.set i (t.discard id).1, .removed (t.discard id).2)
  | .get _ id => (s, .found (t.get? id))
  | .list _ => (s, .rules t.rules)
  | .listFor _ d => (s, .rules (t.forDialect d))
  | .copy _ => (s ++ [t.copy], .table s.length)

/-- Do something with the table of a number, if there is one. -/
def step (s : RuleShelf) (a : Act) : RuleShelf × Reply :=
  match s[a.table]? with
  | some t => s.act t a
  | none => (s, .noTable)

/-- The tables after some acts, of which there is one without rules in the beginning. -/
def after (acts : List Act) : RuleShelf := acts.foldl (fun s a => (s.step a).1) [{}]

end RuleShelf

end CampaignCheck

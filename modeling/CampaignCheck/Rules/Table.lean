import CampaignCheck.Rules.Rule

namespace CampaignCheck

/-- Rules in the order of first arrival. -/
structure RuleTable where
  rules : List Rule := []
deriving DecidableEq, Repr, Inhabited

namespace RuleTable

/-- Put a rule in the place of the one with the same name, or at the end. -/
def insert (r : Rule) : List Rule → List Rule
  | [] => [r]
  | s :: rest => if s.id = r.id then r :: rest else s :: insert r rest

/-- Add a rule or replace the one with the same name. -/
def add (t : RuleTable) (r : Rule) : RuleTable := ⟨insert r t.rules⟩

def ofList (rs : List Rule) : RuleTable := rs.foldl add {}

def get? (t : RuleTable) (id : String) : Option Rule := t.rules.find? (·.id == id)

def contains (t : RuleTable) (id : String) : Bool := (t.get? id).isSome

def remove (t : RuleTable) (id : String) : RuleTable := ⟨t.rules.filter (·.id != id)⟩

def size (t : RuleTable) : Nat := t.rules.length

def ids (t : RuleTable) : List String := t.rules.map (·.id)

def forDialect (t : RuleTable) (d : Dialect) : List Rule := t.rules.filter (·.appliesTo d)

end RuleTable

namespace Enforce

/-- The matches of a scan up to the first one with a twisted group, and whether there is none. -/
def untwisted (ms : List Match) : List Match × Bool :=
  let (good, rest) := ms.span (!·.isTwisted)
  (good, rest.isEmpty)

/-- Where matches start that hold at least one character. -/
def starts (ms : List Match) : List Nat :=
  (ms.filter fun m => decide (m.start < m.stop)).map (·.start)

/-- Where a pattern matches in single lines, counted from `number` on, and whether the scan went on
to the end: it stops at a match with a twisted group. -/
def inLines (p : Pattern) : Nat → List (List Char) → List Text.Position × Bool
  | _, [] => ([], true)
  | number, line :: rest =>
    let (ms, whole) := untwisted (p.findAll line)
    let here := (starts ms).map fun start => ⟨number, start⟩
    if whole then
      let (more, whole) := inLines p (number + 1) rest
      (here ++ more, whole)
    else (here, false)

def inText (p : Pattern) (text : List Char) : List Text.Position :=
  (starts (untwisted (p.findAll text)).1).map (Text.positionAt text)

def places (r : Rule) (lines : List (List Char)) : List Text.Position :=
  match r.compiled? with
  | none => []
  | some p =>
    let (found, whole) := inLines p 1 lines
    found ++ (if whole && r.scope = .text then inText p (Text.unlines lines) else [])

/-- Every violation of the rules of a table in a source of the dialect. -/
def violations (t : RuleTable) (d : Dialect) (code : List Char) : List Violation :=
  if code.isEmpty then []
  else
    let lines := Text.lines code
    let found := (t.forDialect d).flatMap fun r => (places r lines).map (Violation.ofRule r)
    (firstByKey (·.key) [] found).mergeSort fun v w => v.toFinding.notAfter w.toFinding

end Enforce

end CampaignCheck

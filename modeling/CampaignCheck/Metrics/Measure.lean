import CampaignCheck.Metrics.Basic
import CampaignCheck.Metrics.Profile

namespace CampaignCheck.Metrics

def sumOf {α : Type} (f : α → Nat) : List α → Nat
  | [] => 0
  | a :: as => f a + sumOf f as

/-- How often the patterns match in a line. -/
def countIn (ps : List Pattern) (l : Line) : Nat := sumOf (·.count l.masked) ps

def total (ps : List Pattern) (ls : List Line) : Nat := sumOf (countIn ps) ls

def firstLine? (ps : List Pattern) (ls : List Line) : Option Nat :=
  (ls.find? fun l => countIn ps l ≠ 0).map (·.number)

def decisionsIn (p : Profile) (l : Line) : List Match := p.decisions.flatMap (·.findAll l.masked)

/-- Add the decisions and operators of a line: a decision counts once, and once more per level. -/
def addLine (p : Profile) (blocks : BlockMap) (c : Complexity) (l : Line) : Complexity :=
  let decisions := decisionsIn p l
  let operators := countIn p.operators l
  { c with
    cyclomatic := c.cyclomatic + decisions.length + operators
    cognitive := c.cognitive + sumOf (fun m => 1 + blocks.nestingAt l.number m.start) decisions +
      operators }

/-- The complexity of masked lines; `lines` of the source have code. -/
def complexityOf (p : Profile) (blocks : BlockMap) (ls : List Line) (lines : Nat) : Complexity :=
  ls.foldl (addLine p blocks) { nesting := blocks.maxNesting, lines := lines }

def bytesOf (p : Profile) (bindings concatenations listOperations : Nat) : Float :=
  Float.ofNat (1024 + 64 * bindings + 256 * concatenations + 512 * listOperations) * p.memoryFactor

def millisOf (p : Profile) (c : Complexity) (loops calls : Nat) : Float :=
  p.millisPerLine * Float.ofNat c.lines *
    (1.0 + 0.1 * Float.ofNat c.cyclomatic + 0.15 * Float.ofNat c.nesting) *
    (1.0 + 0.3 * Float.ofNat loops) *
    (1.0 + 0.5 * Float.ofNat calls) +
    p.millisPerCall * Float.ofNat calls

def hundredths (x : Float) : Nat := (Decimal.inUnits? x 2).getD 0

/-- Where recommendations point to. -/
structure Places where
  deepest : Option Nat
  firstCall : Option Nat
  firstConcatenation : Option Nat
deriving DecidableEq, Repr, Inhabited

def adviseIf (condition : Bool) (r : Recommendation) : List Recommendation :=
  if condition then [r] else []

/-- What to do about the figures that are too high. -/
def recommend (m : Metrics) (places : Places) : List Recommendation :=
  adviseIf (10 < m.complexity.cyclomatic) {
    kind := .refactoring
    message := s!"Cyclomatic complexity is {m.complexity.cyclomatic}; " ++
      "split the logic into smaller blocks"
    impact := .high } ++
  adviseIf (4 < m.complexity.nesting) {
    kind := .refactoring
    message := s!"Nesting depth is {m.complexity.nesting}; " ++
      "extract the inner blocks into functions"
    impact := .medium
    line := places.deepest } ++
  adviseIf (10 < m.memory.concatenations) {
    kind := .optimization
    message := s!"{m.memory.concatenations} string concatenations; use a builder or a template"
    impact := .medium
    line := places.firstConcatenation } ++
  adviseIf (10 * 1024 * 100 < m.memory.byteHundredths) {
    kind := .optimization
    message := "Estimated memory " ++ m.memory.kilobytes ++ " KB; review the data structures in use"
    impact := .medium } ++
  adviseIf (5 < m.calls) {
    kind := .caching
    message := s!"{m.calls} data/API calls; cache results or batch the requests"
    impact := .high
    line := places.firstCall } ++
  adviseIf (5 < m.loops) {
    kind := .optimization
    message := s!"Loop complexity is {m.loops}; reduce nested iteration"
    impact := .high }

def codeLines (d : Dialect) (code : List Char) : Nat :=
  ((MaskedSource.ofCode d code).lines.filter (!·.isBlank)).length

/-- Measure a source. The estimates grow with the number of lines, loops and calls and serve to
compare sources, not to predict their cost. -/
def measure (d : Dialect) (code : List Char) : Metrics :=
  let p := Profile.of d
  let lines := (MaskedSource.ofLines (.of d) (p.view (Text.lines code))).lines
  let blocks := BlockMap.of d lines
  let complexity := complexityOf p blocks lines (codeLines d code)
  let calls := total p.calls lines
  let bindings := total p.bindings lines
  let concatenations := total p.concatenations lines
  let listOperations := total p.listOperations lines
  let loops := sumOf (·.depth) blocks.loops
  let figures : Metrics := {
    complexity := complexity
    memory := {
      byteHundredths := hundredths (bytesOf p bindings concatenations listOperations)
      bindings := bindings
      concatenations := concatenations
      listOperations := listOperations }
    milliHundredths := hundredths (millisOf p complexity loops calls)
    calls := calls
    loops := loops }
  let spots : Places :=
    ⟨blocks.deepestLine?, firstLine? p.calls lines, firstLine? p.concatenations lines⟩
  { figures with recommendations := recommend figures spots }

/-- The figures of a source; a blank one has those of a single path without lines. -/
def of (d : Dialect) (code : List Char) : Metrics :=
  if Text.allBlank code then {} else measure d code

end CampaignCheck.Metrics

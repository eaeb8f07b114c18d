import CampaignCheck.Lexical.Mask
import CampaignCheck.Pattern.Search

namespace CampaignCheck

/-- Openers and closers pair up within a family only. -/
inductive BlockFamily where
  | brace
  | keyword
  | paren
  | bodyless
deriving DecidableEq, Repr, Inhabited

def BlockFamily.name : BlockFamily → String
  | brace => "brace"
  | keyword => "keyword"
  | paren => "paren"
  | bodyless => "bodyless"

/-- What a structural token does. -/
inductive BlockAction where
  | opens
  | opensLoop
  | closes
  | announcesLoop
deriving DecidableEq, Repr, Inhabited

/-- A kind of structural token. -/
structure BlockToken where
  pattern : Pattern
  action : BlockAction
  family : BlockFamily
  /-- Frames opened by the token count as nesting. -/
  counted : Bool
  /-- The token turns an announced loop into a loop frame. -/
  takesHeader : Bool
  /-- A closer that ends only frames with this opening word, given in upper case. -/
  partner : Option String

/-- The structural tokens of a dialect, those that win at a shared start first. -/
structure BlockGrammar where
  tokens : List BlockToken
  /-- An announced loop without an opener applies to the next statement. -/
  bodylessLoops : Bool

namespace BlockGrammar

open Pattern

def announce (p : Pattern) (family : BlockFamily) : BlockToken :=
  ⟨p, .announcesLoop, family, true, false, none⟩

def opener (p : Pattern) (family : BlockFamily) (counted takesHeader : Bool) : BlockToken :=
  ⟨p, .opens, family, counted, takesHeader, none⟩

def closer (p : Pattern) (family : BlockFamily) : BlockToken :=
  ⟨p, .closes, family, true, false, none⟩

/-- Curly braces with the loop statements of a script. -/
def script : BlockGrammar where
  tokens := [
    announce (wordEdge ++ lit "while" ++ blanks ++ lit "(" ++
      ahead false (restOfLine ++ lit ")" ++ blanks ++ lit ";" ++ blanks ++ anchor .lastLineEnd))
      .brace,
    announce (wordEdge ++ lit "for" ++ blanks ++ lit "(") .brace,
    announce (wholeWord "do") .brace,
    announce (lit ".forEach" ++ blanks ++ lit "(") .brace,
    opener (lit "\x7b") .brace true true,
    closer (lit "\x7d") .brace]
  bodylessLoops := true

/-- Rule blocks in curly braces. -/
def css : BlockGrammar where
  tokens := [opener (lit "\x7b") .brace true false, closer (lit "\x7d") .brace]
  bodylessLoops := false

/-- Statements that end with a word of their own. -/
def ampscript : BlockGrammar where
  tokens := [
    ⟨wholeWordCaseless "FOR", .opensLoop, .keyword, true, false, none⟩,
    opener (wholeWordCaseless "IF") .keyword true false,
    { closer (wholeWordCaseless "NEXT") .keyword with partner := some "FOR" },
    { closer (wholeWordCaseless "ENDIF") .keyword with partner := some "IF" }]
  bodylessLoops := false

/-- Statement blocks, case expressions and subqueries; other parentheses do not count. -/
def sql : BlockGrammar where
  tokens := [
    announce (wholeWordCaseless "WHILE") .keyword,
    opener (wholeWordCaseless "BEGIN" ++ ahead false (blanks1 ++ caseless "TRAN"))
      .keyword true true,
    opener (wholeWordCaseless "CASE") .keyword true false,
    closer (wholeWordCaseless "END") .keyword,
    opener (lit "(" ++ blanks ++ caseless "SELECT" ++ wordEdge) .paren true false,
    opener (lit "(") .paren false false,
    closer (lit ")") .paren]
  bodylessLoops := true

/-- The structural tokens of a dialect. -/
def of : Dialect → BlockGrammar
  | .ssjs | .javascript => script
  | .css => css
  | .ampscript => ampscript
  | .sql => sql
  | .html => ⟨[], false⟩

end BlockGrammar

/-- An open block or loop. -/
structure Frame where
  isLoop : Bool
  family : BlockFamily
  counted : Bool
  line : Nat
  column : Nat
  token : List Char
deriving DecidableEq, Repr, Inhabited

/-- Nesting level, and number of loops around. -/
structure Depth where
  nesting : Nat
  loops : Nat
deriving DecidableEq, Repr, Inhabited

/-- Where a loop body starts; the outermost has depth one. -/
structure LoopSite where
  line : Nat
  column : Nat
  depth : Nat
deriving DecidableEq, Repr, Inhabited

/-- A closer without anything to close. -/
structure StrayCloser where
  line : Nat
  column : Nat
  token : List Char
deriving DecidableEq, Repr, Inhabited

/-- The depth at the start of a line, and from certain columns on. -/
structure LineDepths where
  number : Nat
  start : Depth
  events : List (Nat × Depth)
deriving DecidableEq, Repr, Inhabited

/-- The blocks of a source. The map tells how deep, and inside how many loops, any place of the
source lies. -/
structure BlockMap where
  lines : List LineDepths
  maxNesting : Nat
  loops : List LoopSite
  unclosed : List Frame
  stray : List StrayCloser
deriving DecidableEq, Repr, Inhabited

namespace BlockMap

/-- The last event at or before a column, up to the first event behind it. -/
def depthFrom (column : Nat) : Depth → List (Nat × Depth) → Depth
  | d, [] => d
  | d, (c, e) :: events => if c ≤ column then depthFrom column e events else d

/-- The depth just before a column of a line. Of several lines of one number the last one counts. -/
def depthAt (m : BlockMap) (line column : Nat) : Depth :=
  match m.lines.reverse.find? (·.number == line) with
  | some l => depthFrom column l.start l.events
  | none => ⟨0, 0⟩

/-- The depth just before a place that may lie outside the source: before the first column of a
line it is that of the line's start, and nothing is around a line that does not exist. -/
def depthAnywhere (m : BlockMap) (line column : Int) : Depth :=
  match m.lines.reverse.find? fun l => (l.number : Int) == line with
  | some l => if column < 0 then l.start else depthFrom column.toNat l.start l.events
  | none => ⟨0, 0⟩

/-- The nesting level just before a column of a line. -/
def nestingAt (m : BlockMap) (line column : Nat) : Nat := (m.depthAt line column).nesting

/-- The number of loops around a column of a line. -/
def loopsAt (m : BlockMap) (line column : Nat) : Nat := (m.depthAt line column).loops

def deepestLine? (m : BlockMap) : Option Nat :=
  if m.maxNesting = 0 then none
  else (m.lines.find? fun l =>
    (l.start.nesting :: l.events.map (·.2.nesting)).any (· == m.maxNesting)).map (·.number)

end BlockMap

namespace Blocks

/-- A structural token in a line. -/
structure Lexeme where
  start : Nat
  stop : Nat
  token : BlockToken
  text : List Char

/-- The tokens of one kind in a line. -/
def lexemesOf (t : BlockToken) (cs : List Char) : List Lexeme :=
  (t.pattern.findAll cs).map fun m => ⟨m.start, m.stop, t, m.text cs⟩

/-- Keep the first of several tokens with the same start. -/
def firstAtStart : List Lexeme → List Lexeme
  | [] => []
  | l :: ls => l :: (firstAtStart ls).filter (·.start != l.start)

/-- The structural tokens of a line from left to right. -/
def lexemes (g : BlockGrammar) (cs : List Char) : List Lexeme :=
  (firstAtStart (g.tokens.flatMap fun t => lexemesOf t cs)).mergeSort fun a b =>
    decide (a.start ≤ b.start)

/-- What is open, innermost first, and what has been found. -/
structure State where
  stack : List Frame
  /-- A loop has been announced and not yet opened. -/
  announced : Bool
  /-- The loop body is the statement of this line. -/
  bodyless : Bool
  map : BlockMap
deriving Inhabited

/-- The depth inside the open frames. -/
def depthOf (stack : List Frame) : Depth :=
  ⟨stack.countP (·.counted), stack.countP (·.isLoop)⟩

def State.reach (s : State) (n : Nat) : State :=
  { s with map := { s.map with maxNesting := max s.map.maxNesting n } }

def State.addLoop (s : State) (l : LoopSite) : State :=
  { s with map := { s.map with loops := s.map.loops ++ [l] } }

/-- Note frames that are never closed. -/
def State.addUnclosed (s : State) (fs : List Frame) : State :=
  { s with map := { s.map with
      unclosed := s.map.unclosed ++ (fs.filter fun f => decide (f.family ≠ .bodyless)) } }

/-- Split the stack at the innermost frame that a closer ends: those inside it, those outside. -/
def splitAt? (t : BlockToken) : List Frame → Option (List Frame × List Frame)
  | [] => none
  | f :: fs =>
    if f.family = t.family &&
        (t.partner.map fun w => Text.upper f.token == w.toList).getD true then
      some ([], fs)
    else (splitAt? t fs).map fun (inner, outer) => (f :: inner, outer)

/-- Read a token: the state after it, and the depth from some column on if it changes. -/
def token (line : Nat) (s : State) (l : Lexeme) : State × Option (Nat × Depth) :=
  let t := l.token
  let enter (loop : Bool) : State × Option (Nat × Depth) :=
    let announced := s.announced && !t.takesHeader
    let stack := ⟨loop, t.family, t.counted, line, l.start, l.text⟩ :: s.stack
    let d := depthOf stack
    let s := { s with stack := stack, announced := announced }
    let s := if loop then s.addLoop ⟨line, l.start, d.loops⟩ else s
    (s.reach d.nesting, some (l.stop, d))
  match t.action with
  | .announcesLoop => ({ s with announced := true }, none)
  | .opens => enter (s.announced && t.takesHeader)
  | .opensLoop => enter true
  | .closes =>
    match splitAt? t s.stack with
    | none =>
      ({ s with map := { s.map with stray := s.map.stray ++ [⟨line, l.start, l.text⟩] } }, none)
    | some (inner, outer) =>
      ({ s.addUnclosed inner.reverse with stack := outer }, some (l.start, depthOf outer))

/-- Read tokens from left to right, collecting the changes of depth. -/
def tokens (line : Nat) : State → List Lexeme → State × List (Nat × Depth)
  | s, [] => (s, [])
  | s, l :: ls =>
    let (s, event) := token line s l
    let (s, events) := tokens line s ls
    (s, event.toList ++ events)

def openBodyless (g : BlockGrammar) (s : State) (l : Line) (ls : List Lexeme) : State :=
  let opensBody := match ls.head? with
    | some x => decide (x.token.action = .opens) && x.token.takesHeader
    | none => false
  if s.announced && g.bodylessLoops && !l.isBlank && !opensBody then
    let stack := ⟨true, .bodyless, true, l.number, 0, []⟩ :: s.stack
    { s.addLoop ⟨l.number, 0, (depthOf stack).loops⟩ with
      stack := stack, bodyless := true, announced := false }
  else s

/-- At the end of a line a body that was one statement ends, and so does a loop with its body on
the line of its header. -/
def endLine (g : BlockGrammar) (s : State) (l : Line) : State :=
  let s := if s.bodyless && !l.isBlank then
      { s with stack := s.stack.filter (fun f => decide (f.family ≠ .bodyless)), bodyless := false }
    else s
  if s.announced && g.bodylessLoops && Text.endsWith (Text.trimRight l.masked) [';'] then
    { s with announced := false }
  else s

def line (g : BlockGrammar) (s : State) (l : Line) : State :=
  let ls := lexemes g l.masked
  let s := openBodyless g s l ls
  let start := depthOf s.stack
  let (s, events) := tokens l.number (s.reach start.nesting) ls
  endLine g { s with map := { s.map with lines := s.map.lines ++ [⟨l.number, start, events⟩] } } l

def initial : State := ⟨[], false, false, ⟨[], 0, [], [], []⟩⟩

def scan (g : BlockGrammar) (ls : List Line) : BlockMap :=
  let s := ls.foldl (line g) initial
  (s.addUnclosed s.stack.reverse).map

end Blocks

/-- The blocks of masked lines of a dialect. -/
def BlockMap.of (d : Dialect) (ls : List Line) : BlockMap := Blocks.scan (.of d) ls

end CampaignCheck

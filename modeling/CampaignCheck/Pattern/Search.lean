import CampaignCheck.Pattern.Matcher
import CampaignCheck.Text.Lines

namespace CampaignCheck

/-- A match: its bounds, and the marks of its groups. -/
structure Match where
  start : Nat
  stop : Nat
  marks : Array (Option Nat)
deriving DecidableEq, Repr, Inhabited

namespace Match

def isEmpty (m : Match) : Bool := m.start == m.stop

/-- The bounds of what was remembered under a number. -/
def bounds? (m : Match) (n : Nat) : Option (Nat × Nat) :=
  Cursor.boundsIn m.marks n

/-- Some group stops before it starts, as a group can whose last marks are from different turns. -/
def isTwisted (m : Match) : Bool :=
  (List.range (m.marks.size / 2)).any fun i =>
    (m.bounds? (i + 1)).any fun b => decide (b.2 < b.1)

/-- Where the text remembered under a number starts; the match's own start if there is none. -/
def startOf (m : Match) (n : Nat) : Nat := ((m.bounds? n).map (·.1)).getD m.start

def text (m : Match) (cs : List Char) : List Char := Text.slice cs m.start m.stop

/-- The characters remembered under a number, if any. -/
def group? (m : Match) (cs : List Char) (n : Nat) : Option (List Char) :=
  (m.bounds? n).map fun b => Text.slice cs b.1 b.2

/-- The characters remembered under a number; none if it was not reached. -/
def group (m : Match) (cs : List Char) (n : Nat) : List Char := (m.group? cs n).getD []

end Match

namespace Pattern

/-- Match at an offset; on request, only with at least one character. -/
def tryAt (p : Pattern) (text : Array Char) (pos : Nat) (nonempty : Bool) : Option Match :=
  let goal : Goal := fun t => if nonempty && t.pos == pos then .error t else .ok t
  match p.run text false [] ⟨pos, pos, #[]⟩ goal with
  | .ok t => some ⟨pos, t.pos, t.marks⟩
  | .error _ => none

/-- Match at one of `n + 1` offsets from `pos`; an empty match may be excluded at the first. -/
def tryFrom (p : Pattern) (text : Array Char) : Nat → Nat → Bool → Option Match
  | 0, pos, nonempty => p.tryAt text pos nonempty
  | n + 1, pos, nonempty =>
    match p.tryAt text pos nonempty with
    | some m => some m
    | none => tryFrom p text n (pos + 1) false

/-- The matches from `pos` on, at most as many as the bound says. -/
def scan (p : Pattern) (text : Array Char) : Nat → Nat → Bool → List Match
  | 0, _, _ => []
  | bound + 1, pos, nonempty =>
    match p.tryFrom text (text.size - pos) pos nonempty with
    | some m => m :: scan p text bound m.stop m.isEmpty
    | none => []

/-- Every match of a scan; each place has at most one empty and one other match. -/
def findAll (p : Pattern) (cs : List Char) : List Match :=
  let text := cs.toArray
  p.scan text (2 * text.size + 2) 0 false

/-- The leftmost match at or after an offset. -/
def findFrom? (p : Pattern) (cs : List Char) (start : Nat) : Option Match :=
  let text := cs.toArray
  if start ≤ text.size then p.tryFrom text (text.size - start) start false else none

def find? (p : Pattern) (cs : List Char) : Option Match := p.findFrom? cs 0

def matchAt? (p : Pattern) (cs : List Char) (start : Nat) : Option Match :=
  if start ≤ cs.length then p.tryAt cs.toArray start false else none

def matchStart? (p : Pattern) (cs : List Char) : Option Match := p.matchAt? cs 0

def matchesAll (p : Pattern) (cs : List Char) : Bool :=
  ((p ++ anchor .textEnd).matchStart? cs).isSome

/-- Some part of the text matches. -/
def occursIn (p : Pattern) (cs : List Char) : Bool := (p.find? cs).isSome

/-- The number of matches of a scan. -/
def count (p : Pattern) (cs : List Char) : Nat := (p.findAll cs).length

/-- The text from `pos` on with the matches given replaced. -/
def spliceFrom (cs : List Char) (f : Match → List Char) : Nat → List Match → List Char
  | pos, [] => cs.drop pos
  | pos, m :: ms => Text.slice cs pos m.start ++ f m ++ spliceFrom cs f m.stop ms

/-- The text with every match of a scan replaced. -/
def replaceAll (p : Pattern) (f : Match → List Char) (cs : List Char) : List Char :=
  spliceFrom cs f 0 (p.findAll cs)

/-- The pieces of the text from `pos` on between the matches given. -/
def piecesFrom (cs : List Char) : Nat → List Match → List (List Char)
  | pos, [] => [cs.drop pos]
  | pos, m :: ms => Text.slice cs pos m.start :: piecesFrom cs m.stop ms

/-- The pieces of the text between the matches of a scan. -/
def split (p : Pattern) (cs : List Char) : List (List Char) := piecesFrom cs 0 (p.findAll cs)

end Pattern

end CampaignCheck

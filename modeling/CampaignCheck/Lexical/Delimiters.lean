import CampaignCheck.Lexical.Mask

namespace CampaignCheck

/-- An opening and a closing delimiter. -/
structure Pair where
  opener : Char
  closer : Char
deriving DecidableEq, Repr, Inhabited

/-- What is wrong with a delimiter. -/
inductive ImbalanceKind where
  | unclosed
  | unexpected
deriving DecidableEq, Repr, Inhabited

def ImbalanceKind.name : ImbalanceKind → String
  | unclosed => "unclosed"
  | unexpected => "unexpected"

/-- A delimiter without a partner. -/
structure Imbalance where
  line : Nat
  column : Nat
  char : Char
  kind : ImbalanceKind
deriving DecidableEq, Repr, Inhabited

namespace Delimiters

/-- Round, curly and square brackets. -/
def brackets : List Pair := [⟨'(', ')'⟩, ⟨'{', '}'⟩, ⟨'[', ']'⟩]

/-- Add a pair; it takes the place of an earlier one with the same opener. -/
def addPair (p : Pair) : List Pair → List Pair
  | [] => [p]
  | q :: qs => if q.opener = p.opener then p :: qs else q :: addPair p qs

/-- Add the pairs written as a text: opener, closer, opener, closer, ... An opener at the end has no
closer, so such a text names no pairs. -/
def addPairs (ps : List Pair) : List Char → Option (List Pair)
  | [] => some ps
  | [_] => none
  | a :: b :: cs => addPairs (addPair ⟨a, b⟩ ps) cs

def pairs? (cs : List Char) : Option (List Pair) := addPairs [] cs

def opens (ps : List Pair) (c : Char) : Bool := ps.any (·.opener == c)

/-- The opener that a closer ends; of several, the last. -/
def openerOf? (ps : List Pair) (c : Char) : Option Char :=
  (ps.reverse.find? (·.closer == c)).map (·.opener)

/-- A delimiter that has been opened. -/
structure Opened where
  char : Char
  line : Nat
  column : Nat
deriving DecidableEq, Repr, Inhabited

def Opened.unclosed (o : Opened) : Imbalance := ⟨o.line, o.column, o.char, .unclosed⟩

/-- Open delimiters, innermost first, and what has been found. -/
structure State where
  stack : List Opened
  found : List Imbalance
deriving DecidableEq, Repr, Inhabited

/-- Split a stack at its innermost open delimiter of a kind: those inside it, those outside it. -/
def splitAt? (c : Char) : List Opened → Option (List Opened × List Opened)
  | [] => none
  | o :: os =>
    if o.char = c then some ([], os)
    else (splitAt? c os).map fun (inner, outer) => (o :: inner, outer)

def step (ps : List Pair) (s : State) (line column : Nat) (c : Char) : State :=
  if opens ps c then { s with stack := ⟨c, line, column⟩ :: s.stack }
  else match openerOf? ps c with
    | none => s
    | some opener =>
      match splitAt? opener s.stack with
      | none => { s with found := s.found ++ [⟨line, column, c, .unexpected⟩] }
      | some (inner, outer) => ⟨outer, s.found ++ inner.reverse.map Opened.unclosed⟩

/-- Read the characters of a line from a column on. -/
def chars (ps : List Pair) (line : Nat) : Nat → State → List Char → State
  | _, s, [] => s
  | column, s, c :: cs => chars ps line (column + 1) (step ps s line column c) cs

/-- Earlier in the source, or at the same place. -/
def before (a b : Imbalance) : Bool :=
  decide (a.line < b.line) || (a.line == b.line && decide (a.column ≤ b.column))

/-- The delimiters without a partner, in the order of the source. A closer ends the innermost open
delimiter of its kind; whatever was opened after that one stays unclosed, and a closer with nothing
to end is unexpected. -/
def imbalances (ps : List Pair) (ls : List Line) : List Imbalance :=
  let s := ls.foldl (fun s l => chars ps l.number 0 s l.masked) ⟨[], []⟩
  (s.found ++ s.stack.reverse.map Opened.unclosed).mergeSort before

end Delimiters

end CampaignCheck

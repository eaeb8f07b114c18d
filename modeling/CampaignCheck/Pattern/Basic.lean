import CampaignCheck.Pattern.CharSet

namespace CampaignCheck

/-- A condition on a place between characters. -/
inductive Anchor where
  | textStart
  | textEnd
  | lineStart
  | lineEnd
  | lastLineEnd
  | wordEdge
  | notWordEdge
  /-- A word edge when only plain Latin letters, plain digits and the underscore make words. -/
  | plainWordEdge
  | notPlainWordEdge
deriving DecidableEq, Repr, Inhabited

/-- Which number of repetitions is tried first. A possessive repetition takes as many as it can and
never gives one back. -/
inductive Greed where
  | most
  | fewest
  | possessive
deriving DecidableEq, Repr, Inhabited

/-- Which characters count as the same. -/
inductive Likeness where
  | exact
  | anyCase
  | plainCase
deriving DecidableEq, Repr, Inhabited

/-- A search pattern. It is matched by backtracking: of several ways to match, the first in order of
preference counts, so the order of alternatives and the greed of repetitions matter. -/
inductive Pattern where
  /-- The empty text. -/
  | empty
  /-- One character of a set. -/
  | one (s : CharSet)
  /-- A condition on the place. -/
  | anchor (a : Anchor)
  /-- One pattern after the other. -/
  | seq (p q : Pattern)
  /-- The first pattern, or else the second. -/
  | alt (p q : Pattern)
  /-- The pattern from `least` to `limit` times; without a limit, any number of times. -/
  | repeated (p : Pattern) (least : Nat) (limit : Option Nat) (greed : Greed)
  /-- The pattern; what it matched is remembered under a number. -/
  | capture (n : Nat) (p : Pattern)
  /-- A text like the one remembered under a number. -/
  | backreference (n : Nat) (likeness : Likeness)
  /-- The pattern matches from here on, or does not; nothing is consumed. -/
  | ahead (holds : Bool) (p : Pattern)
  /-- The pattern matches the `width` characters before, or does not; nothing is consumed. -/
  | behind (holds : Bool) (width : Nat) (p : Pattern)
  /-- The pattern's first match, with no second attempt. -/
  | atomic (p : Pattern)
  /-- The first pattern if the number has been remembered, the second if not. -/
  | ifCaptured (n : Nat) (p q : Pattern)
deriving Inhabited

namespace Pattern

instance : Append Pattern := ⟨seq⟩

instance : OrOp Pattern := ⟨alt⟩

def inOrder : List Pattern → Pattern
  | [] => empty
  | [p] => p
  | p :: ps => seq p (inOrder ps)

def oneOf : List Pattern → Pattern
  | [] => one .none
  | [p] => p
  | p :: ps => alt p (oneOf ps)

def isChoice : Pattern → Bool
  | alt _ _ => true
  | _ => false

def lit (s : String) : Pattern := inOrder (s.toList.map fun c => one (.char c))

def caseless (s : String) : Pattern := inOrder (s.toList.map fun c => one (.anyCase c))

/-- The first string that matches, exactly. -/
def litOf (ss : List String) : Pattern := oneOf (ss.map lit)

/-- The first string that matches, in any case. -/
def caselessOf (ss : List String) : Pattern := oneOf (ss.map caseless)

/-- Any number of times, as often as possible. -/
def many (p : Pattern) : Pattern := repeated p 0 none .most

/-- Once or more, as often as possible. -/
def many1 (p : Pattern) : Pattern := repeated p 1 none .most

/-- Any number of times, as seldom as possible. -/
def manyFewest (p : Pattern) : Pattern := repeated p 0 none .fewest

def opt (p : Pattern) : Pattern := repeated p 0 (some 1) .most

def blanks : Pattern := many (one .blank)

def blanks1 : Pattern := many1 (one .blank)

def wordChars : Pattern := many (one .word)

def wordChars1 : Pattern := many1 (one .word)

/-- A place where a word starts or ends. -/
def wordEdge : Pattern := anchor .wordEdge

def wholeWord (s : String) : Pattern := wordEdge ++ lit s ++ wordEdge

def wholeWordCaseless (s : String) : Pattern := wordEdge ++ caseless s ++ wordEdge

def restOfLine : Pattern := many (one .inLine)

end Pattern

end CampaignCheck

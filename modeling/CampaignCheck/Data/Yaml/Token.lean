import CampaignCheck.Data.Misuse

namespace CampaignCheck.Yaml

/-- A character that ends a line. -/
def isBreak (c : Char) : Bool := c == '\n' || c == '\u0085' || c == '\u2028' || c == '\u2029'

def isGap (c : Char) : Bool := c == ' ' || c == '\t'

def endsLine (c : Option Char) : Bool := (c.map isBreak).getD true

def endsField (c : Option Char) : Bool := endsLine c || c == some ' '

/-- A blank, a tab, or the end of the line. -/
def endsWord (c : Option Char) : Bool := endsLine c || (c.map isGap).getD true

/-- A place: the characters to come, how many were passed, and the line and column reached. -/
structure Place where
  rest : List Char
  index : Nat := 0
  line : Nat := 0
  column : Nat := 0
deriving DecidableEq, Repr, Inhabited

namespace Place

def next (p : Place) : Option Char := p.rest.head?

/-- The character `k` places on. -/
def peek (p : Place) (k : Nat) : Option Char := p.rest[k]?

/-- Pass one character. A byte-order mark takes no column. -/
def step (p : Place) : Place :=
  match p.rest with
  | [] => p
  | c :: rest =>
    let column := if isBreak c then 0 else if c == '\uFEFF' then p.column else p.column + 1
    { rest := rest, index := p.index + 1, line := if isBreak c then p.line + 1 else p.line,
      column := column }

def advance (p : Place) : Nat → Place
  | 0 => p
  | n + 1 => p.step.advance n

/-- The characters to come that satisfy a condition, and the place behind them. -/
def takeWhile (p : Place) (f : Char → Bool) : List Char × Place :=
  let cs := p.rest.takeWhile f
  (cs, p.advance cs.length)

/-- The place behind the characters that satisfy a condition. -/
def skipWhile (p : Place) (f : Char → Bool) : Place := (p.takeWhile f).2

def skipBlanks (p : Place) : Place := p.skipWhile (· == ' ')

def skipLine (p : Place) : Place := p.skipWhile fun c => !isBreak c

/-- Pass a line break, if one is to come: what it stands for, and the place behind it. Besides the
line feed there are three more line breaks: one counts as a line feed, the other two stay what they
are. -/
def lineBreak (p : Place) : List Char × Place :=
  match p.next with
  | some c =>
    if c == '\n' || c == '\u0085' then (['\n'], p.step)
    else if isBreak c then ([c], p.step)
    else ([], p)
  | none => ([], p)

/-- A mark that separates documents stands here. -/
def isSeparator (p : Place) : Bool :=
  let mark := p.rest.take 3
  (mark == ['-', '-', '-'] || mark == ['.', '.', '.']) && endsWord (p.peek 3)

end Place

/-- Why a file has no value: it is not well formed, or a word in it cannot be read. -/
inductive Fault where
  | malformed
  | misuse (e : Misuse)
deriving DecidableEq, Repr, Inhabited

/-- What a directive says. -/
inductive Directive where
  | version (major : Nat)
  | handle (name expansion : String)
  | other
deriving DecidableEq, Repr, Inhabited

/-- A token. The tokens that open and close blocks stand for changes of indentation. -/
inductive Token where
  | directive (d : Directive)
  | documentStart
  | documentEnd
  | blockSequence
  | blockMapping
  | blockEnd
  | openBracket
  | closeBracket
  | openBrace
  | closeBrace
  | dash
  | comma
  | key
  | value
  | recall (name : String)
  | anchor (name : String)
  | tag (handle : Option String) (suffix : String)
  /-- A text, and whether it was written plainly. -/
  | scalar (text : String) (plain : Bool)
deriving DecidableEq, Repr, Inhabited

end CampaignCheck.Yaml

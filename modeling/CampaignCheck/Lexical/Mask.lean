import CampaignCheck.Dialect
import CampaignCheck.Text.Lines

namespace CampaignCheck

/-- How a language writes comments and string literals. -/
structure Lexicon where
  lineComment : Option (List Char)
  blockComment : Option (List Char × List Char)
  quotes : List Char
  escapes : Bool
  multiline : Bool
deriving DecidableEq, Repr, Inhabited

namespace Lexicon

/-- Both kinds of quotes, no comments. -/
def plain : Lexicon := ⟨none, none, ['"', '\''], false, false⟩

def of : Dialect → Lexicon
  | .ampscript => ⟨none, some ("/*".toList, "*/".toList), ['"', '\''], false, false⟩
  | .ssjs => ⟨some "//".toList, some ("/*".toList, "*/".toList), ['"', '\'', '\x60'], true, false⟩
  | .javascript =>
    ⟨some "//".toList, some ("/*".toList, "*/".toList), ['"', '\'', '\x60'], true, false⟩
  | .sql => ⟨some "--".toList, some ("/*".toList, "*/".toList), ['\''], false, true⟩
  | .css => ⟨none, some ("/*".toList, "*/".toList), ['"', '\''], false, false⟩
  | .html => ⟨none, some ("<!--".toList, "-->".toList), [], false, false⟩

/-- A literal with this quote may go on in the next line. -/
def continues (x : Lexicon) (quote : Char) : Bool := x.multiline || quote == '\x60'

end Lexicon

/-- A line of a source beside its masked form. -/
structure Line where
  number : Nat
  raw : List Char
  masked : List Char
deriving DecidableEq, Repr, Inhabited

def Line.isBlank (l : Line) : Bool := Text.allBlank l.masked

namespace Mask

/-- What surrounds the next character. -/
inductive Context where
  | code
  | comment
  | literal (quote : Char) (opened : Text.Position)
deriving DecidableEq, Repr, Inhabited

/-- The context, and how many characters ahead are already known to become blanks. -/
structure State where
  blanks : Nat
  context : Context
deriving DecidableEq, Repr, Inhabited

def starts (marker : Option (List Char)) (cs : List Char) : Bool :=
  match marker with
  | some m => !m.isEmpty && m.isPrefixOf cs
  | none => false

/-- Blank a marker that starts here, then go on in a context. -/
def blankMarker (marker : List Char) (next : Context) : Char × State :=
  (' ', ⟨marker.length - 1, next⟩)

/-- A character of code that starts no block comment. -/
def inCode (x : Lexicon) (here : Text.Position) (c : Char) (rest : List Char) : Char × State :=
  if starts x.lineComment (c :: rest) then (' ', ⟨rest.length, .code⟩)
  else if x.quotes.contains c then (c, ⟨0, .literal c here⟩)
  else (c, ⟨0, .code⟩)

/-- A character in a comment whose end has the given marker. -/
def inComment (stop : List Char) (c : Char) (rest : List Char) : Char × State :=
  if stop.isPrefixOf (c :: rest) then blankMarker stop .code else (' ', ⟨0, .comment⟩)

def outside (x : Lexicon) (here : Text.Position) (c : Char) (rest : List Char) : Char × State :=
  match x.blockComment with
  | some (start, _) =>
    if start.isPrefixOf (c :: rest) then blankMarker start .comment else inCode x here c rest
  | none => inCode x here c rest

/-- The masked form of a character, and the state after it. -/
def step (x : Lexicon) (here : Text.Position) (s : State) (c : Char) (rest : List Char) :
    Char × State :=
  match s.blanks, s.context with
  | n + 1, context => (' ', ⟨n, context⟩)
  | 0, .comment =>
    match x.blockComment with
    | some (_, d :: stop) => inComment (d :: stop) c rest
    | _ => outside x here c rest
  | 0, .literal quote opened =>
    if x.escapes && c == '\\' && !rest.isEmpty then (' ', ⟨1, .literal quote opened⟩)
    else if c == quote then (c, ⟨0, .code⟩)
    else (' ', ⟨0, .literal quote opened⟩)
  | 0, .code =>
    match x.blockComment with
    | some ([], stop) => inComment stop c rest
    | _ => outside x here c rest

/-- Mask the characters of a line from a place on. -/
def chars (x : Lexicon) (number : Nat) : Nat → State → List Char → List Char × State
  | _, s, [] => ([], s)
  | column, s, c :: rest =>
    let (d, s) := step x ⟨number, column⟩ s c rest
    let (ds, s) := chars x number (column + 1) s rest
    (d :: ds, s)

def alone (x : Lexicon) (line : List Char) : List Char := (chars x 1 0 ⟨0, .code⟩ line).1

/-- At the end of a line an open literal ends too, unless it may go on: its place, and the context
of the next line. -/
def endLine (x : Lexicon) : Context → List Text.Position × Context
  | .literal quote opened =>
    if x.continues quote then ([], .literal quote opened) else ([opened], .code)
  | c => ([], c)

/-- Mask lines from a number on: the lines, and where literals start that never end. -/
def linesFrom (x : Lexicon) : Nat → Context → List (List Char) → List Line × List Text.Position
  | _, .literal _ opened, [] => ([], [opened])
  | _, _, [] => ([], [])
  | number, context, raw :: rest =>
    let (masked, s) := chars x number 0 ⟨0, context⟩ raw
    let (unclosed, context) := endLine x s.context
    let (ls, more) := linesFrom x (number + 1) context rest
    (⟨number, raw, masked⟩ :: ls, unclosed ++ more)

end Mask

/-- A masked source: its lines, and where string literals start that never end. Comments and the
contents of literals become blanks, character by character, so that columns stay and later searches
see code only; the quotes of a literal are kept. -/
structure MaskedSource where
  lines : List Line
  unclosed : List Text.Position
deriving DecidableEq, Repr, Inhabited

namespace MaskedSource

def ofLines (x : Lexicon) (ls : List (List Char)) : MaskedSource :=
  let (lines, unclosed) := Mask.linesFrom x 1 .code ls
  ⟨lines, unclosed⟩

def ofCode (d : Dialect) (code : List Char) : MaskedSource := ofLines (.of d) (Text.lines code)

def text (s : MaskedSource) : List Char := Text.unlines (s.lines.map (·.masked))

end MaskedSource

end CampaignCheck

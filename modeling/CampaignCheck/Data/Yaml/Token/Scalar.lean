import CampaignCheck.Data.Json
import CampaignCheck.Data.Yaml.Token

namespace CampaignCheck.Yaml

/-- The line breaks to come, with blanks and tabs around them, inside quotes; a document may not
end there. -/
def breaksInQuotes : Nat → Place → Except Fault (List Char × Place)
  | 0, _ => .error .malformed
  | n + 1, p =>
    if p.isSeparator then .error .malformed
    else
      let q := p.skipWhile isGap
      if (q.next.map isBreak).getD false then do
        let (this, q) := q.lineBreak
        let (more, q) ← breaksInQuotes n q
        return (this ++ more, q)
      else .ok ([], q)

/-- What a line break and those behind it stand for: a single one is a blank, and further ones stay
as they are. -/
def foldedBreak (first more : List Char) : List Char :=
  if first != ['\n'] then first ++ more
  else if more.isEmpty then [' ']
  else more

/-- The character that an escape letter stands for. -/
def escapes : List (Char × Char) :=
  [('0', '\x00'), ('a', '\x07'), ('b', '\x08'), ('t', '\t'), ('\t', '\t'), ('n', '\n'),
    ('v', '\x0b'), ('f', '\x0c'), ('r', '\r'), ('e', '\x1b'), (' ', ' '), ('"', '"'),
    ('\\', '\\'), ('/', '/'), ('N', '\u0085'), ('_', '\u00a0'), ('L', '\u2028'), ('P', '\u2029')]

/-- The number of hexadecimal digits behind an escape letter. -/
def escapeWidths : List (Char × Nat) := [('x', 2), ('u', 4), ('U', 8)]

def hexValue (cs : List Char) : Nat := cs.foldl (fun n c => n * 16 + (Json.hex? c).getD 0) 0

/-- The character with a code, which may be half of one. -/
def charOf (code : Nat) : Except Fault Char :=
  if code < 0x110000 then .ok (Text.ofCode code)
  else if code < 0x80000000 then
    .error (.misuse (.unreadable "chr() arg not in range(0x110000)"))
  else .error (.misuse .oversizedCode)

def readEscape (p : Place) : Except Fault (List Char × Place) :=
  match p.next with
  | none => .error .malformed
  | some c =>
    match escapes.lookup c, escapeWidths.lookup c with
    | some d, _ => .ok ([d], p.step)
    | none, some width =>
      let digits := p.step.rest.take width
      if digits.length == width && digits.all fun d => (Json.hex? d).isSome then do
        let d ← charOf (hexValue digits)
        return ([d], p.step.advance width)
      else .error .malformed
    | none, none =>
      if isBreak c then breaksInQuotes p.rest.length p.lineBreak.2 else .error .malformed

/-- Read the rest of a text in quotes; what was read of it is in reverse. -/
def readQuotedFrom (quote : Char) : Nat → List Char → Place → Except Fault (List Char × Place)
  | 0, _, _ => .error .malformed
  | n + 1, acc, p =>
    match p.next with
    | none => .error .malformed
    | some c =>
      if isGap c || isBreak c then
        let (gap, q) := p.takeWhile isGap
        if (q.next.map isBreak).getD false then do
          let (first, q) := q.lineBreak
          let (more, q) ← breaksInQuotes q.rest.length.succ q
          readQuotedFrom quote n ((foldedBreak first more).reverse ++ acc) q
        else readQuotedFrom quote n (gap.reverse ++ acc) q
      else if c == quote then
        if quote == '\'' && p.peek 1 == some '\'' then
          readQuotedFrom quote n ('\'' :: acc) (p.advance 2)
        else .ok (acc.reverse, p.step)
      else if quote == '"' && c == '\\' then do
        let (cs, q) ← readEscape p.step
        readQuotedFrom quote n (cs.reverse ++ acc) q
      else readQuotedFrom quote n (c :: acc) p.step

def readQuoted (quote : Char) (p : Place) : Except Fault (Token × Place) := do
  let (cs, q) ← readQuotedFrom quote (p.rest.length + 1) [] p.step
  return (.scalar (String.ofList cs) false, q)

/-- A character that separates values inside brackets. -/
def isSeparating (c : Char) : Bool :=
  c == ',' || c == '[' || c == ']' || c == '\x7b' || c == '\x7d'

/-- The characters up to the end of a plain word: a blank, a colon before one, or inside brackets a
separator. -/
def plainWord (inBrackets : Bool) : List Char → List Char
  | [] => []
  | c :: rest =>
    let next := rest.head?
    let ends := isGap c || isBreak c ||
      (c == ':' && (endsWord next || (inBrackets && (next.map isSeparating).getD false))) ||
      (inBrackets && (isSeparating c || c == '?'))
    if ends then [] else c :: plainWord inBrackets rest

/-- The line breaks to come, with blanks around them, in a plain text; nothing if a document ends
there. -/
def breaksInPlain : Nat → List Char → Place → Option (List Char) × Place
  | 0, acc, p => (some acc, p)
  | n + 1, acc, p =>
    match p.next with
    | some ' ' => breaksInPlain n acc p.step
    | some c =>
      if isBreak c then
        let (this, q) := p.lineBreak
        if q.isSeparator then (none, q) else breaksInPlain n (acc ++ this) q
      else (some acc, p)
    | none => (some acc, p)

/-- What stands between two words of a plain text, the place behind it, and whether a line was
ended. -/
def plainGap (p : Place) : List Char × Place × Bool :=
  let (gap, q) := p.takeWhile (· == ' ')
  if (q.next.map isBreak).getD false then
    let (first, q) := q.lineBreak
    if q.isSeparator then ([], q, true)
    else match breaksInPlain q.rest.length [] q with
      | (none, q) => ([], q, true)
      | (some more, q) => (foldedBreak first more, q, true)
  else (gap, q, false)

/-- Read the rest of a plain text whose words before the gap `gap` are in `acc`. The text goes on in
lines that are indented by at least `floor`. The result tells whether the reader stands behind a
line break. -/
def readPlainFrom (inBrackets : Bool) (floor : Int) :
    Nat → List Char → List Char → Bool → Place → List Char × Place × Bool
  | 0, acc, _, broken, p => (acc, p, broken)
  | n + 1, acc, gap, broken, p =>
    let word := if p.next == some '#' then [] else plainWord inBrackets p.rest
    if word.isEmpty then (acc, p, broken)
    else
      let acc := acc ++ gap ++ word
      let (gap, q, ended) := plainGap (p.advance word.length)
      if gap.isEmpty || q.next == some '#' ||
          (!inBrackets && decide ((q.column : Int) < floor)) then
        (acc, q, ended)
      else readPlainFrom inBrackets floor n acc gap ended q

def readPlain (inBrackets : Bool) (floor : Int) (p : Place) : Token × Place × Bool :=
  let (cs, q, ended) := readPlainFrom inBrackets floor p.rest.length [] [] false p
  (.scalar (String.ofList cs) true, q, ended)

/-- What happens to the line breaks at the end of a block. -/
inductive Chomping where
  | strip
  | clip
  | keep
deriving DecidableEq, Repr, Inhabited

/-- The header of a block: what happens to its last line breaks, and its indentation if given. -/
structure BlockHeader where
  chomping : Chomping := .clip
  indent : Option Nat := none
deriving DecidableEq, Repr, Inhabited

/-- Read a sign for the last line breaks. -/
def readChomping (h : BlockHeader) (p : Place) : BlockHeader × Place :=
  match p.next with
  | some '+' => ({ h with chomping := .keep }, p.step)
  | some '-' => ({ h with chomping := .strip }, p.step)
  | _ => (h, p)

/-- Read a digit for the indentation; it may not be zero. -/
def readIndent (h : BlockHeader) (p : Place) : Except Fault (BlockHeader × Place) :=
  match p.next with
  | some c =>
    if c == '0' then .error .malformed
    else if c.isDigit then .ok ({ h with indent := some (c.toNat - '0'.toNat) }, p.step)
    else .ok (h, p)
  | none => .ok (h, p)

/-- Read the header of a block up to the end of its line; the two signs may come in any order. -/
def readBlockHeader (p : Place) : Except Fault (BlockHeader × Place) := do
  let (h, q) := readChomping {} p
  let signed := q.index != p.index
  let (h, q) ← readIndent h q
  let (h, q) := if signed then (h, q) else if h.indent.isSome then readChomping h q else (h, q)
  if !endsField q.next then .error .malformed
  else
    let q := q.skipBlanks
    let q := if q.next == some '#' then q.skipLine else q
    if endsLine q.next then .ok (h, q.lineBreak.2) else .error .malformed

/-- The empty lines at the start of a block and the greatest number of blanks in them. -/
def leadingBreaks : Nat → List Char → Nat → Place → List Char × Nat × Place
  | 0, acc, widest, p => (acc, widest, p)
  | n + 1, acc, widest, p =>
    match p.next with
    | some ' ' => leadingBreaks n acc (max widest p.step.column) p.step
    | some c =>
      if isBreak c then
        let (this, q) := p.lineBreak
        leadingBreaks n (acc ++ this) widest q
      else (acc, widest, p)
    | none => (acc, widest, p)

/-- Pass blanks up to a column. -/
def skipIndent (indent : Nat) (p : Place) : Place :=
  p.advance (min (indent - p.column) (p.rest.takeWhile (· == ' ')).length)

/-- The empty lines to come in a block with the given indentation. -/
def blockBreaks (indent : Nat) : Nat → List Char → Place → List Char × Place
  | 0, acc, p => (acc, p)
  | n + 1, acc, p =>
    let q := skipIndent indent p
    if (q.next.map isBreak).getD false then
      let (this, q) := q.lineBreak
      blockBreaks indent n (acc ++ this) q
    else (acc, q)

/-- Read the lines of a block. `breaks` are the empty lines before the next one. The result is the
text without the last line break, that line break, and the empty lines behind it. -/
def readBlockLines (folded : Bool) (indent : Nat) :
    Nat → List Char → List Char → Place → List Char × List Char × List Char × Place
  | 0, acc, breaks, p => (acc, [], breaks, p)
  | n + 1, acc, breaks, p =>
    if p.column == indent && p.next.isSome then
      let (line, q) := p.takeWhile fun c => !isBreak c
      let acc := acc ++ breaks ++ line
      let (this, q) := q.lineBreak
      let (breaks, q) := blockBreaks indent (q.rest.length + 1) [] q
      if q.column == indent && q.next.isSome then
        let folds := folded && this == ['\n'] && !(line.head?.map isGap).getD false &&
          !(q.next.map isGap).getD false
        let joint := if !folds then this else if breaks.isEmpty then [' '] else []
        readBlockLines folded indent n (acc ++ joint) breaks q
      else (acc, this, breaks, q)
    else (acc, [], breaks, p)

/-- Read a block that stands inside a block with the given indentation. -/
def readBlock (folded : Bool) (outer : Int) (p : Place) : Except Fault (Token × Place) := do
  let (h, q) ← readBlockHeader p.step
  let least := (max (outer + 1) 1).toNat
  let bound := q.rest.length + 1
  let (indent, breaks, q) :=
    match h.indent with
    | none =>
      let (breaks, widest, q) := leadingBreaks bound [] 0 q
      (max least widest, breaks, q)
    | some k =>
      let indent := least + k - 1
      let (breaks, q) := blockBreaks indent bound [] q
      (indent, breaks, q)
  let (text, last, more, q) := readBlockLines folded indent bound [] breaks q
  let tail := match h.chomping with
    | .strip => []
    | .clip => last
    | .keep => last ++ more
  return (.scalar (String.ofList (text ++ tail)) false, q)

end CampaignCheck.Yaml

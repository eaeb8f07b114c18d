import CampaignCheck.Data.Yaml.Token.Scalar

namespace CampaignCheck.Yaml

/-- A token that may turn out to be a key, which it does only when a colon follows it in the same
line; the tokens for that are put in front of it then. -/
structure Candidate where
  /-- The number of tokens before it. -/
  token : Nat
  /-- It stands where only a key may stand. -/
  required : Bool
  index : Nat
  line : Nat
  column : Nat
deriving DecidableEq, Repr, Inhabited

/-- The state of the lexer: the place, the number of open brackets, the indentation of the open
blocks, whether a key may start here, the candidates by number of open brackets, and the tokens. -/
structure Lexer where
  place : Place
  brackets : Nat := 0
  indent : Int := -1
  indents : List Int := []
  mayStartKey : Bool := true
  candidates : List (Nat × Candidate) := []
  tokens : Array Token := #[]
deriving Inhabited

namespace Lexer

def push (s : Lexer) (t : Token) : Lexer := { s with tokens := s.tokens.push t }

/-- Put a token in front of those from `i` on. -/
def insert (s : Lexer) (i : Nat) (t : Token) : Lexer :=
  { s with tokens := s.tokens.extract 0 i ++ #[t] ++ s.tokens.extract i s.tokens.size }

/-- Give up the candidate among the open brackets; one that had to be a key may not be given up. -/
def dropCandidate (s : Lexer) : Except Fault Lexer :=
  match s.candidates.lookup s.brackets with
  | some c =>
    if c.required then .error .malformed
    else .ok { s with candidates := s.candidates.filter (·.1 != s.brackets) }
  | none => .ok s

/-- What comes next may turn out to be a key. -/
def addCandidate (s : Lexer) : Except Fault Lexer := do
  if !s.mayStartKey then .ok s
  else
    let s ← s.dropCandidate
    let p := s.place
    let c : Candidate :=
      { token := s.tokens.size
        required := s.brackets == 0 && decide (s.indent = (p.column : Int))
        index := p.index
        line := p.line
        column := p.column }
    return { s with candidates := (s.brackets, c) :: s.candidates }

/-- A key stands in one line, and is not too long. -/
def isStale (p : Place) (c : Candidate) : Bool :=
  c.line != p.line || decide (1024 < p.index - c.index)

/-- Give up the candidates that cannot be keys any more. -/
def dropStale (s : Lexer) : Except Fault Lexer :=
  let (stale, fresh) := s.candidates.partition fun c => isStale s.place c.2
  if stale.any (·.2.required) then .error .malformed else .ok { s with candidates := fresh }

def closeBlocks (column : Int) : List Int → Lexer → Lexer
  | [], s => s
  | outer :: indents, s =>
    if column < s.indent then
      closeBlocks column indents { s.push .blockEnd with indent := outer, indents := indents }
    else s

/-- Close the blocks that are indented deeper than a column; inside brackets indentation does not
count. -/
def unwind (s : Lexer) (column : Int) : Lexer :=
  if s.brackets == 0 then closeBlocks column s.indents s else s

/-- Open a block at a column that is indented deeper: the new state, and whether one was opened. -/
def openBlock (s : Lexer) (column : Int) : Lexer × Bool :=
  if s.indent < column then
    ({ s with indents := s.indent :: s.indents, indent := column }, true)
  else (s, false)

def openHere (s : Lexer) (t : Token) : Lexer :=
  let (s, opened) := s.openBlock s.place.column
  if opened then s.push t else s

/-- Pass blanks, comments and line breaks up to the next token. -/
def skipToToken : Nat → Lexer → Lexer
  | 0, s => s
  | n + 1, s =>
    let p := s.place.skipBlanks
    let p := if p.next == some '#' then p.skipLine else p
    if (p.next.map isBreak).getD false then
      skipToToken n
        { s with place := p.lineBreak.2, mayStartKey := s.mayStartKey || s.brackets == 0 }
    else { s with place := p }

def advance (s : Lexer) (n : Nat) : Lexer := { s with place := s.place.advance n }

/-- The blocks are closed and no key may follow: the state in which a document starts or ends. -/
def atMargin (s : Lexer) : Except Fault Lexer := do
  let s ← (s.unwind (-1)).dropCandidate
  return { s with mayStartKey := false }

def isNameChar (c : Char) : Bool := c.isAlphanum || c == '-' || c == '_'

def isTagChar (c : Char) : Bool := c.isAlphanum || "-;/?:@&=+$,_.!~*'()[]%".toList.contains c

/-- The bytes written as escapes behind percent signs. -/
def percentBytes : Nat → Place → Except Fault (List UInt8 × Place)
  | 0, p => .ok ([], p)
  | n + 1, p =>
    if p.next != some '%' then .ok ([], p)
    else match p.peek 1 >>= Json.hex?, p.peek 2 >>= Json.hex? with
      | some a, some b => do
        let (more, q) ← percentBytes n (p.advance 3)
        return ((a * 16 + b).toUInt8 :: more, q)
      | _, _ => .error .malformed

def tagCharsFrom : Nat → Place → Except Fault (List Char × Place)
  | 0, p => .ok ([], p)
  | n + 1, p =>
    match p.next with
    | some '%' => do
      let (bytes, q) ← percentBytes p.rest.length p
      match String.fromUTF8? ⟨bytes.toArray⟩ with
      | none => .error .malformed
      | some s =>
        let (more, q) ← tagCharsFrom n q
        return (s.toList ++ more, q)
    | some c =>
      if isTagChar c then do
        let (more, q) ← tagCharsFrom n p.step
        return (c :: more, q)
      else .ok ([], p)
    | none => .ok ([], p)

/-- Read the characters of a tag, at least one. -/
def tagChars (p : Place) : Except Fault (String × Place) := do
  let (cs, q) ← tagCharsFrom p.rest.length p
  if cs.isEmpty && q.index == p.index then .error .malformed else return (String.ofList cs, q)

/-- Read a handle: a name between two exclamation marks, or a single one before a blank. -/
def tagHandle (p : Place) : Except Fault (String × Place) :=
  if p.next != some '!' then .error .malformed
  else if p.peek 1 == some ' ' then .ok ("!", p.step)
  else
    let (name, q) := p.step.takeWhile isNameChar
    if q.next == some '!' then .ok (String.ofList (['!'] ++ name ++ ['!']), q.step)
    else .error .malformed

def readTag (p : Place) : Except Fault (Token × Place) := do
  let (t, q) ←
    if p.peek 1 == some '<' then do
      let (suffix, q) ← tagChars (p.advance 2)
      if q.next == some '>' then pure (Token.tag none suffix, q.step) else .error .malformed
    else if endsWord (p.peek 1) then pure (Token.tag none "!", p.step)
    else do
      let word := p.step.rest.takeWhile fun c => !(isBreak c || c == ' ')
      let (handle, q) ← if word.contains '!' then tagHandle p else pure ("!", p.step)
      let (suffix, q) ← tagChars q
      pure (Token.tag (some handle) suffix, q)
  if endsField q.next then return (t, q) else .error .malformed

def readName (p : Place) : Except Fault (String × Place) :=
  let (name, q) := p.step.takeWhile isNameChar
  let ends := endsWord q.next || (q.next.map "?:,]\x7d%@\x60".toList.contains).getD true
  if name.isEmpty || !ends then .error .malformed else .ok (String.ofList name, q)

def readVersionPart (p : Place) : Except Fault (Nat × Place) :=
  let (ds, q) := p.takeWhile Char.isDigit
  if ds.isEmpty then .error .malformed else .ok (Json.digitsValue ds, q)

def readDirectiveValue (name : String) (p : Place) : Except Fault (Directive × Place) := do
  if name == "YAML" then
    let (major, q) ← readVersionPart p.skipBlanks
    if q.next != some '.' then .error .malformed
    else
      let (_, q) ← readVersionPart q.step
      if endsField q.next then return (.version major, q) else .error .malformed
  else if name == "TAG" then
    let (handle, q) ← tagHandle p.skipBlanks
    if q.next != some ' ' then .error .malformed
    else
      let (expansion, q) ← tagChars q.skipBlanks
      if endsField q.next then return (.handle handle expansion, q) else .error .malformed
  else return (.other, p.skipLine)

def readDirective (p : Place) : Except Fault (Token × Place) := do
  let (name, q) := p.step.takeWhile isNameChar
  if name.isEmpty || !endsField q.next then .error .malformed
  else
    let (d, q) ← readDirectiveValue (String.ofList name) q
    let q := q.skipBlanks
    let q := if q.next == some '#' then q.skipLine else q
    if endsLine q.next then return (.directive d, q.lineBreak.2) else .error .malformed

def startsPlain (s : Lexer) : Bool :=
  match s.place.next with
  | none => false
  | some c =>
    let special := "-?:,[]\x7b\x7d#&*!|>'\"%@\x60".toList.contains c
    !(endsWord (some c) || special) ||
      (!endsWord (s.place.peek 1) && (c == '-' || (s.brackets == 0 && (c == '?' || c == ':'))))

def bracketOpens (s : Lexer) (t : Token) : Except Fault Lexer := do
  let s ← s.addCandidate
  return { (s.advance 1).push t with brackets := s.brackets + 1, mayStartKey := true }

def bracketCloses (s : Lexer) (t : Token) : Except Fault Lexer := do
  let s ← s.dropCandidate
  return { (s.advance 1).push t with brackets := s.brackets - 1, mayStartKey := false }

def readComma (s : Lexer) : Except Fault Lexer := do
  let s ← s.dropCandidate
  return { (s.advance 1).push .comma with mayStartKey := true }

def readDash (s : Lexer) : Except Fault Lexer := do
  if s.brackets == 0 && !s.mayStartKey then .error .malformed
  else
    let s := if s.brackets == 0 then s.openHere .blockSequence else s
    let s ← { s with mayStartKey := true }.dropCandidate
    return (s.advance 1).push .dash

def readKey (s : Lexer) : Except Fault Lexer := do
  if s.brackets == 0 && !s.mayStartKey then .error .malformed
  else
    let s := if s.brackets == 0 then s.openHere .blockMapping else s
    let s ← { s with mayStartKey := s.brackets == 0 }.dropCandidate
    return (s.advance 1).push .key

def readValue (s : Lexer) : Except Fault Lexer := do
  match s.candidates.lookup s.brackets with
  | some c =>
    let s := { s with candidates := s.candidates.filter (·.1 != s.brackets), mayStartKey := false }
    let s := s.insert c.token .key
    let (s, opened) := if s.brackets == 0 then s.openBlock c.column else (s, false)
    let s := if opened then s.insert c.token .blockMapping else s
    return (s.advance 1).push .value
  | none =>
    if s.brackets == 0 && !s.mayStartKey then .error .malformed
    else
      let s := if s.brackets == 0 then s.openHere .blockMapping else s
      let s ← { s with mayStartKey := s.brackets == 0 }.dropCandidate
      return (s.advance 1).push .value

/-- Something that may turn out to be a key. -/
def readPart (s : Lexer) (read : Place → Except Fault (Token × Place)) :
    Except Fault Lexer := do
  let s ← s.addCandidate
  let (t, p) ← read s.place
  return { s.push t with place := p, mayStartKey := false }

/-- A plain text; a key may start behind its last line break. -/
def readWords (s : Lexer) : Except Fault Lexer := do
  let s ← s.addCandidate
  let (t, p, ended) := readPlain (s.brackets != 0) (s.indent + 1) s.place
  return { s.push t with place := p, mayStartKey := ended }

def readLines (s : Lexer) (folded : Bool) : Except Fault Lexer := do
  let s ← { s with mayStartKey := true }.dropCandidate
  let (t, p) ← readBlock folded s.indent s.place
  return { s.push t with place := p }

def readToken (s : Lexer) (c : Char) : Except Fault Lexer := do
  let p := s.place
  if c == '%' && p.column == 0 then
    let s ← s.atMargin
    let (t, p) ← readDirective s.place
    return { s.push t with place := p }
  else if p.column == 0 && p.isSeparator then
    let s ← s.atMargin
    return (s.advance 3).push (if c == '-' then .documentStart else .documentEnd)
  else if c == '[' then s.bracketOpens .openBracket
  else if c == '\x7b' then s.bracketOpens .openBrace
  else if c == ']' then s.bracketCloses .closeBracket
  else if c == '\x7d' then s.bracketCloses .closeBrace
  else if c == ',' then s.readComma
  else if c == '-' && endsWord (p.peek 1) then s.readDash
  else if c == '?' && (s.brackets != 0 || endsWord (p.peek 1)) then s.readKey
  else if c == ':' && (s.brackets != 0 || endsWord (p.peek 1)) then s.readValue
  else if c == '*' then s.readPart fun p => do
    let (name, q) ← readName p
    return (.recall name, q)
  else if c == '&' then s.readPart fun p => do
    let (name, q) ← readName p
    return (.anchor name, q)
  else if c == '!' then s.readPart readTag
  else if c == '|' && s.brackets == 0 then s.readLines false
  else if c == '>' && s.brackets == 0 then s.readLines true
  else if c == '\'' || c == '"' then s.readPart (readQuoted c)
  else if s.startsPlain then s.readWords
  else .error .malformed

/-- Read tokens up to the end of the file, or up to a fault. -/
def readAll : Nat → Lexer → Array Token × Option Fault
  | 0, s => (s.tokens, none)
  | n + 1, s =>
    match (skipToToken (s.place.rest.length + 1) s).dropStale with
    | .error f => (s.tokens, some f)
    | .ok s =>
      let s := s.unwind s.place.column
      match s.place.next with
      | none =>
        match (s.unwind (-1)).dropCandidate with
        | .ok s => (s.tokens, none)
        | .error f => (s.tokens, some f)
      | some c =>
        match s.readToken c with
        | .ok s => readAll n s
        | .error f => (s.tokens, some f)

end Lexer

/-- The tokens of a file, and the fault behind the last of them. -/
def tokens (cs : List Char) : List Token × Option Fault :=
  let start : Place := { rest := cs }
  let place := if cs.head? == some '\uFEFF' then start.step else start
  let (ts, fault) := Lexer.readAll (cs.length + 2) { place := place }
  (ts.toList, fault)

end CampaignCheck.Yaml

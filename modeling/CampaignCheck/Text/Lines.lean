import CampaignCheck.Text.Blank

namespace CampaignCheck.Text

def cut (sep : Char) : List Char → List (List Char)
  | [] => [[]]
  | c :: cs =>
    if c = sep then [] :: cut sep cs
    else match cut sep cs with
      | l :: ls => (c :: l) :: ls
      | [] => [[c]]

/-- The lines of a source, without their line ends. -/
def lines (cs : List Char) : List (List Char) :=
  (cut '\n' cs).map (dropEndWhile (· == '\r'))

/-- Put a line feed between lines. -/
def unlines (ls : List (List Char)) : List Char := List.intercalate ['\n'] ls

def indentation (line : List Char) : List Char := line.takeWhile isBlank

/-- A place in a source: line from one, column from zero. -/
structure Position where
  line : Nat
  column : Nat
deriving DecidableEq, Repr, Inhabited

def Position.advance (p : Position) (c : Char) : Position :=
  if c = '\n' then ⟨p.line + 1, 0⟩ else ⟨p.line, p.column + 1⟩

/-- The place before the character at an offset; past the end it is the end. -/
def positionAt (cs : List Char) (offset : Nat) : Position :=
  (cs.take offset).foldl Position.advance ⟨1, 0⟩

/-- Characters from `start` up to `stop`. -/
def slice (cs : List Char) (start stop : Nat) : List Char := (cs.take stop).drop start

def startsWith (cs start : List Char) : Bool := start.isPrefixOf cs

def endsWith (cs tail : List Char) : Bool := tail.isSuffixOf cs

/-- Offset of the first occurrence of a text in the characters given. -/
def find? (needle : List Char) : List Char → Option Nat
  | [] => if needle.isEmpty then some 0 else none
  | c :: cs =>
    if needle.isPrefixOf (c :: cs) then some 0
    else (find? needle cs).map (· + 1)

/-- Offset of the last occurrence of a text in the characters given. -/
def findLast? (needle : List Char) : List Char → Option Nat
  | [] => if needle.isEmpty then some 0 else none
  | c :: cs =>
    match findLast? needle cs with
    | some n => some (n + 1)
    | none => if needle.isPrefixOf (c :: cs) then some 0 else none

/-- The place of an offset that may lie outside the text, where it is that of the start or of the
end: one line more than there are line feeds before it, and the characters since the last of
them. -/
def positionAnywhere (cs : List Char) (offset : Int) : Position :=
  let before := cs.take (max 0 (min offset cs.length)).toNat
  ⟨before.count '\n' + 1, before.length - ((findLast? ['\n'] before).map (· + 1)).getD 0⟩

/-- The text occurs among the characters. -/
def contains (needle cs : List Char) : Bool := (find? needle cs).isSome

/-- As many blanks as the number says. -/
def spaces (n : Nat) : List Char := List.replicate n ' '

/-- A line break of any kind: line feed, carriage return, both together, vertical tab, form feed,
three information separators, next line, and the line and paragraph separators. -/
def isLineBreak (c : Char) : Bool :=
  let n := c.toNat
  (10 ≤ n && n ≤ 13) || (28 ≤ n && n ≤ 30) || n == 0x85 || n == 0x2028 || n == 0x2029

/-- The lines of a text; a break at the end starts no further line. -/
def breakLines : List Char → List (List Char)
  | [] => []
  | '\r' :: '\n' :: cs => [] :: breakLines cs
  | c :: cs =>
    if isLineBreak c then [] :: breakLines cs
    else match breakLines cs with
      | l :: ls => (c :: l) :: ls
      | [] => [[c]]

/-- Add an occurrence under a name. -/
def addSite (name : List Char) (site : Position) :
    List (List Char × List Position) → List (List Char × List Position)
  | [] => [(name, [site])]
  | (n, sites) :: rest =>
    if n = name then (n, sites ++ [site]) :: rest else (n, sites) :: addSite name site rest

def groupSites (occurrences : List (List Char × Position)) : List (List Char × List Position) :=
  occurrences.foldl (fun groups o => addSite o.1 o.2 groups) []

/-- Drop the given characters at both ends. -/
def trimChars (chars : List Char) (cs : List Char) : List Char :=
  dropEndWhile chars.contains (cs.dropWhile chars.contains)

end CampaignCheck.Text

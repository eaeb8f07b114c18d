import CampaignCheck.Javascript.Vocabulary
import CampaignCheck.Lexical.Blocks

namespace CampaignCheck.Javascript

/-- A script prepared for the checks. -/
structure Source where
  masked : MaskedSource
  blocks : BlockMap
deriving Inhabited

/-- Mask a script and find its blocks. -/
def Source.of (code : List Char) : Source :=
  let masked := MaskedSource.ofCode .javascript code
  ⟨masked, BlockMap.of .javascript masked.lines⟩

/-- What a pair of braces encloses. -/
inductive BraceKind where
  | block
  | function
  | async
deriving DecidableEq, Repr, Inhabited

def BraceKind.name : BraceKind → String
  | block => "block"
  | function => "function"
  | async => "async"

/-- What the braces after a text enclose; the text starts at the last semicolon or brace. -/
def BraceKind.after (head : List Char) : BraceKind :=
  if Text.contains "=>".toList head || functionWord.occursIn head || methodHead.occursIn head then
    if asyncWord.occursIn head then .async else .function
  else .block

/-- How the walk to the end of a statement leaves a stretch of text. -/
inductive Walk where
  /-- The statement ends at an offset. -/
  | ends (offset : Nat)
  /-- The stretch ends first, with this many brackets open. -/
  | inside (depth : Nat)
deriving DecidableEq, Repr, Inhabited

/-- Walk on from offset `i` to the end of the statement, following chained calls across lines. -/
def walkStatement : Nat → Nat → List Char → Walk
  | _, depth, [] => .inside depth
  | i, depth, c :: cs =>
    if c == '(' || c == '[' || c == '{' then walkStatement (i + 1) (depth + 1) cs
    else if c == ')' || c == ']' || c == '}' then
      if depth = 0 then .ends i else walkStatement (i + 1) (depth - 1) cs
    else if depth = 0 && c == ';' then .ends i
    else if depth = 0 && c == '\n' && !Text.startsWith (Text.trimLeft (c :: cs)) ['.'] then .ends i
    else walkStatement (i + 1) depth cs

/-- The end of a statement that is not over before offset `i`. -/
def statementEndFrom (cs : List Char) (i depth : Nat) : Nat :=
  match walkStatement i depth (cs.drop i) with
  | .ends offset => offset
  | .inside _ => cs.length

def statementEnd (cs : List Char) (start : Nat) : Nat := statementEndFrom cs start 0

/-- The end of the statement for an offset that may be negative: the walk starts that far before the
end of the text and goes on with the whole text. Fails if the offset lies before the text. -/
def statementEndAny? (cs : List Char) (start : Int) : Option Int :=
  if 0 ≤ start then some (statementEnd cs start.toNat)
  else
    let k := (-start).toNat
    if cs.length < k then none
    else
      match walkStatement 0 0 (cs.drop (cs.length - k)) with
      | .ends offset => some ((offset : Int) - k)
      | .inside depth => some (statementEndFrom cs 0 depth)

end CampaignCheck.Javascript

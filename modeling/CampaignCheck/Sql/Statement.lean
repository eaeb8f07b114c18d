import CampaignCheck.Finding
import CampaignCheck.Lexical.Mask
import CampaignCheck.Sql.Vocabulary

namespace CampaignCheck.Sql

/-- A statement and where it starts in the masked source. -/
structure Statement where
  start : Nat
  text : List Char
deriving DecidableEq, Repr, Inhabited

/-- A stretch of the text as a statement, unless it is blank. -/
def statementIn (cs : List Char) (start stop : Nat) : List Statement :=
  let text := Text.slice cs start stop
  if Text.allBlank text then [] else [⟨start, text⟩]

/-- The statements from an offset on, given the separators to come. -/
def statementsFrom (cs : List Char) : Nat → List Match → List Statement
  | start, [] => statementIn cs start cs.length
  | start, m :: ms => statementIn cs start m.start ++ statementsFrom cs m.stop ms

def statements (cs : List Char) : List Statement := statementsFrom cs 0 (separator.findAll cs)

/-- An item of a select list and where it starts in the statement. -/
structure SelectItem where
  start : Nat
  text : List Char
deriving DecidableEq, Repr, Inhabited

/-- Where a statement selects, and what. -/
structure Selection where
  start : Nat
  items : List SelectItem
deriving DecidableEq, Repr, Inhabited

/-- The word FROM starts here, given the character before. -/
def fromStarts (before : Option Char) (cs : List Char) : Bool :=
  (fromWord.matchStart? (cs.take 5)).isSome && !(before.map Text.isAlphanumeric).getD false

/-- Cut a select list at commas outside parentheses up to the word FROM. `i` is the offset of the
next character, `start` that of the current item, whose characters so far are kept in reverse. -/
def itemsFrom (start i : Nat) (depth : Int) (before : Option Char) (item : List Char) :
    List Char → List SelectItem
  | [] => [⟨start, item.reverse⟩]
  | c :: cs =>
    if c == '(' then itemsFrom start (i + 1) (depth + 1) (some c) (c :: item) cs
    else if c == ')' then itemsFrom start (i + 1) (depth - 1) (some c) (c :: item) cs
    else if depth = 0 && c == ',' then
      ⟨start, item.reverse⟩ :: itemsFrom (i + 1) (i + 1) depth (some c) [] cs
    else if depth = 0 && fromStarts before (c :: cs) then [⟨start, item.reverse⟩]
    else itemsFrom start (i + 1) depth (some c) (c :: item) cs

/-- What a statement selects: the select list, cut at its commas outside parentheses, ends at the
word FROM. -/
def selection? (cs : List Char) : Option Selection :=
  (selectHead.find? cs).map fun m =>
    ⟨m.start, itemsFrom m.stop m.stop 0 (cs.take m.stop).getLast? [] (cs.drop m.stop)⟩

/-- A source prepared for the checks: masked, its text in both forms, and its statements. -/
structure Source where
  masked : MaskedSource
  text : List Char
  raw : List Char
  statements : List Statement
deriving Inhabited

def Source.of (code : List Char) : Source :=
  let masked := MaskedSource.ofCode .sql code
  let text := masked.text
  ⟨masked, text, Text.unlines (masked.lines.map (·.raw)), Sql.statements text⟩

def Source.rawOf (s : Source) (st : Statement) : List Char :=
  Text.slice s.raw st.start (st.start + st.text.length)

def Source.report (s : Source) (st : Statement) (offset : Nat) (rule message : String)
    (category : Category) (severity : Severity) (hint : String) : Finding :=
  let p := Text.positionAt s.text (st.start + offset)
  .report p.line (some p.column) rule message category severity hint

end CampaignCheck.Sql

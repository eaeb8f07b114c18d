import CampaignCheck.Text.Blank
import CampaignCheck.Text.Word
import CampaignCheck.Text.Digit
import CampaignCheck.Text.Casing
import CampaignCheck.Text.CodePoint

namespace CampaignCheck

/-- A set of characters. -/
inductive CharSet where
  | all
  | none
  /-- Every character but a line feed. -/
  | inLine
  | char (c : Char)
  | anyCase (c : Char)
  /-- The character; a plain Latin letter in either case. -/
  | plainCase (c : Char)
  | range (lo hi : Char)
  | rangeAnyCase (lo hi : Char)
  | rangePlainCase (lo hi : Char)
  | word
  | digit
  | blank
  /-- The plain Latin letters, the plain digits and the underscore. -/
  | plainWord
  | plainDigit
  /-- A blank, and the controls that move to another line or column. -/
  | plainBlank
  | not (s : CharSet)
  | or (s t : CharSet)
deriving DecidableEq, Repr, Inhabited

namespace CharSet

/-- The character lies between two others. -/
def between (lo hi c : Char) : Bool :=
  decide (Text.codeOf lo ≤ Text.codeOf c) && decide (Text.codeOf c ≤ Text.codeOf hi)

def mem : CharSet → Char → Bool
  | all, _ => true
  | none, _ => false
  | inLine, c => c != '\n'
  | char a, c => a == c
  | anyCase a, c => Text.sameLetter a c
  | plainCase a, c => Text.samePlainLetter a c
  | range lo hi, c => between lo hi c
  | rangeAnyCase lo hi, c => (Text.letterForms c).any (between lo hi)
  | rangePlainCase lo hi, c =>
    between lo hi c || between lo hi c.toLower || between lo hi c.toUpper ||
      (decide (0xFFFF < Text.codeOf hi) && (Text.upperChar c.toLower).all (between lo hi))
  | word, c => Text.isWord c
  | digit, c => Text.isDigit c
  | blank, c => Text.isBlank c
  | plainWord, c => c.isAlphanum || c == '_'
  | plainDigit, c => c.isDigit
  | plainBlank, c => c == ' ' || between '\t' '\r' c
  | not s, c => !s.mem c
  | or s t, c => s.mem c || t.mem c

/-- Some member of the set is looked up under folding. -/
def foldsCase : CharSet → Bool
  | anyCase _ | plainCase _ | rangeAnyCase _ _ | rangePlainCase _ _ => true
  | not s => s.foldsCase
  | or s t => s.foldsCase || t.foldsCase
  | _ => false

/-- A set that is looked up after folding, unlike a single letter that is compared. -/
def isFolded : CharSet → Bool
  | anyCase c | not (anyCase c) => !(Text.variantsOf (Text.lowerChar c)).isEmpty
  | plainCase _ | not (plainCase _) => false
  | s => s.foldsCase

/-- A single character, or a set that is looked up without folding. -/
def isDirect : CharSet → Bool
  | all | inLine | not (char _) | not none => false
  | s => !s.foldsCase

def union : List CharSet → CharSet
  | [] => none
  | [s] => s
  | s :: ss => or s (union ss)

def parts : CharSet → List CharSet
  | or s t => s :: t.parts
  | s => [s]

def chars (s : String) : CharSet := union (s.toList.map char)

/-- Every character but those of a string. -/
def butChars (s : String) : CharSet := not (chars s)

/-- The set with its classes read as plain ones, or as those of all letters. -/
def withClasses (plain : Bool) : CharSet → CharSet
  | word | plainWord => if plain then plainWord else word
  | digit | plainDigit => if plain then plainDigit else digit
  | blank | plainBlank => if plain then plainBlank else blank
  | not s => not (s.withClasses plain)
  | or s t => or (s.withClasses plain) (t.withClasses plain)
  | s => s

end CharSet

end CampaignCheck

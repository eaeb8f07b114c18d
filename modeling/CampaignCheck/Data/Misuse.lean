import CampaignCheck.Data.Value

namespace CampaignCheck

/-- A value was used in a way that it does not allow. -/
inductive Misuse where
  | lacks (kind part : String)
  | notIterable (kind : String)
  | notAssignable (kind : String)
  | indexedByText
  /-- A field without a text as its key. -/
  | unnamedField
  /-- A pattern repeats something more often than can be counted. -/
  | oversizedRepetition
  /-- A word that stands for no value of its kind. -/
  | unreadable (reason : String)
  /-- A code beyond those of characters, and of machine words. -/
  | oversizedCode
  /-- A word that is not among those of its kind. -/
  | unknownWord (word : String)
  /-- A number without a character. -/
  | emptyNumber
  /-- A text that cannot be encoded: halves of characters stand at a place. -/
  | loneHalves (codes : List Nat) (place : Nat)
deriving DecidableEq, Repr, Inhabited

namespace Misuse

def name : Misuse → String
  | lacks _ _ => "AttributeError"
  | oversizedRepetition | oversizedCode => "OverflowError"
  | unreadable _ => "ValueError"
  | unknownWord _ => "KeyError"
  | emptyNumber => "IndexError"
  | loneHalves _ _ => "UnicodeEncodeError"
  | _ => "TypeError"

/-- Halves of characters that stand at a place: a single one is named. -/
def halvesAt (place : Nat) : List Nat → String
  | [code] =>
    "character '\\u" ++ String.ofList (Text.hexDigits 4 code) ++ "' in position " ++ toString place
  | codes =>
    "characters in position " ++ toString place ++ "-" ++ toString (place + codes.length - 1)

def message : Misuse → String
  | lacks kind part => "'" ++ kind ++ "' object has no attribute '" ++ part ++ "'"
  | notIterable kind => "'" ++ kind ++ "' object is not iterable"
  | notAssignable kind => "'" ++ kind ++ "' object does not support item assignment"
  | indexedByText => "list indices must be integers or slices, not str"
  | unnamedField => "keywords must be strings"
  | oversizedRepetition => "the repetition number is too large"
  | unreadable reason => reason
  | oversizedCode => "Python int too large to convert to C int"
  | unknownWord word => Text.quoted word
  | emptyNumber => "string index out of range"
  | loneHalves codes place =>
    "'utf-8' codec can't encode " ++ halvesAt place codes ++ ": surrogates not allowed"

end Misuse

/-- The fields of an object, for something that asks it for one. -/
def Value.fields (v : Value) : Except Misuse Fields :=
  match v.fields? with
  | some fs => .ok fs
  | none => .error (.lacks v.kind "get")

/-- The elements of a value: the items of a list, the keys of an object, the characters of a
text, the numbers of bytes. -/
def Value.elements : Value → Except Misuse (List Value)
  | .list vs => .ok vs
  | .object fs => .ok (fs.map fun f => .text f.1)
  | .text s => .ok (s.toList.map fun c => .text (String.singleton c))
  | .bytes bs => .ok (bs.map fun b => .ofNat b.toNat)
  | .set vs => .ok vs
  | .pair v w => .ok [v, w]
  | .table entries => .ok (entries.map (·.1))
  | v => .error (.notIterable v.kind)

end CampaignCheck

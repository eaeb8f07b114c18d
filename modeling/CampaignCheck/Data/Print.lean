import CampaignCheck.Data.Misuse

namespace CampaignCheck.Json

/-- How floats that are no finite numbers are spelled in a data file. -/
def spelling : Decimal.Spelling := ⟨"NaN", "Infinity"⟩

def unitEscape (n : Nat) : List Char :=
  let digit (k : Nat) : Char := Nat.digitChar (n / k % 16)
  ['\\', 'u', digit 4096, digit 256, digit 16, digit 1]

/-- A character as one escape, or as two if it takes two units. -/
def escaped (c : Char) : List Char :=
  let n := Text.codeOf c
  if n < 0x10000 then unitEscape n
  else
    unitEscape (0xD800 + (n - 0x10000) / 0x400) ++ unitEscape (0xDC00 + (n - 0x10000) % 0x400)

def letter? : Char → Option Char
  | '"' => some '"'
  | '\\' => some '\\'
  | '\n' => some 'n'
  | '\r' => some 'r'
  | '\t' => some 't'
  | '\x0c' => some 'f'
  | '\x08' => some 'b'
  | _ => none

/-- A character inside a quoted text; `plain` says which ones may stand for themselves. -/
def quotedChar (plain : Char → Bool) (c : Char) : List Char :=
  match letter? c with
  | some l => ['\\', l]
  | none => if plain c then [c] else escaped c

def quotedText (plain : Char → Bool) (s : String) : String :=
  "\"" ++ String.ofList (s.toList.flatMap (quotedChar plain)) ++ "\""

def isPlain (c : Char) : Bool := c.toNat ≥ 0x20

def isPlainAscii (c : Char) : Bool := c.toNat ≥ 0x20 && c.toNat < 0x7F

/-- A value that is neither a list nor an object; those give nothing. A value that has no form of
its own is written as it is quoted. -/
def scalarText (plain : Char → Bool) : Value → String
  | .null => "null"
  | .bool true => "true"
  | .bool false => "false"
  | .int n => toString n
  | .float x => Decimal.render spelling x
  | .text s => quotedText plain s
  | .list _ => "[]"
  | .object _ => "\x7b\x7d"
  | v => quotedText plain v.quoted

mutual

def compact : Value → String
  | .list xs => "[" ++ compactItems xs ++ "]"
  | .object fs => "\x7b" ++ compactFields fs ++ "\x7d"
  | v => scalarText isPlain v

def compactItems : List Value → String
  | [] => ""
  | [v] => compact v
  | v :: w :: vs => compact v ++ "," ++ compactItems (w :: vs)

def compactFields : List (String × Value) → String
  | [] => ""
  | [(k, v)] => quotedText isPlain k ++ ":" ++ compact v
  | (k, v) :: f :: fs =>
    quotedText isPlain k ++ ":" ++ compact v ++ "," ++ compactFields (f :: fs)

end

/-- A line feed and the blanks of a level. -/
def newLine (level : Nat) : String := "\n" ++ String.ofList (List.replicate (2 * level) ' ')

mutual

/-- A value over several lines, from a level of indentation on. -/
def indented : Nat → Value → String
  | level, .list (v :: vs) =>
    "[" ++ indentedItems (level + 1) (v :: vs) ++ newLine level ++ "]"
  | level, .object (f :: fs) =>
    "\x7b" ++ indentedFields (level + 1) (f :: fs) ++ newLine level ++ "\x7d"
  | _, v => scalarText isPlainAscii v

/-- Values on lines of their own. -/
def indentedItems : Nat → List Value → String
  | _, [] => ""
  | level, [v] => newLine level ++ indented level v
  | level, v :: w :: vs =>
    newLine level ++ indented level v ++ "," ++ indentedItems level (w :: vs)

def indentedFields : Nat → List (String × Value) → String
  | _, [] => ""
  | level, [(k, v)] => newLine level ++ quotedText isPlainAscii k ++ ": " ++ indented level v
  | level, (k, v) :: f :: fs =>
    newLine level ++ quotedText isPlainAscii k ++ ": " ++ indented level v ++ "," ++
      indentedFields level (f :: fs)

end

mutual

/-- The value holds no infinite number and nothing that is no number. -/
def isFinite : Value → Bool
  | .float x => x.isFinite
  | .list xs => areFinite xs
  | .object fs => haveFinite fs
  | _ => true

def areFinite : List Value → Bool
  | [] => true
  | v :: vs => isFinite v && areFinite vs

def haveFinite : List (String × Value) → Bool
  | [] => true
  | f :: fs => isFinite f.2 && haveFinite fs

end

/-- Why a text has no encoding: the first halves of characters in it. -/
def encodingFault? (cs : List Char) : Option Misuse :=
  (cs.findIdx? Text.standsForHalf).map fun place =>
    .loneHalves (((cs.drop place).takeWhile Text.standsForHalf).map Text.codeOf) place

/-- Why a value cannot be sent to anybody. -/
def sendingFault? (v : Value) : Option Misuse :=
  if isFinite v then encodingFault? (compact v).toList
  else some (.unreadable "Out of range float values are not JSON compliant")

/-- A value as the text of a data file. -/
def pretty (v : Value) : String := indented 0 v

end CampaignCheck.Json

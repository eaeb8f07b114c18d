import CampaignCheck.Data.Json
import CampaignCheck.Schema.Fault
import CampaignCheck.Text.Lines

namespace CampaignCheck.Schema

def text : Value → Checked String
  | .text s => .ok s
  | _ => .fail .notText

def filledText : Value → Checked String
  | .text s =>
    if s.toList.any Text.standsForHalf then .fail .brokenText
    else if s.isEmpty then .fail .emptyText
    else .ok s
  | _ => .fail .notText

/-- The digits that remain when zeros and underscores at the start are dropped: what follows starts
with another digit or a minus sign; a point keeps the character before it, and if nothing follows
the last character stays. -/
def behindZeros : Char → List Char → Option (List Char)
  | last, [] => some [last]
  | last, c :: rest =>
    if c = '0' || c = '_' then behindZeros c rest
    else if ('1' ≤ c && c ≤ '9') || c = '-' then some (c :: rest)
    else if c = '.' then some (last :: c :: rest)
    else none

/-- A text of digits without zeros at its start. -/
def dropLeadingZeros : List Char → Option (List Char)
  | [] => none
  | c :: rest =>
    if c = '0' then behindZeros c rest
    else if ('1' ≤ c && c ≤ '9') || c = '-' then some (c :: rest)
    else none

/-- The text without a point that only zeros follow. -/
def dropZeroFraction (cs : List Char) : List Char :=
  match cs.span (· != '.') with
  | (whole, '.' :: zeros) => if !zeros.isEmpty && zeros.all (· == '0') then whole else cs
  | _ => cs

/-- No underscore stands at an end or beside another one. -/
def underscoresApart (cs : List Char) : Bool :=
  cs.head? != some '_' && cs.getLast? != some '_' && !Text.contains ['_', '_'] cs

/-- The text without its underscores, if they stand apart. -/
def joinDigits (cs : List Char) : List Char :=
  if underscoresApart cs then cs.filter (· != '_') else cs

/-- The value of decimal digits, at least one. -/
def naturalOf? (cs : List Char) : Option Nat :=
  if !cs.isEmpty && cs.all Char.isDigit then some (Json.digitsValue cs) else none

/-- An integer from its text: blanks around it, a sign, digits, and perhaps zeros behind a point.
A plus sign stands before a digit, and zeros may even stand before a minus sign. -/
def integerOf? (s : String) : Option Int := do
  let cs := Text.trimPadding s.toList
  let cs ← match cs with
    | '+' :: '-' :: _ => none
    | '+' :: rest => some rest
    | _ => some cs
  let cs ← dropLeadingZeros cs
  match joinDigits (dropZeroFraction cs) with
  | '-' :: ds => (naturalOf? ds).map fun n => -(n : Int)
  | ds => (naturalOf? ds).map fun n => (n : Int)

/-- Integers of sixty-four bits lie below this, and not below its negative. -/
def wordBound : Int := 9223372036854775808

def integerOfFloat (x : Float) : Checked Int :=
  match Decimal.Reading.of x with
  | .finite b =>
    if !b.isIntegral then .fail .fractionalInteger
    else if -wordBound < b.truncate ∧ b.truncate < wordBound then .ok b.truncate
    else .fail .oversizedInteger
  | _ => .fail .infiniteNumber

def integer : Value → Checked Int
  | .int n => .ok n
  | .bool b => .ok (if b then 1 else 0)
  | .float x => integerOfFloat x
  | .text s =>
    if Text.maxDigits < s.utf8ByteSize then .fail .oversizedInteger
    else match integerOf? s with
      | some n => .ok n
      | none => .fail .unreadableInteger
  | _ => .fail .notInteger

/-- A natural number that is at least the bound. -/
def naturalFrom (bound : Nat) (v : Value) : Checked Nat :=
  (integer v).andThen fun n => if n < bound then .fail (.below bound) else .ok n.toNat

/-- A natural number above zero. -/
def positive (v : Value) : Checked Nat :=
  (integer v).andThen fun n => if n ≤ 0 then .fail (.notAbove 0) else .ok n.toNat

def offWords : List String := ["0", "off", "f", "false", "n", "no"]

def onWords : List String := ["1", "on", "t", "true", "y", "yes"]

def switchOfInt (n : Int) : Checked Bool :=
  if n = 0 then .ok false else if n = 1 then .ok true else .fail .unreadableBoolean

def switch : Value → Checked Bool
  | .bool b => .ok b
  | .int n => if -wordBound ≤ n ∧ n < wordBound then switchOfInt n else .fail .notBoolean
  | .float x =>
    match integerOfFloat x with
    | .ok n => switchOfInt n
    | .faults _ => .fail .notBoolean
  | .text s =>
    let word := String.ofList (s.toList.map Char.toLower)
    if offWords.contains word then .ok false
    else if onWords.contains word then .ok true
    else .fail .unreadableBoolean
  | _ => .fail .notBoolean

def oneOf {α : Type} (values : List α) (name : α → String) : Value → Checked α
  | .text s =>
    match values.find? fun a => name a == s with
    | some a => .ok a
    | none => .fail (.notAmong (values.map name))
  | _ => .fail (.notAmong (values.map name))

/-- Nothing, or what the reader reads. -/
def maybe {α : Type} (read : Value → Checked α) : Value → Checked (Option α)
  | .null => .ok none
  | v => (read v).map some

/-- Read items, counted from `index` on. -/
def itemsFrom {α : Type} (read : Value → Checked α) : Nat → List Value → List (Checked α)
  | _, [] => []
  | index, v :: vs => (read v).within (.item index) :: itemsFrom read (index + 1) vs

def list {α : Type} (read : Value → Checked α) : Value → Checked (List α)
  | .list vs => .all (itemsFrom read 0 vs)
  | _ => .fail .notList

def required {α : Type} (fs : Fields) (name : String) (read : Value → Checked α) : Checked α :=
  match fs.get? name with
  | some v => (read v).within (.field name)
  | none => .faults [⟨[.field name], .missing⟩]

def withDefault {α : Type} (fs : Fields) (name : String) (default : α)
    (read : Value → Checked α) : Checked α :=
  match fs.get? name with
  | some v => (read v).within (.field name)
  | none => .ok default

def record {α : Type} (name : String) (read : Fields → Checked α) : Value → Checked α
  | .object fs => read fs
  | _ => .fail (.notRecord name)

end CampaignCheck.Schema

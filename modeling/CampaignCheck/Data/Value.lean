import CampaignCheck.Decimal.Notation
import CampaignCheck.Text.Quoted

namespace CampaignCheck

/-- A value of a data file. An object keeps its keys in the order of first arrival. -/
inductive Value where
  | null
  | bool (b : Bool)
  | int (n : Int)
  | float (x : Float)
  | text (s : String)
  | list (items : List Value)
  | object (fields : List (String × Value))
  /-- A day, as it was written. -/
  | day (written : String)
  /-- A day with a time, as it was written. -/
  | moment (written : String)
  | bytes (bs : List UInt8)
  /-- Different values without an order. -/
  | set (items : List Value)
  | pair (first second : Value)
  /-- An object whose keys are not all texts. -/
  | table (entries : List (Value × Value))
deriving Repr, Inhabited

abbrev Fields := List (String × Value)

namespace Fields

/-- Set a field: a new key goes to the end, a present one keeps its place. -/
def put : Fields → String → Value → Fields
  | [], k, v => [(k, v)]
  | (k', v') :: rest, k, v => if k' = k then (k, v) :: rest else (k', v') :: put rest k v

def get? (fs : Fields) (k : String) : Option Value := fs.lookup k

end Fields

namespace Value

def ofFields (fs : List (String × Value)) : Value := .object fs

def ofText? (s : Option String) : Value := (s.map Value.text).getD .null

def ofNat? (n : Option Nat) : Value := (n.map fun n => Value.int n).getD .null

def ofNat (n : Nat) : Value := .int n

def ofTexts (ss : List String) : Value := .list (ss.map .text)

def ofChars (cs : List Char) : Value := .text (String.ofList cs)

def kind : Value → String
  | null => "NoneType"
  | bool _ => "bool"
  | int _ => "int"
  | float _ => "float"
  | text _ => "str"
  | list _ => "list"
  | object _ | table _ => "dict"
  | day _ => "datetime.date"
  | moment _ => "datetime.datetime"
  | bytes _ => "bytes"
  | set _ => "set"
  | pair _ _ => "tuple"

/-- The fields of an object whose keys are texts. -/
def fields? : Value → Option Fields
  | .object fs => some fs
  | .table entries => some (entries.filterMap fun e =>
      match e.1 with
      | .text k => some (k, e.2)
      | _ => none)
  | _ => none

def field? : Value → String → Option Value
  | .object fs, k => fs.lookup k
  | _, _ => none

/-- Zero, nothing and what is empty count as false. -/
def isTruthy : Value → Bool
  | null => false
  | bool b => b
  | int n => n ≠ 0
  | float x => x != 0.0
  | text s => !s.isEmpty
  | list xs => !xs.isEmpty
  | object fs => !fs.isEmpty
  | bytes bs => !bs.isEmpty
  | set xs => !xs.isEmpty
  | table es => !es.isEmpty
  | day _ | moment _ | pair _ _ => true

def decoded : Value → Value
  | .bytes bs =>
    match String.fromUTF8? ⟨bs.toArray⟩ with
    | some s => .text s
    | none => .bytes bs
  | v => v

/-- How floats that are no finite numbers are spelled in a message. -/
def spelling : Decimal.Spelling := ⟨"nan", "inf"⟩

mutual

def quoted : Value → String
  | null => "None"
  | bool true => "True"
  | bool false => "False"
  | int n => toString n
  | float x => Decimal.render spelling x
  | text s => Text.quoted s
  | list xs => "[" ++ quotedItems xs ++ "]"
  | object fs => "\x7b" ++ quotedFields fs ++ "\x7d"
  | day w | moment w => w
  | bytes bs => "b" ++ Text.quoted (String.ofList (bs.map fun b => Char.ofNat b.toNat))
  | set xs => "\x7b" ++ quotedItems xs ++ "\x7d"
  | pair v w => "(" ++ quoted v ++ ", " ++ quoted w ++ ")"
  | table es => "\x7b" ++ quotedEntries es ++ "\x7d"

def quotedItems : List Value → String
  | [] => ""
  | [v] => quoted v
  | v :: w :: vs => quoted v ++ ", " ++ quotedItems (w :: vs)

def quotedEntries : List (Value × Value) → String
  | [] => ""
  | [(k, v)] => quoted k ++ ": " ++ quoted v
  | (k, v) :: e :: es => quoted k ++ ": " ++ quoted v ++ ", " ++ quotedEntries (e :: es)

def quotedFields : List (String × Value) → String
  | [] => ""
  | [(k, v)] => Text.quoted k ++ ": " ++ quoted v
  | (k, v) :: f :: fs => Text.quoted k ++ ": " ++ quoted v ++ ", " ++ quotedFields (f :: fs)

end

/-- A value as a text: texts stand for themselves. -/
def display : Value → String
  | text s => s
  | v => v.quoted

end Value

end CampaignCheck

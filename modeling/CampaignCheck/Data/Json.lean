import CampaignCheck.Data.Value
import CampaignCheck.Text.Digit

namespace CampaignCheck.Json

/-- Why a text has no value. -/
inductive Fault where
  | malformed
  | tooDeep
  | tooManyDigits
deriving DecidableEq, Repr, Inhabited

/-- How deep lists and objects may be nested. -/
def maxDepth : Nat := 985

def isSpace (c : Char) : Bool := c == ' ' || c == '\t' || c == '\n' || c == '\r'

def skip (cs : List Char) : List Char := cs.dropWhile isSpace

/-- The value of a hexadecimal digit. -/
def hex? (c : Char) : Option Nat :=
  if '0' ≤ c ∧ c ≤ '9' then some (c.toNat - 48)
  else if 'a' ≤ c ∧ c ≤ 'f' then some (c.toNat - 87)
  else if 'A' ≤ c ∧ c ≤ 'F' then some (c.toNat - 55)
  else none

/-- The value of four hexadecimal digits, and what follows them. -/
def hex4? : List Char → Option (Nat × List Char)
  | a :: b :: c :: d :: rest => do
    let a ← hex? a
    let b ← hex? b
    let c ← hex? c
    let d ← hex? d
    return (a * 4096 + b * 256 + c * 16 + d, rest)
  | _ => none

/-- The character that an escape letter stands for. -/
def escape? : Char → Option Char
  | '"' => some '"'
  | '\\' => some '\\'
  | '/' => some '/'
  | 'b' => some '\x08'
  | 'f' => some '\x0c'
  | 'n' => some '\n'
  | 'r' => some '\r'
  | 't' => some '\t'
  | _ => none

/-- The second half of a character given in two sixteen-bit units, and what follows it. -/
def lowUnit? : List Char → Option (Nat × List Char)
  | '\\' :: 'u' :: rest => do
    let (n, rest) ← hex4? rest
    if 0xDC00 ≤ n ∧ n ≤ 0xDFFF then some (n, rest) else none
  | _ => none

/-- The character that starts with a sixteen-bit unit, and what follows it. Half of a character is
kept as it is. -/
def unitChar (n : Nat) (rest : List Char) : Char × List Char :=
  if 0xD800 ≤ n ∧ n ≤ 0xDBFF then
    match lowUnit? rest with
    | some (m, rest) => (Char.ofNat (0x10000 + (n - 0xD800) * 0x400 + (m - 0xDC00)), rest)
    | none => (Text.ofCode n, rest)
  else (Text.ofCode n, rest)

/-- The rest of a quoted text and what follows it; the characters read so far are in reverse. -/
def quotedBody : Nat → List Char → List Char → Option (String × List Char)
  | 0, _, _ => none
  | _ + 1, _, [] => none
  | _ + 1, acc, '"' :: rest => some (String.ofList acc.reverse, rest)
  | n + 1, acc, '\\' :: 'u' :: rest => do
    let (unit, rest) ← hex4? rest
    let (c, rest) := unitChar unit rest
    quotedBody n (c :: acc) rest
  | n + 1, acc, '\\' :: c :: rest => do
    let c ← escape? c
    quotedBody n (c :: acc) rest
  | n + 1, acc, c :: rest =>
    if c.toNat < 0x20 ∨ c = '\\' then none else quotedBody n (c :: acc) rest

/-- A quoted text behind its first quote, and what follows it. -/
def quoted? (cs : List Char) : Option (String × List Char) := quotedBody (cs.length + 1) [] cs

def digitsValue (ds : List Char) : Nat := ds.foldl (fun n d => n * 10 + (d.toNat - 48)) 0

/-- A float from its digits and the exponent of the last of them. -/
def floatOf (digits : List Char) (exponent : Int) : Float :=
  let n := digitsValue digits
  let leading := exponent + (digits.length : Int)
  if n = 0 then 0.0
  else if 400 < exponent + ((Nat.toDigits 10 n).length : Int) then 1.0 / 0.0
  else if leading < -400 then 0.0
  else Float.ofScientific n (exponent < 0) exponent.natAbs

/-- The whole part of a number: a single zero, or digits that start with another. -/
def whole? (cs : List Char) : Option (List Char × List Char) :=
  match cs with
  | '0' :: rest => some (['0'], rest)
  | _ =>
    let ds := cs.takeWhile Char.isDigit
    if ds.isEmpty then none else some (ds, cs.dropWhile Char.isDigit)

def fraction? : List Char → Option (List Char × List Char)
  | '.' :: rest =>
    let ds := rest.takeWhile Char.isDigit
    if ds.isEmpty then none else some (ds, rest.dropWhile Char.isDigit)
  | _ => none

def exponent? (cs : List Char) : Option (Int × List Char) :=
  match cs with
  | c :: rest =>
    if c = 'e' ∨ c = 'E' then
      let (negative, rest) := Text.splitSign rest
      let ds := rest.takeWhile Char.isDigit
      if ds.isEmpty then none
      else
        let n : Int := digitsValue ds
        some (if negative then -n else n, rest.dropWhile Char.isDigit)
    else none
  | [] => none

/-- What an option holds; without anything the text is malformed. -/
def orMalformed {α : Type} (x : Option α) : Except Fault α :=
  match x with
  | some a => .ok a
  | none => .error .malformed

/-- A number without a sign. -/
def unsigned (negative : Bool) (cs : List Char) : Except Fault (Value × List Char) := do
  let (ds, rest) ← orMalformed (whole? cs)
  let fraction := fraction? rest
  let rest := (fraction.map (·.2)).getD rest
  let exponent := exponent? rest
  let rest := (exponent.map (·.2)).getD rest
  if fraction.isNone && exponent.isNone then
    if Text.maxDigits < ds.length then throw .tooManyDigits
    let n : Int := digitsValue ds
    return (.int (if negative then -n else n), rest)
  else
    let behind := (fraction.map (·.1)).getD []
    let x := floatOf (ds ++ behind) ((exponent.map (·.1)).getD 0 - (behind.length : Int))
    return (.float (if negative then -x else x), rest)

/-- What follows a word, if the text starts with it. -/
def after? (word : String) (cs : List Char) : Option (List Char) :=
  if word.toList.isPrefixOf cs then some (cs.drop word.length) else none

def words : List (String × Value) :=
  [("null", .null), ("true", .bool true), ("false", .bool false), ("NaN", .float (0.0 / 0.0)),
    ("Infinity", .float (1.0 / 0.0)), ("-Infinity", .float (-1.0 / 0.0))]

/-- A word or a number, and what follows it. -/
def scalar (cs : List Char) : Except Fault (Value × List Char) :=
  match words.findSome? fun w => (after? w.1 cs).map fun rest => (w.2, rest) with
  | some found => .ok found
  | none =>
    match cs with
    | '-' :: rest => unsigned true rest
    | _ => unsigned false cs

mutual

/-- A value and what follows it. The first bound limits the length, the second one the nesting. -/
def value : Nat → Nat → List Char → Except Fault (Value × List Char)
  | 0, _, _ => .error .malformed
  | n + 1, depth, cs =>
    match cs, depth with
    | '"' :: rest, _ => do
      let (s, rest) ← orMalformed (quoted? rest)
      return (.text s, rest)
    | '\x7b' :: _, 0 => .error .tooDeep
    | '\x7b' :: rest, depth + 1 =>
      match skip rest with
      | '\x7d' :: rest => .ok (.object [], rest)
      | rest => members n depth [] rest
    | '[' :: _, 0 => .error .tooDeep
    | '[' :: rest, depth + 1 =>
      match skip rest with
      | ']' :: rest => .ok (.list [], rest)
      | rest => items n depth [] rest
    | _, _ => scalar cs

def members : Nat → Nat → Fields → List Char → Except Fault (Value × List Char)
  | 0, _, _, _ => .error .malformed
  | n + 1, depth, acc, cs =>
    match cs with
    | '"' :: rest => do
      let (key, rest) ← orMalformed (quoted? rest)
      match skip rest with
      | ':' :: rest =>
        let (v, rest) ← value n depth (skip rest)
        match skip rest with
        | ',' :: rest => members n depth (acc.put key v) (skip rest)
        | '\x7d' :: rest => return (.object (acc.put key v), rest)
        | _ => throw .malformed
      | _ => throw .malformed
    | _ => .error .malformed

/-- The items of a list and what follows it; the items read so far are in reverse. -/
def items : Nat → Nat → List Value → List Char → Except Fault (Value × List Char)
  | 0, _, _, _ => .error .malformed
  | n + 1, depth, acc, cs => do
    let (v, rest) ← value n depth cs
    match skip rest with
    | ',' :: rest => items n depth (v :: acc) (skip rest)
    | ']' :: rest => return (.list (v :: acc).reverse, rest)
    | _ => throw .malformed

end

/-- The value of a whole text, or why it has none. Beside the standard form the words for values
that are no finite numbers are read; of a key that is given twice the last value counts, at the
first place. -/
def read (text : String) : Except Fault Value := do
  let cs := skip text.toList
  let (v, rest) ← value (cs.length + 1) maxDepth cs
  if (skip rest).isEmpty then return v else throw .malformed

def read? (text : String) : Option Value := (read text).toOption

end CampaignCheck.Json

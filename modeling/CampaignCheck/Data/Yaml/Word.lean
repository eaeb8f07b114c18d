import CampaignCheck.Data.Base64
import CampaignCheck.Data.Calendar
import CampaignCheck.Data.Json
import CampaignCheck.Data.Yaml.Tag
import CampaignCheck.Data.Yaml.Token

namespace CampaignCheck.Yaml

def noInteger (base : Nat) (cs : List Char) : Fault :=
  .misuse (.unreadable ("invalid literal for int() with base " ++ toString base ++ ": " ++
    String.ofList ((Text.quoted (String.ofList cs)).toList.take 200)))

def tooManyDigits (count : Nat) : Fault :=
  .misuse (.unreadable ("Exceeds the limit (" ++ toString Text.maxDigits ++
    " digits) for integer string conversion: value has " ++ toString count ++
    " digits; use sys.set_int_max_str_digits() to increase the limit"))

def digitIn? (base : Nat) (c : Char) : Option Nat :=
  ((Text.digit? c).or (Json.hex? c)).filter (· < base)

def baseMark (base : Nat) : Char := if base = 2 then 'b' else if base = 8 then 'o' else 'x'

/-- The value of digits of a base, at least one. -/
def digitsIn? (base : Nat) (cs : List Char) : Option Nat :=
  if cs.isEmpty then none
  else cs.foldl (fun n c => do return (← n) * base + (← digitIn? base c)) (some 0)

/-- The integer that a text stands for in a base other than ten. -/
def integerIn (base : Nat) (cs : List Char) : Except Fault Int :=
  let (negative, digits) := Text.splitSign (Text.trimPadding cs)
  let digits := match digits with
    | '0' :: mark :: more => if mark.toLower == baseMark base then more else digits
    | _ => digits
  match digitsIn? base digits with
  | some n => .ok (if negative then -(n : Int) else n)
  | none => .error (noInteger base cs)

/-- The integer that a text stands for in base ten. -/
def decimal (cs : List Char) : Except Fault Int :=
  match Text.integer? cs with
  | some n => .ok n
  | none =>
    match Text.digitsOf? (Text.splitSign (Text.trimPadding cs)).2 with
    | some ds => .error (tooManyDigits ds.length)
    | none => .error (noInteger 10 cs)

/-- The parts of a number in base sixty, the first ones counting most. -/
def sixties (ns : List Int) : Int := ns.foldl (fun n k => n * 60 + k) 0

/-- The whole number that a text stands for. Underscores do not count. -/
def intValue (s : String) : Except Fault Value := do
  let cs := s.toList.filter (· != '_')
  let (negative, cs') := Text.splitSign cs
  let n ←
    if cs.isEmpty then Except.error (.misuse .emptyNumber)
    else match cs' with
      | ['0'] => .ok 0
      | '0' :: 'b' :: ds => integerIn 2 ds
      | '0' :: 'x' :: ds => integerIn 16 ds
      | '0' :: ds => integerIn 8 ('0' :: ds)
      | [] => .error (.misuse .emptyNumber)
      | ds =>
        if ds.contains ':' then sixties <$> (Text.cut ':' ds).mapM decimal
        else decimal ds
  return .int (if negative then -n else n)

def scientific? (cs : List Char) : Option Float :=
  let (whole, rest) := cs.span Char.isDigit
  let (behind, rest) := match rest with
    | '.' :: rest => rest.span Char.isDigit
    | _ => ([], rest)
  let exponent : Option Int := match rest with
    | [] => some 0
    | 'e' :: rest =>
      let (negative, ds) := Text.splitSign rest
      if ds.isEmpty || !ds.all Char.isDigit then none
      else some (if negative then -(Json.digitsValue ds : Int) else Json.digitsValue ds)
    | _ => none
  if (whole ++ behind).isEmpty then none
  else exponent.map fun e => Json.floatOf (whole ++ behind) (e - (behind.length : Int))

/-- The float that a text in small letters stands for. -/
def float (cs : List Char) : Except Fault Float :=
  let (negative, word) := Text.splitSign (Text.trim cs)
  let found :=
    if ["inf", "infinity"].contains (String.ofList word) then some (1.0 / 0.0)
    else if String.ofList word == "nan" then some (0.0 / 0.0)
    else scientific? word
  match found with
  | some x => .ok (if negative then -x else x)
  | none => .error (.misuse (.unreadable
      ("could not convert string to float: " ++ Text.quoted (String.ofList cs))))

/-- The sum of parts, the first of which counts once, the next sixty times, and so on. -/
def sixtieths (total unit : Float) : List Float → Float
  | [] => total
  | x :: xs => sixtieths (total + x * unit) (unit * 60.0) xs

/-- The number with a point that a text stands for. Underscores do not count. -/
def floatValue (s : String) : Except Fault Value := do
  let cs := (Text.lower s.toList).filter (· != '_')
  let (negative, word) := Text.splitSign cs
  let x ←
    if cs.isEmpty then Except.error (.misuse .emptyNumber)
    else if word == ".inf".toList then .ok (1.0 / 0.0)
    else if word == ".nan".toList then .ok (0.0 / 0.0)
    else if word.contains ':' then
      (fun xs => sixtieths 0.0 1.0 xs.reverse) <$> (Text.cut ':' word).mapM float
    else float word
  return .float (if negative then -x else x)

def boolValue (s : String) : Except Fault Value :=
  let word := Text.lowerString s
  if onWords.contains word then .ok (.bool true)
  else if offWords.contains word then .ok (.bool false)
  else .error (.misuse (.unknownWord word))

def bytesValue (s : String) : Except Fault Value :=
  match if s.toList.all (·.toNat < 128) then Base64.decode? s.toList else none with
  | some bs => .ok (.bytes bs)
  | none => .error .malformed

/-- Something about a day or a moment is out of range. -/
def outOfRange (reason : String) : Fault := .misuse (.unreadable reason)

def checkDay (year month day : Nat) : Except Fault Unit :=
  if year = 0 then .error (outOfRange "year 0 is out of range")
  else match Calendar.daysIn? year month with
    | none => .error (outOfRange "month must be in 1..12")
    | some days =>
      if 1 ≤ day && day ≤ days then .ok () else .error (outOfRange "day is out of range for month")

def checkTime (hour minute second : Nat) : Except Fault Unit :=
  if 23 < hour then .error (outOfRange "hour must be in 0..23")
  else if 59 < minute then .error (outOfRange "minute must be in 0..59")
  else if 59 < second then .error (outOfRange "second must be in 0..59")
  else .ok ()

def checkZone (seconds : Int) : Except Fault Unit :=
  if seconds.natAbs < 86400 then .ok ()
  else
    let days := seconds / 86400
    let rest := seconds % 86400
    .error (outOfRange ("offset must be a timedelta strictly between -timedelta(hours=24) and " ++
      "timedelta(hours=24), not datetime.timedelta(days=" ++ toString days ++
      (if rest = 0 then "" else ", seconds=" ++ toString rest) ++ ")."))

open Pattern in
/-- A day, perhaps with a time, in groups: year, month, day, then those of the time. -/
def dayForm : Pattern :=
  capture 1 (twoDigits ++ twoDigits) ++ lit "-" ++ capture 2 oneOrTwo ++ lit "-" ++
    capture 3 oneOrTwo ++ opt (timeForm 4) ++ anchor .textEnd

/-- The day or moment that a text stands for. -/
def momentValue (s : String) : Except Fault Value := do
  let cs := s.toList
  match dayForm.matchStart? cs with
  | none => .error (.misuse (.lacks "NoneType" "groupdict"))
  | some m =>
    let number (n : Nat) : Nat := Json.digitsValue (m.group cs n)
    if (m.bounds? 4).isNone then
      checkDay (number 1) (number 2) (number 3)
      return .day s
    else
      let distance : Int := number 10 * 3600 + number 11 * 60
      checkZone (if m.group cs 9 == ['-'] then -distance else distance)
      checkDay (number 1) (number 2) (number 3)
      checkTime (number 4) (number 5) (number 6)
      return .moment s

/-- The value of a text with one of the tags for single values. -/
def scalarValue (tag text : String) : Except Fault Value :=
  if tag == standardTag "str" then .ok (.text text)
  else if tag == standardTag "null" then .ok .null
  else if tag == standardTag "bool" then boolValue text
  else if tag == standardTag "int" then intValue text
  else if tag == standardTag "float" then floatValue text
  else if tag == standardTag "binary" then bytesValue text
  else if tag == standardTag "timestamp" then momentValue text
  else .error .malformed

def scalarTags : List String :=
  ["str", "null", "bool", "int", "float", "binary", "timestamp"].map standardTag

end CampaignCheck.Yaml

import CampaignCheck.Data.Calendar
import CampaignCheck.Schema.Scalar

namespace CampaignCheck.Schema

/-- A text as its bytes, each in place of a character. -/
def octets (s : String) : List Char := s.toUTF8.toList.map fun b => Char.ofNat b.toNat

def twoDigits? (a b : Char) : Option Nat :=
  if a.isDigit && b.isDigit then some (Json.digitsValue [a, b]) else none

/-- The date that the bytes start with: a year of four digits, a month and a day. -/
def dateStart : List Char → Except DateFault Unit
  | a :: b :: c :: d :: s :: m :: n :: t :: x :: y :: _ =>
    if !([a, b, c, d].all Char.isDigit) then .error .badYear
    else if s ≠ '-' then .error .badSeparator
    else match twoDigits? m n with
      | none => .error .badMonth
      | some month =>
        if t ≠ '-' then .error .badSeparator
        else match twoDigits? x y with
          | none => .error .badDay
          | some day =>
            match Calendar.daysIn? (Json.digitsValue [a, b, c, d]) month with
            | none => .error .noSuchMonth
            | some days => if 1 ≤ day ∧ day ≤ days then .ok () else .error .noSuchDay
  | _ => .error .tooShort

/-- What follows the hours and minutes of an offset from universal time, if they are in range. -/
def offsetRest? (a b c d : Char) (rest : List Char) : Option (List Char) := do
  let hours ← twoDigits? a b
  let minutes ← twoDigits? c d
  if hours < 24 && minutes < 60 then some rest else none

/-- The bytes are an offset from universal time, or nothing. -/
def isOffset (cs : List Char) : Bool :=
  let behindSign : Option (List Char) :=
    match cs with
    | '+' :: rest => some rest
    | '-' :: rest => some rest
    | '\xE2' :: '\x88' :: '\x92' :: rest => some rest
    | _ => none
  match cs with
  | [] | ['Z'] | ['z'] => true
  | _ =>
    match behindSign with
    | some (a :: b :: ':' :: c :: d :: rest) => offsetRest? a b c d rest == some []
    | some (a :: b :: c :: d :: rest) => offsetRest? a b c d rest == some []
    | _ => false

/-- What follows the seconds and their fraction; none if they are not well formed. -/
def behindSeconds? : List Char → Option (List Char)
  | ':' :: a :: b :: rest => do
    let seconds ← twoDigits? a b
    if 59 < seconds then failure
    match rest with
    | c :: rest =>
      if c = '.' || c = ',' then
        if rest.takeWhile Char.isDigit |>.isEmpty then none else some (rest.dropWhile Char.isDigit)
      else some (c :: rest)
    | [] => some []
  | ':' :: _ => none
  | cs => some cs

/-- The bytes are a time of day, perhaps with an offset from universal time. -/
def isTime : List Char → Bool
  | a :: b :: ':' :: c :: d :: rest =>
    match twoDigits? a b, twoDigits? c d, behindSeconds? rest with
    | some hours, some minutes, some rest => hours < 24 && minutes < 60 && isOffset rest
    | _, _, _ => false
  | _ => false

/-- A whole number with a sign, and whether digits behind a point follow it. -/
def timestamp? (cs : List Char) : Option (Int × Bool) :=
  let (negative, digits) := Text.splitSign cs
  let (whole, rest) := digits.span Char.isDigit
  let fractional := rest.head? == some '.' && (rest.drop 1).all Char.isDigit
  if whole.isEmpty || !(rest.isEmpty || fractional) then none
  else
    let n : Int := Json.digitsValue whole
    if wordBound ≤ n then none else some (if negative then -n else n, fractional)

/-- The number of seconds is not too far from 1970. Numbers beyond a bound count milliseconds. -/
def checkTimestamp (n : Int) : Except DateFault Unit :=
  let seconds := if n.natAbs ≤ 20000000000 then n else n.fdiv 1000
  if seconds < -11676096000 then .error .tooEarly
  else if 253402300799 < seconds then .error .tooLate
  else .ok ()

/-- A date on its own, or a whole number of seconds. -/
def date (cs : List Char) : Except DateFault Unit :=
  let whole : Except DateFault Unit := do
    dateStart cs
    if 10 < cs.length then throw .moreThanDate
  match whole, timestamp? cs with
  | .ok (), _ => .ok ()
  | .error _, some (n, false) => checkTimestamp n
  | .error e, _ => .error e

/-- A date and a time of day, or a number of seconds. -/
def isDateTime (cs : List Char) : Bool :=
  let written := (dateStart cs).isOk && match cs.drop 10 with
    | sep :: rest => ['T', 't', ' ', '_'].contains sep && isTime rest
    | [] => false
  written || match timestamp? cs with
    | some (n, _) => (checkTimestamp n).isOk
    | none => false

/-- A point in time that a number stands for. -/
def momentOfInt (n : Int) : Checked Unit :=
  match checkTimestamp n with
  | .ok () => .ok ()
  | .error e => .fail (.unreadableMoment e)

/-- A float without its fraction, rounded down. -/
def floorOf (b : Decimal.Binary) : Int :=
  if b.negative && !b.isIntegral then b.truncate - 1 else b.truncate

/-- A point in time: a date with or without a time of day, or a number of seconds or milliseconds
since the start of 1970. Only whether a value is one matters here. A text that is neither a date
with a time nor a date is refused for what is wrong with it as a date. -/
def moment : Value → Checked Unit
  | .text s =>
    let cs := octets s
    if isDateTime cs then .ok ()
    else match date cs with
      | .ok () => .ok ()
      | .error e => .fail (.unreadableDate e)
  | .int n => momentOfInt n
  | .float x =>
    match Decimal.Reading.of x with
    | .finite b => momentOfInt (floorOf b)
    | .infinite negative => .fail (.unreadableMoment (if negative then .tooEarly else .tooLate))
    | .notANumber => .fail (.unreadableMoment .notANumber)
  | _ => .fail .notMoment

end CampaignCheck.Schema

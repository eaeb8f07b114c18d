namespace CampaignCheck.Schema

/-- A step on the way into a value. -/
inductive Step where
  | field (name : String)
  | item (index : Nat)
deriving DecidableEq, Repr, Inhabited

/-- Why a text or a number is no point in time. -/
inductive DateFault where
  | tooShort
  | badYear
  | badMonth
  | badDay
  | badSeparator
  | noSuchMonth
  | noSuchDay
  | moreThanDate
  | tooEarly
  | tooLate
  | notANumber
deriving DecidableEq, Repr, Inhabited

def DateFault.message : DateFault → String
  | tooShort => "input is too short"
  | badYear => "invalid character in year"
  | badMonth => "invalid character in month"
  | badDay => "invalid character in day"
  | badSeparator => "invalid date separator, expected `-`"
  | noSuchMonth => "month value is outside expected range of 1-12"
  | noSuchDay => "day value is outside expected range"
  | moreThanDate => "unexpected extra characters at the end of the input"
  | tooEarly => "dates before 1600 are not supported as unix timestamps"
  | tooLate => "dates after 9999 are not supported as unix timestamps"
  | notANumber => "NaN values not permitted"

/-- What is wrong at a place. -/
inductive Cause where
  | missing
  | notText
  /-- A text that holds half of a character. -/
  | brokenText
  | emptyText
  | notInteger
  | unreadableInteger
  | oversizedInteger
  | fractionalInteger
  | infiniteNumber
  | notBoolean
  | unreadableBoolean
  | notAbove (bound : Int)
  | below (bound : Int)
  | notAmong (names : List String)
  | notList
  | notSet
  | notRecord (record : String)
  | notMoment
  | unreadableMoment (fault : DateFault)
  | unreadableDate (fault : DateFault)
  | refused (reason : String)
  | badPattern
deriving DecidableEq, Repr, Inhabited

/-- Something wrong at a place of a value. It has a code and is explained in one sentence. -/
structure Fault where
  path : List Step
  cause : Cause
deriving DecidableEq, Repr, Inhabited

namespace Cause

def code : Cause → String
  | missing => "missing"
  | notText => "string_type"
  | brokenText => "string_unicode"
  | emptyText => "string_too_short"
  | notInteger => "int_type"
  | unreadableInteger => "int_parsing"
  | oversizedInteger => "int_parsing_size"
  | fractionalInteger => "int_from_float"
  | infiniteNumber => "finite_number"
  | notBoolean => "bool_type"
  | unreadableBoolean => "bool_parsing"
  | notAbove _ => "greater_than"
  | below _ => "greater_than_equal"
  | notAmong _ => "enum"
  | notList => "list_type"
  | notSet => "frozen_set_type"
  | notRecord _ => "model_type"
  | notMoment => "datetime_type"
  | unreadableMoment _ => "datetime_parsing"
  | unreadableDate _ => "datetime_from_date_parsing"
  | refused _ => "value_error"
  | badPattern => "value_error"

/-- Names in quotes, the last two joined by a word. -/
def choices : List String → String
  | [] => ""
  | [a] => "'" ++ a ++ "'"
  | [a, b] => "'" ++ a ++ "' or '" ++ b ++ "'"
  | a :: b :: c :: rest => "'" ++ a ++ "', " ++ choices (b :: c :: rest)

/-- The explanation of a cause; a pattern that cannot be read is not explained further. -/
def message? : Cause → Option String
  | missing => some "Field required"
  | notText => some "Input should be a valid string"
  | brokenText =>
    some "Input should be a valid string, unable to parse raw data as a unicode string"
  | emptyText => some "String should have at least 1 character"
  | notInteger => some "Input should be a valid integer"
  | unreadableInteger =>
    some "Input should be a valid integer, unable to parse string as an integer"
  | oversizedInteger =>
    some "Unable to parse input string as an integer, exceeded maximum size"
  | fractionalInteger =>
    some "Input should be a valid integer, got a number with a fractional part"
  | infiniteNumber => some "Input should be a finite number"
  | notBoolean => some "Input should be a valid boolean"
  | unreadableBoolean => some "Input should be a valid boolean, unable to interpret input"
  | notAbove n => some ("Input should be greater than " ++ toString n)
  | below n => some ("Input should be greater than or equal to " ++ toString n)
  | notAmong names => some ("Input should be " ++ choices names)
  | notList => some "Input should be a valid list"
  | notSet => some "Input should be a valid frozenset"
  | notRecord name => some ("Input should be a valid dictionary or instance of " ++ name)
  | notMoment => some "Input should be a valid datetime"
  | unreadableMoment e => some ("Input should be a valid datetime, " ++ e.message)
  | unreadableDate e => some ("Input should be a valid datetime or date, " ++ e.message)
  | refused reason => some ("Value error, " ++ reason)
  | badPattern => none

end Cause

/-- A record that was read, or everything that is wrong with it in the order of its fields. -/
inductive Checked (α : Type) where
  | ok (value : α)
  | faults (list : List Fault)
deriving Repr, Inhabited

namespace Checked

def map {α β : Type} (f : α → β) : Checked α → Checked β
  | .ok a => .ok (f a)
  | .faults fs => .faults fs

/-- Apply what was read to something else; the faults of both are kept. -/
def apply {α β : Type} : Checked (α → β) → Checked α → Checked β
  | .ok f, .ok a => .ok (f a)
  | .ok _, .faults fs => .faults fs
  | .faults fs, .ok _ => .faults fs
  | .faults fs, .faults gs => .faults (fs ++ gs)

instance : Functor Checked where
  map := map

instance : Pure Checked where
  pure := .ok

instance : Seq Checked where
  seq f a := apply f (a ())

def fail {α : Type} (cause : Cause) : Checked α := .faults [⟨[], cause⟩]

def andThen {α β : Type} : Checked α → (α → Checked β) → Checked β
  | .ok a, f => f a
  | .faults fs, _ => .faults fs

/-- Everything was read one step further into a value. -/
def within {α : Type} (step : Step) : Checked α → Checked α
  | .ok a => .ok a
  | .faults fs => .faults (fs.map fun f => { f with path := step :: f.path })

def all {α : Type} : List (Checked α) → Checked (List α)
  | [] => .ok []
  | c :: cs => apply (map List.cons c) (all cs)

end Checked

end CampaignCheck.Schema

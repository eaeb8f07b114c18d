import CampaignCheck.Pattern.Search

namespace CampaignCheck.Yaml

/-- The tag of a kind of values that every file knows. -/
def standardTag (name : String) : String := "tag:yaml.org,2002:" ++ name

/-- A word in small letters, with a capital, or in capitals. -/
def spellings (w : String) : List String := [w, w.capitalize, w.toUpper]

def onWords : List String := ["yes", "true", "on"]

def offWords : List String := ["no", "false", "off"]

open Pattern in
def signForm : Pattern := opt (one (.chars "+-"))

open Pattern in
def digitsForm : Pattern := many (one (.or .plainDigit (.char '_')))

open Pattern in
/-- Digits with underscores among them, behind a first digit. -/
def numberForm : Pattern := one .plainDigit ++ digitsForm

open Pattern in
/-- Parts of a number in base sixty, each behind a colon. -/
def sixtiesForm : Pattern :=
  many1 (lit ":" ++ opt (one (.range '0' '5')) ++ one .plainDigit)

open Pattern in
def exponentForm : Pattern :=
  opt (one (.chars "eE") ++ one (.chars "+-") ++ many1 (one .plainDigit))

open Pattern in
def floatForm : Pattern := oneOf [
  signForm ++ numberForm ++ lit "." ++ digitsForm ++ exponentForm,
  lit "." ++ numberForm ++ exponentForm,
  signForm ++ numberForm ++ sixtiesForm ++ lit "." ++ digitsForm,
  signForm ++ lit "." ++ litOf ["inf", "Inf", "INF"],
  lit "." ++ litOf ["nan", "NaN", "NAN"]]

open Pattern in
def intForm : Pattern :=
  let decimal := one (.range '1' '9') ++ digitsForm
  signForm ++ oneOf [
    lit "0b" ++ many1 (one (.chars "01_")),
    lit "0" ++ many1 (one (.or (.range '0' '7') (.char '_'))),
    lit "0",
    decimal,
    lit "0x" ++ many1 (one (.union [.plainDigit, .range 'a' 'f', .range 'A' 'F', .char '_'])),
    decimal ++ sixtiesForm]

open Pattern in
def oneOrTwo : Pattern := one .plainDigit ++ opt (one .plainDigit)

open Pattern in
def twoDigits : Pattern := one .plainDigit ++ one .plainDigit

open Pattern in
/-- A time of day with its zone, in groups from the number given on: hour, minute, second, fraction,
zone, and of the zone the sign, hours and minutes. -/
def timeForm (n : Nat) : Pattern :=
  (many1 (one (.chars " \t")) ||| one (.chars "Tt")) ++ capture n oneOrTwo ++
    lit ":" ++ capture (n + 1) twoDigits ++ lit ":" ++ capture (n + 2) twoDigits ++
    opt (lit "." ++ capture (n + 3) (many (one .plainDigit))) ++
    opt (many (one (.chars " \t")) ++ capture (n + 4) (lit "Z" |||
      (capture (n + 5) (one (.chars "+-")) ++ capture (n + 6) oneOrTwo ++
        opt (lit ":" ++ capture (n + 7) twoDigits))))

open Pattern in
/-- The forms of days and moments; a day without a time has two digits for month and day. -/
def momentForm : Pattern :=
  let year := twoDigits ++ twoDigits
  (year ++ lit "-" ++ twoDigits ++ lit "-" ++ twoDigits ++ anchor .textEnd) |||
    (year ++ lit "-" ++ oneOrTwo ++ lit "-" ++ oneOrTwo ++ timeForm 1)

/-- What a plain text stands for when the file does not say so. Numbers, switches, nothing, days and
moments are told by their form; anything else is a text. -/
def tagOf (s : String) : String :=
  let cs := s.toList
  if ((onWords ++ offWords).flatMap spellings).contains s then standardTag "bool"
  else if floatForm.matchesAll cs then standardTag "float"
  else if intForm.matchesAll cs then standardTag "int"
  else if s == "<<" then standardTag "merge"
  else if s == "" || s == "~" || (spellings "null").contains s then standardTag "null"
  else if momentForm.matchesAll cs then standardTag "timestamp"
  else if s == "=" then standardTag "value"
  else standardTag "str"

end CampaignCheck.Yaml

import CampaignCheck.Text.Blank
import CampaignCheck.Text.Casing
import CampaignCheck.Text.Quoted

namespace CampaignCheck

/-- A language that campaign code is written in. -/
inductive Dialect where
  | ampscript
  | ssjs
  | sql
  | html
  | css
  | javascript
deriving DecidableEq, Repr, Inhabited

/-- A text that names no dialect. -/
structure UnknownDialect where
  text : String
deriving DecidableEq, Repr, Inhabited

def UnknownDialect.message (e : UnknownDialect) : String :=
  Text.quoted e.text ++ " is not a valid Dialect"

namespace Dialect

def all : List Dialect := [ampscript, ssjs, sql, html, css, javascript]

def name : Dialect → String
  | ampscript => "ampscript"
  | ssjs => "ssjs"
  | sql => "sql"
  | html => "html"
  | css => "css"
  | javascript => "javascript"

def ofName? (s : String) : Option Dialect := all.find? (·.name == s)

def aliases : List (String × Dialect) :=
  [("amp", ampscript), ("server-side-javascript", ssjs), ("serverjs", ssjs), ("js", javascript),
    ("markup", html)]

/-- The dialect that a text names, whatever its case and the blanks around it. -/
def parse (s : String) : Except UnknownDialect Dialect :=
  let key := Text.lowerString (Text.trimString s)
  match aliases.lookup key, ofName? key with
  | some d, _ => .ok d
  | none, some d => .ok d
  | none, none => .error ⟨key⟩

end Dialect

end CampaignCheck

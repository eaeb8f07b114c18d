import CampaignCheck.Dialect
import CampaignCheck.Finding
import CampaignCheck.Fix.Basic

namespace CampaignCheck

/-- Something that a validator may be able to do. -/
inductive Capability where
  | validate
  | grammar
  | semantics
  | performance
  | optimization
  | fix
deriving DecidableEq, Repr, Inhabited

namespace Capability

def all : List Capability := [validate, grammar, semantics, performance, optimization, fix]

def name : Capability → String
  | validate => "validate"
  | grammar => "syntax"
  | semantics => "semantics"
  | performance => "performance"
  | optimization => "optimization"
  | fix => "fix"

def ofName? (s : String) : Option Capability := all.find? (·.name == s)

end Capability

/-- A validator was asked for something that it cannot do. -/
structure Unsupported where
  validator : String
  capability : Capability
deriving DecidableEq, Repr, Inhabited

/-- How a missing capability is reported. -/
def Unsupported.message (e : Unsupported) : String :=
  e.validator ++ " does not support '" ++ e.capability.name ++ "'"

/-- The checks, advice and fixers for sources of a dialect. -/
structure Validator where
  name : String
  title : String
  dialect : Dialect
  capabilities : List Capability
  judge : List Char → Except Unsupported Verdict
  grammar : List Char → Except Unsupported (List Finding)
  meaning : List Char → Except Unsupported (List Finding)
  cost : List Char → Except Unsupported (List Finding)
  advise : List Char → Except Unsupported (List Suggestion)
  fixers : List (String × Fixer)

namespace Validator

def supports (v : Validator) (c : Capability) : Bool := v.capabilities.contains c

def judgeByParts (grammar meaning cost : List Char → Except Unsupported (List Finding))
    (advise : List Char → Except Unsupported (List Suggestion)) (code : List Char) :
    Except Unsupported Verdict := do
  let found ← grammar code
  let more ← meaning code
  let cost ← cost code
  let advice ← advise code
  return .ofFindings (found ++ more ++ cost) advice

def complete (name title : String) (dialect : Dialect)
    (grammar meaning cost : List Char → List Finding) (advise : List Char → List Suggestion)
    (fixers : List (String × Fixer)) : Validator where
  name := name
  title := title
  dialect := dialect
  capabilities := Capability.all
  judge code := .ok (.ofFindings (grammar code ++ meaning code ++ cost code) (advise code))
  grammar code := .ok (grammar code)
  meaning code := .ok (meaning code)
  cost code := .ok (cost code)
  advise code := .ok (advise code)
  fixers := fixers

def applyFixes (v : Validator) (code : List Char) (fs : List Finding) : Fixed :=
  Fix.run v.fixers code fs

def fixedCode (v : Validator) (code : List Char) (fs : List Finding) :
    Except Unsupported (List Char) :=
  if v.supports .fix then .ok (Fix.text (v.applyFixes code fs)) else .error ⟨v.name, .fix⟩

def capabilityNames (v : Validator) : List String :=
  (v.capabilities.map Capability.name).mergeSort fun a b => decide (a ≤ b)

def describe (v : Validator) : String :=
  "<" ++ v.title ++ "(dialect=" ++ v.dialect.name ++ ", capabilities=" ++
    ",".intercalate v.capabilityNames ++ ")>"

end Validator

end CampaignCheck

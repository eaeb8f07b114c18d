import CampaignCheck.Metrics.Measure
import CampaignCheck.Rules.Table
import CampaignCheck.Validator.Registry

namespace CampaignCheck

/-- Why a source was not analysed. -/
inductive AnalysisError where
  | unsupportedDialect (text : String)
  | unsupportedCapability (missing : Unsupported)
deriving DecidableEq, Repr, Inhabited

def AnalysisError.message : AnalysisError → String
  | unsupportedDialect text => "Unsupported dialect: " ++ text
  | unsupportedCapability missing => missing.message

/-- Validators and rules. -/
structure Engine where
  registry : Registry := .builtin
  rules : RuleTable

namespace Engine

/-- The result of something that a validator may not be able to do. -/
def lift {α : Type} : Except Unsupported α → Except AnalysisError α
  | .ok a => .ok a
  | .error e => .error (.unsupportedCapability e)

def validatorOf (e : Engine) (d : Dialect) : Except AnalysisError Validator :=
  match e.registry.get? d with
  | some v => .ok v
  | none => .error (.unsupportedDialect d.name)

/-- The validator of the dialect that a text names. -/
def validator (e : Engine) (name : String) : Except AnalysisError Validator :=
  match Dialect.parse name with
  | .ok d => e.validatorOf d
  | .error _ => .error (.unsupportedDialect name)

/-- Findings on grammar and on meaning, each if the validator can tell; a validator that cannot
tell about grammar is asked for everything that it has. -/
def split (v : Validator) (code : List Char) :
    Except AnalysisError (List Finding × List Finding) :=
  if v.supports .grammar then do
    let grammar ← lift (v.grammar code)
    let meaning ← if v.supports .semantics then lift (v.meaning code) else .ok []
    return (grammar, meaning)
  else do
    let verdict ← lift (v.judge code)
    return (verdict.findings, [])

def diagnose (e : Engine) (dialect : String) (code : List Char) :
    Except AnalysisError (List Finding) := do
  let v ← e.validator dialect
  let (grammar, meaning) ← split v code
  return grammar ++ meaning

def measure (e : Engine) (dialect : String) (code : List Char) : Except AnalysisError Metrics := do
  let v ← e.validator dialect
  return Metrics.of v.dialect code

def enforce (e : Engine) (dialect : String) (code : List Char) :
    Except AnalysisError (List Violation) := do
  let v ← e.validator dialect
  return Enforce.violations e.rules v.dialect code

end Engine

end CampaignCheck

import CampaignCheck.Analysis.Engine
import CampaignCheck.Fix.Report

namespace CampaignCheck

/-- How much of an analysis is wanted. -/
inductive AnalysisLevel where
  | grammar
  | performance
  | bestPractices
  | comprehensive
deriving DecidableEq, Repr, Inhabited

namespace AnalysisLevel

/-- Every level, in the order of declaration. -/
def all : List AnalysisLevel := [grammar, performance, bestPractices, comprehensive]

def name : AnalysisLevel → String
  | grammar => "syntax"
  | performance => "performance"
  | bestPractices => "best_practices"
  | comprehensive => "comprehensive"

/-- The level asks for figures and cost. -/
def wantsCost (l : AnalysisLevel) : Bool := l == performance || l == comprehensive

/-- The level asks for rules and advice. -/
def wantsRules (l : AnalysisLevel) : Bool := l == bestPractices || l == comprehensive

end AnalysisLevel

/-- What to analyse. -/
structure AnalysisRequest where
  code : List Char
  dialect : Dialect
  level : AnalysisLevel := .comprehensive
  fixes : Bool := true
deriving DecidableEq, Repr, Inhabited

/-- The analysis of a source. -/
structure Analysis where
  dialect : Dialect
  grammar : List Finding
  meaning : List Finding
  cost : List Finding
  violations : List Violation
  advice : List Suggestion
  metrics : Option Metrics
  fixes : Option FixReport
deriving DecidableEq, Repr, Inhabited

/-- How far an analysis can be trusted, from the number of findings of each kind: the more weight
they have on average the less, but never less than a tenth. -/
def confidenceOf (grammar meaning cost : Nat) : Float :=
  let total := grammar + meaning + cost
  if total = 0 then 1.0
  else
    let weight := (Float.ofNat grammar * 0.5 + Float.ofNat meaning * 0.3 + Float.ofNat cost * 0.2) /
      Float.ofNat total
    let trust := 1.0 - weight
    if trust > 0.1 then trust else 0.1

namespace Analysis

/-- Everything found in the source. -/
def findings (a : Analysis) : List Finding :=
  a.grammar ++ a.meaning ++ a.cost ++ a.violations.map (·.toFinding)

/-- A source is valid when nothing found in it is an error. -/
def isValid (a : Analysis) : Bool := !a.findings.any (·.isError)

def fixedCode? (a : Analysis) : Option (List Char) :=
  a.fixes.bind fun r => r.edit.map (·.code)

def confidence (a : Analysis) : Float :=
  confidenceOf a.grammar.length a.meaning.length a.cost.length

def confidenceText (x : Float) : String := Decimal.fixed 6 x

end Analysis

/-- Analyse a source as far as the request asks. -/
def Engine.analyze (e : Engine) (r : AnalysisRequest) : Except AnalysisError Analysis := do
  let v ← e.validatorOf r.dialect
  let (grammar, meaning) ← split v r.code
  let cost ←
    if r.level.wantsCost && v.supports .performance then lift (v.cost r.code) else .ok []
  let advice ←
    if r.level.wantsRules && v.supports .optimization then lift (v.advise r.code) else .ok []
  let found := grammar ++ meaning
  return {
    dialect := r.dialect
    grammar := grammar
    meaning := meaning
    cost := cost
    violations := if r.level.wantsRules then Enforce.violations e.rules r.dialect r.code else []
    advice := advice
    metrics := if r.level.wantsCost then some (Metrics.of r.dialect r.code) else none
    fixes :=
      if r.fixes && !found.isEmpty && v.supports .fix then some (FixReport.build v r.code found)
      else none }

end CampaignCheck

import CampaignCheck.Finding
import CampaignCheck.Lexical.Mask

namespace CampaignCheck

/-- What a check found, and whether it broke off. -/
structure Outcome (α : Type) where
  found : List α
  brokeOff : Bool
deriving DecidableEq, Repr, Inhabited

abbrev LineCheck := Line → Outcome Finding

namespace Checks

/-- A check that never breaks off. -/
def total (f : Line → List Finding) : LineCheck := fun l => ⟨f l, false⟩

/-- Run checks side by side. One that breaks off keeps what it had found and stops nobody else. -/
def run (checks : List LineCheck) (ls : List Line) : List Finding :=
  ls.flatMap fun l => checks.flatMap fun c => (c l).found

/-- Every finding of checks that never break off, line by line. -/
def perLine (checks : List (Line → List Finding)) (ls : List Line) : List Finding :=
  run (checks.map total) ls

/-- The findings of a check on a whole source, or a default if it broke off. -/
def guarded {α : Type} (outcome : Outcome α) (default : List α) : List α :=
  if outcome.brokeOff then default else outcome.found

end Checks

end CampaignCheck

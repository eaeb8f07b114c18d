import CampaignCheck.Decimal.Binary
import CampaignCheck.Finding

namespace CampaignCheck

/-- How involved a source is. -/
structure Complexity where
  cyclomatic : Nat := 1
  cognitive : Nat := 0
  nesting : Nat := 0
  lines : Nat := 0
deriving DecidableEq, Repr, Inhabited

/-- What a source may need of memory. -/
structure Memory where
  byteHundredths : Nat := 0
  bindings : Nat := 0
  concatenations : Nat := 0
  listOperations : Nat := 0
deriving DecidableEq, Repr, Inhabited

/-- What a recommendation asks for. -/
inductive RecommendationKind where
  | refactoring
  | optimization
  | caching
deriving DecidableEq, Repr, Inhabited

def RecommendationKind.name : RecommendationKind → String
  | refactoring => "refactoring"
  | optimization => "optimization"
  | caching => "caching"

/-- What to do about a figure that is too high. -/
structure Recommendation where
  kind : RecommendationKind
  message : String
  impact : Impact
  line : Option Nat := none
deriving DecidableEq, Repr, Inhabited

/-- The figures of a source. Estimates are kept in hundredths, which is the precision that they are
reported with. -/
structure Metrics where
  complexity : Complexity := {}
  memory : Memory := {}
  milliHundredths : Nat := 0
  calls : Nat := 0
  loops : Nat := 0
  recommendations : List Recommendation := []
deriving DecidableEq, Repr, Inhabited

namespace Memory

/-- The estimated bytes with two places. -/
def bytes (m : Memory) : String := Decimal.ofUnits 2 m.byteHundredths

/-- The estimated bytes in units of 1024, with one place. -/
def kilobytes (m : Memory) : String :=
  Decimal.fixed 1 (Float.ofScientific m.byteHundredths true 2 / 1024.0)

end Memory

/-- The estimated milliseconds with two places. -/
def Metrics.millis (m : Metrics) : String := Decimal.ofUnits 2 m.milliHundredths

end CampaignCheck

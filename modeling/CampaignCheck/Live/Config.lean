import CampaignCheck.Schema.Scalar

namespace CampaignCheck

open Schema

/-- The switches of live analysis. -/
structure LiveConfig where
  debounce : Nat := 300
  validation : Bool := true
  metrics : Bool := true
  bestPractices : Bool := true
deriving DecidableEq, Repr, Inhabited

/-- New values for some of the switches. -/
structure LiveConfigUpdate where
  debounce : Option Nat := none
  validation : Option Bool := none
  metrics : Option Bool := none
  bestPractices : Option Bool := none
deriving DecidableEq, Repr, Inhabited

namespace LiveConfig

def ofFields (fs : Fields) : Checked LiveConfig :=
  LiveConfig.mk <$> withDefault fs "debounce_ms" 300 positive
    <*> withDefault fs "enable_live_validation" true switch
    <*> withDefault fs "enable_performance_metrics" true switch
    <*> withDefault fs "enable_best_practices" true switch

def fields (c : LiveConfig) : Fields :=
  [("debounce_ms", .ofNat c.debounce), ("enable_live_validation", .bool c.validation),
    ("enable_performance_metrics", .bool c.metrics),
    ("enable_best_practices", .bool c.bestPractices)]

def toValue (c : LiveConfig) : Value := .object c.fields

/-- The switches with some fields replaced; fields without a value change nothing. -/
def change (c : LiveConfig) (changes : Fields) : Checked LiveConfig :=
  ofFields ((changes.filter fun f => f.2.kind != Value.null.kind).foldl
    (fun fs f => Fields.put fs f.1 f.2) c.fields)

/-- The switches with new values for some. -/
def update (c : LiveConfig) (u : LiveConfigUpdate) : LiveConfig where
  debounce := u.debounce.getD c.debounce
  validation := u.validation.getD c.validation
  metrics := u.metrics.getD c.metrics
  bestPractices := u.bestPractices.getD c.bestPractices

end LiveConfig

namespace LiveConfigUpdate

/-- New values from the fields of an object. -/
def ofFields (fs : Fields) : Checked LiveConfigUpdate :=
  LiveConfigUpdate.mk <$> withDefault fs "debounce_ms" none (maybe positive)
    <*> withDefault fs "enable_live_validation" none (maybe switch)
    <*> withDefault fs "enable_performance_metrics" none (maybe switch)
    <*> withDefault fs "enable_best_practices" none (maybe switch)

def toValue (u : LiveConfigUpdate) : Value :=
  let flag (b : Option Bool) : Value := (b.map Value.bool).getD .null
  .object [("debounce_ms", .ofNat? u.debounce), ("enable_live_validation", flag u.validation),
    ("enable_performance_metrics", flag u.metrics), ("enable_best_practices", flag u.bestPractices)]

end LiveConfigUpdate

end CampaignCheck

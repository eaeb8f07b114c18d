import CampaignCheck.Finding
import CampaignCheck.Text.Lines

namespace CampaignCheck

/-- A new form of a line for a finding; none leaves the line as it is. -/
abbrev Fixer := List Char → Finding → Option (List Char)

/-- A change that was made. -/
structure FixChange where
  rule : String
  message : String
  line : Nat
deriving DecidableEq, Repr, Inhabited

/-- Fixed lines, the changes made from top to bottom, and the rules that have no fixer. -/
structure Fixed where
  lines : List (List Char)
  changes : List FixChange
  skipped : List String
deriving DecidableEq, Repr, Inhabited

namespace Fix

/-- The text with the characters at some offsets replaced. -/
def substituteFrom (positions : List Nat) (new : List Char) : Nat → List Char → List Char
  | _, [] => []
  | i, c :: cs =>
    (if positions.contains i then new else [c]) ++ substituteFrom positions new (i + 1) cs

/-- The text with the characters at some offsets replaced. -/
def substitute (positions : List Nat) (new : List Char) (cs : List Char) : List Char :=
  substituteFrom positions new 0 cs

def notBefore (a b : Finding) : Bool :=
  decide (b.line < a.line) || (a.line == b.line && decide (b.column.getD 0 ≤ a.column.getD 0))

/-- The findings from the last place to the first, those of one place in their own order. -/
def order (fs : List Finding) : List Finding := fs.mergeSort notBefore

def firstPerLine : List (String × Nat) → List Finding → List Finding
  | _, [] => []
  | seen, f :: fs =>
    if seen.contains (f.rule, f.line) then firstPerLine seen fs
    else f :: firstPerLine ((f.rule, f.line) :: seen) fs

/-- Change the line of one finding; the changes made so far are kept newest first. -/
def step (fixers : List (String × Fixer)) (s : Fixed) (f : Finding) : Fixed :=
  match fixers.lookup f.rule with
  | none => if s.skipped.contains f.rule then s else { s with skipped := s.skipped ++ [f.rule] }
  | some fixer =>
    if f.line = 0 then s
    else match s.lines[f.line - 1]? with
      | none => s
      | some old =>
        match fixer old f with
        | none => s
        | some new =>
          if new = old then s
          else { s with
            lines := s.lines.set (f.line - 1) new
            changes :=
              ⟨f.rule, (f.hint.filter (!·.isEmpty)).getD f.message, f.line⟩ :: s.changes }

/-- Fix lines for findings, taken from the last place of the source to the first, each rule once per
line, so that no change moves the line of another finding. -/
def run (fixers : List (String × Fixer)) (code : List Char) (fs : List Finding) : Fixed :=
  (firstPerLine [] (order fs)).foldl (step fixers) ⟨Text.lines code, [], []⟩

def text (s : Fixed) : List Char := Text.unlines s.lines

end Fix

end CampaignCheck

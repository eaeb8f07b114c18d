import CampaignCheck.Proofs.Ampscript.Comparisons
import CampaignCheck.Proofs.Javascript.Comparisons
import CampaignCheck.Proofs.Text.Inserted

namespace CampaignCheck

open Text

namespace Text

/-- Repeating equals signs is putting equals signs behind them. -/
theorem stretch_eq_inserted {k : Nat → Nat} {cs : List Char} (h : Elastic k cs) :
    stretch k cs = inserted (fun j => List.replicate (k j) '=') cs := by
  induction cs generalizing k with
  | nil => rfl
  | cons c cs ih =>
    have hrest := ih (k := fun j => k (j + 1)) fun j hj => h (j + 1) hj
    rw [stretch, inserted, hrest, List.replicate_succ, List.cons_append]
    by_cases hzero : k 0 = 0
    · rw [hzero]
      rfl
    · obtain rfl : c = '=' := Option.some.inj (h 0 (Nat.pos_of_ne_zero hzero))
      rfl

theorem zip_inserted {α : Type} (add : Nat → List α) {as bs : List α}
    (h : as.length = bs.length) : (inserted add as).zip (inserted add bs) =
      inserted (fun j => (add j).zip (add j)) (as.zip bs) := by
  induction as generalizing add bs with
  | nil => rfl
  | cons a as ih =>
    cases bs with
    | nil => cases h
    | cons b bs =>
      have hrest := ih (fun j => add (j + 1)) (Nat.succ.inj h)
      rw [inserted, inserted, List.zip_cons_cons, List.zip_append rfl, hrest, List.zip_cons_cons,
        inserted]

end Text

namespace Mask

/-- The characters of a line that its masked form shows as blanks. -/
def hidden (line masked : List Char) : List Char :=
  ((line.zip masked).filter fun p => p.1 != p.2).map Prod.fst

/-- What is put into a line and its masked form alike hides nothing and uncovers nothing. -/
theorem hidden_inserted (add : Nat → List Char) {line masked : List Char}
    (h : line.length = masked.length) :
    hidden (inserted add line) (inserted add masked) = hidden line masked := by
  have hnone : ∀ j, ∀ p ∈ (add j).zip (add j), (p.1 != p.2) = false := by
    intro j p hp
    rw [List.zip_eq_zipWith, List.zipWith_self] at hp
    obtain ⟨a, -, rfl⟩ := List.mem_map.mp hp
    exact bne_self_eq_false a
  rw [hidden, zip_inserted add h, filter_inserted hnone, hidden]

end Mask

namespace Fix

/-- A fixer of operators: the dialect its lines are masked in, which equals signs of a masked line
it looks for, and how many it puts behind each. -/
structure SignFixer where
  dialect : Dialect
  fix : Fixer
  signs : List Char → List Nat
  more : Nat

namespace SignFixer

def masked (x : SignFixer) (line : List Char) : List Char := Mask.alone (.of x.dialect) line

/-- How many signs are put behind each character of a masked line. -/
def counts (x : SignFixer) (masked : List Char) (j : Nat) : Nat :=
  if j ∈ x.signs masked then x.more else 0

/-- The signs that are put behind each character of a masked line. -/
def added (x : SignFixer) (masked : List Char) (j : Nat) : List Char :=
  List.replicate (x.counts masked j) '='

theorem counts_of_mem {x : SignFixer} {masked : List Char} {j : Nat} (h : j ∈ x.signs masked) :
    x.counts masked j = x.more := if_pos h

theorem mem_of_counts_ne {x : SignFixer} {masked : List Char} {j : Nat}
    (h : x.counts masked j ≠ 0) : j ∈ x.signs masked := by
  by_contra hnot
  exact h (if_neg hnot)

/-- What the fixer does: it repeats the signs it looks for, if there are any, and of the signs in a
line that has been fixed it looks for none but such as were not repeated. -/
structure Sound (x : SignFixer) : Prop where
  more_pos : 0 < x.more
  fix_eq : ∀ line f, x.fix line f =
    if x.signs (x.masked line) = [] then none
    else some (stretch (x.counts (x.masked line)) line)
  sign : ∀ masked, ∀ j ∈ x.signs masked, masked[j]? = some '='
  left : ∀ masked, Pliant (x.counts masked) masked →
    ∀ pos ∈ x.signs (stretch (x.counts masked) masked),
      ∃ j ∈ x.signs masked, x.counts masked j = 0

section Sound

variable {x : SignFixer} (h : x.Sound)
include h

theorem Sound.elastic (masked : List Char) : Elastic (x.counts masked) masked :=
  fun j hj => h.sign masked j (mem_of_counts_ne (Nat.ne_of_gt hj))

theorem Sound.elastic_line (line : List Char) : Elastic (x.counts (x.masked line)) line :=
  fun j hj => Mask.equals_of_inside (c := .code) (h.elastic (x.masked line) j hj)

theorem Sound.masked_stretch (line : List Char) :
    x.masked (stretch (x.counts (x.masked line)) line) =
      stretch (x.counts (x.masked line)) (x.masked line) :=
  Mask.inside_stretch (Lexicon.of_skipsBlanks _) (Lexicon.of_ignoresPliant _) (c := .code) trivial
    (h.elastic_line line).pliant

theorem Sound.gone (masked : List Char) : x.signs (stretch (x.counts masked) masked) = [] := by
  refine List.eq_nil_iff_forall_not_mem.mpr fun pos hpos => ?_
  obtain ⟨j, hj, hzero⟩ := h.left masked (h.elastic masked).pliant pos hpos
  rw [counts_of_mem hj] at hzero
  exact Nat.ne_of_gt h.more_pos hzero

theorem Sound.eq_stretch {line r : List Char} {f : Finding} (hr : x.fix line f = some r) :
    r = stretch (x.counts (x.masked line)) line := by
  rw [h.fix_eq] at hr
  split_ifs at hr
  exact (Option.some.inj hr).symm

end Sound

end SignFixer

/-- Strict comparisons in browser scripts. -/
def equalityFixer : SignFixer := ⟨.javascript, Javascript.fixEquality, Javascript.looseSigns, 1⟩

/-- Comparisons in the place of assignments, with an operator of equals signs. -/
def conditionFixer (operator : String) (more : Nat) : SignFixer :=
  ⟨.ssjs, Script.fixCondition operator, Script.firstAssigned, more⟩

def comparisonFixer : SignFixer := ⟨.ampscript, Ampscript.fixComparison, Ampscript.firstCompared, 1⟩

def signFixers : List SignFixer :=
  [equalityFixer, conditionFixer "==" 1, conditionFixer "===" 2, comparisonFixer]

open SignFixer

theorem equalityFixer_sound : equalityFixer.Sound where
  more_pos := Nat.one_pos
  fix_eq := Javascript.fixEquality_eq
  sign _ _ := Javascript.sign_of_mem_looseSigns
  left masked hk pos hpos := by
    obtain ⟨p, hloose, -⟩ := Javascript.mem_looseSigns.mp hpos
    -- a sign is repeated only as the second one of a comparison
    have hdouble (i : Nat) (hi : equalityFixer.counts masked i = 1) :
        Pattern.preceded (.chars "=!<>") masked i = true := by
      obtain ⟨q, hq, rfl⟩ := Javascript.mem_looseSigns.mp
        (mem_of_counts_ne (x := equalityFixer) (hi ▸ Nat.one_ne_zero))
      exact Javascript.sees_sign hq.first
    obtain ⟨i, hi, hzero⟩ := hloose.of_stretch hk fun i hi _ => hdouble i hi
    exact ⟨i + 1, Javascript.mem_looseSigns.mpr ⟨i, hi, rfl⟩, hzero⟩

theorem conditionFixer_sound {operator : String} {more : Nat}
    (hoperator : operator.toList = List.replicate (more + 1) '=') (hmore : 0 < more) :
    (conditionFixer operator more).Sound where
  more_pos := hmore
  fix_eq line f := by
    have hsigns : ∀ j ∈ Script.firstAssigned (Mask.alone (.of .ssjs) line), (line)[j]? = some '=' :=
      fun j hj => Mask.equals_of_inside (Script.mem_firstAssigned.mp hj).sign
    exact (Script.fixCondition_eq operator line f).trans
      (by rw [Script.substitute_eq_stretch hoperator hsigns]; rfl)
  sign _ _ hj := (Script.mem_firstAssigned.mp hj).sign
  left masked hk pos hpos := by
    obtain ⟨j, hj, hzero⟩ := (Script.mem_firstAssigned.mp hpos).of_stretch hk
    exact ⟨j, Script.mem_firstAssigned.mpr hj, hzero⟩

theorem comparisonFixer_sound : comparisonFixer.Sound where
  more_pos := Nat.one_pos
  fix_eq line f := by
    have hsigns : ∀ j ∈ Ampscript.firstCompared (Mask.alone (.of .ampscript) line),
        (line)[j]? = some '=' :=
      fun j hj => Mask.equals_of_inside (Ampscript.mem_firstCompared.mp hj).sign
    exact (Ampscript.fixComparison_eq_substitute line f).trans
      (by rw [Script.substitute_eq_stretch (m := 1) rfl hsigns]; rfl)
  sign _ _ hj := (Ampscript.mem_firstCompared.mp hj).sign
  left masked hk pos hpos := by
    obtain ⟨j, hj, hzero⟩ := (Ampscript.mem_firstCompared.mp hpos).of_stretch hk
    exact ⟨j, Ampscript.mem_firstCompared.mpr hj, hzero⟩

theorem signFixers_sound {x : SignFixer} (hx : x ∈ signFixers) : x.Sound := by
  simp only [signFixers, List.mem_cons, List.not_mem_nil, or_false] at hx
  rcases hx with rfl | rfl | rfl | rfl
  · exact equalityFixer_sound
  · exact conditionFixer_sound rfl Nat.one_pos
  · exact conditionFixer_sound rfl Nat.two_pos
  · exact comparisonFixer_sound

/-- A fixer of operators only puts equals signs into its line, right behind signs that the masked
line has as well, and into the masked line it puts the same: what masking hides of the line is not
touched. Then there is nothing left to be fixed, whatever the finding. -/
theorem operators_only_extended {x : SignFixer} (hx : x ∈ signFixers) {line r : List Char}
    {f : Finding} (hr : x.fix line f = some r) :
    let masked := x.masked line
    (∀ j ∈ x.signs masked, (line)[j]? = some '=' ∧ masked[j]? = some '=') ∧
      r = inserted (x.added masked) line ∧ x.masked r = inserted (x.added masked) masked ∧
      Mask.hidden r (x.masked r) = Mask.hidden line masked ∧
      x.signs (x.masked r) = [] ∧ ∀ g, x.fix r g = none := by
  intro masked
  have hsound := signFixers_sound hx
  obtain rfl := hsound.eq_stretch hr
  have hline := stretch_eq_inserted (hsound.elastic_line line)
  have hmasked := (hsound.masked_stretch line).trans (stretch_eq_inserted (hsound.elastic masked))
  have hgone : x.signs (x.masked (stretch (x.counts masked) line)) = [] := by
    rw [hsound.masked_stretch line]
    exact hsound.gone masked
  refine ⟨fun j hj => ?_, hline, hmasked, ?_, hgone, fun g => ?_⟩
  · have hsign := hsound.sign masked j hj
    exact ⟨Mask.equals_of_inside (c := .code) hsign, hsign⟩
  · rw [hmasked, hline]
    exact Mask.hidden_inserted _ (Mask.inside_shows _ .code line).length_eq.symm
  · rw [hsound.fix_eq, if_pos hgone]

/-- Two comparisons are made strict; one in a literal and one in a comment stay. -/
theorem operators_only_extended_beside_literal :
    let line := "if (a == \"b == c\" /* == */ && d != e) f();".toList
    let r := "if (a === \"b == c\" /* == */ && d !== e) f();".toList
    let f := Finding.report 1 none "js-strict-equality" "" .semantic .warning ""
    equalityFixer ∈ signFixers ∧ equalityFixer.fix line f = some r ∧
      Mask.hidden r (equalityFixer.masked r) = Mask.hidden line (equalityFixer.masked line) ∧
      ∀ g, equalityFixer.fix r g = none := by
  intro line r f
  have hmem : equalityFixer ∈ signFixers := List.mem_cons_self
  have hr : equalityFixer.fix line f = some r := by decide +kernel
  obtain ⟨-, -, -, hhidden, -, hnone⟩ := operators_only_extended hmem hr
  exact ⟨hmem, hr, hhidden, hnone⟩

end Fix

end CampaignCheck

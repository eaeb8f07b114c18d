import CampaignCheck.Proofs.Ampscript.Rounds
import CampaignCheck.Proofs.Fix.Idempotence
import CampaignCheck.Proofs.Text.Positions
import Mathlib.Data.List.Nodup

namespace CampaignCheck

/-- A round of fixes for what the checks of grammar and meaning find in a source. -/
def Validator.fixRound (v : Validator) (code : List Char) : Except Unsupported Fixed := do
  let found ← v.grammar code
  let more ← v.meaning code
  return v.applyFixes code (found ++ more)

/-- The finding of a rule that has its turn in a line is the rightmost one. -/
theorem Fix.column_le_of_mem_turnsOn {fs : List Finding} {number : Nat} {f g : Finding}
    (hg : g ∈ turnsOn fs number) (hf : f ∈ fs) (hline : f.line = number)
    (hrule : f.rule = g.rule) : f.column.getD 0 ≤ g.column.getD 0 := by
  unfold turnsOn at hg
  have hmem : f ∈ (fs.filter fun f => decide (f.line = number)).mergeSort fun f g =>
      decide (g.column.getD 0 ≤ f.column.getD 0) := by
    rw [List.mem_mergeSort, List.mem_filter]
    exact ⟨hf, decide_eq_true hline⟩
  have hsorted : ((fs.filter fun f => decide (f.line = number)).mergeSort fun f g =>
      decide (g.column.getD 0 ≤ f.column.getD 0)).Pairwise fun f g =>
        g.column.getD 0 ≤ f.column.getD 0 :=
    (List.pairwise_mergeSort column_trans column_total _).imp of_decide_eq_true
  generalize (fs.filter fun f => decide (f.line = number)).mergeSort
    (fun f g => decide (g.column.getD 0 ≤ f.column.getD 0)) = as at hg hmem hsorted
  have hfirst : g ∈ (firstByKey (·.rule) [] as).filter fun a => decide (a.rule = g.rule) := by
    rw [List.mem_filter]
    exact ⟨hg, decide_eq_true rfl⟩
  rw [filter_firstByKey, Option.mem_toList, List.find?_eq_some_iff_append] at hfirst
  obtain ⟨-, before, behind, rfl, hbefore⟩ := hfirst
  rcases List.mem_append.mp hmem with hmem | hmem
  · have hother := hbefore f hmem
    simp [hrule] at hother
  · rcases List.mem_cons.mp hmem with rfl | hmem
    · exact Nat.le_refl _
    · exact List.rel_of_pairwise_cons (List.pairwise_append.mp hsorted).2.1 hmem

/-- A line for which one finding has something to do. -/
theorem Fix.foldl_rewrite_of_one {fixers : List (String × Fixer)} {gs : List Finding} {g : Finding}
    {line new : List Char} (hg : g ∈ gs) (hnodup : (gs.map (·.rule)).Nodup)
    (hbefore : ∀ h : Finding, h.rule ≠ g.rule → rewrite fixers line h = line)
    (hnew : rewrite fixers line g = new)
    (hbehind : ∀ h : Finding, h.rule ≠ g.rule → rewrite fixers new h = new) :
    gs.foldl (rewrite fixers) line = new := by
  obtain ⟨as, bs, rfl⟩ := List.append_of_mem hg
  rw [List.map_append, List.map_cons, List.nodup_middle, List.nodup_cons,
    ← List.map_append] at hnodup
  have hother (h : Finding) (hh : h ∈ as ++ bs) : h.rule ≠ g.rule :=
    fun hsame => hnodup.1 (List.mem_map.mpr ⟨h, hh, hsame⟩)
  rw [List.foldl_append, List.foldl_cons,
    foldl_stays fun h hh => hbefore h (hother h (List.mem_append_left bs hh)), hnew]
  exact foldl_stays fun h hh => hbehind h (hother h (List.mem_append_right as hh))

namespace Ampscript

open Text

section Rounds

variable {texts : Nat → List Char} (hnext : ∀ n, texts (n + 1) = fixedText (texts n))
include hnext

theorem lines_texts (n : Nat) : lines (texts (n + 1)) = fixedLines (texts n) := by
  rw [hnext, lines_fixedText]

/-- The rounds in which some line is changed are paid for by the burden of the first text and by the
rounds that open a block. The first round may also drop carriage returns. -/
theorem rounds_le (n : Nat) (hmoves : ∀ m < n, texts (m + 1) ≠ texts m) :
    n + burden (lines (texts n)) ≤ burden (lines (texts 0)) + 1 +
      2 * (List.range n).countP fun m => roundOpens (texts m) := by
  induction n with
  | zero => simp
  | succ n ih =>
    have hbefore := ih fun m hm => hmoves m (Nat.lt_succ_of_lt hm)
    rw [List.range_succ, List.countP_append, List.countP_singleton, lines_texts hnext]
    cases hopens : roundOpens (texts n) with
    | true =>
      have hmore := burden_fixedLines_le (texts n)
      simp only [if_true]
      omega
    | false =>
      simp only [Bool.false_eq_true, if_false, Nat.add_zero]
      by_cases hsame : fixedLines (texts n) = lines (texts n)
      · cases n with
        | zero =>
          rw [hsame, List.range_zero, List.countP_nil]
          omega
        | succ n =>
          refine absurd ?_ (hmoves (n + 1) (Nat.lt_succ_self _))
          rw [hnext, fixedText, hsame, lines_texts hnext, hnext n, fixedText]
      · have hless := burden_fixedLines_lt hopens hsame
        omega

theorem rests_iff : (∃ n, texts (n + 1) = texts n) ↔
    ∃ n, ∀ m ≥ n, roundOpens (texts m) = false := by
  constructor
  · rintro ⟨n, hrest⟩
    have hsame (k : Nat) : texts (n + k) = texts n := by
      induction k with
      | zero => rfl
      | succ k ih => rw [← Nat.add_assoc, hnext, ih, ← hnext, hrest]
    have hquiet : roundOpens (texts n) = false := by
      by_contra hopens
      rw [Bool.not_eq_false] at hopens
      refine fixedLines_ne hopens ?_
      rw [← lines_texts hnext, hrest]
    refine ⟨n, fun m hm => ?_⟩
    obtain ⟨k, rfl⟩ := Nat.exists_eq_add_of_le hm
    rw [hsame, hquiet]
  · rintro ⟨n, hquiet⟩
    by_contra hmoves
    -- All rounds that open a block are among the first `n`.
    have hopening (k : Nat) : (List.range (n + k)).countP (fun m => roundOpens (texts m)) ≤ n := by
      induction k with
      | zero => exact Nat.le_trans List.countP_le_length (Nat.le_of_eq List.length_range)
      | succ k ih =>
        rw [← Nat.add_assoc, List.range_succ, List.countP_append, List.countP_singleton,
          hquiet _ (Nat.le_add_right n k)]
        exact ih
    have hpaid := rounds_le hnext (n + (burden (lines (texts 0)) + n + 2))
      fun m _ hrest => hmoves ⟨m, hrest⟩
    have hfew := hopening (burden (lines (texts 0)) + n + 2)
    omega

end Rounds

/-- Starts of blocks in front of two ends. -/
def stacked : Nat → List Char
  | 0 => [']', '%', '%', ']', '%', '%']
  | n + 1 => '%' :: '%' :: '[' :: ' ' :: stacked n

theorem mem_stacked {n : Nat} {c : Char} (h : c ∈ stacked n) : c ∈ [']', '%', '[', ' '] := by
  induction n with
  | zero =>
    simp only [stacked, List.mem_cons] at h ⊢
    tauto
  | succ n ih =>
    simp only [stacked, List.mem_cons] at h ih ⊢
    tauto

theorem isLine_stacked (n : Nat) : IsLine (stacked n) :=
  ⟨fun h => absurd (mem_stacked h) (by decide),
    fun h => absurd (mem_stacked (List.mem_of_getLast? h)) (by decide)⟩

theorem drop_stacked (n : Nat) : (stacked n).drop (4 * n + 3) = "]%%".toList := by
  induction n with
  | zero => rfl
  | succ n ih =>
    have hplace : 4 * (n + 1) + 3 = 4 + (4 * n + 3) := by omega
    rw [hplace, ← List.drop_drop]
    exact ih

/-- The last of the findings is on an end of a block at a column, the others point before it. -/
def EndsAt (p : Nat) (fs : List Finding) : Prop :=
  ∃ (before : List Finding) (f : Finding), fs = before ++ [f] ∧
    f.rule = "ampscript-delimiters" ∧ f.line = 1 ∧ f.column = some p ∧
    ∀ g ∈ before, g.column.getD 0 < p

theorem regionChars_stacked (raw : List Char) (i opened n : Nat) :
    (regionChars raw 1 i [] (.block opened) (stacked n)).2.1 = .outside ∧
      EndsAt (i + (4 * n + 3)) (regionChars raw 1 i [] (.block opened) (stacked n)).2.2 := by
  induction n generalizing i with
  | zero => exact ⟨rfl, [], _, rfl, rfl, rfl, rfl, by simp⟩
  | succ n ih =>
    obtain ⟨hzone, before, f, hsplit, hrule, hline, hcolumn, hbefore⟩ := ih (i + 4)
    have hplace : i + 4 + (4 * n + 3) = i + (4 * (n + 1) + 3) := by omega
    rw [hplace] at hcolumn hbefore
    refine ⟨hzone, delimiterIssue 1 i "ampscript-delimiters" _ _ :: before, f,
      congrArg (_ :: ·) hsplit, hrule, hline, hcolumn, ?_⟩
    refine List.forall_mem_cons.mpr ⟨?_, hbefore⟩
    exact Nat.lt_add_of_pos_right (Nat.succ_pos _)

theorem regionLines_stacked (n : Nat) :
    (regionLines 1 .outside [stacked n]).2.1 = .outside ∧
      EndsAt (4 * n + 3) (regionLines 1 .outside [stacked n]).2.2 := by
  have hone : (regionLines 1 .outside [stacked n]).2.1 =
        (regionChars (stacked n) 1 0 [] .outside (stacked n)).2.1 ∧
      (regionLines 1 .outside [stacked n]).2.2 =
        (regionChars (stacked n) 1 0 [] .outside (stacked n)).2.2 :=
    ⟨rfl, List.append_nil _⟩
  rw [hone.1, hone.2]
  cases n with
  | zero => exact ⟨rfl, [_], _, rfl, rfl, rfl, rfl, by simp [delimiterIssue, Finding.report]⟩
  | succ n =>
    obtain ⟨hzone, hissues⟩ := regionChars_stacked (stacked (n + 1)) 4 1 n
    have hplace : 4 + (4 * n + 3) = 4 * (n + 1) + 3 := by omega
    rw [hplace] at hissues
    exact ⟨hzone, hissues⟩

theorem isTemplate_stacked (n : Nat) : isTemplate [stacked n] = true := by
  have hsimple : Pattern.Simple delimiter := by
    simp only [delimiter, Pattern.litOf, Pattern.oneOf, Pattern.lit, List.map]
    repeat' constructor
  rw [isTemplate, unlines_singleton, Bool.or_eq_true]
  refine .inl ((Pattern.occursIn_iff hsimple).mpr ⟨0, Nat.zero_le _, ?_⟩)
  cases n with
  | zero => rfl
  | succ n => rfl

theorem issues_stacked (n : Nat) : EndsAt (4 * n + 3) (Regions.of [stacked n]).issues := by
  obtain ⟨hzone, hissues⟩ := regionLines_stacked n
  rw [Regions.of, isTemplate_stacked]
  simpa [hzone] using hissues

theorem lines_stacked (n : Nat) : lines (stacked n) = [stacked n] := by
  have hline := lines_unlines (List.cons_ne_nil _ _)
    (List.forall_mem_singleton.mpr (isLine_stacked n))
  rwa [unlines_singleton] at hline

theorem rewrite_stacked {n : Nat} {f : Finding} (hrule : f.rule = "ampscript-delimiters")
    (hcolumn : f.column = some (4 * n + 3)) :
    Fix.rewrite fixers (stacked n) f = stacked (n + 1) := by
  rw [rewrite_delimiters hrule, fixDelimiters, hcolumn]
  simp only [drop_stacked]
  rfl

/-- The end of a block that has its turn is the last one. -/
theorem exists_turn_stacked (n : Nat) : ∃ g ∈ Fix.turnsOn (checks (stacked n)) 1,
    g.rule = "ampscript-delimiters" ∧ g.column = some (4 * n + 3) := by
  obtain ⟨before, f, hissues, hrule, hline, hcolumn, hbefore⟩ := issues_stacked n
  rw [← lines_stacked n] at hissues
  have hf : f ∈ checks (stacked n) := by
    simp only [checks, grammarFindings, Source.of, hissues, List.mem_append]
    simp
  obtain ⟨g, hg, hgrule⟩ := Fix.exists_mem_turnsOn hf
  rw [hline] at hg
  have hle := Fix.column_le_of_mem_turnsOn hg hf hline hgrule.symm
  rw [hcolumn, Option.getD_some] at hle
  refine ⟨g, hg, hgrule.trans hrule, ?_⟩
  rcases mem_issues_of_mem_checks (Fix.of_mem_turnsOn hg).1 with hmem | helse
  · rw [hissues, List.mem_append, List.mem_singleton] at hmem
    rcases hmem with hmem | rfl
    · exact absurd (hbefore g hmem) (Nat.not_lt.mpr hle)
    · exact hcolumn
  · exact absurd (hgrule.trans hrule) helse.1

theorem fixedLine_stacked (n : Nat) : fixedLine (stacked n) (stacked n, 1) = stacked (n + 1) := by
  obtain ⟨g, hg, hrule, hcolumn⟩ := exists_turn_stacked n
  have hsign (n : Nat) : '=' ∉ stacked n := fun h => absurd (mem_stacked h) (by decide)
  have hother (n : Nat) (h : Finding) (hh : h.rule ≠ g.rule) :
      Fix.rewrite fixers (stacked n) h = stacked n := by
    rw [hrule] at hh
    exact rewrite_of_not_mem (hsign n) hh
  exact Fix.foldl_rewrite_of_one hg (nodup_map_firstByKey _ _ _) (hother n)
    (rewrite_stacked hrule hcolumn) (hother (n + 1))

theorem fixedText_stacked (n : Nat) : fixedText (stacked n) = stacked (n + 1) := by
  rw [fixedText, fixedLines_eq, lines_stacked]
  exact (unlines_singleton _).trans (fixedLine_stacked n)

end Ampscript

/-- Repeated fixing of a template comes to rest if and only if no block is opened from some round
on. Until it rests, it takes no more rounds than four for each character of the template, two, and
two for each round that opens a block. -/
theorem fixing_rests_iff (code : List Char) :
    ∃ (texts : Nat → List Char) (rounds : Nat → Fixed), texts 0 = code ∧
      (∀ n, ampscriptValidator.fixRound (texts n) = .ok (rounds n) ∧
        ampscriptValidator.fixPass (texts n) = .ok (texts (n + 1))) ∧
      (∀ n, (∀ m < n, texts (m + 1) ≠ texts m) → n ≤ 4 * code.length + 2 +
        2 * (List.range n).countP fun m => (rounds m).changes.any Ampscript.opensBlock) ∧
      ((∃ n, texts (n + 1) = texts n) ↔
        ∃ n, ∀ m ≥ n, (rounds m).changes.any Ampscript.opensBlock = false) := by
  obtain ⟨texts, hfirst, hnext⟩ : ∃ texts : Nat → List Char, texts 0 = code ∧
      ∀ n, texts (n + 1) = Ampscript.fixedText (texts n) :=
    ⟨fun n => Ampscript.fixedText^[n] code, rfl, fun n => Function.iterate_succ_apply' _ n code⟩
  refine ⟨texts, fun n => Fix.run Ampscript.fixers (texts n) (Ampscript.checks (texts n)), hfirst,
    fun n => ⟨rfl, ?_⟩, fun n hmoves => ?_, Ampscript.rests_iff hnext⟩
  · rw [hnext]
    rfl
  · have hpaid := Ampscript.rounds_le hnext n hmoves
    have hburden := Ampscript.burden_lines_le code
    rw [hfirst] at hpaid
    exact Nat.le_trans (Nat.le_trans (Nat.le_add_right _ _) hpaid)
      (Nat.add_le_add_right (Nat.succ_le_succ hburden) _)

/-- Repeated fixing does not come to rest for two ends of a block in a line. -/
theorem fixing_never_rests : ¬ ∃ texts : Nat → List Char, texts 0 = "]%%]%%".toList ∧
    (∀ n, ampscriptValidator.fixPass (texts n) = .ok (texts (n + 1))) ∧
    ∃ n, texts (n + 1) = texts n := by
  rintro ⟨texts, hfirst, hnext, n, hrest⟩
  have hall (n : Nat) : texts n = Ampscript.stacked n := by
    induction n with
    | zero => exact hfirst.trans (by decide)
    | succ n ih =>
      have hpass : ampscriptValidator.fixPass (texts n) =
          .ok (Ampscript.fixedText (texts n)) := rfl
      rw [hnext, ih, Ampscript.fixedText_stacked, Except.ok.injEq] at hpass
      exact hpass
  rw [hall, hall] at hrest
  have hlength := congrArg List.length hrest
  simp only [Ampscript.stacked, List.length_cons] at hlength
  omega

end CampaignCheck

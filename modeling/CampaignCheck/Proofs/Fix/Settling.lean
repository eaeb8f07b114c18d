import CampaignCheck.Proofs.Fix.Locality
import CampaignCheck.Proofs.Lexical.Contexts
import CampaignCheck.Proofs.Text.Positions

namespace CampaignCheck

/-- A line as the lines of a source are. -/
structure Text.IsLine (line : List Char) : Prop where
  feed : '\n' ∉ line
  last : line.getLast? ≠ some '\r'

theorem Text.IsLine.stretch {line : List Char} (h : IsLine line) (k : Nat → Nat) :
    IsLine (stretch k line) :=
  ⟨mem_stretch.not.mpr h.feed, by rw [getLast?_stretch]; exact h.last⟩

theorem Text.isLine_of_mem_lines {cs line : List Char} (h : line ∈ lines cs) : IsLine line := by
  refine ⟨not_mem_of_mem_lines h, fun hlast => ?_⟩
  obtain ⟨raw, -, rfl⟩ := List.mem_map.mp h
  rw [dropEndWhile, List.getLast?_reverse] at hlast
  have hhead := List.head?_dropWhile_not (· == '\r') raw.reverse
  simp [hlast] at hhead

theorem Text.dropReturns_eq_self_iff {l : List Char} :
    dropEndWhile (· == '\r') l = l ↔ l.getLast? ≠ some '\r' := by
  refine List.rdropWhile_eq_self_iff.trans ?_
  by_cases hne : l = []
  · simp [hne]
  · simp [hne, List.getLast?_eq_some_getLast hne]

theorem Text.lines_unlines {ls : List (List Char)} (hne : ls ≠ []) (h : ∀ l ∈ ls, IsLine l) :
    lines (unlines ls) = ls := by
  rw [lines, cut_unlines hne fun l hl => (h l hl).feed,
    List.map_congr_left fun l hl => dropReturns_eq_self_iff.mpr (h l hl).last, List.map_id']

namespace Fix

open Mask

section Lines

variable {fixers : List (String × Fixer)} {fs : List Finding}
  (hfs : ∀ f ∈ fs, ∀ line, Text.IsLine line → Text.IsLine (rewrite fixers line f))
include hfs

theorem isLine_foldl_rewrite {line : List Char} (hline : Text.IsLine line) :
    Text.IsLine (fs.foldl (rewrite fixers) line) := by
  induction fs generalizing line with
  | nil => exact hline
  | cons f fs ih =>
    have hfirst := hfs f List.mem_cons_self line hline
    exact ih (fun g hg => hfs g (List.mem_cons_of_mem f hg)) hfirst

/-- The lines of a fixed text are the fixed lines, if the fixers make lines of lines. -/
theorem lines_text_run (code : List Char) :
    Text.lines (text (run fixers code fs)) = (run fixers code fs).lines := by
  refine Text.lines_unlines ?_ ?_
  · intro hnil
    have hlength := length_run fixers code fs
    rw [hnil] at hlength
    exact Text.lines_ne_nil code (List.length_eq_zero_iff.mp hlength.symm)
  · intro line hline
    obtain ⟨i, hi⟩ := List.getElem?_of_mem hline
    rw [run_lines] at hi
    obtain ⟨raw, hraw, rfl⟩ := Option.map_eq_some_iff.mp hi
    have hline := Text.isLine_of_mem_lines (List.mem_of_getElem? hraw)
    exact isLine_foldl_rewrite (fun f hf => hfs f (of_mem_turnsOn hf).1) hline

end Lines

/-- Fixers of a dialect that do not disturb each other. `shown` tells in which masked lines a rule
finds something, `settled` in which lines its fixer has nothing left to do. -/
structure Settling (d : Dialect) (fixers : List (String × Fixer))
    (shown settled : String → List Char → Prop) : Prop where
  endsLike : ∀ f line, EndsLike (.of d) line (rewrite fixers line f)
  isLine : ∀ f line, Text.IsLine line → Text.IsLine (rewrite fixers line f)
  settles : ∀ f line, settled f.rule (rewrite fixers line f)
  keeps : ∀ rule f line, settled rule line → settled rule (rewrite fixers line f)
  stays : ∀ f line, settled f.rule line → rewrite fixers line f = line
  shows : ∀ rule f line c, c.Of (.of d) → f.rule ≠ rule →
    shown rule (inside (.of d) c (rewrite fixers line f)) → shown rule (inside (.of d) c line)

namespace Settling

variable {d : Dialect} {fixers : List (String × Fixer)} {shown settled : String → List Char → Prop}
  (h : Settling d fixers shown settled)
include h

theorem foldl_endsLike (fs : List Finding) (line : List Char) :
    EndsLike (.of d) line (fs.foldl (rewrite fixers) line) := by
  induction fs generalizing line with
  | nil => exact EndsLike.refl d line
  | cons f fs ih => exact (h.endsLike f line).trans (ih _)

theorem foldl_keeps {rule : String} (fs : List Finding) {line : List Char}
    (hline : settled rule line) : settled rule (fs.foldl (rewrite fixers) line) := by
  induction fs generalizing line with
  | nil => exact hline
  | cons f fs ih => exact ih (h.keeps rule f line hline)

/-- Every rule that had its turn is settled in the end. -/
theorem foldl_settles {fs : List Finding} (line : List Char) {f : Finding} (hf : f ∈ fs) :
    settled f.rule (fs.foldl (rewrite fixers) line) := by
  induction fs generalizing line with
  | nil => simp at hf
  | cons g fs ih =>
    rcases List.mem_cons.mp hf with rfl | hf
    · exact h.foldl_keeps fs (h.settles f line)
    · exact ih _ hf

/-- A rule that had no turn finds nothing new. -/
theorem foldl_shows {rule : String} {fs : List Finding} (hfs : ∀ f ∈ fs, f.rule ≠ rule)
    (line : List Char) {c : Context} (hc : c.Of (.of d))
    (hshown : shown rule (inside (.of d) c (fs.foldl (rewrite fixers) line))) :
    shown rule (inside (.of d) c line) := by
  induction fs generalizing line with
  | nil => exact hshown
  | cons f fs ih =>
    have hrest := ih (fun g hg => hfs g (List.mem_cons_of_mem f hg)) _ hshown
    exact h.shows rule f line c hc (hfs f List.mem_cons_self) hrest

variable (code : List Char) (fs : List Finding)

/-- The fixed text has the fixed lines. -/
theorem lines_text : Text.lines (text (run fixers code fs)) = (run fixers code fs).lines :=
  lines_text_run (fun f _ => h.isLine f) code

/-- Each line of the fixed text stands in the context of the line it was made from. -/
theorem before_text (i : Nat) :
    (before (.of d) (Text.lines code) i).Like
      (before (.of d) (Text.lines (text (run fixers code fs))) i) := by
  rw [h.lines_text]
  refine before_like (List.forall₂_iff_get.mpr ⟨(length_run fixers code fs).symm, ?_⟩) i
  intro j hj hj'
  have hline := run_lines fixers code fs j
  rw [List.getElem?_eq_getElem hj, List.getElem?_eq_getElem hj', Option.map_some,
    Option.some.injEq] at hline
  simp only [List.get_eq_getElem, hline]
  exact h.foldl_endsLike _ _

end Settling

/-- The checks find something of a rule in a line just if the masked line shows it. -/
def Reads (d : Dialect) (checks : List Char → List Finding) (rule : String)
    (shown : List Char → Prop) : Prop :=
  ∀ code i raw, (Text.lines code)[i]? = some raw →
    ((∃ f ∈ checks code, f.rule = rule ∧ f.line = i + 1) ↔
      shown (inside (.of d) (before (.of d) (Text.lines code) i) raw))

section Pass

variable {d : Dialect} {fixers : List (String × Fixer)} {shown settled : String → List Char → Prop}
  {checks : List Char → List Finding}

theorem exists_mem_turnsOn {fs : List Finding} {f : Finding} (hf : f ∈ fs) :
    ∃ g ∈ turnsOn fs f.line, g.rule = f.rule := by
  have hmem : f.rule ∈ ((fs.filter fun g => decide (g.line = f.line)).mergeSort fun g g' =>
      decide (g'.column.getD 0 ≤ g.column.getD 0)).map (·.rule) :=
    List.mem_map_of_mem (List.mem_mergeSort.mpr (by simp [hf]))
  exact List.mem_map.mp (mem_map_firstByKey hmem (by simp))

/-- What is found in the fixed text is found in a line where its fixer has nothing to do. -/
theorem settled_of_mem_checks (h : Settling d fixers shown settled) {rule : String}
    (hreads : Reads d checks rule (shown rule)) {code : List Char} {i : Nat} {line : List Char}
    (hline : (run fixers code (checks code)).lines[i]? = some line) {f : Finding}
    (hf : f ∈ checks (text (run fixers code (checks code)))) (hrule : f.rule = rule)
    (hplace : f.line = i + 1) : settled rule line := by
  have hmade := hline
  rw [run_lines] at hmade
  obtain ⟨raw, hraw, rfl⟩ := Option.map_eq_some_iff.mp hmade
  by_cases hturn : ∃ g ∈ turnsOn (checks code) (i + 1), g.rule = rule
  · obtain ⟨g, hg, rfl⟩ := hturn
    exact h.foldl_settles raw hg
  · -- The line shows the rule already before the pass, so that the rule had its turn.
    exfalso
    rw [← h.lines_text] at hline
    have hshown := (hreads _ i _ hline).mp ⟨f, hf, hrule, hplace⟩
    have hc := of_before (.of d) (Text.lines code) i
    rw [inside_like (Lexicon.of_skipsBlanks d) (Lexicon.of_ignoresPliant d) hc
      (h.before_text code (checks code) i)] at hshown
    have hold := h.foldl_shows (fun g hg hr => hturn ⟨g, hg, hr⟩) raw hc hshown
    obtain ⟨g, hg, hgrule, hgline⟩ := (hreads code i raw hraw).mpr hold
    obtain ⟨t, ht, htrule⟩ := exists_mem_turnsOn hg
    rw [hgline] at ht
    exact hturn ⟨t, ht, htrule.trans hgrule⟩

/-- A second pass changes nothing. -/
theorem run_text_run (h : Settling d fixers shown settled)
    (hreads : ∀ rule, (fixers.lookup rule).isSome → Reads d checks rule (shown rule))
    (code : List Char) :
    text (run fixers (text (run fixers code (checks code)))
        (checks (text (run fixers code (checks code))))) =
      text (run fixers code (checks code)) := by
  have hlines : (run fixers (text (run fixers code (checks code)))
      (checks (text (run fixers code (checks code))))).lines =
        (run fixers code (checks code)).lines := by
    refine List.ext_getElem? fun i => ?_
    rw [run_lines, h.lines_text]
    cases hline : (run fixers code (checks code)).lines[i]? with
    | none => rfl
    | some line =>
      have hstay : ∀ f ∈ turnsOn (checks (text (run fixers code (checks code)))) (i + 1),
          rewrite fixers line f = line := by
        intro f hf
        obtain ⟨hmem, hplace⟩ := of_mem_turnsOn hf
        cases hl : fixers.lookup f.rule with
        | none => exact rewrite_of_lookup_none hl
        | some fixer =>
          have hfixable := hreads f.rule (by rw [hl]; rfl)
          exact h.stays f line (settled_of_mem_checks h hfixable hline hmem rfl hplace)
      rw [Option.map_some, foldl_stays hstay]
  exact congrArg Text.unlines hlines

end Pass

end Fix

end CampaignCheck

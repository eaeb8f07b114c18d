import CampaignCheck.Proofs.Fix.Settling
import CampaignCheck.Proofs.Script.View
import CampaignCheck.Validator.Registry
import Mathlib.Data.List.Permutation

namespace CampaignCheck

open Text Mask

theorem Text.isLine_withSemicolon {line : List Char} (h : IsLine line) (p : Nat) :
    IsLine (withSemicolon p line) := by
  constructor
  · intro hmem
    simp only [withSemicolon, List.mem_append, List.mem_singleton] at hmem
    rcases hmem with (hmem | hmem) | hmem
    · exact h.feed (List.mem_of_mem_take hmem)
    · cases hmem
    · exact h.feed (List.mem_of_mem_drop hmem)
  · rw [withSemicolon, List.getLast?_append]
    cases hdrop : (line.drop p).getLast? with
    | none => simp
    | some c =>
      rw [List.getLast?_drop] at hdrop
      split_ifs at hdrop
      simp only [Option.some_or]
      rw [← hdrop]
      exact h.last

namespace Mask

section Lines

variable {x : Lexicon}

theorem Context.Like.eq_code {c : Context} (h : Context.code.Like c) : c = .code := by
  cases h
  rfl

theorem before_succ {ls : List (List Char)} {i : Nat} {line : List Char}
    (h : ls[i]? = some line) : before x ls (i + 1) = after x (before x ls i) line := by
  rw [before, List.take_add_one, h, List.foldl_append, before]
  rfl

/-- A line that gets a semicolon behind its code starts in code. -/
structure EndedLines (x : Lexicon) (views views' : List (List Char)) : Prop where
  length : views'.length = views.length
  line : ∀ (i : Nat) (v v' : List Char), views[i]? = some v → views'[i]? = some v' →
    v' = v ∨ before x views i = .code ∧ EndsInCode x v ∧ v' = withSemicolon (codeLength x v) v

variable (hx : x.SkipsBlanks) (he : x.IgnoresSemicolons) (hequals : x.IgnoresPliant)
  {views views' : List (List Char)} (h : EndedLines x views views')
include hx he hequals h

/-- Every line starts in the context in which it started without the semicolons. -/
theorem EndedLines.before_like {i : Nat} (hi : i ≤ views.length) :
    (before x views i).Like (before x views' i) := by
  induction i with
  | zero => exact .code
  | succ i ih =>
    have hlike := ih (Nat.le_of_succ_le hi)
    have hlt' : i < views'.length := by
      rw [h.length]
      omega
    have hv := List.getElem?_eq_getElem (l := views) (i := i) hi
    have hv' := List.getElem?_eq_getElem hlt'
    rw [before_succ hv, before_succ hv']
    have hsame (line : List Char) :
        (after x (before x views i) line).Like (after x (before x views' i) line) :=
      endLine_like (chars_like hx hequals 1 1 (of_before x views i) hlike line).2
    rcases h.line i _ _ hv hv' with heq | ⟨hcode, hends, heq⟩
    · rw [heq]
      exact hsame _
    · refine (hsame _).trans ?_
      rw [hcode] at hlike
      rw [hlike.eq_code, heq]
      exact (hends.withSemicolon hx he hequals).2

/-- The masked form of a line that gets a semicolon gets it in the same place; that of every other
line stays. -/
theorem EndedLines.inside_eq {i : Nat} {v v' : List Char}
    (hv : views[i]? = some v) (hv' : views'[i]? = some v') :
    inside x (before x views' i) v' =
      if v' = v then inside x (before x views i) v
      else withSemicolon (codeLength x v) (inside x (before x views i) v) := by
  have hlt := (List.getElem?_eq_some_iff.mp hv).1
  have hlike := h.before_like hx he hequals (Nat.le_of_lt hlt)
  rcases h.line i v v' hv hv' with rfl | ⟨hcode, hends, rfl⟩
  · rw [if_pos rfl]
    exact inside_like hx hequals (of_before x views i) hlike _
  · have hne : withSemicolon (codeLength x v) v ≠ v := by
      intro heq
      have hlength := congrArg List.length heq
      have hle := codeLength_le x v
      simp [withSemicolon] at hlength
      omega
    rw [hcode] at hlike ⊢
    rw [if_neg hne, hlike.eq_code]
    exact (hends.withSemicolon hx he hequals).1

end Lines

end Mask

namespace Fix

/-- The fixer puts a semicolon behind the code of a line, or leaves the line as it is. -/
def PutsSemicolon (x : Lexicon) (fixer : Fixer) : Prop :=
  ∀ line f, (fixer line f).getD line = line ∨
    0 < codeLength x line ∧ (fixer line f).getD line = withSemicolon (codeLength x line) line

theorem PutsSemicolon.isLine {x : Lexicon} {fixer : Fixer} (h : PutsSemicolon x fixer) (f : Finding)
    {line : List Char} (hline : IsLine line) : IsLine ((fixer line f).getD line) := by
  rcases h line f with hstays | ⟨-, hputs⟩
  · rw [hstays]
    exact hline
  · rw [hputs]
    exact isLine_withSemicolon hline _

theorem ssjs_putsSemicolon : PutsSemicolon (.of .ssjs) Ssjs.fixSemicolon := by
  intro line f
  simp only [Ssjs.fixSemicolon]
  split
  · exact .inl rfl
  · next hpos => exact .inr ⟨Nat.pos_of_ne_zero hpos, rfl⟩

theorem css_putsSemicolon : PutsSemicolon (.of .css) Css.fixSemicolon := by
  intro line f
  simp only [Css.fixSemicolon]
  split
  · exact .inl rfl
  · next c hlast =>
    split_ifs
    · exact .inl rfl
    · have hne : trimRight (alone (.of .css) line) ≠ [] := by
        intro hnil
        rw [hnil] at hlast
        cases hlast
      exact .inr ⟨List.length_pos_iff.mpr hne, rfl⟩

section OneRule

variable {rule : String} {fs : List Finding} (hfs : ∀ f ∈ fs, f.rule = rule)
include hfs

/-- Of the findings of one rule in a line only one has its turn. -/
theorem turnsOn_of_rule (number : Nat) :
    turnsOn fs number = [] ∨ ∃ f ∈ fs, f.line = number ∧ turnsOn fs number = [f] := by
  have hnodup : ((turnsOn fs number).map (·.rule)).Nodup := nodup_map_firstByKey _ _ _
  cases hturns : turnsOn fs number with
  | nil => exact .inl rfl
  | cons f gs =>
    have hf := of_mem_turnsOn (hturns ▸ List.mem_cons_self : f ∈ turnsOn fs number)
    cases gs with
    | nil => exact .inr ⟨f, hf.1, hf.2, rfl⟩
    | cons g gs =>
      have hmem : g ∈ turnsOn fs number := by simp [hturns]
      have hg := of_mem_turnsOn hmem
      rw [hturns] at hnodup
      simp [hfs f hf.1, hfs g hg.1] at hnodup

/-- What becomes of a line for the findings of a rule whose fixer puts semicolons. -/
theorem run_getElem? {x : Lexicon} {fixers : List (String × Fixer)} {fixer : Fixer}
    (hlookup : fixers.lookup rule = some fixer) (hfixer : PutsSemicolon x fixer)
    {code : List Char} {i : Nat} {line : List Char} (hline : (lines code)[i]? = some line) :
    (run fixers code fs).lines[i]? = some line ∨
      0 < codeLength x line ∧ (∃ f ∈ fs, f.line = i + 1) ∧
        (run fixers code fs).lines[i]? = some (withSemicolon (codeLength x line) line) := by
  rw [run_lines, hline, Option.map_some]
  rcases turnsOn_of_rule hfs (i + 1) with hnil | ⟨f, hf, hplace, hone⟩
  · rw [hnil]
    exact .inl rfl
  · rw [hone, List.foldl_cons, List.foldl_nil, rewrite, hfs f hf, hlookup, Option.bind_some]
    rcases hfixer line f with hstays | ⟨hpos, hputs⟩
    · rw [hstays]
      exact .inl rfl
    · rw [hputs]
      exact .inr ⟨hpos, ⟨f, hf, hplace⟩, rfl⟩

end OneRule

/-- What a pass for missing semicolons does to a source of a dialect. `view` shows the parts of the
lines that are written in the dialect. -/
structure AddsSemicolons (d : Dialect) (view : List (List Char) → List (List Char))
    (code : List Char) (fs : List Finding) (fixed : Fixed) : Prop where
  length : fixed.lines.length = (lines code).length
  /-- A line stays unless it has a finding, and gets at most a semicolon, behind what is code in it
  when it is masked on its own. -/
  line : ∀ (i : Nat) (line : List Char), (lines code)[i]? = some line →
    fixed.lines[i]? = some line ∨
      0 < codeLength (.of d) line ∧ (∃ f ∈ fs, f.line = i + 1) ∧
        fixed.lines[i]? = some (withSemicolon (codeLength (.of d) line) line)
  /-- In a line that is shown as it is and starts in code, this place is one of code just if no
  literal is open at the end of the line. -/
  place : ∀ (i : Nat) (line : List Char), (view (lines code))[i]? = some line →
    before (.of d) (view (lines code)) i = .code → 0 < codeLength (.of d) line →
    (stateAt (.of d) 1 0 ⟨0, before (.of d) (view (lines code)) i⟩ line (codeLength (.of d) line) =
        ⟨0, .code⟩ ↔
      ¬ (chars (.of d) 1 0 ⟨0, .code⟩ line).2.context.IsLiteral)
  /-- If all lines that change are such lines, the masked source gets the same semicolons in the
  same places, and nothing else in it changes. -/
  masked : (∀ (i : Nat) (line : List Char), (lines code)[i]? = some line →
      fixed.lines[i]? ≠ some line → (view (lines code))[i]? = some line ∧
        before (.of d) (view (lines code)) i = .code ∧
        ¬ (chars (.of d) 1 0 ⟨0, .code⟩ line).2.context.IsLiteral) →
    ∀ (i : Nat) (line line' : List Char) (l : Line), (lines code)[i]? = some line →
      fixed.lines[i]? = some line' →
      (MaskedSource.ofLines (.of d) (view (lines code))).lines[i]? = some l →
      ∃ l', (MaskedSource.ofLines (.of d) (view (lines (text fixed)))).lines[i]? = some l' ∧
        (l'.raw, l'.masked) = if line' = line then (l.raw, l.masked)
          else (line', withSemicolon (codeLength (.of d) line) l.masked)

section Adding

variable {d : Dialect} {view : List (List Char) → List (List Char)} {rule : String}
  {fs : List Finding} {fixers : List (String × Fixer)} {fixer : Fixer} {code : List Char}

theorem ofLines_getElem? (d : Dialect) (ls : List (List Char)) (i : Nat) :
    (MaskedSource.ofLines (.of d) ls).lines[i]? = ls[i]?.map fun raw =>
      ⟨i + 1, raw, inside (.of d) (before (.of d) ls i) raw⟩ := by
  have hline := linesFrom_getElem? (Lexicon.of_skipsBlanks d) (Lexicon.of_ignoresPliant d) 1
    (c := .code) trivial .code ls i
  rwa [Nat.add_comm 1 i] at hline

/-- The view shows a semicolon behind the code of a line that it shows as it is, and shows the other
lines as before. -/
structure ShowsEnded (d : Dialect) (view : List (List Char) → List (List Char)) : Prop where
  length : ∀ ls, (view ls).length = ls.length
  line : ∀ raws raws' : List (List Char), raws'.length = raws.length →
    (∀ (i : Nat) (v raw raw' : List Char), (view raws)[i]? = some v → raws[i]? = some raw →
      raws'[i]? = some raw' → Ended (.of d) v raw raw') →
    ∀ (i : Nat) (v raw raw' : List Char), (view raws)[i]? = some v → raws[i]? = some raw →
      raws'[i]? = some raw' → (view raws')[i]? = some (if raw' = raw then v else raw')

theorem ssjs_showsEnded : ShowsEnded .ssjs Ssjs.view where
  length ls := (List.Forall₂.length_eq (Ssjs.view_shows ls))
  line _ _ hlength h := Ssjs.view_ended hlength h

theorem showsEnded_id (d : Dialect) : ShowsEnded d id where
  length _ := rfl
  line raws raws' _ _ i v raw raw' hv hraw hraw' := by
    obtain rfl : v = raw := Option.some.inj (hv.symm.trans hraw)
    rw [id, hraw']
    split_ifs with hsame
    · rw [hsame]
    · rfl

section Run

variable (hfs : ∀ f ∈ fs, f.rule = rule) (hlookup : fixers.lookup rule = some fixer)
  (hfixer : PutsSemicolon (.of d) fixer)
include hfs hlookup hfixer

theorem lines_text_ended : lines (text (run fixers code fs)) = (run fixers code fs).lines := by
  refine lines_text_run (fun f hf line hline => ?_) code
  rw [rewrite, hfs f hf, hlookup, Option.bind_some]
  exact hfixer.isLine f hline

variable (hsound : ∀ (i : Nat) (line : List Char), (lines code)[i]? = some line →
  (run fixers code fs).lines[i]? ≠ some line → (view (lines code))[i]? = some line ∧
    before (.of d) (view (lines code)) i = .code ∧
    ¬ (chars (.of d) 1 0 ⟨0, .code⟩ line).2.context.IsLiteral)
include hsound

/-- Where all lines that change are shown, start in code and leave no literal open, a line is ended
or stays. -/
theorem ended_run {i : Nat} {v raw raw' : List Char} (hv : (view (lines code))[i]? = some v)
    (hraw : (lines code)[i]? = some raw) (hraw' : (run fixers code fs).lines[i]? = some raw') :
    Ended (.of d) v raw raw' := by
  by_cases hsame : raw' = raw
  · exact .inl hsame
  · have hne : (run fixers code fs).lines[i]? ≠ some raw := by
      intro heq
      exact hsame (Option.some.inj (hraw'.symm.trans heq))
    obtain ⟨hshown, -, hliteral⟩ := hsound i raw hraw hne
    obtain ⟨hpos, -, hputs⟩ := (run_getElem? hfs hlookup hfixer hraw).resolve_left hne
    have hputs' : raw' = withSemicolon (codeLength (.of d) raw) raw :=
      Option.some.inj (hraw'.symm.trans hputs)
    exact .inr ⟨Option.some.inj (hv.symm.trans hshown), ⟨hpos, hliteral⟩, hputs'⟩

/-- What is shown of the fixed lines. -/
theorem view_run (hview : ShowsEnded d view) {i : Nat} {v raw raw' : List Char}
    (hv : (view (lines code))[i]? = some v) (hraw : (lines code)[i]? = some raw)
    (hraw' : (run fixers code fs).lines[i]? = some raw') :
    (view (run fixers code fs).lines)[i]? = some (if raw' = raw then v else raw') :=
  hview.line (lines code) (run fixers code fs).lines (length_run fixers code fs)
    (fun _ _ _ _ => ended_run hfs hlookup hfixer hsound) i v raw raw' hv hraw hraw'

theorem endedLines_run (hview : ShowsEnded d view) :
    EndedLines (.of d) (view (lines code)) (view (run fixers code fs).lines) := by
  have hsize := length_run fixers code fs
  refine ⟨by rw [hview.length, hview.length, hsize], ?_⟩
  intro i v v' hv hv'
  have hlt := (List.getElem?_eq_some_iff.mp hv).1
  rw [hview.length] at hlt
  have hraw := List.getElem?_eq_getElem hlt
  have hraw' := List.getElem?_eq_getElem (l := (run fixers code fs).lines) (i := i) (by omega)
  have hmade := view_run hfs hlookup hfixer hsound hview hv hraw hraw'
  rw [hv', Option.some_inj] at hmade
  split_ifs at hmade with hsame
  · exact .inl hmade
  · have hended := ended_run hfs hlookup hfixer hsound hv hraw hraw'
    obtain ⟨hshown, hends, hputs⟩ := hended.resolve_left hsame
    have hne : (run fixers code fs).lines[i]? ≠ some (lines code)[i] := by
      intro heq
      exact hsame (Option.some.inj (hraw'.symm.trans heq))
    obtain ⟨-, hcode, -⟩ := hsound i _ hraw hne
    rw [hmade, hputs, hshown]
    exact .inr ⟨hcode, hends, rfl⟩

end Run

theorem addsSemicolons_run (he : (Lexicon.of d).IgnoresSemicolons) (hview : ShowsEnded d view)
    (hfs : ∀ f ∈ fs, f.rule = rule) (hlookup : fixers.lookup rule = some fixer)
    (hfixer : PutsSemicolon (.of d) fixer) :
    AddsSemicolons d view code fs (run fixers code fs) := by
  have hx := Lexicon.of_skipsBlanks d
  have hequals := Lexicon.of_ignoresPliant d
  constructor
  case length => exact length_run fixers code fs
  case line => exact fun i line hline => run_getElem? hfs hlookup hfixer hline
  case place =>
    intro i line _ hcode hpos
    rw [hcode]
    exact stateAt_codeLength_iff hx he hpos
  case masked =>
    intro hsound i line line' l hline hline' hl
    rw [ofLines_getElem?] at hl
    obtain ⟨v, hv, rfl⟩ := Option.map_eq_some_iff.mp hl
    have hmade := view_run hfs hlookup hfixer hsound hview hv hline hline'
    have hended := endedLines_run hfs hlookup hfixer hsound hview
    have hinside := hended.inside_eq hx he hequals hv hmade
    rw [lines_text_ended hfs hlookup hfixer, ofLines_getElem?, hmade]
    refine ⟨_, rfl, ?_⟩
    simp only [hinside]
    by_cases hsame : line' = line
    · rw [if_pos hsame, if_pos hsame, if_pos rfl]
    · have hline := ended_run hfs hlookup hfixer hsound hv hline hline'
      obtain ⟨rfl, -, rfl⟩ := hline.resolve_left hsame
      rw [if_neg hsame, if_neg hsame, if_neg hsame]

end Adding

end Fix

/-- What the checks of grammar and meaning find in a source for one rule. -/
def Validator.findingsOn (v : Validator) (rule : String) (code : List Char) :
    Except Unsupported (List Finding) := do
  let found ← v.grammar code
  let more ← v.meaning code
  return (found ++ more).filter fun f => f.rule == rule

/-- A pass for missing semicolons adds nothing but semicolons, at most one to a line, and they land
in code in every line that starts in code and leaves no literal open. Where it changes no other
lines, the masked source differs in the same semicolons only. -/
theorem semicolons_land_in_code (code : List Char) :
    (∃ fs, ssjsValidator.findingsOn "ssjs-semicolon" code = .ok fs ∧
      Fix.AddsSemicolons .ssjs Ssjs.view code fs (ssjsValidator.applyFixes code fs)) ∧
    ∃ fs, cssValidator.findingsOn "css-missing-semicolon" code = .ok fs ∧
      Fix.AddsSemicolons .css id code fs (cssValidator.applyFixes code fs) := by
  have hone (rule : String) (fs : List Finding) :
      ∀ f ∈ fs.filter fun f => f.rule == rule, f.rule = rule := by
    intro f hf
    exact eq_of_beq (List.mem_filter.mp hf).2
  refine ⟨⟨_, rfl, ?_⟩, _, rfl, ?_⟩
  · exact Fix.addsSemicolons_run Lexicon.ssjs_ignoresSemicolons Fix.ssjs_showsEnded (hone _ _) rfl
      Fix.ssjs_putsSemicolon
  · exact Fix.addsSemicolons_run Lexicon.css_ignoresSemicolons (Fix.showsEnded_id .css) (hone _ _)
      rfl Fix.css_putsSemicolon

def missing (line column : Nat) : Finding :=
  .report line (some column) "ssjs-semicolon" "Missing semicolon at end of statement" .syntactic
    .warning "Add ; at the end of the statement"

theorem semicolons_land_in_code_assignment :
    ∃ l, (MaskedSource.ofLines (.of .ssjs) (Ssjs.view (lines (Fix.text
        (ssjsValidator.applyFixes "x = 'a'".toList [missing 1 7]))))).lines[0]? = some l ∧
      (l.raw, l.masked) = ("x = 'a';".toList, "x = ' ';".toList) := by
  have hfound : ssjsValidator.findingsOn "ssjs-semicolon" "x = 'a'".toList =
      .ok [missing 1 7] := by
    decide +kernel
  have hfixed : (ssjsValidator.applyFixes "x = 'a'".toList [missing 1 7]).lines[0]? =
      some "x = 'a';".toList := by
    rw [Validator.applyFixes, Fix.run, Fix.order, List.mergeSort_singleton]
    decide +kernel
  obtain ⟨fs, hfs, hadds⟩ := (semicolons_land_in_code "x = 'a'".toList).1
  obtain rfl : fs = [missing 1 7] := Except.ok.inj (hfs.symm.trans hfound)
  have honly (i : Nat) (line : List Char) (hline : (lines "x = 'a'".toList)[i]? = some line) :
      i = 0 ∧ line = "x = 'a'".toList := by
    have hlt := (List.getElem?_eq_some_iff.mp hline).1
    obtain rfl : i = 0 := Nat.lt_one_iff.mp hlt
    exact ⟨rfl, (Option.some.inj hline).symm⟩
  refine hadds.masked ?_ 0 _ _ ⟨1, "x = 'a'".toList, "x = ' '".toList⟩ rfl hfixed ?_
  · intro i line hline _
    obtain ⟨rfl, rfl⟩ := honly i line hline
    refine ⟨by decide +kernel, rfl, ?_⟩
    have hend : (chars (.of .ssjs) 1 0 ⟨0, .code⟩ "x = 'a'".toList).2.context = .code := by
      decide +kernel
    rw [hend]
    exact not_false
  · decide +kernel

/-- A line that leaves a template literal open gets its semicolon inside the literal. -/
theorem semicolon_in_template :
    ∃ fs, ssjsValidator.findingsOn "ssjs-semicolon" "var x = `abc\ndef`".toList = .ok fs ∧
      Fix.text (ssjsValidator.applyFixes "var x = `abc\ndef`".toList fs) =
        "var x = `;abc\ndef`;".toList := by
  have hfound : ssjsValidator.findingsOn "ssjs-semicolon" "var x = `abc\ndef`".toList =
      .ok [missing 1 9, missing 2 4] := by
    decide +kernel
  refine ⟨_, hfound, ?_⟩
  have horder : Fix.order [missing 1 9, missing 2 4] = [missing 2 4, missing 1 9] := by
    cbv
  rw [Validator.applyFixes, Fix.run, horder]
  decide +kernel

end CampaignCheck

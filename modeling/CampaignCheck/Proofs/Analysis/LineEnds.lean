import CampaignCheck.Metrics.Measure
import CampaignCheck.Proofs.Text.Positions
import CampaignCheck.Rules.Table
import CampaignCheck.Validator.Registry

namespace CampaignCheck

namespace Text

/-- The text with a carriage return before every line feed. -/
def withReturns (cs : List Char) : List Char :=
  cs.flatMap fun c => if c = '\n' then ['\r', '\n'] else [c]

theorem withReturns_feed (cs : List Char) :
    withReturns ('\n' :: cs) = '\r' :: '\n' :: withReturns cs := by
  simp [withReturns]

theorem withReturns_cons {c : Char} (hc : c ≠ '\n') (cs : List Char) :
    withReturns (c :: cs) = c :: withReturns cs := by
  simp [withReturns, hc]

theorem dropEndWhile_cons (p : Char → Bool) (c : Char) (cs : List Char) :
    dropEndWhile p (c :: cs) =
      if dropEndWhile p cs = [] then dropEndWhile p [c] else c :: dropEndWhile p cs := by
  by_cases h : cs.reverse.dropWhile p = [] <;> simp [dropEndWhile, List.dropWhile_append, h]

theorem lines_feed (cs : List Char) : lines ('\n' :: cs) = [] :: lines cs := by
  rw [lines, cut_sep]
  rfl

/-- The first line of a text that does not start with a line feed has its first character, unless
this is a carriage return before other such ones only. -/
theorem lines_cons {c : Char} {cs l : List Char} {ls : List (List Char)} (hc : c ≠ '\n')
    (h : lines cs = l :: ls) :
    lines (c :: cs) = (if l = [] then dropEndWhile (· == '\r') [c] else c :: l) :: ls := by
  obtain ⟨raw, raws, hcut⟩ := cut_eq_cons '\n' cs
  rw [lines, hcut, List.map_cons] at h
  obtain ⟨rfl, rfl⟩ := List.cons.inj h
  rw [lines, cut_cons hc hcut, List.map_cons, dropEndWhile_cons]

theorem lines_return_feed (cs : List Char) : lines ('\r' :: '\n' :: cs) = [] :: lines cs := by
  rw [lines_cons (by decide) (lines_feed cs)]
  rfl

/-- Carriage returns at the ends of lines leave the lines as they are. -/
theorem lines_withReturns (cs : List Char) : lines (withReturns cs) = lines cs := by
  induction cs with
  | nil => rfl
  | cons c cs ih =>
    by_cases hc : c = '\n'
    · subst hc
      rw [withReturns_feed, lines_return_feed, lines_feed, ih]
    · obtain ⟨l, ls, hl⟩ := List.exists_cons_of_ne_nil (lines_ne_nil cs)
      rw [withReturns_cons hc, lines_cons hc (ih.trans hl), lines_cons hc hl]

theorem isEmpty_withReturns (cs : List Char) : (withReturns cs).isEmpty = cs.isEmpty := by
  cases cs with
  | nil => rfl
  | cons c cs =>
    by_cases hc : c = '\n'
    · rw [hc, withReturns_feed]
      rfl
    · rw [withReturns_cons hc]
      rfl

/-- A carriage return is as blank as the line feed behind it. -/
theorem allBlank_withReturns (cs : List Char) : allBlank (withReturns cs) = allBlank cs := by
  induction cs with
  | nil => rfl
  | cons c cs ih =>
    unfold allBlank at ih ⊢
    by_cases hc : c = '\n'
    · subst hc
      rw [withReturns_feed, List.all_cons, List.all_cons, List.all_cons, ih]
      rfl
    · rw [withReturns_cons hc, List.all_cons, List.all_cons, ih]

end Text

/-- What a function of sources gives depends on the lines of a source alone. -/
def SeesLines {α : Type} (f : List Char → α) : Prop :=
  ∀ code code', Text.lines code = Text.lines code' → f code = f code'

theorem SeesLines.withReturns {α : Type} {f : List Char → α} (h : SeesLines f) (code : List Char) :
    f (Text.withReturns code) = f code :=
  h _ _ (Text.lines_withReturns code)

/-- A function of something that depends on the lines alone. -/
theorem SeesLines.comp {α β : Type} {f : List Char → α} (h : SeesLines f) (g : α → β) :
    SeesLines fun code => g (f code) :=
  fun code code' hlines => congrArg g (h code code' hlines)

theorem MaskedSource.ofCode_seesLines (d : Dialect) : SeesLines (ofCode d) :=
  fun _ _ hlines => congrArg (ofLines (.of d)) hlines

/-- Every check and all advice of a validator see the lines of a source alone. -/
structure Validator.SeesLines (v : Validator) : Prop where
  grammar : CampaignCheck.SeesLines v.grammar
  meaning : CampaignCheck.SeesLines v.meaning
  cost : CampaignCheck.SeesLines v.cost
  advise : CampaignCheck.SeesLines v.advise

theorem Validator.SeesLines.complete {name title : String} {d : Dialect}
    {grammar meaning cost : List Char → List Finding} {advise : List Char → List Suggestion}
    {fixers : List (String × Fixer)} (hgrammar : CampaignCheck.SeesLines grammar)
    (hmeaning : CampaignCheck.SeesLines meaning) (hcost : CampaignCheck.SeesLines cost)
    (hadvise : CampaignCheck.SeesLines advise) :
    (Validator.complete name title d grammar meaning cost advise fixers).SeesLines :=
  ⟨hgrammar.comp Except.ok, hmeaning.comp Except.ok, hcost.comp Except.ok, hadvise.comp Except.ok⟩

theorem Ampscript.source_seesLines : SeesLines Ampscript.Source.of := by
  intro code code' hlines
  unfold Ampscript.Source.of
  rw [hlines]

theorem Ssjs.source_seesLines : SeesLines Ssjs.Source.of := by
  intro code code' hlines
  unfold Ssjs.Source.of
  rw [hlines]

theorem Sql.source_seesLines : SeesLines Sql.Source.of := by
  intro code code' hlines
  unfold Sql.Source.of
  rw [MaskedSource.ofCode_seesLines .sql code code' hlines]

theorem Javascript.source_seesLines : SeesLines Javascript.Source.of := by
  intro code code' hlines
  unfold Javascript.Source.of
  rw [MaskedSource.ofCode_seesLines .javascript code code' hlines]

theorem ampscriptValidator_seesLines : ampscriptValidator.SeesLines := by
  have h := Ampscript.source_seesLines
  refine .complete ?_ ?_ ?_ ?_ <;> intro code code' hlines
  · simp only [Ampscript.grammarFindings, h code code' hlines]
  · simp only [Ampscript.meaningFindings, h code code' hlines]
  · simp only [Ampscript.costFindings, h code code' hlines]
  · simp only [Ampscript.advice, h code code' hlines]

theorem ssjsValidator_seesLines : ssjsValidator.SeesLines := by
  have h := Ssjs.source_seesLines
  refine .complete ?_ ?_ ?_ ?_ <;> intro code code' hlines
  · simp only [Ssjs.grammarFindings, h code code' hlines]
  · simp only [Ssjs.meaningFindings, h code code' hlines]
  · simp only [Ssjs.costFindings, h code code' hlines]
  · simp only [Ssjs.advice, h code code' hlines]

theorem sqlValidator_seesLines : sqlValidator.SeesLines := by
  have h := Sql.source_seesLines
  refine .complete ?_ ?_ ?_ ?_ <;> intro code code' hlines
  · simp only [Sql.grammarFindings, h code code' hlines]
  · simp only [Sql.meaningFindings, h code code' hlines]
  · simp only [Sql.costFindings, h code code' hlines]
  · simp only [Sql.advice, h code code' hlines]

theorem cssValidator_seesLines : cssValidator.SeesLines := by
  have h := MaskedSource.ofCode_seesLines .css
  refine .complete ?_ ?_ ?_ ?_ <;> intro code code' hlines
  · simp only [Css.grammarFindings, h code code' hlines]
  · simp only [Css.meaningFindings, h code code' hlines]
  · simp only [Css.costFindings, h code code' hlines]
  · simp only [Css.advice, h code code' hlines]

theorem javascriptValidator_seesLines : javascriptValidator.SeesLines := by
  have h := Javascript.source_seesLines
  refine .complete ?_ ?_ ?_ ?_ <;> intro code code' hlines
  · simp only [Javascript.grammarFindings, h code code' hlines]
  · simp only [Javascript.meaningFindings, h code code' hlines]
  · simp only [Javascript.costFindings, h code code' hlines]
  · simp only [Javascript.advice, h code code' hlines]

/-- Each validator but that of markup prepares the lines of a source first, and looks at nothing
else after that. -/
theorem Validator.seesLines_of {d : Dialect} (hd : d ≠ .html) : (Validator.of d).SeesLines := by
  cases d with
  | ampscript => exact ampscriptValidator_seesLines
  | ssjs => exact ssjsValidator_seesLines
  | sql => exact sqlValidator_seesLines
  | html => exact absurd rfl hd
  | css => exact cssValidator_seesLines
  | javascript => exact javascriptValidator_seesLines

theorem Metrics.measure_seesLines (d : Dialect) : SeesLines (Metrics.measure d) := by
  intro code code' hlines
  unfold Metrics.measure Metrics.codeLines
  rw [hlines, MaskedSource.ofCode_seesLines d code code' hlines]

theorem Metrics.of_withReturns (d : Dialect) (code : List Char) :
    Metrics.of d (Text.withReturns code) = Metrics.of d code := by
  unfold Metrics.of
  rw [Text.allBlank_withReturns, (Metrics.measure_seesLines d).withReturns]

theorem Enforce.violations_withReturns (t : RuleTable) (d : Dialect) (code : List Char) :
    violations t d (Text.withReturns code) = violations t d code := by
  unfold violations
  rw [Text.isEmpty_withReturns, Text.lines_withReturns]

/-- A carriage return before every line feed changes nothing in what the validators find and advise,
that of markup apart, in the figures of any dialect, and in the violations of any rules. -/
theorem line_ends_unseen (code : List Char) :
    (∀ d : Dialect, d ≠ .html →
      (Validator.of d).grammar (Text.withReturns code) = (Validator.of d).grammar code ∧
      (Validator.of d).meaning (Text.withReturns code) = (Validator.of d).meaning code ∧
      (Validator.of d).cost (Text.withReturns code) = (Validator.of d).cost code ∧
      (Validator.of d).advise (Text.withReturns code) = (Validator.of d).advise code) ∧
    (∀ d : Dialect, Metrics.of d (Text.withReturns code) = Metrics.of d code) ∧
    ∀ (t : RuleTable) (d : Dialect),
      Enforce.violations t d (Text.withReturns code) = Enforce.violations t d code := by
  refine ⟨fun d hd => ?_, fun d => Metrics.of_withReturns d code,
    fun t d => Enforce.violations_withReturns t d code⟩
  have h := Validator.seesLines_of hd
  exact ⟨h.grammar.withReturns code, h.meaning.withReturns code, h.cost.withReturns code,
    h.advise.withReturns code⟩

theorem line_ends_unseen_query :
    Dialect.sql ≠ .html ∧
    (Validator.of .sql).grammar "SELECT *\r\nFROM a\r\n".toList =
      (Validator.of .sql).grammar "SELECT *\nFROM a\n".toList :=
  ⟨by decide, ((line_ends_unseen "SELECT *\nFROM a\n".toList).1 .sql (by decide)).1⟩

end CampaignCheck

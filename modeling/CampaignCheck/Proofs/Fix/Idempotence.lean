import CampaignCheck.Proofs.Fix.Settling
import CampaignCheck.Proofs.Javascript.Comparisons
import CampaignCheck.Proofs.Sql.Equality
import CampaignCheck.Validator.Registry

namespace CampaignCheck

open Mask Text

theorem Finding.rule_report (line : Nat) (column : Option Nat) (rule message : String)
    (category : Category) (severity : Severity) (hint : String) :
    (Finding.report line column rule message category severity hint).rule = rule := rfl

theorem Checks.mem_perLine {checks : List (Line → List Finding)} {ls : List Line} {f : Finding} :
    f ∈ perLine checks ls ↔ ∃ l ∈ ls, ∃ check ∈ checks, f ∈ check l := by
  simp [perLine, run, total]

namespace Fix

/-- A rule is read as `shown` says if its findings are those of one check of single lines, which
finds something just in the masked lines that show it. -/
theorem Reads.of_lines {d : Dialect} {checks : List Char → List Finding} {rule : String}
    {shown : List Char → Prop} (check : Line → List Finding)
    (hchecks : ∀ code f, (f ∈ checks code ∧ f.rule = rule) ↔
      ∃ l ∈ (MaskedSource.ofCode d code).lines, f ∈ check l)
    (hline : ∀ l, ∀ f ∈ check l, f.line = max 1 l.number)
    (hshown : ∀ l, (∃ f, f ∈ check l) ↔ shown l.masked) : Reads d checks rule shown := by
  intro code i raw hraw
  have hget := lines_getElem? d code i
  rw [hraw, Option.map_some] at hget
  constructor
  · rintro ⟨f, hf, hrule, hplace⟩
    obtain ⟨l, hl, hfound⟩ := (hchecks code f).mp ⟨hf, hrule⟩
    obtain ⟨j, raw', hraw', rfl⟩ := exists_of_mem_lines hl
    have hnumber := hline _ f hfound
    obtain rfl : j = i := by
      simp only at hnumber
      omega
    rw [hraw, Option.some.injEq] at hraw'
    rw [hraw']
    exact (hshown _).mp ⟨f, hfound⟩
  · intro hs
    obtain ⟨f, hf⟩ := (hshown ⟨i + 1, raw, _⟩).mpr hs
    have hnumber := hline _ f hf
    obtain ⟨hmem, hrule⟩ := (hchecks code f).mpr ⟨_, List.mem_of_getElem? hget, hf⟩
    exact ⟨f, hmem, hrule, by simpa using hnumber⟩

end Fix

namespace Sql

def checks (code : List Char) : List Finding := grammarFindings code ++ meaningFindings code

theorem rule_report (s : Source) (st : Statement) (offset : Nat) (rule message : String)
    (category : Category) (severity : Severity) (hint : String) :
    (s.report st offset rule message category severity hint).rule = rule := rfl

theorem rule_of_mem_structureFindings {s : Source} {st : Statement} {f : Finding}
    (h : f ∈ structureFindings s st) : f.rule ≠ "sql-double-equals" := by
  simp only [structureFindings, List.mem_append] at h
  rcases h with (((h | h) | h) | h) | h
  · grind [missingFrom, rule_report]
  · grind [missingOn, rule_report]
  · grind [missingGroupBy, rule_report]
  · grind [everyColumn, rule_report]
  · grind [missingTop, rule_report]

theorem rule_of_mem_unknownQualifiers {s : Source} {st : Statement} {known : List (List Char)}
    {ms : List Match} {f : Finding} (h : f ∈ unknownQualifiers s st known ms) :
    f.rule = "sql-unknown-table-alias" := by
  fun_induction unknownQualifiers s st known ms <;> grind [rule_report]

theorem rule_of_mem_meaningFindings {code : List Char} {f : Finding}
    (h : f ∈ meaningFindings code) : f.rule ≠ "sql-double-equals" := by
  simp only [meaningFindings, List.mem_flatMap, List.mem_append] at h
  obtain ⟨st, -, (((((h | h) | h) | h) | h) | h) | h⟩ := h
  · grind [aliasFindings, rule_of_mem_unknownQualifiers]
  · grind [aggregateFindings, rule_report]
  · grind [conversionFindings, rule_report]
  · grind [dynamicFindings, rule_report]
  · grind [assemblyFindings, rule_report]
  · grind [sensitiveFindings, rule_report, Option.map_eq_some_iff]
  · grind [credentialFindings, rule_report]

theorem mem_checks_iff (code : List Char) (f : Finding) :
    (f ∈ checks code ∧ f.rule = "sql-double-equals") ↔
      ∃ l ∈ (MaskedSource.ofCode .sql code).lines, f ∈ doubledEquals l := by
  simp only [checks, List.mem_append]
  constructor
  · rintro ⟨hf | hf, hrule⟩
    · simp only [grammarFindings, List.mem_append, List.mem_flatMap, List.mem_map,
        Checks.mem_perLine] at hf
      rcases hf with ((⟨i, -, rfl⟩ | ⟨p, -, rfl⟩) | ⟨l, hl, check, hcheck, hf⟩) | ⟨st, -, hf⟩
      · simp [delimiterFinding, Finding.rule_report] at hrule
      · simp [unclosedLiteral, Finding.rule_report] at hrule
      · refine ⟨l, hl, ?_⟩
        simp only [List.mem_cons, List.not_mem_nil, or_false] at hcheck
        rcases hcheck with rfl | rfl
        · grind [unknownFunctions, Finding.rule_report]
        · exact hf
      · exact absurd hrule (rule_of_mem_structureFindings hf)
    · exact absurd hrule (rule_of_mem_meaningFindings hf)
  · rintro ⟨l, hl, hf⟩
    refine ⟨.inl ?_, ?_⟩
    · simp only [grammarFindings, List.mem_append, Checks.mem_perLine]
      exact .inl (.inr ⟨l, hl, doubledEquals, by simp, hf⟩)
    · obtain ⟨m, -, rfl⟩ := List.mem_map.mp hf
      rfl

/-- The masked line has a doubled equals sign. -/
def HasDoubled (masked : List Char) : Prop := ∃ pos, Doubled masked pos

theorem reads : Fix.Reads .sql checks "sql-double-equals" HasDoubled := by
  refine .of_lines doubledEquals mem_checks_iff ?_ ?_
  · intro l f hf
    obtain ⟨m, -, rfl⟩ := List.mem_map.mp hf
    rfl
  · intro l
    rw [HasDoubled, ← exists_find?_doubleEquals]
    simp [doubledEquals]

theorem rewrite_cases (f : Finding) (line : List Char) :
    f.rule = "sql-double-equals" ∧ Fix.rewrite fixers line f = squeezed line ∨
      f.rule ≠ "sql-double-equals" ∧ Fix.rewrite fixers line f = line := by
  by_cases hrule : f.rule = "sql-double-equals"
  · exact .inl ⟨hrule, by simp [Fix.rewrite, fixers, hrule, fixDoubleEquals, squeezed]⟩
  · exact .inr ⟨hrule, by simp [Fix.rewrite, fixers, List.lookup_cons, beq_false_of_ne hrule]⟩

theorem settling : Fix.Settling .sql fixers (fun _ => HasDoubled)
    fun rule line => rule = "sql-double-equals" → ∀ pos, ¬Doubled line pos where
  endsLike f line := by
    rcases rewrite_cases f line with ⟨-, h⟩ | ⟨-, h⟩
    · obtain ⟨k, hstretch, helastic, -⟩ := exists_squeezed line
      have hends := (EndsLike.of_stretch .sql helastic.pliant).symm
      rwa [hstretch, ← h] at hends
    · rw [h]
      exact EndsLike.refl .sql line
  isLine f line hline := by
    rcases rewrite_cases f line with ⟨-, h⟩ | ⟨-, h⟩
    · obtain ⟨k, hstretch, -⟩ := exists_squeezed line
      rw [← hstretch] at hline
      rw [h]
      exact ⟨mem_stretch.not.mp hline.feed, by rw [← getLast?_stretch k]; exact hline.last⟩
    · rwa [h]
  settles f line hrule := by
    rcases rewrite_cases f line with ⟨-, h⟩ | ⟨hother, -⟩
    · rw [h]
      exact not_doubled_squeezed line
    · exact absurd hrule hother
  keeps rule f line hsettled hrule := by
    rcases rewrite_cases f line with ⟨-, h⟩ | ⟨-, h⟩
    · rw [h]
      exact not_doubled_squeezed line
    · rw [h]
      exact hsettled hrule
  stays f line hsettled := by
    rcases rewrite_cases f line with ⟨hrule, h⟩ | ⟨-, h⟩
    · rw [h, squeezed_of_not_doubled (hsettled hrule)]
    · exact h
  shows rule f line c hc _ hshown := by
    rcases rewrite_cases f line with ⟨-, h⟩ | ⟨-, h⟩
    · obtain ⟨pos, hd⟩ := h ▸ hshown
      exact absurd hd (not_doubled_inside (not_doubled_squeezed line) hc pos)
    · exact h ▸ hshown

theorem reads_fixable (rule : String) (hrule : (fixers.lookup rule).isSome) :
    Fix.Reads .sql checks rule HasDoubled := by
  simp only [fixers, List.lookup_cons, List.lookup_nil] at hrule
  split at hrule
  · next h =>
    obtain rfl : rule = "sql-double-equals" := by simpa using h
    exact reads
  · simp at hrule

/-- A pass of fixes leaves no doubled equals sign that is found. -/
theorem rule_of_mem_checks_text {code : List Char} {f : Finding}
    (hf : f ∈ checks (Fix.text (Fix.run fixers code (checks code)))) :
    f.rule ≠ "sql-double-equals" := by
  intro hrule
  obtain ⟨l, hl, hfound⟩ := (mem_checks_iff _ f).mp ⟨hf, hrule⟩
  obtain ⟨i, line, hline, rfl⟩ := exists_of_mem_lines hl
  rw [settling.lines_text] at hline
  obtain ⟨m, hm, rfl⟩ := List.mem_map.mp hfound
  have hplace : max 1 (i + 1) = i + 1 := by omega
  have hclean := Fix.settled_of_mem_checks settling reads hline hf rfl hplace rfl
  obtain ⟨pos, hd⟩ := exists_find?_doubleEquals.mp ⟨m, Option.mem_toList.mp hm⟩
  exact not_doubled_inside hclean (of_before _ _ i) pos hd

end Sql

namespace Javascript

/-- What the fixes of a browser script are based on. -/
def checks (code : List Char) : List Finding := grammarFindings code ++ meaningFindings code

theorem rule_of_mem_strayAwaits {s : AwaitState} {ls : List Line} {f : Finding}
    (h : f ∈ strayAwaits s ls) : f.rule = "js-await-async" := by
  fun_induction strayAwaits s ls <;> grind [Finding.rule_report]

theorem rule_of_mem_promiseFindings {cs : List Char} {covered : Nat} {ms : List Match}
    {f : Finding} (h : f ∈ promiseFindings cs covered ms) : f.rule = "js-promise-catch" := by
  fun_induction promiseFindings cs covered ms <;> grind [Finding.rule_report]

theorem of_mem_looseComparisons {l : Line} {f : Finding} (h : f ∈ looseComparisons l) :
    f.rule = "js-strict-equality" ∧ f.line = max 1 l.number := by
  obtain ⟨m, -, rfl⟩ := List.mem_map.mp h
  exact ⟨rfl, rfl⟩

theorem of_mem_assignedConditions {l : Line} {f : Finding} (h : f ∈ assignedConditions l) :
    f.rule = "js-assignment-in-condition" ∧ f.line = max 1 l.number := by
  obtain ⟨column, -, rfl⟩ := List.mem_map.mp h
  exact ⟨rfl, rfl⟩

/-- Only two checks find something that has a fixer. -/
theorem cases_of_mem_checks {code : List Char} {f : Finding} (h : f ∈ checks code) :
    (∃ l ∈ (MaskedSource.ofCode .javascript code).lines, f ∈ looseComparisons l) ∨
      (∃ l ∈ (MaskedSource.ofCode .javascript code).lines, f ∈ assignedConditions l) ∨
      f.rule ≠ "js-strict-equality" ∧ f.rule ≠ "js-assignment-in-condition" := by
  rcases List.mem_append.mp h with hf | hf
  · simp only [grammarFindings, List.mem_append, List.mem_flatMap, List.mem_map,
      Checks.mem_perLine] at hf
    rcases hf with (⟨r, hr, i, -, rfl⟩ | ⟨p, -, rfl⟩) | ⟨l, hl, check, hcheck, hf⟩
    · refine .inr (.inr ?_)
      simp only [delimiterRules, List.mem_cons, List.not_mem_nil, or_false] at hr
      rcases hr with rfl | rfl | rfl <;> simp [delimiterFinding, Finding.rule_report]
    · exact .inr (.inr (by simp [unclosedLiteral, Finding.rule_report]))
    · simp only [List.mem_cons, List.not_mem_nil, or_false] at hcheck
      rcases hcheck with rfl | rfl
      · exact .inr (.inl ⟨l, hl, hf⟩)
      · grind [bareConstants, Finding.rule_report]
  · simp only [meaningFindings, List.mem_append, Checks.mem_perLine] at hf
    rcases hf with (⟨l, hl, check, hcheck, hf⟩ | hf) | hf
    · simp only [List.mem_cons, List.not_mem_nil, or_false] at hcheck
      rcases hcheck with rfl | rfl | rfl | rfl
      · grind [evaluations, Finding.rule_report]
      · grind [markupWrites, Finding.rule_report]
      · exact .inl ⟨l, hl, hf⟩
      · grind [functionScoped, Finding.rule_report]
    · simp [rule_of_mem_strayAwaits hf]
    · simp [rule_of_mem_promiseFindings hf]

theorem mem_checks_equality (code : List Char) (f : Finding) :
    (f ∈ checks code ∧ f.rule = "js-strict-equality") ↔
      ∃ l ∈ (MaskedSource.ofCode .javascript code).lines, f ∈ looseComparisons l := by
  constructor
  · rintro ⟨hf, hrule⟩
    rcases cases_of_mem_checks hf with h | ⟨l, -, h⟩ | ⟨h, -⟩
    · exact h
    · rw [(of_mem_assignedConditions h).1] at hrule
      simp at hrule
    · exact absurd hrule h
  · rintro ⟨l, hl, hf⟩
    refine ⟨List.mem_append_right _ ?_, (of_mem_looseComparisons hf).1⟩
    simp only [meaningFindings, List.mem_append, Checks.mem_perLine]
    exact .inl (.inl ⟨l, hl, looseComparisons, by simp, hf⟩)

theorem mem_checks_condition (code : List Char) (f : Finding) :
    (f ∈ checks code ∧ f.rule = "js-assignment-in-condition") ↔
      ∃ l ∈ (MaskedSource.ofCode .javascript code).lines, f ∈ assignedConditions l := by
  constructor
  · rintro ⟨hf, hrule⟩
    rcases cases_of_mem_checks hf with ⟨l, -, h⟩ | h | ⟨-, h⟩
    · rw [(of_mem_looseComparisons h).1] at hrule
      simp at hrule
    · exact h
    · exact absurd hrule h
  · rintro ⟨l, hl, hf⟩
    refine ⟨List.mem_append_left _ ?_, (of_mem_assignedConditions hf).1⟩
    simp only [grammarFindings, List.mem_append, Checks.mem_perLine]
    exact .inr ⟨l, hl, assignedConditions, by simp, hf⟩

/-- What the rules with a fixer find in a masked line. -/
def Shown (rule : String) (masked : List Char) : Prop :=
  rule = "js-strict-equality" ∧ (∃ pos, Loose masked pos) ∨
    rule = "js-assignment-in-condition" ∧ Script.Assigned masked

theorem reads_equality : Fix.Reads .javascript checks "js-strict-equality"
    (Shown "js-strict-equality") := by
  refine .of_lines looseComparisons mem_checks_equality
    (fun l f hf => (of_mem_looseComparisons hf).2) fun l => ?_
  constructor
  · rintro ⟨f, hf⟩
    obtain ⟨m, hm, -⟩ := List.mem_map.mp hf
    obtain ⟨pos, hpos, -⟩ := mem_stops_looseEquality.mp (List.mem_map_of_mem hm)
    exact .inl ⟨rfl, pos, hpos⟩
  · rintro (⟨-, pos, hpos⟩ | ⟨hrule, -⟩)
    · obtain ⟨m, hm, -⟩ := List.mem_map.mp (mem_stops_looseEquality.mpr ⟨pos, hpos, rfl⟩)
      exact ⟨_, List.mem_map_of_mem hm⟩
    · simp at hrule

theorem reads_condition : Fix.Reads .javascript checks "js-assignment-in-condition"
    (Shown "js-assignment-in-condition") := by
  refine .of_lines assignedConditions mem_checks_condition
    (fun l f hf => (of_mem_assignedConditions hf).2) fun l => ?_
  simp [Shown, assignedConditions, ← Script.exists_mem_assignedColumns]

/-- In which lines the fixers of the rules have nothing to do. -/
def Settled (rule : String) (line : List Char) : Prop :=
  (rule = "js-strict-equality" → ∀ pos, ¬Loose (Mask.alone (.of .javascript) line) pos) ∧
    (rule = "js-assignment-in-condition" →
      ∀ pos, ¬Script.FirstAssigns (Mask.alone (.of .javascript) line) pos)

theorem rewrite_cases (f : Finding) (line : List Char) :
    f.rule = "js-strict-equality" ∧
        Fix.rewrite fixers line f = (fixEquality line f).getD line ∨
      f.rule = "js-assignment-in-condition" ∧
        Fix.rewrite fixers line f = (Script.fixCondition "===" line f).getD line ∨
      f.rule ≠ "js-strict-equality" ∧ f.rule ≠ "js-assignment-in-condition" ∧
        Fix.rewrite fixers line f = line := by
  by_cases hequality : f.rule = "js-strict-equality"
  · exact .inl ⟨hequality, by simp [Fix.rewrite, fixers, hequality, List.lookup_cons]⟩
  · by_cases hcondition : f.rule = "js-assignment-in-condition"
    · exact .inr (.inl ⟨hcondition, by simp [Fix.rewrite, fixers, hcondition]⟩)
    · exact .inr (.inr ⟨hequality, hcondition, by
        simp [Fix.rewrite, fixers, List.lookup_cons, beq_false_of_ne hequality,
          beq_false_of_ne hcondition]⟩)

/-- How often the characters of a line are repeated where the line is fixed for a finding. -/
structure Repeats (f : Finding) (line : List Char) (k : Nat → Nat) : Prop where
  rewrite_eq : Fix.rewrite fixers line f = stretch k line
  elastic : Elastic k line
  /-- A sign is doubled only as the second one of a comparison. -/
  doubles : ∀ i, k i = 1 → f.rule = "js-strict-equality" ∧
    Pattern.preceded (.chars "=!<>") (Mask.alone (.of .javascript) line) i = true
  equality : f.rule = "js-strict-equality" →
    ∀ pos, Loose (Mask.alone (.of .javascript) line) pos → 0 < k (pos + 1)
  condition : f.rule = "js-assignment-in-condition" →
    ∀ pos, Script.FirstAssigns (Mask.alone (.of .javascript) line) pos → 0 < k pos
  settled : Settled f.rule line → ∀ i, k i = 0

theorem exists_repeats (f : Finding) (line : List Char) : ∃ k, Repeats f line k := by
  rcases rewrite_cases f line with ⟨hrule, h⟩ | ⟨hrule, h⟩ | ⟨hequality, hcondition, h⟩
  · obtain ⟨k, hk, helastic, hiff⟩ := fixEquality_stretch line f
    refine ⟨k, h.trans hk, helastic, fun i hi => ⟨hrule, ?_⟩, fun _ pos hpos => ?_, ?_, ?_⟩
    · obtain ⟨pos, hpos, rfl⟩ := (hiff i).mp (by omega)
      exact sees_sign hpos.first
    · exact (hiff _).mpr ⟨pos, hpos, rfl⟩
    · simp [hrule]
    · intro hsettled i
      by_contra hne
      obtain ⟨pos, hpos, -⟩ := (hiff i).mp (Nat.pos_of_ne_zero hne)
      exact hsettled.1 hrule pos hpos
  · obtain ⟨k, hk, helastic, hiff⟩ :=
      Script.fixCondition_stretch (m := 2) (show "===".toList = _ from rfl) (by decide) line f
    refine ⟨k, h.trans hk, helastic, fun i hi => ?_, ?_, ?_, ?_⟩
    · rcases (hiff i).1 with hcount | hcount <;> omega
    · simp [hrule]
    · exact fun _ pos hpos => (hiff pos).2.mpr hpos
    · intro hsettled i
      by_contra hne
      exact hsettled.2 hrule i ((hiff i).2.mp (Nat.pos_of_ne_zero hne))
  · exact ⟨fun _ => 0, by rw [h, stretch_zero], .zero line, fun i hi => by simp at hi,
      fun he => absurd he hequality, fun he => absurd he hcondition, fun _ _ => rfl⟩

section Repeats

variable {f : Finding} {line : List Char} {k : Nat → Nat} (h : Repeats f line k)
include h

theorem Repeats.inside_eq {c : Context} (hc : c.Of (.of .javascript)) :
    inside (.of .javascript) c (stretch k line) = stretch k (inside (.of .javascript) c line) :=
  inside_stretch (Lexicon.of_skipsBlanks _) (Lexicon.of_ignoresPliant _) hc h.elastic.pliant

theorem Repeats.alone_eq : Mask.alone (.of .javascript) (stretch k line) =
    stretch k (Mask.alone (.of .javascript) line) := h.inside_eq (c := .code) trivial

theorem Repeats.loose {pos : Nat}
    (hpos : Loose (Mask.alone (.of .javascript) (stretch k line)) pos) :
    ∃ i, Loose (Mask.alone (.of .javascript) line) i ∧ k (i + 1) = 0 := by
  rw [h.alone_eq] at hpos
  exact hpos.of_stretch (pliant_inside h.elastic.pliant _ _) fun i hi _ => (h.doubles i hi).2

theorem Repeats.firstAssigns {pos : Nat}
    (hpos : Script.FirstAssigns (Mask.alone (.of .javascript) (stretch k line)) pos) :
    ∃ i, Script.FirstAssigns (Mask.alone (.of .javascript) line) i ∧ k i = 0 := by
  rw [h.alone_eq] at hpos
  exact hpos.of_stretch (pliant_inside h.elastic.pliant _ _)

end Repeats

theorem settling : Fix.Settling .javascript fixers Shown Settled where
  endsLike f line := by
    obtain ⟨k, hk⟩ := exists_repeats f line
    rw [hk.rewrite_eq]
    exact EndsLike.of_stretch .javascript hk.elastic.pliant
  isLine f line hline := by
    obtain ⟨k, hk⟩ := exists_repeats f line
    rw [hk.rewrite_eq]
    exact hline.stretch k
  settles f line := by
    obtain ⟨k, hk⟩ := exists_repeats f line
    rw [hk.rewrite_eq]
    constructor
    · intro hrule pos hpos
      obtain ⟨i, hi, hstay⟩ := hk.loose hpos
      have hmore := hk.equality hrule i hi
      omega
    · intro hrule pos hpos
      obtain ⟨i, hi, hstay⟩ := hk.firstAssigns hpos
      have hmore := hk.condition hrule i hi
      omega
  keeps rule f line hsettled := by
    obtain ⟨k, hk⟩ := exists_repeats f line
    rw [hk.rewrite_eq]
    constructor
    · intro hrule pos hpos
      obtain ⟨i, hi, -⟩ := hk.loose hpos
      exact hsettled.1 hrule i hi
    · intro hrule pos hpos
      obtain ⟨i, hi, -⟩ := hk.firstAssigns hpos
      exact hsettled.2 hrule i hi
  stays f line hsettled := by
    obtain ⟨k, hk⟩ := exists_repeats f line
    obtain rfl : k = fun _ => 0 := funext (hk.settled hsettled)
    rw [hk.rewrite_eq, stretch_zero]
  shows rule f line c hc hne hshown := by
    obtain ⟨k, hk⟩ := exists_repeats f line
    rw [hk.rewrite_eq, hk.inside_eq hc] at hshown
    have hpliant := pliant_inside hk.elastic.pliant (.of .javascript) c
    rcases hshown with ⟨hrule, pos, hpos⟩ | ⟨hrule, hassigned⟩
    · obtain ⟨i, hi, -⟩ := hpos.of_stretch hpliant fun i hi _ =>
        absurd ((hk.doubles i hi).1.trans hrule.symm) hne
      exact .inl ⟨hrule, i, hi⟩
    · exact .inr ⟨hrule, hassigned.of_stretch hpliant⟩

theorem reads {rule : String} (hrule : (fixers.lookup rule).isSome) :
    Fix.Reads .javascript checks rule (Shown rule) := by
  simp only [fixers, List.lookup_cons, List.lookup_nil] at hrule
  split at hrule
  · next h =>
    obtain rfl : rule = "js-assignment-in-condition" := by simpa using h
    exact reads_condition
  · split at hrule
    · next h =>
      obtain rfl : rule = "js-strict-equality" := by simpa using h
      exact reads_equality
    · simp at hrule

end Javascript

/-- A source after one pass of fixes for what the checks of grammar and meaning find in it. -/
def Validator.fixPass (v : Validator) (code : List Char) : Except Unsupported (List Char) := do
  let found ← v.grammar code
  let more ← v.meaning code
  v.fixedCode code (found ++ more)

/-- One pass of fixes is enough. For queries and for browser scripts a pass gives a source that
another pass gives back unchanged, and the query that it gives has no finding on doubled equals
signs left. -/
theorem fixing_idempotent (code : List Char) :
    (∃ fixed, sqlValidator.fixPass code = .ok fixed ∧ sqlValidator.fixPass fixed = .ok fixed ∧
      ∃ found more, sqlValidator.grammar fixed = .ok found ∧ sqlValidator.meaning fixed = .ok more ∧
        ∀ f ∈ found ++ more, f.rule ≠ "sql-double-equals") ∧
    ∃ fixed, javascriptValidator.fixPass code = .ok fixed ∧
      javascriptValidator.fixPass fixed = .ok fixed := by
  refine ⟨⟨_, rfl, ?_, _, _, rfl, rfl, fun f hf => Sql.rule_of_mem_checks_text hf⟩, _, rfl, ?_⟩
  · exact congrArg Except.ok (Fix.run_text_run Sql.settling Sql.reads_fixable code)
  · exact congrArg Except.ok
      (Fix.run_text_run Javascript.settling (fun _ => Javascript.reads) code)

end CampaignCheck

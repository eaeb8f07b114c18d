import CampaignCheck.Proofs.Ampscript.ComparisonFixes
import CampaignCheck.Proofs.Fix.Idempotence

namespace CampaignCheck

open Text Mask

namespace Javascript

theorem watches : Fix.Watches javascriptValidator "js-assignment-in-condition"
    (shownLines .javascript id) Script.AssignsAt := by
  refine .of_lines assignedConditions (fun _ => rfl) (fun _ => rfl) (fun code f => ?_)
    (fun code l hl f hf => ?_) (fun l f hf => (of_mem_assignedConditions hf).2)
    (fun _ _ hl => number_pos_of_mem_shownLines hl) fun l => ?_
  · rw [shownLines_id]
    exact mem_checks_condition code f
  · rw [shownLines_id] at hl
    simp only [grammarFindings, List.mem_append, Checks.mem_perLine]
    exact .inr ⟨l, hl, assignedConditions, by simp, hf⟩
  · have hiff := @Script.exists_mem_assignedColumns l.masked
    simpa [assignedConditions, Script.Assigned] using hiff

theorem repeatsFirst : Fix.RepeatsFirst javascriptValidator "js-assignment-in-condition"
    .javascript 2 Script.AssignsAt Script.FirstAssigns where
  rewrites raw f hrule := by
    obtain ⟨k, hk, hcounts⟩ :=
      Script.fixCondition_stretch (m := 2) (show "===".toList = _ from rfl) (by decide) raw f
    refine ⟨k, ?_, hcounts⟩
    rw [← hk]
    simp [Fix.rewrite, javascriptValidator, Validator.complete, fixers, hrule]
  moves k cs hk pos := Script.assignsAt_stretch_iff hk

end Javascript

namespace Ssjs

theorem of_mem_assignedConditions {l : Line} {f : Finding} (h : f ∈ assignedConditions l) :
    f.rule = "ssjs-comparison" ∧ f.line = max 1 l.number := by
  obtain ⟨column, -, rfl⟩ := List.mem_map.mp h
  exact ⟨rfl, rfl⟩

theorem rule_of_mem_missingSemicolons {depth : Nat} {ls : List Line} {f : Finding}
    (h : f ∈ missingSemicolons depth ls) : f.rule = "ssjs-semicolon" := by
  fun_induction missingSemicolons depth ls <;> grind [Finding.rule_report]

theorem rule_of_mem_outputFindings {tainted : List (List Char)} {ls : List Line} {f : Finding}
    (h : f ∈ outputFindings tainted ls) : f.rule = "ssjs-unescaped-output" := by
  fun_induction outputFindings tainted ls <;>
    grind [outputsIn, Finding.rule_report, Option.bind_eq_some_iff]

theorem rule_of_mem_loadFindings {numbers : List Nat} {l : Line} {m : Match} {f : Finding}
    (h : f ∈ loadFindings numbers l m) : f.rule ≠ "ssjs-comparison" := by
  rcases List.mem_append.mp h with h | h
  · split_ifs at h
    · rw [List.mem_singleton.mp h, Finding.rule_report]
      decide
    · cases h
  · split_ifs at h
    · cases h
    · rw [List.mem_singleton.mp h, Finding.rule_report]
      decide

theorem rule_of_mem_libraryFindings {ls : List Line} {f : Finding} (h : f ∈ libraryFindings ls) :
    f.rule ≠ "ssjs-comparison" := by
  unfold libraryFindings at h
  simp only at h
  split_ifs at h
  · obtain ⟨l, -, rfl⟩ := List.mem_map.mp h
    rw [Finding.rule_report]
    decide
  · obtain ⟨⟨l, m⟩, -, h⟩ := List.mem_flatMap.mp h
    exact rule_of_mem_loadFindings h

theorem rule_of_mem_variableFindings {ls : List Line} {f : Finding}
    (h : f ∈ variableFindings ls) : f.rule ≠ "ssjs-comparison" := by
  rcases List.mem_append.mp h with h | h
  · obtain ⟨l, -, h⟩ := List.mem_flatMap.mp h
    grind [undeclaredIn, Finding.rule_report]
  · obtain ⟨d, -, rfl⟩ := List.mem_map.mp h
    rw [unusedVariable, Finding.rule_report]
    decide

theorem rule_of_mem_meaningFindings {code : List Char} {f : Finding}
    (h : f ∈ meaningFindings code) : f.rule ≠ "ssjs-comparison" := by
  simp only [meaningFindings, List.mem_append, Checks.mem_perLine] at h
  rcases h with ((h | h) | ⟨l, -, check, hcheck, h⟩) | h
  · exact rule_of_mem_variableFindings h
  · exact rule_of_mem_libraryFindings h
  · simp only [List.mem_cons, List.not_mem_nil, or_false] at hcheck
    rcases hcheck with rfl | rfl | rfl | rfl | rfl
    · grind [initFindings, Finding.rule_report]
    · grind [proxyFindings, Finding.rule_report]
    · grind [injectionFindings, Finding.rule_report, Option.bind_eq_some_iff]
    · grind [credentialFindings, Finding.rule_report]
    · grind [evalFindings, Finding.rule_report]
  · simp [rule_of_mem_outputFindings h]

theorem mem_grammarFindings {code : List Char} {l : Line} (hl : l ∈ (Source.of code).lines)
    {f : Finding} (hf : f ∈ assignedConditions l) : f ∈ grammarFindings code := by
  simp only [grammarFindings, List.mem_append, Checks.mem_perLine]
  exact .inl (.inl (.inl ⟨l, hl, assignedConditions, by simp, hf⟩))

theorem mem_findings_comparison (code : List Char) (f : Finding) :
    (f ∈ grammarFindings code ++ meaningFindings code ∧ f.rule = "ssjs-comparison") ↔
      ∃ l ∈ (Source.of code).lines, f ∈ assignedConditions l := by
  constructor
  · rintro ⟨h, hrule⟩
    rcases List.mem_append.mp h with hf | hf
    · simp only [grammarFindings, List.mem_append, List.mem_map, Checks.mem_perLine] at hf
      rcases hf with ((⟨l, hl, check, hcheck, hf⟩ | hf) | ⟨i, -, rfl⟩) | ⟨p, -, rfl⟩
      · simp only [List.mem_cons, List.not_mem_nil, or_false] at hcheck
        rcases hcheck with rfl | rfl | rfl
        · grind [clientScriptTag, Finding.rule_report]
        · exact ⟨l, hl, hf⟩
        · grind [constructorUse, Finding.rule_report]
      · rw [rule_of_mem_missingSemicolons hf] at hrule
        simp at hrule
      · grind [delimiterFinding, Finding.rule_report]
      · simp [unclosedLiteral, Finding.rule_report] at hrule
    · exact absurd hrule (rule_of_mem_meaningFindings hf)
  · rintro ⟨l, hl, hf⟩
    exact ⟨List.mem_append_left _ (mem_grammarFindings hl hf), (of_mem_assignedConditions hf).1⟩

theorem watches : Fix.Watches ssjsValidator "ssjs-comparison" (shownLines .ssjs view)
    Script.AssignsAt := by
  refine .of_lines assignedConditions (fun _ => rfl) (fun _ => rfl) mem_findings_comparison
    (fun _ _ hl _ hf => mem_grammarFindings hl hf)
    (fun l f hf => (of_mem_assignedConditions hf).2)
    (fun _ _ hl => number_pos_of_mem_shownLines hl) fun l => ?_
  have hiff := @Script.exists_mem_assignedColumns l.masked
  simpa [assignedConditions, Script.Assigned] using hiff

theorem repeatsFirst : Fix.RepeatsFirst ssjsValidator "ssjs-comparison" .ssjs 1
    Script.AssignsAt Script.FirstAssigns where
  rewrites raw f hrule := by
    obtain ⟨k, hk, hcounts⟩ :=
      Script.fixCondition_stretch (m := 1) (show "==".toList = _ from rfl) (by decide) raw f
    refine ⟨k, ?_, hcounts⟩
    rw [← hk]
    simp [Fix.rewrite, ssjsValidator, Validator.complete, fixers, hrule, List.lookup_cons]
  moves k cs hk pos := Script.assignsAt_stretch_iff hk

end Ssjs

/-- A pass for assignments in conditions fixes the first condition of a line: afterwards a line has
such a finding just if some flagged sign is not one of the first condition. In a template this is so
as long as the pass touches script only. -/
theorem condition_fixes_leave_others (code : List Char) :
    (∃ fs found, Fix.LeavesOthers javascriptValidator "js-assignment-in-condition" .javascript
      (MaskedSource.ofCode .javascript code).lines Script.AssignsAt Script.FirstAssigns code fs
      found) ∧
    (∃ fs found, Fix.LeavesOthers ssjsValidator "ssjs-comparison" .ssjs (Ssjs.Source.of code).lines
      Script.AssignsAt Script.FirstAssigns code fs found) ∧
    (Ampscript.ComparesInScript code →
      ∃ fs found, Fix.LeavesOthers ampscriptValidator "ampscript-comparison" .ampscript
        (Ampscript.Source.of code).lines Ampscript.ComparesAt Ampscript.FirstCompares code fs
        found) := by
  refine ⟨?_, ?_, fun hscript => ?_⟩
  · rw [← shownLines_id]
    refine Fix.exists_leavesOthers Javascript.repeatsFirst Javascript.watches code
      fun fs ks _ hks => ?_
    exact ⟨fun i w hw => (hks.elastic i w hw).pliant, rfl⟩
  · refine Fix.exists_leavesOthers Ssjs.repeatsFirst Ssjs.watches code fun fs ks _ hks => ?_
    have hraws : ∀ i raw, (lines code)[i]? = some raw → Pliant (ks i) raw :=
      fun i raw hraw => (hks.elastic i raw hraw).pliant
    refine ⟨fun i w hw => ?_, Ssjs.view_stretch hraws⟩
    have hlt := (List.getElem?_eq_some_iff.mp hw).1
    rw [(Ssjs.view_shows (lines code)).length_eq] at hlt
    have hraw := List.getElem?_eq_getElem hlt
    exact (shows_of_getElem? (Ssjs.view_shows (lines code)) hw hraw).pliant (hraws i _ hraw)
  · refine Fix.exists_leavesOthers Ampscript.repeatsFirst Ampscript.watches code
      fun fs ks hfs hks => ?_
    have helastic := (Ampscript.elastic_script_iff hfs hks).mpr hscript
    exact ⟨fun i w hw => (helastic i w hw).pliant, Ampscript.regions_stretch helastic⟩

theorem condition_fixes_leave_others_single :
    ∃ fs found, ampscriptValidator.findingsOn "ampscript-comparison"
        "IF @a = 1 THEN SET @b = 2 ENDIF".toList = .ok fs ∧
      ampscriptValidator.grammar (Fix.text (ampscriptValidator.applyFixes
        "IF @a = 1 THEN SET @b = 2 ENDIF".toList fs)) = .ok found ∧
      ∀ f ∈ found, f.rule ≠ "ampscript-comparison" := by
  have hplain : Ampscript.isTemplate (lines "IF @a = 1 THEN SET @b = 2 ENDIF".toList) = false := by
    decide +kernel
  have hfirst : ∀ l ∈ (Ampscript.Source.of "IF @a = 1 THEN SET @b = 2 ENDIF".toList).lines,
      ∀ pos ∈ Ampscript.compared l.masked,
        pos ∈ Ampscript.firstCompared (alone (.of .ampscript) l.raw) := by
    decide +kernel
  obtain ⟨fs, found, hleaves⟩ :=
    (condition_fixes_leave_others "IF @a = 1 THEN SET @b = 2 ENDIF".toList).2.2
      (Ampscript.comparesInScript_of_plain hplain)
  refine ⟨fs, found, hleaves.findingsOn, hleaves.grammar, hleaves.cleared.mpr ?_⟩
  intro l hl pos hflag
  exact Ampscript.mem_firstCompared.mp (hfirst l hl pos (Ampscript.mem_compared.mpr hflag))

def assignment (line column : Nat) : Finding :=
  .report line (some column) "ssjs-comparison"
    "Assignment inside a condition; use == or === for comparison" .syntactic .error
    "Replace = with == for comparison"

/-- The second condition of a line is left as it is. -/
theorem assignment_left_in_second_condition :
    ∃ fs found, ssjsValidator.findingsOn "ssjs-comparison"
        "if (a = 1) { if (b = 2) { c(); } }".toList = .ok fs ∧
      Fix.text (ssjsValidator.applyFixes "if (a = 1) { if (b = 2) { c(); } }".toList fs) =
        "if (a == 1) { if (b = 2) { c(); } }".toList ∧
      ssjsValidator.grammar "if (a == 1) { if (b = 2) { c(); } }".toList = .ok found ∧
      ∃ f ∈ found, f.rule = "ssjs-comparison" := by
  have hfound : ssjsValidator.findingsOn "ssjs-comparison"
      "if (a = 1) { if (b = 2) { c(); } }".toList = .ok [assignment 1 6, assignment 1 19] := by
    decide +kernel
  refine ⟨_, _, hfound, ?_, rfl, assignment 1 20, ?_, rfl⟩
  · have horder : Fix.order [assignment 1 6, assignment 1 19] =
        [assignment 1 19, assignment 1 6] := by
      cbv
    rw [Validator.applyFixes, Fix.run, horder]
    decide +kernel
  · decide +kernel

end CampaignCheck

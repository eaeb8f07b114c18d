import CampaignCheck.Proofs.Analysis.Gravity
import CampaignCheck.Proofs.Placement.Ampscript
import Mathlib.Data.List.Nodup

namespace CampaignCheck.Ampscript

open Pattern

/-- The rules of templates whose findings are errors. -/
def errorRules : List String :=
  ["ampscript-delimiters", "ampscript-output-syntax", "ampscript-unknown-function",
    "ampscript-comparison", "ampscript-loop-structure", "ampscript-block-structure",
    "ampscript-unterminated-string", "naming_ampscript_variables"]

theorem rule_issues_graded (raw : List Char) (number i : Nat) (zone : Zone) (cs : List Char) :
    ∀ f ∈ (rule raw number i zone cs).issues, f.Graded errorRules := by
  unfold rule
  split
  · split <;> simp
  · split_ifs
    · simp
    · exact List.forall_mem_singleton.mpr (report_graded (by simp [errorRules, mixedRule]) ..)
    · simp
  · split_ifs
    · simp
    · split
      · simp
      · exact List.forall_mem_singleton.mpr (report_graded (by simp [errorRules, mixedRule]) ..)
    · exact List.forall_mem_singleton.mpr (report_graded (by simp [errorRules, mixedRule]) ..)
    · exact List.forall_mem_singleton.mpr (report_graded (by simp [errorRules, mixedRule]) ..)
    · split <;> simp

theorem regionChars_issues_graded (raw : List Char) (number i : Nat) (keep : List Bool)
    (zone : Zone) (cs : List Char) :
    ∀ f ∈ (regionChars raw number i keep zone cs).2.2, f.Graded errorRules := by
  induction cs generalizing i keep zone with
  | nil => cases keep <;> simp [regionChars]
  | cons c cs ih =>
    cases keep with
    | nil => exact List.forall_mem_append.mpr ⟨rule_issues_graded raw number i zone _, ih _ _ _⟩
    | cons b keep => exact ih _ _ _

theorem regionLines_issues_graded (number : Nat) (zone : Zone) (ls : List (List Char)) :
    ∀ f ∈ (regionLines number zone ls).2.2, f.Graded errorRules := by
  induction ls generalizing number zone with
  | nil => simp [regionLines]
  | cons raw rest ih =>
    exact List.forall_mem_append.mpr ⟨regionChars_issues_graded raw number 0 [] zone raw, ih _ _⟩

theorem regions_issues_graded (ls : List (List Char)) :
    ∀ f ∈ (Regions.of ls).issues, f.Graded errorRules := by
  have hissues := regionLines_issues_graded 1 .outside ls
  unfold Regions.of
  split_ifs
  · simp
  · simp only
    split
    · exact List.forall_mem_append.mpr ⟨hissues,
        List.forall_mem_singleton.mpr (report_graded (by simp [errorRules, mixedRule]) ..)⟩
    · exact hissues

theorem unknownFunctions_graded : GradesLines errorRules unknownFunctions := by
  intro l f hf
  obtain ⟨m, -, hf⟩ := List.mem_filterMap.mp hf
  simp only at hf
  split_ifs at hf
  cases hf
  exact report_graded (by simp [errorRules, mixedRule]) ..

theorem assignedConditions_graded : GradesLines errorRules assignedConditions := by
  intro l f hf
  obtain ⟨m, -, hf⟩ := List.mem_filterMap.mp hf
  obtain ⟨e, -, rfl⟩ := Option.map_eq_some_iff.mp hf
  exact report_graded (by simp [errorRules, mixedRule]) ..

theorem grammarFindings_graded (code : List Char) :
    ∀ f ∈ grammarFindings code, f.Graded errorRules := by
  intro f hf
  simp only [grammarFindings, List.mem_append, List.mem_map] at hf
  rcases hf with (((hf | hf) | ⟨b, -, rfl⟩) | ⟨c, -, rfl⟩) | ⟨p, -, rfl⟩
  · exact regions_issues_graded _ f hf
  · refine perLine_graded ?_ _ f hf
    simp [unknownFunctions_graded, assignedConditions_graded]
  · simp only [unclosedBlock]
    split_ifs <;> exact report_graded (by simp [errorRules, mixedRule]) ..
  · simp only [strayBlockEnd]
    split_ifs <;> exact report_graded (by simp [errorRules, mixedRule]) ..
  · exact report_graded (by simp [errorRules, mixedRule]) ..

theorem occurrence_graded {t : Tracking} (ht : ∀ f ∈ t.found, f.Graded errorRules)
    (number column : Nat) (name : List Char) (declares : Bool) :
    ∀ f ∈ (t.occurrence number column name declares).found, f.Graded errorRules := by
  unfold Tracking.occurrence
  simp only
  split_ifs
  · exact ht
  · exact ht
  · exact ht
  · exact List.forall_mem_append.mpr ⟨ht,
      List.forall_mem_singleton.mpr (report_graded (by simp [errorRules, mixedRule]) ..)⟩

theorem line_graded {t : Tracking} (ht : ∀ f ∈ t.found, f.Graded errorRules) (l : Line) :
    ∀ f ∈ (t.line l).found, f.Graded errorRules := by
  unfold Tracking.line
  generalize variableName.findAll l.masked = ms
  induction ms generalizing t with
  | nil => exact ht
  | cons m ms ih => exact ih (occurrence_graded ht _ _ _ _)

theorem tracking_graded {t : Tracking} (ht : ∀ f ∈ t.found, f.Graded errorRules)
    (ls : List Line) : ∀ f ∈ (ls.foldl Tracking.line t).found, f.Graded errorRules := by
  induction ls generalizing t with
  | nil => exact ht
  | cons l ls ih => exact ih (line_graded ht l)

theorem variableFindings_graded (ls : List Line) :
    ∀ f ∈ variableFindings ls, f.Graded errorRules := by
  intro f hf
  rcases List.mem_append.mp hf with hf | hf
  · exact tracking_graded (by simp) ls f hf
  · obtain ⟨d, -, rfl⟩ := List.mem_map.mp hf
    exact report_graded (by simp [errorRules, mixedRule]) ..

theorem dataOperations_graded : GradesLines errorRules dataOperations := by
  intro l f hf
  obtain ⟨m, -, hf⟩ := List.mem_filterMap.mp hf
  simp only at hf
  split_ifs at hf
  · split at hf
    · cases hf
    · split_ifs at hf
      cases hf
      exact report_graded (by simp [errorRules, mixedRule]) ..
  · cases hf
    exact report_graded (by simp [errorRules, mixedRule]) ..

theorem credentials_graded : GradesLines errorRules credentials := by
  intro l f hf
  obtain ⟨column, -, rfl⟩ := List.mem_map.mp hf
  exact report_graded (by simp [errorRules, mixedRule]) ..

theorem unencodedOutput_graded (tainted : List (List Char)) (number column : Nat)
    (expr : List Char) :
    ∀ f ∈ unencodedOutput tainted number column expr, f.Graded errorRules := by
  unfold unencodedOutput
  simp only
  split_ifs
  · simp
  · exact List.forall_mem_singleton.mpr (report_graded (by simp [errorRules, mixedRule]) ..)
  · simp

theorem bareOutputs_graded (tainted : List (List Char)) (l : Line) :
    ∀ f ∈ bareOutputs tainted l, f.Graded errorRules := by
  intro f hf
  obtain ⟨m, -, hf⟩ := List.mem_flatMap.mp hf
  simp only at hf
  split_ifs at hf
  · exact unencodedOutput_graded _ _ _ _ f hf
  · cases hf

/-- The findings are graded, all but one at the most, which has this key. -/
def OneUngraded (key : String × Nat × Option Nat) (fs : List Finding) : Prop :=
  ∃ e : Finding, e.key = key ∧ ∀ f ∈ fs, f = e ∨ f.Graded errorRules

theorem OneUngraded.append {key : String × Nat × Option Nat} {fs gs : List Finding}
    (hf : OneUngraded key fs) (hg : ∀ g ∈ gs, g.Graded errorRules) :
    OneUngraded key (fs ++ gs) := by
  obtain ⟨e, hkey, he⟩ := hf
  exact ⟨e, hkey, List.forall_mem_append.mpr ⟨he, fun g hmem => .inr (hg g hmem)⟩⟩

theorem callFlow_graded (tainted : List (List Char)) (l : Line) (m : Match) :
    OneUngraded (mixedRule, max 1 l.number, some (m.startOf 1)) (callFlow tainted l m) := by
  have hnone : OneUngraded (mixedRule, max 1 l.number, some (m.startOf 1)) [] :=
    ⟨.report l.number (some (m.startOf 1)) mixedRule "" .security .error "", rfl, by simp⟩
  unfold callFlow
  simp only
  split
  · exact hnone
  · apply OneUngraded.append
    · split_ifs
      · exact hnone
      · exact ⟨_, rfl, fun f hf => .inl (List.mem_singleton.mp hf)⟩
      · exact ⟨_, rfl, fun f hf => .inl (List.mem_singleton.mp hf)⟩
      · exact hnone
    · split_ifs
      · exact unencodedOutput_graded _ _ _ _
      · simp

/-- No two calls in a line start at the same column. -/
theorem eq_of_startOf {cs : List Char} {m m' : Match} (hm : m ∈ call.findAll cs)
    (hm' : m' ∈ call.findAll cs) (h : m.startOf 1 = m'.startOf 1) : m = m' := by
  have hwidth : 0 < call.leastWidth := by decide
  have hstart {k : Match} (hk : k ∈ call.findAll cs) : k.startOf 1 = k.start :=
    (finds_of_mem_findAll hk).startOf_leading (by decide) (by decide)
  rw [hstart hm, hstart hm'] at h
  have hnodup : ((call.findAll cs).map (·.start)).Nodup := by
    rw [List.Nodup, List.pairwise_map]
    refine (findAll_apart (by decide) cs).imp fun {a b} hab => ?_
    omega
  exact List.inj_on_of_nodup_map hnodup hm hm' h

/-- A finding on the first line is graded or made by one of its calls. -/
theorem mem_requestFlow_cons {tainted : List (List Char)} {l : Line} {ls : List Line} {f : Finding}
    (h : f ∈ requestFlow tainted (l :: ls)) : f.Graded errorRules ∨
      (∃ m ∈ call.findAll l.masked, f ∈ callFlow (tainted ++ taintedBy l.masked) l m ∧
        f.key = (mixedRule, max 1 l.number, some (m.startOf 1))) ∨
      f ∈ requestFlow (tainted ++ taintedBy l.masked) ls := by
  simp only [requestFlow, List.mem_append, List.mem_flatMap] at h
  rcases h with (⟨m, hm, h⟩ | h) | h
  · obtain ⟨e, hkey, he⟩ := callFlow_graded (tainted ++ taintedBy l.masked) l m
    rcases he f h with rfl | hgraded
    · exact .inr (.inl ⟨m, hm, h, hkey⟩)
    · exact .inl hgraded
  · exact .inl (bareOutputs_graded _ l f h)
  · exact .inr (.inr h)

theorem requestFlow_graded {tainted : List (List Char)} {ls : List Line} {f : Finding}
    (h : f ∈ requestFlow tainted ls) :
    f.Graded errorRules ∨ f.rule = mixedRule ∧ f.line ∈ ls.map (max 1 ·.number) := by
  induction ls generalizing tainted with
  | nil => simp [requestFlow] at h
  | cons l ls ih =>
    rcases mem_requestFlow_cons h with h | ⟨m, -, -, hkey⟩ | h
    · exact .inl h
    · simp only [Finding.key, Prod.mk.injEq] at hkey
      exact .inr ⟨hkey.1, by simp [hkey.2.1]⟩
    · rcases ih h with hgraded | ⟨hrule, hline⟩
      · exact .inl hgraded
      · exact .inr ⟨hrule, List.mem_cons_of_mem _ hline⟩

/-- At one place, the rule with both has one finding. -/
theorem eq_of_mem_requestFlow {tainted : List (List Char)} {ls : List Line}
    (hnumbers : (ls.map (max 1 ·.number)).Nodup) {f g : Finding}
    (hf : f ∈ requestFlow tainted ls) (hg : g ∈ requestFlow tainted ls)
    (hrule : f.rule = mixedRule) (hkey : f.key = g.key) : f = g := by
  have hrule' : g.rule = mixedRule := by
    rw [← hrule]
    exact (congrArg Prod.fst hkey).symm
  induction ls generalizing tainted f g with
  | nil => simp [requestFlow] at hf
  | cons l ls ih =>
    rw [List.map_cons, List.nodup_cons] at hnumbers
    -- A finding on this line has another line than those behind it.
    have hapart {f g : Finding} {c : Option Nat} (hf : f.key = (mixedRule, max 1 l.number, c))
        (hg : g ∈ requestFlow (tainted ++ taintedBy l.masked) ls) (hrule : g.rule = mixedRule)
        (hkey : f.key = g.key) : False := by
      have hline : g.line = max 1 l.number := by
        rw [hkey] at hf
        exact (Prod.mk.inj (Prod.mk.inj hf).2).1
      rcases requestFlow_graded hg with hgraded | ⟨-, hmem⟩
      · exact hgraded.1 hrule
      · exact hnumbers.1 (hline ▸ hmem)
    rcases mem_requestFlow_cons hf with hf | ⟨m, hm, hf, hplace⟩ | hf
    · exact absurd hrule hf.1
    · rcases mem_requestFlow_cons hg with hg | ⟨m', hm', hg, hplace'⟩ | hg
      · exact absurd hrule' hg.1
      · rw [hplace, hplace'] at hkey
        obtain rfl : m = m' := eq_of_startOf hm hm' (by simpa using hkey)
        obtain ⟨e, -, he⟩ := callFlow_graded (tainted ++ taintedBy l.masked) l m
        have hfe : f = e := (he f hf).resolve_right fun h => h.1 hrule
        have hge : g = e := (he g hg).resolve_right fun h => h.1 hrule'
        rw [hfe, hge]
      · exact (hapart hplace hg hrule' hkey).elim
    · rcases mem_requestFlow_cons hg with hg | ⟨m', -, -, hplace'⟩ | hg
      · exact absurd hrule' hg.1
      · exact (hapart hplace' hf hrule hkey.symm).elim
      · exact ih hnumbers.2 hf hg hrule hkey hrule'

theorem source_numbers (code : List Char) :
    ((Source.of code).lines.map (max 1 ·.number)).Nodup := by
  rw [List.Nodup, List.pairwise_map]
  refine (source_ordered code).imp_of_mem fun {l k} hl hk hlt => ?_
  have hpos := (of_mem_source hl).pos
  have hpos' := (of_mem_source hk).pos
  omega

/-- The findings on meaning are graded, but for those on what a visitor sends into a lookup. -/
theorem meaningFindings_graded {code : List Char} {f : Finding} (h : f ∈ meaningFindings code) :
    f.Graded errorRules ∨ f.rule = mixedRule ∧ f ∈ requestFlow [] (Source.of code).lines := by
  simp only [meaningFindings, List.mem_append] at h
  rcases h with (h | h) | h
  · exact .inl (variableFindings_graded _ f h)
  · refine .inl (perLine_graded ?_ _ f h)
    simp [dataOperations_graded, credentials_graded]
  · rcases requestFlow_graded h with hgraded | ⟨hrule, -⟩
    · exact .inl hgraded
    · exact .inr ⟨hrule, h⟩

end CampaignCheck.Ampscript

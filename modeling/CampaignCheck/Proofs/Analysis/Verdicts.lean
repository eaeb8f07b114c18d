import CampaignCheck.Analysis.Full
import CampaignCheck.Live.Machine
import CampaignCheck.Proofs.Analysis.RequestFlow
import CampaignCheck.Proofs.Live.Merging

namespace CampaignCheck

def Dialect.errorRules : Dialect → List String
  | .ampscript => Ampscript.errorRules
  | .ssjs => Ssjs.errorRules
  | .sql => Sql.errorRules
  | .html => Html.errorRules
  | .css => Css.errorRules
  | .javascript => Javascript.errorRules

/-- What is found of a rule at a place is an error each time, or never. -/
def Consistent (fs : List Finding) : Prop :=
  ∀ f ∈ fs, ∀ g ∈ fs, f.key = g.key → f.isError = g.isError

theorem Finding.Graded.isError_eq {errors : List String} {f g : Finding} (hf : f.Graded errors)
    (hg : g.Graded errors) (hrule : f.rule = g.rule) : f.isError = g.isError := by
  rw [Bool.eq_iff_iff, Finding.isError, Finding.isError, beq_iff_eq, beq_iff_eq, hf.2, hg.2, hrule]

theorem Consistent.of_graded {errors : List String} {fs gs hs : List Finding}
    (hf : ∀ f ∈ fs, f.Graded errors) (hg : ∀ f ∈ gs, f.Graded errors)
    (hh : ∀ f ∈ hs, f.Graded errors) : Consistent (fs ++ gs ++ hs) := by
  have hall : ∀ f ∈ fs ++ gs ++ hs, f.Graded errors :=
    List.forall_mem_append.mpr ⟨List.forall_mem_append.mpr ⟨hf, hg⟩, hh⟩
  intro f hf g hg hkey
  exact (hall f hf).isError_eq (hall g hg) (congrArg Prod.fst hkey)

namespace RuleTable

theorem mem_insert {r s : Rule} {rs : List Rule} (h : s ∈ insert r rs) : s = r ∨ s ∈ rs := by
  induction rs with
  | nil => exact .inl (List.mem_singleton.mp h)
  | cons q rs ih =>
    rw [insert] at h
    split_ifs at h
    · rcases List.mem_cons.mp h with rfl | h
      · exact .inl rfl
      · exact .inr (List.mem_cons_of_mem q h)
    · rcases List.mem_cons.mp h with rfl | h
      · exact .inr List.mem_cons_self
      · exact (ih h).imp_right (List.mem_cons_of_mem q)

theorem mem_foldl_add {r : Rule} {rs : List Rule} {t : RuleTable}
    (h : r ∈ (rs.foldl add t).rules) : r ∈ t.rules ∨ r ∈ rs := by
  induction rs generalizing t with
  | nil => exact .inl h
  | cons s rs ih =>
    rcases ih h with h | h
    · rcases mem_insert h with rfl | h
      · exact .inr List.mem_cons_self
      · exact .inl h
    · exact .inr (List.mem_cons_of_mem s h)

theorem mem_ofList {r : Rule} {rs : List Rule} (h : r ∈ (ofList rs).rules) : r ∈ rs :=
  (mem_foldl_add h).resolve_left List.not_mem_nil

theorem defaultRules_graded (d : Dialect) : ∀ r ∈ defaultRules, r.appliesTo d = true →
    r.id ≠ mixedRule ∧ (r.severity = .error ↔ r.id ∈ d.errorRules) := by
  cases d <;> decide +kernel

end RuleTable

theorem Enforce.violations_graded (d : Dialect) (code : List Char) :
    ∀ f ∈ (violations .builtin d code).map (·.toFinding), f.Graded d.errorRules := by
  intro f hf
  obtain ⟨v, hv, rfl⟩ := List.mem_map.mp hf
  obtain ⟨r, hr, happlies, q, -, rfl⟩ := mem_violations hv
  exact RuleTable.defaultRules_graded d r (RuleTable.mem_ofList hr) happlies

namespace Ampscript

theorem findings_consistent {code : List Char} {vs : List Finding}
    (hvs : ∀ f ∈ vs, f.Graded errorRules) :
    Consistent (grammarFindings code ++ meaningFindings code ++ vs) := by
  have hcases {f : Finding} (hf : f ∈ grammarFindings code ++ meaningFindings code ++ vs) :
      f.Graded errorRules ∨ f.rule = mixedRule ∧ f ∈ requestFlow [] (Source.of code).lines := by
    simp only [List.mem_append] at hf
    rcases hf with (hf | hf) | hf
    · exact .inl (grammarFindings_graded code f hf)
    · exact meaningFindings_graded hf
    · exact .inl (hvs f hf)
  intro f hf g hg hkey
  have hrules : f.rule = g.rule := congrArg Prod.fst hkey
  rcases hcases hf with hf | ⟨hrule, hf⟩
  · rcases hcases hg with hg | ⟨hrule, -⟩
    · exact hf.isError_eq hg hrules
    · exact absurd (hrules.trans hrule) hf.1
  · rcases hcases hg with hg | ⟨-, hg⟩
    · exact absurd (hrules.symm.trans hrule) hg.1
    · rw [eq_of_mem_requestFlow (source_numbers code) hf hg hrule hkey]

end Ampscript

/-- Everything that an analysis finds in a source of a dialect is consistent. -/
theorem split_consistent (d : Dialect) (code : List Char) :
    ∃ grammar meaning, Engine.split (Validator.of d) code = .ok (grammar, meaning) ∧
      Consistent (grammar ++ meaning ++ (Enforce.violations .builtin d code).map (·.toFinding)) := by
  have hvs := Enforce.violations_graded d code
  cases d with
  | ampscript => exact ⟨_, _, rfl, Ampscript.findings_consistent hvs⟩
  | ssjs =>
    exact ⟨_, _, rfl, .of_graded (Ssjs.grammarFindings_graded code)
      (Ssjs.meaningFindings_graded code) hvs⟩
  | sql =>
    exact ⟨_, _, rfl, .of_graded (Sql.grammarFindings_graded code)
      (Sql.meaningFindings_graded code) hvs⟩
  | html =>
    exact ⟨_, _, rfl, .of_graded (Html.grammarFindings_graded code)
      (Html.meaningFindings_graded code) hvs⟩
  | css =>
    exact ⟨_, _, rfl, .of_graded (Css.grammarFindings_graded code)
      (Css.meaningFindings_graded code) hvs⟩
  | javascript =>
    exact ⟨_, _, rfl, .of_graded (Javascript.grammarFindings_graded code)
      (Javascript.meaningFindings_graded code) hvs⟩

namespace LiveResult

theorem isValid_merge_of_consistent {found : List Finding} {violations : List Violation}
    (h : Consistent (found ++ violations.map (·.toFinding))) (sequence : Int) :
    (merge found violations sequence).isValid =
      !(found ++ violations.map (·.toFinding)).any (·.isError) := by
  have hall : (found.map Mark.finding ++ violations.map Mark.violation).map Mark.toFinding =
      found ++ violations.map (·.toFinding) := by
    simp [Function.comp_def, Mark.toFinding]
  have hmem {m : Mark} (hm : m ∈ found.map Mark.finding ++ violations.map Mark.violation) :
      m.toFinding ∈ found ++ violations.map (·.toFinding) :=
    hall ▸ List.mem_map_of_mem hm
  rw [isValid_merge, marks, any_firstByKey, ← hall, List.any_map]
  · rfl
  · intro m hm k hk hkey
    exact h _ (hmem hm) _ (hmem hk) hkey

end LiveResult

namespace Engine

/-- The engine with the validators and rules that come with the program. -/
def standard : Engine := { registry := .builtin, rules := .builtin }

theorem standard_validatorOf (d : Dialect) : standard.validatorOf d = .ok (Validator.of d) := by
  cases d <;> rfl

theorem standard_validator {name : String} {d : Dialect} (h : Dialect.parse name = .ok d) :
    standard.validator name = .ok (Validator.of d) := by
  rw [validator, h]
  exact standard_validatorOf d

theorem dialect_of (d : Dialect) : (Validator.of d).dialect = d := by
  cases d <;> rfl

theorem supports_of (d : Dialect) (c : Capability) : (Validator.of d).supports c = true := by
  cases d <;> cases c <;> rfl

theorem exists_advise (d : Dialect) (code : List Char) :
    ∃ advice, (Validator.of d).advise code = .ok advice := by
  cases d <;> exact ⟨_, rfl⟩

/-- With rules and without cost, an analysis finds what the two passes of a live cycle find. -/
theorem exists_analyze {d : Dialect} {code : List Char} {grammar meaning : List Finding}
    (hsplit : split (Validator.of d) code = .ok (grammar, meaning)) (fixes : Bool) :
    ∃ a, standard.analyze ⟨code, d, .bestPractices, fixes⟩ = .ok a ∧
      a.findings = grammar ++ meaning ++
        (Enforce.violations .builtin d code).map (·.toFinding) := by
  obtain ⟨advice, hadvice⟩ := exists_advise d code
  have hcost : AnalysisLevel.bestPractices.wantsCost = false := rfl
  have hrules : AnalysisLevel.bestPractices.wantsRules = true := rfl
  simp only [analyze, standard_validatorOf, hsplit, hcost, hrules, supports_of, hadvice, lift,
    bind, Except.bind, Bool.false_and, Bool.and_self, Bool.false_eq_true, if_true, if_false]
  refine ⟨_, rfl, ?_⟩
  simp [Analysis.findings, standard]

end Engine

open Live

/-- A cycle of the live analysis whose passes have both ended, and an analysis with rules of the
same source: both succeed, and they agree on whether the source is valid. -/
theorem verdicts_agree (c : Cycle) (x : Session) (d : Dialect) (h : Dialect.parse c.dialect = .ok d)
    (fixes : Bool) : ∃ found violations a,
      Engine.standard.diagnose c.dialect c.code = .ok found ∧
      Engine.standard.enforce c.dialect c.code = .ok violations ∧
      Engine.standard.analyze ⟨c.code, d, .bestPractices, fixes⟩ = .ok a ∧
      (State.outcome c x (some ⟨found, violations⟩)).isValid = a.isValid := by
  obtain ⟨grammar, meaning, hsplit, hconsistent⟩ := split_consistent d c.code
  obtain ⟨a, ha, hfindings⟩ := Engine.exists_analyze hsplit fixes
  have hvalidator := Engine.standard_validator h
  refine ⟨grammar ++ meaning, Enforce.violations .builtin d c.code, a, ?_, ?_, ha, ?_⟩
  · rw [Engine.diagnose, hvalidator]
    simp only [bind, Except.bind, hsplit]
    rfl
  · rw [Engine.enforce, hvalidator]
    simp only [bind, Except.bind, Engine.dialect_of]
    rfl
  · rw [State.outcome, LiveResult.isValid_merge_of_consistent hconsistent, Analysis.isValid,
      hfindings]

/-- A template that passes what a visitor sends straight into a lookup. -/
theorem verdicts_agree_lookup :
    Dialect.parse " AMP" = .ok .ampscript ∧ ∃ found violations a,
      Engine.standard.diagnose " AMP" "Lookup(RequestParameter(\"k\"))".toList = .ok found ∧
      Engine.standard.enforce " AMP" "Lookup(RequestParameter(\"k\"))".toList = .ok violations ∧
      Engine.standard.analyze
        ⟨"Lookup(RequestParameter(\"k\"))".toList, .ampscript, .bestPractices, true⟩ = .ok a ∧
      (LiveResult.merge found violations 1).isValid = a.isValid :=
  ⟨by decide,
    verdicts_agree ⟨0, 0, _, " AMP", 1, some [0]⟩ (.fresh "s") .ampscript (by decide) true⟩

end CampaignCheck

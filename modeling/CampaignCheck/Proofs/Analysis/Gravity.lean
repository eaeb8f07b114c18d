import CampaignCheck.Proofs.Fix.Idempotence
import CampaignCheck.Rules.Default

namespace CampaignCheck

/-- The rule that has errors and lesser findings. -/
def mixedRule : String := "ampscript-sql-injection"

/-- The finding is of another rule, and an error just if its rule is one of these. -/
def Finding.Graded (errors : List String) (f : Finding) : Prop :=
  f.rule ≠ mixedRule ∧ (f.severity = .error ↔ f.rule ∈ errors)

theorem report_graded {errors : List String} {rule : String} {severity : Severity}
    (h : rule ≠ mixedRule ∧ (severity = .error ↔ rule ∈ errors)) (line : Nat)
    (column : Option Nat) (message : String) (category : Category) (hint : String) :
    (Finding.report line column rule message category severity hint).Graded errors := h

theorem forall_mem_then {α : Type} {P : α → Prop} {c : Prop} [Decidable c] {a : α} (h : P a) :
    ∀ x ∈ (if c then [a] else []), P x := by
  split_ifs
  · exact List.forall_mem_singleton.mpr h
  · exact List.forall_mem_nil P

theorem forall_mem_else {α : Type} {P : α → Prop} {c : Prop} [Decidable c] {a : α} (h : P a) :
    ∀ x ∈ (if c then [] else [a]), P x := by
  split_ifs
  · exact List.forall_mem_nil P
  · exact List.forall_mem_singleton.mpr h

def GradesLines (errors : List String) (check : Line → List Finding) : Prop :=
  ∀ l, ∀ f ∈ check l, f.Graded errors

theorem perLine_graded {errors : List String} {checks : List (Line → List Finding)}
    (h : ∀ check ∈ checks, GradesLines errors check) (ls : List Line) :
    ∀ f ∈ Checks.perLine checks ls, f.Graded errors := by
  intro f hf
  obtain ⟨l, -, check, hcheck, hf⟩ := Checks.mem_perLine.mp hf
  exact h check hcheck l f hf

namespace Css

/-- The rules of stylesheets whose findings are errors. -/
def errorRules : List String :=
  ["css-brace-matching", "css-missing-semicolon", "css-invalid-declaration", "css-invalid-color",
    "css-unknown-unit"]

theorem declarationFindings_graded (cs : List Char) (r : Rule) :
    ∀ f ∈ declarationFindings cs r, f.Graded errorRules := by
  intro f hf
  rcases List.mem_append.mp hf with hf | hf
  · obtain ⟨offset, -, rfl⟩ := List.mem_map.mp hf
    exact report_graded (by simp [errorRules, mixedRule]) ..
  · obtain ⟨⟨offset, text⟩, -, rfl⟩ := List.mem_map.mp hf
    exact report_graded (by simp [errorRules, mixedRule]) ..

theorem valueFindings_graded (cs : List Char) (d : Declaration) :
    ∀ f ∈ valueFindings cs d, f.Graded errorRules := by
  intro f hf
  rcases List.mem_append.mp hf with hf | hf
  all_goals
    obtain ⟨m, -, hf⟩ := List.mem_filterMap.mp hf
    simp only at hf
    split_ifs at hf
    cases hf
    exact report_graded (by simp [errorRules, mixedRule]) ..

theorem grammarFindings_graded (code : List Char) :
    ∀ f ∈ grammarFindings code, f.Graded errorRules := by
  intro f hf
  simp only [grammarFindings, List.mem_append, List.mem_flatMap, List.mem_map] at hf
  rcases hf with (⟨i, -, rfl⟩ | ⟨r, -, hf⟩) | ⟨r, -, d, -, hf⟩
  · exact report_graded (by simp [errorRules, mixedRule]) ..
  · exact declarationFindings_graded _ r f hf
  · exact valueFindings_graded _ d f hf

theorem propertyFindings_graded (cs : List Char) (r : Rule) :
    ∀ f ∈ propertyFindings cs r, f.Graded errorRules := by
  intro f hf
  unfold propertyFindings at hf
  split_ifs at hf
  · cases hf
  · obtain ⟨d, -, hf⟩ := List.mem_filterMap.mp hf
    simp only at hf
    split_ifs at hf
    cases hf
    exact report_graded (by simp [errorRules, mixedRule]) ..

theorem specificityFindings_graded (cs : List Char) (r : Rule) :
    ∀ f ∈ specificityFindings cs r, f.Graded errorRules := by
  intro f hf
  unfold specificityFindings at hf
  split_ifs at hf
  · cases hf
  · obtain ⟨⟨offset, selector⟩, -, hf⟩ := List.mem_flatMap.mp hf
    simp only [specificityFinding] at hf
    exact forall_mem_then (report_graded (by simp [errorRules, mixedRule]) ..) f hf

theorem outlineFindings_graded (cs : List Char) (r : Rule) :
    ∀ f ∈ outlineFindings cs r, f.Graded errorRules := by
  unfold outlineFindings
  split
  · exact forall_mem_then (report_graded (by simp [errorRules, mixedRule]) ..)
  · simp

theorem meaningFindings_graded (code : List Char) :
    ∀ f ∈ meaningFindings code, f.Graded errorRules := by
  intro f hf
  simp only [meaningFindings, List.mem_append, List.mem_flatMap] at hf
  rcases hf with ((⟨r, -, hf⟩ | ⟨l, -, hf⟩) | ⟨r, -, hf⟩) | ⟨r, -, hf⟩
  · exact propertyFindings_graded _ r f hf
  · obtain ⟨m, -, rfl⟩ := List.mem_map.mp hf
    simp [Finding.Graded, Finding.note, errorRules, mixedRule]
  · exact specificityFindings_graded _ r f hf
  · exact outlineFindings_graded _ r f hf

end Css

namespace Html

/-- The rules of markup whose findings are errors. -/
def errorRules : List String :=
  ["html-tag-mismatch", "html-invalid-nesting", "html-duplicate-attribute"]

theorem closeUpTo_graded (cs name : List Char) (stack : List OpenElement) :
    ∀ f ∈ (closeUpTo cs name stack).1, f.Graded errorRules := by
  induction stack with
  | nil => simp [closeUpTo]
  | cons e es ih =>
    unfold closeUpTo
    split_ifs
    · simp
    · exact ih
    · exact List.forall_mem_cons.mpr ⟨report_graded (by simp [errorRules, mixedRule]) .., ih⟩

theorem nesting_step_graded (cs : List Char) {s : Nesting}
    (hs : ∀ f ∈ s.found, f.Graded errorRules) (t : Tag) :
    ∀ f ∈ (s.step cs t).found, f.Graded errorRules := by
  have hadd {f : Finding} (hf : f.Graded errorRules) :
      ∀ g ∈ s.found ++ [f], g.Graded errorRules :=
    List.forall_mem_append.mpr ⟨hs, List.forall_mem_singleton.mpr hf⟩
  unfold Nesting.step
  split_ifs
  · exact hadd (report_graded (by simp [errorRules, mixedRule]) ..)
  · exact hs
  · exact hs
  · unfold Nesting.leave
    split_ifs
    · exact List.forall_mem_append.mpr ⟨hs, closeUpTo_graded cs t.name s.stack⟩
    · exact hadd (report_graded (by simp [errorRules, mixedRule]) ..)
  · unfold Nesting.enter
    simp only
    split
    · split_ifs
      · exact hs
      · exact hadd (report_graded (by simp [errorRules, mixedRule]) ..)
      · exact hs
      · exact hs
    · exact hs

theorem nesting_graded (cs : List Char) {s : Nesting} (hs : ∀ f ∈ s.found, f.Graded errorRules)
    (tags : List Tag) : ∀ f ∈ (tags.foldl (Nesting.step cs) s).found, f.Graded errorRules := by
  induction tags generalizing s with
  | nil => exact hs
  | cons t ts ih => exact ih (nesting_step_graded cs hs t)

theorem structureFindings_graded (cs : List Char) (tags : List Tag) :
    ∀ f ∈ structureFindings cs tags, f.Graded errorRules := by
  intro f hf
  rcases List.mem_append.mp hf with hf | hf
  · exact nesting_graded cs (by simp) tags f hf
  · obtain ⟨e, -, hf⟩ := List.mem_flatMap.mp hf
    unfold neverClosed at hf
    exact forall_mem_else (report_graded (by simp [errorRules, mixedRule]) ..) f hf

theorem attributeFindings_graded (cs : List Char) (t : Tag) (seen : List (List Char))
    (as : List Attribute) : ∀ f ∈ attributeFindings cs t seen as, f.Graded errorRules := by
  induction as generalizing seen with
  | nil => simp [attributeFindings]
  | cons a as ih =>
    intro f hf
    simp only [attributeFindings, List.mem_append] at hf
    rcases hf with (hf | hf) | hf
    · exact forall_mem_then (report_graded (by simp [errorRules, mixedRule]) ..) f hf
    · split at hf
      · exact forall_mem_else (report_graded (by simp [errorRules, mixedRule]) ..) f hf
      · cases hf
    · exact ih _ f hf

theorem documentFindings_graded (code : List Char) (tags : List Tag) :
    ∀ f ∈ documentFindings code tags, f.Graded errorRules := by
  intro f hf
  unfold documentFindings at hf
  split at hf
  · cases hf
  · rcases List.mem_append.mp hf with hf | hf
    · exact forall_mem_else (report_graded (by simp [errorRules, mixedRule]) ..) f hf
    · obtain ⟨required, -, hf⟩ := List.mem_filterMap.mp hf
      split_ifs at hf
      cases hf
      exact report_graded (by simp [errorRules, mixedRule]) ..

theorem grammarFindings_graded (code : List Char) :
    ∀ f ∈ grammarFindings code, f.Graded errorRules := by
  intro f hf
  simp only [grammarFindings, List.mem_append, List.mem_flatMap] at hf
  rcases hf with (hf | ⟨t, -, hf⟩) | hf
  · exact structureFindings_graded _ _ f hf
  · exact attributeFindings_graded _ t [] _ f hf
  · exact documentFindings_graded code _ f hf

theorem imageFindings_graded (cs : List Char) (t : Tag) :
    ∀ f ∈ imageFindings cs t, f.Graded errorRules := by
  unfold imageFindings
  exact forall_mem_then (report_graded (by simp [errorRules, mixedRule]) ..)

theorem inputFindings_graded (cs : List Char) (targets : List (List Char)) (depth : Nat) (t : Tag) :
    ∀ f ∈ inputFindings cs targets depth t, f.Graded errorRules := by
  unfold inputFindings
  simp only
  exact forall_mem_then (report_graded (by simp [errorRules, mixedRule]) ..)

theorem accessibilityFindings_graded (cs : List Char) (targets : List (List Char)) (depth : Nat)
    (tags : List Tag) : ∀ f ∈ accessibilityFindings cs targets depth tags, f.Graded errorRules := by
  induction tags generalizing depth with
  | nil => simp [accessibilityFindings]
  | cons t ts ih =>
    unfold accessibilityFindings
    split
    · exact ih _
    · split
      · exact ih depth
      · exact List.forall_mem_append.mpr ⟨List.forall_mem_append.mpr
          ⟨imageFindings_graded cs t, inputFindings_graded cs targets depth t⟩, ih depth⟩

theorem headFindings_graded (cs : List Char) (starts : List Tag) :
    ∀ f ∈ headFindings cs starts, f.Graded errorRules := by
  unfold headFindings
  split
  · simp
  · intro f hf
    rcases List.mem_append.mp hf with hf | hf
    all_goals
      exact forall_mem_else (report_graded (by simp [errorRules, mixedRule]) ..) f hf

/-- Elements out of use are never errors, whichever they are. -/
theorem deprecatedFindings_graded (cs : List Char) (t : Tag) :
    ∀ f ∈ deprecatedFindings cs t, f.Graded errorRules := by
  intro f hf
  obtain ⟨severity, hs, rfl⟩ := List.mem_map.mp hf
  have hlesser : ∀ e ∈ deprecatedElements, e.2 ≠ .error := by decide
  obtain ⟨before, after, hsplit, -⟩ :=
    List.lookup_eq_some_iff.mp (Option.mem_toList.mp hs)
  have hne : severity ≠ .error := hlesser (String.ofList t.name, severity) (by simp [hsplit])
  exact report_graded (by simp [errorRules, mixedRule, hne]) ..

theorem meaningFindings_graded (code : List Char) :
    ∀ f ∈ meaningFindings code, f.Graded errorRules := by
  intro f hf
  simp only [meaningFindings, List.mem_append, List.mem_flatMap] at hf
  rcases hf with (((hf | ⟨t, -, hf⟩) | hf) | ⟨t, -, hf⟩) | ⟨t, -, hf⟩
  · exact accessibilityFindings_graded _ _ 0 _ f hf
  · obtain ⟨missing, -, rfl⟩ := List.mem_map.mp hf
    exact report_graded (by simp [errorRules, mixedRule]) ..
  · exact headFindings_graded _ _ f hf
  · exact deprecatedFindings_graded _ t f hf
  · obtain ⟨a, -, hf⟩ := List.mem_filterMap.mp hf
    split_ifs at hf
    cases hf
    exact report_graded (by simp [errorRules, mixedRule]) ..

end Html

namespace Javascript

/-- The rules of browser scripts whose findings are errors. -/
def errorRules : List String :=
  ["js-brace-matching", "js-paren-matching", "js-bracket-matching", "js-unterminated-string",
    "js-assignment-in-condition", "js-const-initialization", "security_xss_prevention"]

theorem grammarFindings_graded (code : List Char) :
    ∀ f ∈ grammarFindings code, f.Graded errorRules := by
  intro f hf
  simp only [grammarFindings, List.mem_append, List.mem_flatMap, List.mem_map] at hf
  rcases hf with (⟨⟨pair, rule⟩, hrule, i, -, rfl⟩ | ⟨p, -, rfl⟩) | hf
  · have hall : ∀ r ∈ delimiterRules, r.2 ≠ mixedRule ∧ r.2 ∈ errorRules := by
      simp [delimiterRules, errorRules, mixedRule]
    obtain ⟨hne, hmem⟩ := hall _ hrule
    exact report_graded ⟨hne, iff_of_true rfl hmem⟩ ..
  · exact report_graded (by simp [errorRules, mixedRule]) ..
  · refine perLine_graded ?_ _ f hf
    simp only [List.forall_mem_cons, List.not_mem_nil, false_implies, implies_true, and_true]
    refine ⟨?_, ?_⟩
    all_goals
      intro l f hf
      obtain ⟨m, -, rfl⟩ := List.mem_map.mp hf
      exact report_graded (by simp [errorRules, mixedRule]) ..

theorem strayAwaits_graded (s : AwaitState) (ls : List Line) :
    ∀ f ∈ strayAwaits s ls, f.Graded errorRules := by
  induction ls generalizing s with
  | nil => simp [strayAwaits]
  | cons l ls ih =>
    intro f hf
    rcases List.mem_append.mp hf with hf | hf
    · obtain ⟨column, -, rfl⟩ := List.mem_map.mp hf
      exact report_graded (by simp [errorRules, mixedRule]) ..
    · exact ih _ f hf

theorem promiseFindings_graded (cs : List Char) (covered : Nat) (ms : List Match) :
    ∀ f ∈ promiseFindings cs covered ms, f.Graded errorRules := by
  induction ms generalizing covered with
  | nil => simp [promiseFindings]
  | cons m ms ih =>
    unfold promiseFindings
    split_ifs
    · exact ih covered
    · refine List.forall_mem_append.mpr ⟨?_, ih _⟩
      exact forall_mem_else (report_graded (by simp [errorRules, mixedRule]) ..)

theorem meaningFindings_graded (code : List Char) :
    ∀ f ∈ meaningFindings code, f.Graded errorRules := by
  intro f hf
  simp only [meaningFindings, List.mem_append] at hf
  rcases hf with (hf | hf) | hf
  · refine perLine_graded ?_ _ f hf
    simp only [List.forall_mem_cons, List.not_mem_nil, false_implies, implies_true, and_true]
    refine ⟨?_, ?_, ?_, ?_⟩
    all_goals
      intro l f hf
      obtain ⟨m, -, rfl⟩ := List.mem_map.mp hf
      exact report_graded (by simp [errorRules, mixedRule]) ..
  · exact strayAwaits_graded _ _ f hf
  · exact promiseFindings_graded _ 0 _ f hf

end Javascript

namespace Sql

/-- The rules of queries whose findings are errors. -/
def errorRules : List String :=
  ["sql-parentheses-mismatch", "sql-quote-mismatch", "sql-unknown-function", "sql-double-equals",
    "sql-missing-from", "sql-join-on", "sql-having-group-by", "sql-dynamic-execution",
    "sql-injection-risk", "security_sql_injection"]

theorem unknownFunctions_graded : GradesLines errorRules unknownFunctions := by
  intro l f hf
  obtain ⟨m, -, hf⟩ := List.mem_filterMap.mp hf
  simp only at hf
  split_ifs at hf
  cases hf
  exact report_graded (by simp [errorRules, mixedRule]) ..

theorem doubledEquals_graded : GradesLines errorRules doubledEquals := by
  intro l f hf
  obtain ⟨m, -, rfl⟩ := List.mem_map.mp hf
  exact report_graded (by simp [errorRules, mixedRule]) ..

section

variable (s : Source) (st : Statement)

theorem missingFrom_graded : ∀ f ∈ missingFrom s st, f.Graded errorRules := by
  unfold missingFrom
  split
  · exact forall_mem_else (report_graded (by simp [errorRules, mixedRule]) ..)
  · simp

theorem missingOn_graded : ∀ f ∈ missingOn s st, f.Graded errorRules := by
  intro f hf
  obtain ⟨m, -, hf⟩ := List.mem_filterMap.mp hf
  simp only at hf
  split_ifs at hf
  cases hf
  exact report_graded (by simp [errorRules, mixedRule]) ..

theorem missingGroupBy_graded : ∀ f ∈ missingGroupBy s st, f.Graded errorRules := by
  unfold missingGroupBy
  split
  · exact forall_mem_else (report_graded (by simp [errorRules, mixedRule]) ..)
  · simp

theorem missingTop_graded : ∀ f ∈ missingTop s st, f.Graded errorRules := by
  unfold missingTop
  split
  · simp only
    exact forall_mem_else (report_graded (by simp [errorRules, mixedRule]) ..)
  · simp

theorem structureFindings_graded : ∀ f ∈ structureFindings s st, f.Graded errorRules := by
  intro f hf
  simp only [structureFindings, List.mem_append] at hf
  rcases hf with (((hf | hf) | hf) | hf) | hf
  · exact missingFrom_graded s st f hf
  · exact missingOn_graded s st f hf
  · exact missingGroupBy_graded s st f hf
  · obtain ⟨m, -, rfl⟩ := List.mem_map.mp hf
    exact report_graded (by simp [errorRules, mixedRule]) ..
  · exact missingTop_graded s st f hf

theorem unknownQualifiers_graded (known : List (List Char)) (ms : List Match) :
    ∀ f ∈ unknownQualifiers s st known ms, f.Graded errorRules := by
  induction ms generalizing known with
  | nil => simp [unknownQualifiers]
  | cons m ms ih =>
    rw [unknownQualifiers]
    split_ifs
    · exact ih known
    · exact List.forall_mem_cons.mpr ⟨report_graded (by simp [errorRules, mixedRule]) .., ih _⟩

theorem aliasFindings_graded : ∀ f ∈ aliasFindings s st, f.Graded errorRules := by
  unfold aliasFindings
  split_ifs
  · exact unknownQualifiers_graded s st _ _
  · simp

theorem aggregateFindings_graded : ∀ f ∈ aggregateFindings s st, f.Graded errorRules := by
  unfold aggregateFindings
  split_ifs
  · simp
  · split
    · exact forall_mem_then (report_graded (by simp [errorRules, mixedRule]) ..)
    · simp

theorem dynamicFindings_graded : ∀ f ∈ dynamicFindings s st, f.Graded errorRules := by
  unfold dynamicFindings
  split
  · exact forall_mem_then (report_graded (by simp [errorRules, mixedRule]) ..)
  · simp

theorem sensitiveFindings_graded : ∀ f ∈ sensitiveFindings s st, f.Graded errorRules := by
  unfold sensitiveFindings
  split
  · intro f hf
    obtain ⟨i, -, hf⟩ := List.mem_filterMap.mp hf
    obtain ⟨m, -, rfl⟩ := Option.map_eq_some_iff.mp hf
    exact report_graded (by simp [errorRules, mixedRule]) ..
  · simp

end

theorem grammarFindings_graded (code : List Char) :
    ∀ f ∈ grammarFindings code, f.Graded errorRules := by
  intro f hf
  simp only [grammarFindings, List.mem_append, List.mem_flatMap, List.mem_map] at hf
  rcases hf with ((⟨i, -, rfl⟩ | ⟨p, -, rfl⟩) | hf) | ⟨st, -, hf⟩
  · exact report_graded (by simp [errorRules, mixedRule]) ..
  · exact report_graded (by simp [errorRules, mixedRule]) ..
  · refine perLine_graded ?_ _ f hf
    simp [unknownFunctions_graded, doubledEquals_graded]
  · exact structureFindings_graded _ st f hf

theorem meaningFindings_graded (code : List Char) :
    ∀ f ∈ meaningFindings code, f.Graded errorRules := by
  intro f hf
  simp only [meaningFindings, List.mem_append, List.mem_flatMap] at hf
  obtain ⟨st, -, (((((hf | hf) | hf) | hf) | hf) | hf) | hf⟩ := hf
  · exact aliasFindings_graded _ st f hf
  · exact aggregateFindings_graded _ st f hf
  · obtain ⟨m, -, rfl⟩ := List.mem_map.mp hf
    exact report_graded (by simp [errorRules, mixedRule]) ..
  · exact dynamicFindings_graded _ st f hf
  · obtain ⟨m, -, rfl⟩ := List.mem_map.mp hf
    exact report_graded (by simp [errorRules, mixedRule]) ..
  · exact sensitiveFindings_graded _ st f hf
  · obtain ⟨m, -, rfl⟩ := List.mem_map.mp hf
    exact report_graded (by simp [errorRules, mixedRule]) ..

end Sql

namespace Ssjs

/-- The rules of server-side scripts whose findings are errors. -/
def errorRules : List String :=
  ["ssjs-script-tag", "ssjs-comparison", "ssjs-de-constructor", "ssjs-brace-matching",
    "ssjs-paren-matching", "ssjs-unterminated-string", "ssjs-de-init", "ssjs-de-init-assignment",
    "ssjs-injection-risk", "ssjs-eval", "security_sql_injection", "security_xss_prevention"]

theorem clientScriptTag_graded : GradesLines errorRules clientScriptTag := by
  intro l
  unfold clientScriptTag
  split
  · exact forall_mem_else (report_graded (by simp [errorRules, mixedRule]) ..)
  · simp

theorem missingSemicolons_graded (depth : Nat) (ls : List Line) :
    ∀ f ∈ missingSemicolons depth ls, f.Graded errorRules := by
  induction ls generalizing depth with
  | nil => simp [missingSemicolons]
  | cons l ls ih =>
    unfold missingSemicolons
    refine List.forall_mem_append.mpr ⟨?_, ih _⟩
    exact forall_mem_then (report_graded (by simp [errorRules, mixedRule]) ..)

theorem delimiterFinding_graded (i : Imbalance) : (delimiterFinding i).Graded errorRules := by
  unfold delimiterFinding
  simp only
  split_ifs <;> exact report_graded (by simp [errorRules, mixedRule]) ..

theorem assignedConditions_graded : GradesLines errorRules assignedConditions := by
  intro l f hf
  obtain ⟨column, -, rfl⟩ := List.mem_map.mp hf
  exact report_graded (by simp [errorRules, mixedRule]) ..

theorem constructorUse_graded : GradesLines errorRules constructorUse := by
  intro l f hf
  obtain ⟨m, -, rfl⟩ := List.mem_map.mp hf
  exact report_graded (by simp [errorRules, mixedRule]) ..

theorem grammarFindings_graded (code : List Char) :
    ∀ f ∈ grammarFindings code, f.Graded errorRules := by
  intro f hf
  simp only [grammarFindings, List.mem_append, List.mem_map] at hf
  rcases hf with ((hf | hf) | ⟨i, -, rfl⟩) | ⟨p, -, rfl⟩
  · refine perLine_graded ?_ _ f hf
    simp [clientScriptTag_graded, assignedConditions_graded, constructorUse_graded]
  · exact missingSemicolons_graded _ _ f hf
  · exact delimiterFinding_graded i
  · exact report_graded (by simp [errorRules, mixedRule]) ..

theorem undeclaredIn_graded (declared : List Declared) (l : Line) :
    ∀ f ∈ undeclaredIn declared l, f.Graded errorRules := by
  unfold undeclaredIn
  split
  · simp only
    exact forall_mem_else (report_graded (by simp [errorRules, mixedRule]) ..)
  · simp

theorem variableFindings_graded (ls : List Line) :
    ∀ f ∈ variableFindings ls, f.Graded errorRules := by
  intro f hf
  rcases List.mem_append.mp hf with hf | hf
  · obtain ⟨l, -, hf⟩ := List.mem_flatMap.mp hf
    exact undeclaredIn_graded _ l f hf
  · obtain ⟨d, -, rfl⟩ := List.mem_map.mp hf
    exact report_graded (by simp [errorRules, mixedRule]) ..

theorem loadFindings_graded (numbers : List Nat) (l : Line) (m : Match) :
    ∀ f ∈ loadFindings numbers l m, f.Graded errorRules := by
  intro f hf
  rcases List.mem_append.mp hf with hf | hf
  · exact forall_mem_then (report_graded (by simp [errorRules, mixedRule]) ..) f hf
  · exact forall_mem_else (report_graded (by simp [errorRules, mixedRule]) ..) f hf

theorem libraryFindings_graded (ls : List Line) :
    ∀ f ∈ libraryFindings ls, f.Graded errorRules := by
  intro f hf
  unfold libraryFindings at hf
  simp only at hf
  split_ifs at hf
  · obtain ⟨l, -, rfl⟩ := List.mem_map.mp hf
    exact report_graded (by simp [errorRules, mixedRule]) ..
  · obtain ⟨⟨l, m⟩, -, hf⟩ := List.mem_flatMap.mp hf
    exact loadFindings_graded _ l m f hf

theorem initFindings_graded : GradesLines errorRules initFindings := by
  intro l f hf
  obtain ⟨m, -, hf⟩ := List.mem_flatMap.mp hf
  rcases List.mem_append.mp hf with hf | hf
  · split at hf
    · rw [List.mem_singleton.mp hf]
      exact report_graded (by simp [errorRules, mixedRule]) ..
    · cases hf
  · exact forall_mem_else (report_graded (by simp [errorRules, mixedRule]) ..) f hf

theorem proxyFindings_graded : GradesLines errorRules proxyFindings := by
  intro l
  unfold proxyFindings
  split
  · split
    · simp
    · exact List.forall_mem_singleton.mpr (report_graded (by simp [errorRules, mixedRule]) ..)
  · simp

theorem injectionFindings_graded : GradesLines errorRules injectionFindings := by
  intro l f hf
  obtain ⟨m, -, hf⟩ := List.mem_filterMap.mp hf
  obtain ⟨e, -, hf⟩ := Option.bind_eq_some_iff.mp hf
  split_ifs at hf
  cases hf
  exact report_graded (by simp [errorRules, mixedRule]) ..

theorem credentialFindings_graded : GradesLines errorRules credentialFindings := by
  intro l
  unfold credentialFindings
  split
  · exact forall_mem_else (report_graded (by simp [errorRules, mixedRule]) ..)
  · simp

theorem evalFindings_graded : GradesLines errorRules evalFindings := by
  intro l f hf
  obtain ⟨m, -, rfl⟩ := List.mem_map.mp hf
  exact report_graded (by simp [errorRules, mixedRule]) ..

theorem outputFindings_graded (tainted : List (List Char)) (ls : List Line) :
    ∀ f ∈ outputFindings tainted ls, f.Graded errorRules := by
  induction ls generalizing tainted with
  | nil => simp [outputFindings]
  | cons l ls ih =>
    intro f hf
    rcases List.mem_append.mp hf with hf | hf
    · obtain ⟨m, -, hf⟩ := List.mem_filterMap.mp hf
      obtain ⟨e, -, hf⟩ := Option.bind_eq_some_iff.mp hf
      simp only at hf
      split_ifs at hf
      cases hf
      exact report_graded (by simp [errorRules, mixedRule]) ..
    · exact ih _ f hf

theorem meaningFindings_graded (code : List Char) :
    ∀ f ∈ meaningFindings code, f.Graded errorRules := by
  intro f hf
  simp only [meaningFindings, List.mem_append] at hf
  rcases hf with ((hf | hf) | hf) | hf
  · exact variableFindings_graded _ f hf
  · exact libraryFindings_graded _ f hf
  · refine perLine_graded ?_ _ f hf
    simp [initFindings_graded, proxyFindings_graded, injectionFindings_graded,
      credentialFindings_graded, evalFindings_graded]
  · exact outputFindings_graded _ _ f hf

end Ssjs

end CampaignCheck

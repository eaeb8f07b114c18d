import CampaignCheck.Live.Config
import CampaignCheck.Proofs.Schema.Rereading
import CampaignCheck.Rules.Build
import Mathlib.Tactic.Simproc.ExistsAndEq

namespace CampaignCheck

open Schema

section Findings

theorem Finding.ofFields_eq_ok_iff {fs : Fields} {f : Finding} :
    Finding.ofFields fs = .ok f ↔
      required fs "line" (naturalFrom 1) = .ok f.line ∧
      withDefault fs "column" none (maybe (naturalFrom 0)) = .ok f.column ∧
      required fs "message" text = .ok f.message ∧ required fs "rule" text = .ok f.rule ∧
      required fs "category" Category.ofValue = .ok f.category ∧
      required fs "severity" Severity.ofValue = .ok f.severity ∧
      withDefault fs "fix_suggestion" none (maybe text) = .ok f.hint := by
  rw [Checked.eq_ok_iff]
  simp only [Finding.ofFields, Checked.exists_map_ok, Checked.exists_seq_ok]
  cases f
  simp only [Finding.mk.injEq, existsAndEq, and_true]

theorem rereads_natural? : Rereads (maybe (naturalFrom 0)) .ofNat? := by
  have hwritten : Value.ofNat? = fun x => (x.map Value.ofNat).getD .null := by
    funext x
    cases x <;> rfl
  rw [hwritten]
  exact rereads_maybe (rereads_naturalFrom 0) fun _ => nofun

theorem rereads_text? : Rereads (maybe text) .ofText? := rereads_maybe rereads_text fun _ => nofun

/-- Other fields beside those of a finding change nothing. -/
theorem Finding.ofFields_append {fs : Fields} {f : Finding} (h : Finding.ofFields fs = .ok f)
    (more : Fields) : Finding.ofFields (f.fields ++ more) = .ok f := by
  obtain ⟨hline, hcolumn, hmessage, hrule, hcategory, hseverity, hhint⟩ := ofFields_eq_ok_iff.mp h
  exact ofFields_eq_ok_iff.mpr ⟨required_again (rereads_naturalFrom 1) hline rfl,
    withDefault_again rereads_natural? rfl hcolumn rfl, required_again rereads_text hmessage rfl,
    required_again rereads_text hrule rfl, required_again (rereads_oneOf _ _) hcategory rfl,
    required_again (rereads_oneOf _ _) hseverity rfl, withDefault_again rereads_text? rfl hhint rfl⟩

theorem Finding.rereads : Rereads Finding.ofValue Finding.toValue := by
  intro v f h
  obtain ⟨fs, rfl, hfs⟩ := object_of_record h
  change Finding.ofFields f.fields = .ok f
  rw [← List.append_nil f.fields]
  exact Finding.ofFields_append hfs []

theorem Violation.ofFields_eq_ok_iff {fs : Fields} {v : Violation} :
    Violation.ofFields fs = .ok v ↔
      Finding.ofFields fs = .ok v.toFinding ∧ required fs "id" text = .ok v.id ∧
      required fs "rule_name" text = .ok v.ruleName ∧
      required fs "rule_category" RuleCategory.ofValue = .ok v.ruleCategory ∧
      withDefault fs "suggestion" "" text = .ok v.suggestion ∧
      withDefault fs "documentation_ref" none (maybe text) = .ok v.reference := by
  rw [Checked.eq_ok_iff]
  simp only [Violation.ofFields, Checked.exists_map_ok, Checked.exists_seq_ok]
  cases v
  simp only [Violation.mk.injEq, existsAndEq, and_true]

theorem Violation.rereads : Rereads Violation.ofValue Violation.toValue := by
  intro w v h
  obtain ⟨fs, rfl, hfs⟩ := object_of_record h
  obtain ⟨hfinding, hid, hname, hcategory, hsuggestion, hreference⟩ := ofFields_eq_ok_iff.mp hfs
  exact ofFields_eq_ok_iff.mpr ⟨Finding.ofFields_append hfinding _,
    required_again rereads_text hid rfl, required_again rereads_text hname rfl,
    required_again (rereads_oneOf _ _) hcategory rfl,
    withDefault_again rereads_text rfl hsuggestion rfl,
    withDefault_again rereads_text? rfl hreference rfl⟩

end Findings

section Suggestions

theorem Suggestion.ofFields_eq_ok_iff {fs : Fields} {s : Suggestion} :
    Suggestion.ofFields fs = .ok s ↔
      required fs "message" text = .ok s.message ∧
      required fs "kind" (oneOf SuggestionKind.all SuggestionKind.name) = .ok s.kind ∧
      withDefault fs "id" none (maybe text) = .ok s.id ∧
      withDefault fs "title" none (maybe text) = .ok s.title ∧
      withDefault fs "impact" none (maybe Impact.ofValue) = .ok s.impact ∧
      withDefault fs "line" none (maybe integer) = .ok s.line := by
  rw [Checked.eq_ok_iff]
  simp only [Suggestion.ofFields, Checked.exists_map_ok, Checked.exists_seq_ok]
  cases s
  simp only [Suggestion.mk.injEq, existsAndEq, and_true]

theorem rereads_impact? :
    Rereads (maybe Impact.ofValue) fun x => .ofText? (x.map Impact.name) := by
  have hwritten : (fun x : Option Impact => Value.ofText? (x.map Impact.name)) =
      fun x => (x.map fun i => .text i.name).getD .null := by
    funext x
    cases x <;> rfl
  rw [hwritten]
  exact rereads_maybe (rereads_oneOf _ _) fun _ => nofun

theorem Suggestion.rereads : Rereads Suggestion.ofValue Suggestion.toValue := by
  intro v s h
  obtain ⟨fs, rfl, hfs⟩ := object_of_record h
  obtain ⟨hmessage, hkind, hid, htitle, himpact, hline⟩ := ofFields_eq_ok_iff.mp hfs
  exact ofFields_eq_ok_iff.mpr ⟨required_again rereads_text hmessage rfl,
    required_again (rereads_oneOf _ _) hkind rfl, withDefault_again rereads_text? rfl hid rfl,
    withDefault_again rereads_text? rfl htitle rfl,
    withDefault_again rereads_impact? rfl himpact rfl,
    withDefault_again (rereads_maybe rereads_integer fun _ => nofun) rfl hline rfl⟩

end Suggestions

section Outcomes

theorem Verdict.ofFields_eq_ok_iff {fs : Fields} {v : Verdict} :
    Verdict.ofFields fs = .ok v ↔
      (∃ b, withDefault fs "is_valid" true switch = .ok b) ∧
      withDefault fs "errors" [] (list Finding.ofValue) = .ok v.errors ∧
      withDefault fs "warnings" [] (list Finding.ofValue) = .ok v.warnings ∧
      withDefault fs "suggestions" [] (list Suggestion.ofValue) = .ok v.suggestions := by
  rw [Checked.eq_ok_iff]
  simp only [Verdict.ofFields, Checked.exists_map_ok, Checked.exists_seq_ok]
  cases v
  simp only [Verdict.mk.injEq, existsAndEq, and_true, exists_and_right]

theorem rereads_findings : Rereads (list Finding.ofValue) Finding.listValue :=
  rereads_list Finding.rereads

theorem Verdict.rereads : Rereads (record "ValidationResult" Verdict.ofFields) Verdict.toValue := by
  intro w v h
  obtain ⟨fs, rfl, hfs⟩ := object_of_record h
  obtain ⟨-, herrors, hwarnings, hsuggestions⟩ := ofFields_eq_ok_iff.mp hfs
  exact ofFields_eq_ok_iff.mpr ⟨⟨v.isValid, rfl⟩,
    withDefault_again rereads_findings rfl herrors rfl,
    withDefault_again rereads_findings rfl hwarnings rfl,
    withDefault_again (rereads_list Suggestion.rereads) rfl hsuggestions rfl⟩

theorem LiveConfig.ofFields_eq_ok_iff {fs : Fields} {c : LiveConfig} :
    LiveConfig.ofFields fs = .ok c ↔
      withDefault fs "debounce_ms" 300 positive = .ok c.debounce ∧
      withDefault fs "enable_live_validation" true switch = .ok c.validation ∧
      withDefault fs "enable_performance_metrics" true switch = .ok c.metrics ∧
      withDefault fs "enable_best_practices" true switch = .ok c.bestPractices := by
  rw [Checked.eq_ok_iff]
  simp only [LiveConfig.ofFields, Checked.exists_map_ok, Checked.exists_seq_ok]
  cases c
  simp only [LiveConfig.mk.injEq, existsAndEq, and_true]

theorem LiveConfig.rereads :
    Rereads (record "RealTimeAnalysisConfig" LiveConfig.ofFields) LiveConfig.toValue := by
  intro v c h
  obtain ⟨fs, rfl, hfs⟩ := object_of_record h
  obtain ⟨hdebounce, hvalidation, hmetrics, hbest⟩ := ofFields_eq_ok_iff.mp hfs
  exact ofFields_eq_ok_iff.mpr ⟨withDefault_again rereads_positive rfl hdebounce rfl,
    withDefault_again rereads_switch rfl hvalidation rfl,
    withDefault_again rereads_switch rfl hmetrics rfl,
    withDefault_again rereads_switch rfl hbest rfl⟩

theorem AnalysisRequest.ofFields_eq_ok_iff {fs : Fields} {r : AnalysisRequest} :
    AnalysisRequest.ofFields fs = .ok r ↔
      required fs "code" chars = .ok r.code ∧
      required fs "dialect" Dialect.ofValue = .ok r.dialect ∧
      withDefault fs "analysis_level" .comprehensive
        (oneOf AnalysisLevel.all AnalysisLevel.name) = .ok r.level ∧
      withDefault fs "include_fixes" true switch = .ok r.fixes := by
  rw [Checked.eq_ok_iff]
  simp only [AnalysisRequest.ofFields, Checked.exists_map_ok, Checked.exists_seq_ok]
  cases r
  simp only [AnalysisRequest.mk.injEq, existsAndEq, and_true]

theorem AnalysisRequest.rereads :
    Rereads (record "CodeAnalysisRequest" AnalysisRequest.ofFields) AnalysisRequest.toValue := by
  intro v r h
  obtain ⟨fs, rfl, hfs⟩ := object_of_record h
  obtain ⟨hcode, hdialect, hlevel, hfixes⟩ := ofFields_eq_ok_iff.mp hfs
  exact ofFields_eq_ok_iff.mpr ⟨required_again rereads_chars hcode rfl,
    required_again (rereads_oneOf _ _) hdialect rfl,
    withDefault_again (rereads_oneOf _ _) rfl hlevel rfl,
    withDefault_again rereads_switch rfl hfixes rfl⟩

end Outcomes

namespace Dialect

theorem mem_gather {ds : List Dialect} {d : Dialect} : d ∈ gather ds ↔ d ∈ ds := by
  have hall : d ∈ all := by cases d <;> decide
  simp [gather, hall]

theorem gather_congr {ds es : List Dialect} (h : ∀ d, d ∈ ds ↔ d ∈ es) : gather ds = gather es :=
  List.filter_congr fun d _ => by simp [h d]

theorem ofValue_name (d : Dialect) : ofValue (.text d.name) = .ok d := by cases d <;> rfl

theorem sortedNames_eq (ds : List Dialect) :
    sortedNames ds = (ds.mergeSort fun d e => decide (d.name ≤ e.name)).map name :=
  (List.map_mergeSort (f := name) fun _ _ _ _ => rfl).symm

end Dialect

namespace Rule

theorem dialectsOfValue_names {ds : List Dialect} (h : ds ≠ []) :
    dialectsOfValue (.ofTexts (ds.map Dialect.name)) = .ok (Dialect.gather ds) := by
  have hread : Checked.all (itemsFrom Dialect.ofValue 0 (ds.map fun d => .text d.name)) = .ok ds :=
    all_itemsFrom_map (fun d _ => Dialect.ofValue_name d) 0
  rw [Value.ofTexts, List.map_map]
  change (Checked.all (itemsFrom Dialect.ofValue 0 (ds.map fun d => .text d.name))).andThen _ = _
  rw [hread]
  change (if ds.isEmpty then _ else Checked.ok (Dialect.gather ds)) = _
  rw [if_neg (by simpa using h)]

/-- The dialects of a rule are read as a set: their order and repetitions do not matter. -/
theorem rereads_dialects : Rereads dialectsOfValue fun ds => .ofTexts (Dialect.sortedNames ds) := by
  intro v ds h
  cases v with
  | list vs =>
    obtain ⟨given, -, h⟩ := Checked.eq_ok_of_andThen h
    split at h
    · cases h
    · next hgiven =>
      obtain rfl := Checked.ok.inj h
      change dialectsOfValue (.ofTexts (Dialect.sortedNames (Dialect.gather given))) = _
      have hmem (d : Dialect) : d ∈ (Dialect.gather given).mergeSort
          (fun d e => decide (d.name ≤ e.name)) ↔ d ∈ given := by
        rw [List.mem_mergeSort, Dialect.mem_gather]
      obtain ⟨d, hd⟩ := List.exists_mem_of_ne_nil given (by simpa using hgiven)
      rw [Dialect.sortedNames_eq, dialectsOfValue_names (List.ne_nil_of_mem ((hmem d).mpr hd)),
        Dialect.gather_congr hmem]
  | _ => cases h

theorem ofFieldsWith_eq_ok_iff {dialects : Checked (List Dialect)} {fs : Fields} {r : Rule} :
    ofFieldsWith dialects fs = .ok r ↔
      required fs "id" filledText = .ok r.id ∧ required fs "name" text = .ok r.name ∧
      required fs "category" RuleCategory.ofValue = .ok r.category ∧
      required fs "severity" Severity.ofValue = .ok r.severity ∧
      required fs "pattern" patternOfValue = .ok r.pattern ∧
      withDefault fs "ignore_case" false switch = .ok r.ignoreCase ∧
      withDefault fs "multiline" false switch = .ok r.multiline ∧
      withDefault fs "scope" .line (oneOf RuleScope.all RuleScope.name) = .ok r.scope ∧
      required fs "message" text = .ok r.message ∧
      withDefault fs "suggestion" "" text = .ok r.suggestion ∧
      withDefault fs "documentation_ref" none (maybe text) = .ok r.reference ∧
      dialects = .ok r.dialects := by
  rw [Checked.eq_ok_iff]
  simp only [ofFieldsWith, Checked.exists_map_ok, Checked.exists_seq_ok]
  cases r
  simp only [Rule.mk.injEq, existsAndEq, and_true]

/-- A pattern that was read is one, and was given as its text. -/
theorem read_of_patternOfValue {v : Value} {s : String} (h : patternOfValue v = .ok s) :
    v = .text s ∧ ∃ p, Pattern.read s {} = .ok p := by
  obtain ⟨t, ht, h⟩ := Checked.eq_ok_of_andThen h
  split at h
  · next p hp =>
    obtain rfl := Checked.ok.inj h
    refine ⟨?_, p, hp⟩
    cases v with
    | text s => rw [Checked.ok.inj ht]
    | _ => cases ht
  · cases h

theorem rereads_pattern : Rereads patternOfValue .text :=
  Rereads.of_unique fun _ _ h => (read_of_patternOfValue h).1.symm

theorem exists_read_of_required {fs : Fields} {s : String}
    (h : required fs "pattern" patternOfValue = .ok s) : ∃ p, Pattern.read s {} = .ok p := by
  rw [required] at h
  split at h
  · exact (read_of_patternOfValue (Checked.eq_ok_of_within h)).2
  · cases h

theorem isOversized_of_read {fs : Fields} {s : String} {p : Pattern}
    (hfs : fs.get? "pattern" = some (.text s)) (hp : Pattern.read s {} = .ok p) :
    isOversized fs = false := by
  rw [isOversized, hfs]
  simp only [hp]

theorem rereads {fs gs : Fields} {r : Rule} (h : check (dialectsOfFields fs) fs = .ok (.ok r))
    (hgs : r.toValue = .object gs) : check (dialectsOfFields gs) gs = .ok (.ok r) := by
  obtain rfl := Value.object.inj hgs
  rw [check] at h
  split at h
  · cases h
  · obtain ⟨hid, hname, hcategory, hseverity, hpattern, hcase, hmultiline, hscope, hmessage,
      hsuggestion, hreference, hdialects⟩ := ofFieldsWith_eq_ok_iff.mp (Except.ok.inj h)
    obtain ⟨p, hp⟩ := exists_read_of_required hpattern
    rw [check, isOversized_of_read rfl hp]
    exact congrArg Except.ok <| ofFieldsWith_eq_ok_iff.mpr ⟨
      required_again rereads_filledText hid rfl, required_again rereads_text hname rfl,
      required_again (rereads_oneOf _ _) hcategory rfl,
      required_again (rereads_oneOf _ _) hseverity rfl,
      required_again rereads_pattern hpattern rfl,
      withDefault_again rereads_switch rfl hcase rfl,
      withDefault_again rereads_switch rfl hmultiline rfl,
      withDefault_again (rereads_oneOf _ _) rfl hscope rfl,
      required_again rereads_text hmessage rfl,
      withDefault_again rereads_text rfl hsuggestion rfl,
      withDefault_again rereads_text? rfl hreference rfl,
      required_again rereads_dialects hdialects rfl⟩

end Rule

namespace LiveResult

theorem checked_eq_ok_iff {errors warnings : List Finding} {suggestions : List Suggestion}
    {valid : Bool} {computed : Unit} {sequence : Int} {r : LiveResult} :
    checked errors warnings suggestions valid computed sequence = .ok r ↔
      (∀ f ∈ errors, f.severity = .error) ∧ valid = errors.isEmpty ∧
      r = ⟨errors.map .finding, warnings.map .finding, suggestions, sequence⟩ := by
  have hsevere : errors.any (!·.isError) = false ↔ ∀ f ∈ errors, f.severity = .error := by
    simp [Finding.isError]
  rw [checked, ← hsevere]
  cases errors.any (!·.isError) with
  | true => exact iff_of_false nofun fun h => nomatch h.1
  | false =>
    by_cases hvalid : valid = errors.isEmpty
    · rw [if_neg nofun, if_neg (by simpa using hvalid)]
      exact ⟨fun h => ⟨rfl, hvalid, (Checked.ok.inj h).symm⟩, fun h => by rw [h.2.2]⟩
    · rw [if_neg nofun, if_pos (by simpa using hvalid)]
      exact iff_of_false nofun fun h => hvalid h.2.1

/-- A live result is read from fields that agree with each other. -/
theorem ofFields_eq_ok_iff {fs : Fields} {r : LiveResult} :
    ofFields fs = .ok r ↔ ∃ errors warnings : List Finding,
      withDefault fs "errors" [] (list Finding.ofValue) = .ok errors ∧
      withDefault fs "warnings" [] (list Finding.ofValue) = .ok warnings ∧
      withDefault fs "suggestions" [] (list Suggestion.ofValue) = .ok r.suggestions ∧
      withDefault fs "is_valid" true switch = .ok errors.isEmpty ∧
      withDefault fs "computed_at" () moment = .ok () ∧
      withDefault fs "sequence" 0 integer = .ok r.sequence ∧
      (∀ f ∈ errors, f.severity = .error) ∧
      r.errors = errors.map .finding ∧ r.warnings = warnings.map .finding := by
  rw [ofFields, Checked.andThen_eq_ok_iff]
  simp only [Checked.exists_map_ok, Checked.exists_seq_ok, id, checked_eq_ok_iff]
  constructor
  · rintro ⟨errors, herrors, warnings, hwarnings, _, hsuggestions, _, hvalid, _, hcomputed, _,
      hsequence, hsevere, rfl, rfl⟩
    exact ⟨errors, warnings, herrors, hwarnings, hsuggestions, hvalid, hcomputed, hsequence,
      hsevere, rfl, rfl⟩
  · rintro ⟨errors, warnings, herrors, hwarnings, hsuggestions, hvalid, hcomputed, hsequence,
      hsevere, hmarks, hmarks'⟩
    refine ⟨errors, herrors, warnings, hwarnings, _, hsuggestions, _, hvalid, _, hcomputed, _,
      hsequence, hsevere, rfl, ?_⟩
    rw [← hmarks, ← hmarks']

/-- A live result as a value, with the time when it was computed. -/
def stamped (time : Value) (r : LiveResult) : Value :=
  .object (r.toValue.fields?.getD [] ++ [("computed_at", time)])

/-- Fields that are written beside those of a live result matter only if they tell the time. -/
theorem ofFields_append {fs : Fields} {r : LiveResult} (h : ofFields fs = .ok r) {more : Fields}
    (hmore : withDefault more "computed_at" () moment = .ok ()) :
    ofFields (r.toValue.fields?.getD [] ++ more) = .ok r := by
  obtain ⟨errors, warnings, herrors, hwarnings, hsuggestions, hvalid, -, hsequence, hsevere, hmarks,
    hmarks'⟩ := ofFields_eq_ok_iff.mp h
  refine ofFields_eq_ok_iff.mpr ⟨errors, warnings,
    withDefault_again rereads_findings rfl herrors ?_,
    withDefault_again rereads_findings rfl hwarnings ?_,
    withDefault_again (rereads_list Suggestion.rereads) rfl hsuggestions rfl,
    withDefault_again rereads_switch rfl hvalid ?_, hmore,
    withDefault_again rereads_integer rfl hsequence rfl, hsevere, hmarks, hmarks'⟩
  · change some (Value.list (r.errors.map Mark.toValue)) = _
    rw [hmarks, List.map_map]
    rfl
  · change some (Value.list (r.warnings.map Mark.toValue)) = _
    rw [hmarks', List.map_map]
    rfl
  · change some (Value.bool r.errors.isEmpty) = _
    rw [hmarks, List.isEmpty_map]

theorem rereads : Rereads (record "LiveAnalysisResult" ofFields) toValue := by
  intro v r h
  obtain ⟨fs, rfl, hfs⟩ := object_of_record h
  have hnone : withDefault ([] : Fields) "computed_at" () moment = .ok () := rfl
  exact ofFields_append hfs hnone

theorem rereads_stamped {time : Value} (htime : moment time = .ok ()) :
    Rereads (record "LiveAnalysisResult" ofFields) (stamped time) := by
  intro v r h
  obtain ⟨fs, rfl, hfs⟩ := object_of_record h
  refine ofFields_append hfs ?_
  change (moment time).within _ = _
  rw [htime]
  rfl

/-- A live result that was read says that it is valid just when it has no errors, and its errors are
errors. -/
theorem consistent {v : Value} {r : LiveResult}
    (h : record "LiveAnalysisResult" ofFields v = .ok r) :
    (∃ fs, v = .object fs ∧ withDefault fs "is_valid" true switch = .ok r.isValid) ∧
    ∀ m ∈ r.errors, m.toFinding.severity = .error := by
  obtain ⟨fs, rfl, hfs⟩ := object_of_record h
  obtain ⟨errors, _, -, -, -, hvalid, -, -, hsevere, hmarks, -⟩ := ofFields_eq_ok_iff.mp hfs
  refine ⟨⟨fs, rfl, ?_⟩, fun m hm => ?_⟩
  · rw [isValid, hmarks, List.isEmpty_map]
    exact hvalid
  · rw [hmarks] at hm
    obtain ⟨f, hf, rfl⟩ := List.mem_map.mp hm
    exact hsevere f hf

end LiveResult

/-- Reading is a projection, for each kind of record and for every value that is accepted as one:
what was read is accepted again once it is written, and is the same. Verdicts and live results are
written as valid just when they have no errors. A live result was given that way, its errors are
errors, and it may be written with any point in time. -/
theorem reading_projects :
    Rereads Finding.ofValue Finding.toValue ∧ Rereads Suggestion.ofValue Suggestion.toValue ∧
    Rereads Violation.ofValue Violation.toValue ∧
    Rereads (record "RealTimeAnalysisConfig" LiveConfig.ofFields) LiveConfig.toValue ∧
    Rereads (record "CodeAnalysisRequest" AnalysisRequest.ofFields) AnalysisRequest.toValue ∧
    (∀ fs r, Rule.check (Rule.dialectsOfFields fs) fs = .ok (.ok r) → ∃ gs,
      r.toValue = .object gs ∧ Rule.check (Rule.dialectsOfFields gs) gs = .ok (.ok r)) ∧
    Rereads (record "ValidationResult" Verdict.ofFields) Verdict.toValue ∧
    (∀ v : Verdict, v.toValue.field? "is_valid" = some (.bool true) ↔ v.errors = []) ∧
    Rereads (record "LiveAnalysisResult" LiveResult.ofFields) LiveResult.toValue ∧
    (∀ time, moment time = .ok () →
      Rereads (record "LiveAnalysisResult" LiveResult.ofFields) (LiveResult.stamped time)) ∧
    ∀ v r, record "LiveAnalysisResult" LiveResult.ofFields v = .ok r →
      (∃ fs, v = .object fs ∧ withDefault fs "is_valid" true switch = .ok r.isValid) ∧
      (r.toValue.field? "is_valid" = some (.bool true) ↔ r.errors = []) ∧
      ∀ m ∈ r.errors, m.toFinding.severity = .error := by
  have hwritten {α : Type} (xs : List α) :
      some (Value.bool xs.isEmpty) = some (.bool true) ↔ xs = [] := by simp
  exact ⟨Finding.rereads, Suggestion.rereads, Violation.rereads, LiveConfig.rereads,
    AnalysisRequest.rereads, fun fs r h => ⟨_, rfl, Rule.rereads h rfl⟩, Verdict.rereads,
    fun v => hwritten v.errors, LiveResult.rereads, fun _ => LiveResult.rereads_stamped,
    fun v r h => ⟨(LiveResult.consistent h).1, hwritten r.errors, (LiveResult.consistent h).2⟩⟩

theorem reading_projects_lenient :
    let verdict := record "ValidationResult" Verdict.ofFields
    let live := record "LiveAnalysisResult" LiveResult.ofFields
    let errors : Value := .list [.object [("line", .text " +007"), ("column", .bool true),
      ("message", .text "Unclosed block"), ("rule", .text "ampscript-delimiters"),
      ("category", .text "syntax"), ("severity", .text "error")]]
    let f : Finding :=
      ⟨7, some 1, "Unclosed block", "ampscript-delimiters", .syntactic, .error, none⟩
    let v : Verdict := ⟨[f], [], []⟩
    let r : LiveResult := ⟨[.finding f], [], [], -3⟩
    verdict (.object [("is_valid", .text "Yes"), ("errors", errors)]) = .ok v ∧
    verdict v.toValue = .ok v ∧
    live (.object [("is_valid", .int 0), ("errors", errors), ("sequence", .text "-3")]) = .ok r ∧
    live r.toValue = .ok r := by
  intro verdict live errors f v r
  have hverdict : verdict (.object [("is_valid", .text "Yes"), ("errors", errors)]) = .ok v := by
    cbv
  have hlive : live (.object [("is_valid", .int 0), ("errors", errors), ("sequence", .text "-3")]) =
      .ok r := by cbv
  obtain ⟨-, -, -, -, -, -, hverdicts, -, hlives, -⟩ := reading_projects
  exact ⟨hverdict, hverdicts _ v hverdict, hlive, hlives _ r hlive⟩

end CampaignCheck

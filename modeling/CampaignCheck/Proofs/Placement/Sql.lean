import CampaignCheck.Proofs.Placement.Basic
import CampaignCheck.Sql.Cost
import CampaignCheck.Sql.Grammar
import CampaignCheck.Sql.Meaning

namespace CampaignCheck.Sql

open Text Pattern

theorem unknownFunctions_pointsInto : PointsIntoLines unknownFunctions := by
  intro ls l hl f hf
  obtain ⟨m, hm, hf⟩ := List.mem_filterMap.mp hf
  simp only at hf
  split_ifs at hf
  cases hf
  exact report_pointsInto (hl.startOf (finds_of_mem_findAll hm) 1) ..

theorem doubledEquals_pointsInto : PointsIntoLines doubledEquals := first_pointsInto

section

variable {s : Source} {ls : List (List Char)} (h : ∀ offset, (positionAt s.text offset).Within ls)
include h

theorem statement_report_pointsInto (st : Statement) (offset : Nat) (rule message : String)
    (category : Category) (severity : Severity) (hint : String) :
    (s.report st offset rule message category severity hint).PointsInto ls :=
  report_pointsInto (h (st.start + offset)) ..

/-- A finding for each of several places of a statement. -/
theorem reportEach_pointsInto {α : Type} {st : Statement} {offset : α → Nat} {rule : String}
    {message : α → String} {category : Category} {severity : Severity} {hint : String}
    {xs : List α} :
    ∀ f ∈ xs.map (fun x => s.report st (offset x) rule (message x) category severity hint),
      f.PointsInto ls := by
  intro f hf
  obtain ⟨x, -, rfl⟩ := List.mem_map.mp hf
  exact statement_report_pointsInto h ..

theorem missingFrom_pointsInto (st : Statement) : ∀ f ∈ missingFrom s st, f.PointsInto ls := by
  unfold missingFrom
  split
  · split_ifs
    · simp
    · exact List.forall_mem_singleton.mpr (statement_report_pointsInto h ..)
  · simp

theorem missingOn_pointsInto (st : Statement) : ∀ f ∈ missingOn s st, f.PointsInto ls := by
  intro f hf
  obtain ⟨m, -, hf⟩ := List.mem_filterMap.mp hf
  simp only at hf
  split_ifs at hf
  cases hf
  exact statement_report_pointsInto h ..

theorem missingGroupBy_pointsInto (st : Statement) :
    ∀ f ∈ missingGroupBy s st, f.PointsInto ls := by
  unfold missingGroupBy
  split
  · split_ifs
    · simp
    · exact List.forall_mem_singleton.mpr (statement_report_pointsInto h ..)
  · simp

theorem missingTop_pointsInto (st : Statement) : ∀ f ∈ missingTop s st, f.PointsInto ls := by
  unfold missingTop
  split
  · simp only
    split_ifs
    · simp
    · exact List.forall_mem_singleton.mpr (statement_report_pointsInto h ..)
  · simp

theorem structureFindings_pointsInto (st : Statement) :
    ∀ f ∈ structureFindings s st, f.PointsInto ls := by
  intro f hf
  simp only [structureFindings, List.mem_append] at hf
  rcases hf with (((hf | hf) | hf) | hf) | hf
  · exact missingFrom_pointsInto h st f hf
  · exact missingOn_pointsInto h st f hf
  · exact missingGroupBy_pointsInto h st f hf
  · exact reportEach_pointsInto h f hf
  · exact missingTop_pointsInto h st f hf

theorem unknownQualifiers_pointsInto (st : Statement) (known : List (List Char))
    (ms : List Match) : ∀ f ∈ unknownQualifiers s st known ms, f.PointsInto ls := by
  induction ms generalizing known with
  | nil => simp [unknownQualifiers]
  | cons m ms ih =>
    rw [unknownQualifiers]
    split_ifs
    · exact ih known
    · exact List.forall_mem_cons.mpr ⟨statement_report_pointsInto h .., ih _⟩

theorem aliasFindings_pointsInto (st : Statement) : ∀ f ∈ aliasFindings s st, f.PointsInto ls := by
  unfold aliasFindings
  split_ifs
  · exact unknownQualifiers_pointsInto h st _ _
  · simp

theorem aggregateFindings_pointsInto (st : Statement) :
    ∀ f ∈ aggregateFindings s st, f.PointsInto ls := by
  unfold aggregateFindings
  split_ifs
  · simp
  · split
    · split_ifs
      · exact List.forall_mem_singleton.mpr (statement_report_pointsInto h ..)
      · simp
    · simp

theorem dynamicFindings_pointsInto (st : Statement) :
    ∀ f ∈ dynamicFindings s st, f.PointsInto ls := by
  unfold dynamicFindings
  split
  · split_ifs
    · exact List.forall_mem_singleton.mpr (statement_report_pointsInto h ..)
    · simp
  · simp

theorem sensitiveFindings_pointsInto (st : Statement) :
    ∀ f ∈ sensitiveFindings s st, f.PointsInto ls := by
  unfold sensitiveFindings
  split
  · intro f hf
    obtain ⟨i, -, hf⟩ := List.mem_filterMap.mp hf
    obtain ⟨m, -, rfl⟩ := Option.map_eq_some_iff.mp hf
    exact statement_report_pointsInto h ..
  · simp

theorem wildcardFindings_pointsInto (st : Statement) :
    ∀ f ∈ wildcardFindings s st, f.PointsInto ls := by
  intro f hf
  obtain ⟨m, -, hf⟩ := List.mem_filterMap.mp hf
  split_ifs at hf
  cases hf
  exact statement_report_pointsInto h ..

theorem changeFindings_pointsInto (st : Statement) :
    ∀ f ∈ changeFindings s st, f.PointsInto ls := by
  unfold changeFindings
  split
  · split_ifs
    · simp
    · exact List.forall_mem_singleton.mpr (statement_report_pointsInto h ..)
  · simp

theorem conditionFindings_pointsInto (st : Statement) :
    ∀ f ∈ conditionFindings s st, f.PointsInto ls := by
  unfold conditionFindings
  split
  · exact reportEach_pointsInto h
  · simp

theorem systemTableFindings_pointsInto (st : Statement) :
    ∀ f ∈ systemTableFindings s st, f.PointsInto ls := by
  unfold systemTableFindings
  split_ifs
  · simp
  · intro f hf
    obtain ⟨name, -, hf⟩ := List.mem_filterMap.mp hf
    obtain ⟨m, -, rfl⟩ := Option.map_eq_some_iff.mp hf
    exact statement_report_pointsInto h ..

end

theorem grammarFindings_pointsInto (code : List Char) :
    ∀ f ∈ grammarFindings code, f.PointsInto (lines code) := by
  have hlines : ∀ l ∈ (Source.of code).masked.lines, l.Of (lines code) := fun _ => of_mem_ofCode
  intro f hf
  simp only [grammarFindings, List.mem_append, List.mem_flatMap, List.mem_map] at hf
  rcases hf with ((⟨i, hi, rfl⟩ | ⟨p, hp, rfl⟩) | hf) | ⟨st, -, hf⟩
  · exact report_pointsInto (Delimiters.imbalances_within _ hlines i hi) ..
  · exact report_pointsInto (unclosed_within _ (shows_lines_refl _) p hp) ..
  · refine perLine_pointsInto ?_ hlines f hf
    simp [unknownFunctions_pointsInto, doubledEquals_pointsInto]
  · exact structureFindings_pointsInto (positionAt_masked_within .sql code) st f hf

theorem meaningFindings_pointsInto (code : List Char) :
    ∀ f ∈ meaningFindings code, f.PointsInto (lines code) := by
  have h : ∀ offset, (positionAt (Source.of code).text offset).Within (lines code) :=
    positionAt_masked_within .sql code
  intro f hf
  simp only [meaningFindings, List.mem_append, List.mem_flatMap] at hf
  obtain ⟨st, -, (((((hf | hf) | hf) | hf) | hf) | hf) | hf⟩ := hf
  · exact aliasFindings_pointsInto h st f hf
  · exact aggregateFindings_pointsInto h st f hf
  · exact reportEach_pointsInto h f hf
  · exact dynamicFindings_pointsInto h st f hf
  · exact reportEach_pointsInto h f hf
  · exact sensitiveFindings_pointsInto h st f hf
  · exact reportEach_pointsInto h f hf

theorem costFindings_pointsInto (code : List Char) :
    ∀ f ∈ costFindings code, f.PointsInto (lines code) := by
  have h : ∀ offset, (positionAt (Source.of code).text offset).Within (lines code) :=
    positionAt_masked_within .sql code
  intro f hf
  simp only [costFindings, List.mem_append, List.mem_flatMap] at hf
  obtain ⟨st, -, ((((hf | hf) | hf) | hf) | hf) | hf⟩ := hf
  · exact wildcardFindings_pointsInto h st f hf
  · exact changeFindings_pointsInto h st f hf
  · exact conditionFindings_pointsInto h st f hf
  · exact reportEach_pointsInto h f hf
  · exact systemTableFindings_pointsInto h st f hf
  · exact reportEach_pointsInto h f hf

end CampaignCheck.Sql

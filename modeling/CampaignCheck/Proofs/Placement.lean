import CampaignCheck.Proofs.Placement.Ampscript
import CampaignCheck.Proofs.Placement.Pages
import CampaignCheck.Proofs.Placement.Scripts
import CampaignCheck.Proofs.Placement.Sql
import CampaignCheck.Proofs.Sorting
import CampaignCheck.Rules.Table
import CampaignCheck.Validator.Registry
import Mathlib.Data.List.TakeDrop

namespace CampaignCheck

open Text Pattern

namespace Enforce

theorem finds_of_mem_starts {p : Pattern} {cs : List Char} {start : Nat}
    (h : start ∈ starts (untwisted (p.findAll cs)).1) : ∃ m, p.Finds cs m ∧ m.start = start := by
  obtain ⟨m, hm, rfl⟩ := List.mem_map.mp h
  have hmem : m ∈ (p.findAll cs).takeWhile (!·.isTwisted) := by
    simpa [untwisted, List.span_eq_takeWhile_dropWhile] using List.mem_of_mem_filter hm
  exact ⟨m, finds_of_mem_findAll ((List.takeWhile_subset _) hmem), rfl⟩

/-- Matches in single lines; those before have been searched. -/
theorem inLines_within (p : Pattern) (done ls : List (List Char)) :
    ∀ q ∈ (inLines p (done.length + 1) ls).1, q.Within (done ++ ls) := by
  induction ls generalizing done with
  | nil => simp [inLines]
  | cons line rest ih =>
    have here : ∀ q ∈ (starts (untwisted (p.findAll line)).1).map
        (fun start => (⟨done.length + 1, start⟩ : Position)), q.Within (done ++ line :: rest) := by
      intro q hq
      obtain ⟨start, hs, rfl⟩ := List.mem_map.mp hq
      obtain ⟨m, hm, rfl⟩ := finds_of_mem_starts hs
      exact Position.within_here done rest hm.1
    simp only [inLines]
    split_ifs
    · refine List.forall_mem_append.mpr ⟨here, ?_⟩
      rw [List.append_cons]
      simpa using ih (done ++ [line])
    · exact here

theorem places_within (r : Rule) (code : List Char) :
    ∀ q ∈ places r (lines code), q.Within (lines code) := by
  unfold places
  split
  · simp
  · next p _ =>
    refine List.forall_mem_append.mpr ⟨inLines_within p [] (lines code), ?_⟩
    split_ifs
    · intro q hq
      obtain ⟨start, -, rfl⟩ := List.mem_map.mp hq
      exact positionAt_unlines_within (lines_ne_nil code) (fun _ => not_mem_of_mem_lines) start
    · simp

theorem violations_pointsInto (t : RuleTable) (d : Dialect) (code : List Char) :
    ∀ v ∈ violations t d code, v.toFinding.PointsInto (lines code) := by
  intro v hv
  unfold violations at hv
  split at hv
  · cases hv
  · have hmem := (firstByKey_sublist _ _ _).subset (List.mem_mergeSort.mp hv)
    obtain ⟨r, -, hr⟩ := List.mem_flatMap.mp hmem
    obtain ⟨q, hq, rfl⟩ := List.mem_map.mp hr
    obtain ⟨hline, l, hl, hcol⟩ := places_within r code q hq
    refine ⟨hline, l, hl, ?_⟩
    intro c hc
    cases hc
    exact hcol

end Enforce

theorem complete_pointsInto {name title : String} {dialect : Dialect}
    {grammar meaning cost : List Char → List Finding} {advise : List Char → List Suggestion}
    {fixers : List (String × Fixer)} {code : List Char} {ls : List (List Char)}
    (hg : ∀ f ∈ grammar code, f.PointsInto ls) (hm : ∀ f ∈ meaning code, f.PointsInto ls)
    (hc : ∀ f ∈ cost code, f.PointsInto ls) :
    let v := Validator.complete name title dialect grammar meaning cost advise fixers
    ∃ gs ms cs, v.grammar code = .ok gs ∧ v.meaning code = .ok ms ∧ v.cost code = .ok cs ∧
      ∀ f ∈ gs ++ ms ++ cs, f.PointsInto ls := by
  refine ⟨grammar code, meaning code, cost code, rfl, rfl, rfl, ?_⟩
  intro f hf
  simp only [List.mem_append] at hf
  rcases hf with (hf | hf) | hf
  · exact hg f hf
  · exact hm f hf
  · exact hc f hf

/-- Every validator answers each of its three checks, and whatever it finds points into the source;
so does every violation of the rules of any table. -/
theorem findings_point_into_source (d : Dialect) (code : List Char) :
    (∃ grammar meaning cost, (Validator.of d).grammar code = .ok grammar ∧
      (Validator.of d).meaning code = .ok meaning ∧ (Validator.of d).cost code = .ok cost ∧
      ∀ f ∈ grammar ++ meaning ++ cost, f.PointsInto (lines code)) ∧
    ∀ t : RuleTable, ∀ v ∈ Enforce.violations t d code, v.toFinding.PointsInto (lines code) := by
  refine ⟨?_, fun t => Enforce.violations_pointsInto t d code⟩
  cases d with
  | ampscript =>
    exact complete_pointsInto (Ampscript.grammarFindings_pointsInto code)
      (Ampscript.meaningFindings_pointsInto code) (Ampscript.costFindings_pointsInto code)
  | ssjs =>
    exact complete_pointsInto (Ssjs.grammarFindings_pointsInto code)
      (Ssjs.meaningFindings_pointsInto code) (Ssjs.costFindings_pointsInto code)
  | sql =>
    exact complete_pointsInto (Sql.grammarFindings_pointsInto code)
      (Sql.meaningFindings_pointsInto code) (Sql.costFindings_pointsInto code)
  | html =>
    exact complete_pointsInto (Html.grammarFindings_pointsInto code)
      (Html.meaningFindings_pointsInto code) (Html.costFindings_pointsInto code)
  | css =>
    exact complete_pointsInto (Css.grammarFindings_pointsInto code)
      (Css.meaningFindings_pointsInto code) (Css.costFindings_pointsInto code)
  | javascript =>
    exact complete_pointsInto (Javascript.grammarFindings_pointsInto code)
      (Javascript.meaningFindings_pointsInto code) (Javascript.costFindings_pointsInto code)

end CampaignCheck

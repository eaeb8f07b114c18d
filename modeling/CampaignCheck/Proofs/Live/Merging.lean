import CampaignCheck.Proofs.Rules.Enforcement
import CampaignCheck.Schema.Request

namespace CampaignCheck

namespace Mark

/-- The marks stand by severity, the most serious first, then by line, column and rule. -/
def Ranked (ms : List Mark) : Prop :=
  ms.Pairwise fun a b =>
    b.toFinding.severity.rank < a.toFinding.severity.rank ∨
    b.toFinding.severity.rank = a.toFinding.severity.rank ∧
      (a.toFinding.line < b.toFinding.line ∨ a.toFinding.line = b.toFinding.line ∧
        (a.toFinding.column.getD 0 < b.toFinding.column.getD 0 ∨
          a.toFinding.column.getD 0 = b.toFinding.column.getD 0 ∧
            a.toFinding.rule ≤ b.toFinding.rule))

end Mark

namespace LiveResult

theorem sortMarks_perm (ms : List Mark) : (sortMarks ms).Perm ms := List.mergeSort_perm ms _

theorem sortMarks_ranked (ms : List Mark) : Mark.Ranked (sortMarks ms) := by
  have hsorted : (sortMarks ms).Pairwise fun a b => a.toFinding.notAfter b.toFinding = true :=
    List.pairwise_mergeSort (fun a b c => Finding.notAfter_trans a.toFinding _ c.toFinding)
      (fun a b => Finding.notAfter_total a.toFinding b.toFinding) ms
  exact hsorted.imp fun {a b} h => (Finding.notAfter_iff _ _).mp h

variable (found : List Finding) (violations : List Violation) (sequence : Int)

theorem mem_errors_merge (m : Mark) : m ∈ (merge found violations sequence).errors ↔
    m ∈ marks found violations ∧ m.toFinding.isError = true := by
  simp [merge, (sortMarks_perm _).mem_iff]

theorem mem_warnings_merge (m : Mark) : m ∈ (merge found violations sequence).warnings ↔
    m ∈ marks found violations ∧ m.toFinding.isError = false := by
  simp [merge, (sortMarks_perm _).mem_iff]

/-- Parting the marks and sorting the parts neither loses nor doubles any. -/
theorem merge_perm : ((merge found violations sequence).errors ++
    (merge found violations sequence).warnings).Perm (marks found violations) :=
  ((sortMarks_perm _).append (sortMarks_perm _)).trans (List.filter_append_perm _ _)

theorem isValid_merge : (merge found violations sequence).isValid =
    !(marks found violations).any (·.toFinding.isError) := by
  rw [Bool.eq_iff_iff]
  simp only [isValid, List.isEmpty_iff, List.eq_nil_iff_forall_not_mem, mem_errors_merge,
    Bool.not_eq_true', List.any_eq_false, not_and]

/-- The marks under a key: the first finding or violation with it, and nothing else. -/
theorem filter_merge (key : String × Nat × Option Nat) :
    ((merge found violations sequence).errors ++
      (merge found violations sequence).warnings).filter (fun m => decide (m.toFinding.key = key)) =
    ((found.map Mark.finding ++ violations.map Mark.violation).find?
      fun m => decide (m.toFinding.key = key)).toList := by
  have hperm := (merge_perm found violations sequence).filter fun m =>
    decide (m.toFinding.key = key)
  rw [marks, filter_firstByKey] at hperm
  cases hfirst : (found.map Mark.finding ++ violations.map Mark.violation).find?
      fun m => decide (m.toFinding.key = key) with
  | none =>
    rw [hfirst] at hperm
    exact hperm.eq_nil
  | some m =>
    rw [hfirst] at hperm
    exact List.perm_singleton.mp hperm

/-- The result passes the check of its record: its errors are errors, and it is called valid when
there are none. -/
theorem checked_merge : LiveResult.checked
    ((merge found violations sequence).errors.map (·.toFinding))
    ((merge found violations sequence).warnings.map (·.toFinding))
    (merge found violations sequence).suggestions
    (!(marks found violations).any (·.toFinding.isError)) () sequence =
      .ok { merge found violations sequence with
        errors := (merge found violations sequence).errors.map fun m => .finding m.toFinding
        warnings := (merge found violations sequence).warnings.map fun m => .finding m.toFinding } := by
  have herrors : ((merge found violations sequence).errors.map (·.toFinding)).any (!·.isError) =
      false := by
    rw [List.any_eq_false]
    intro f hf
    obtain ⟨m, hm, rfl⟩ := List.mem_map.mp hf
    simp [((mem_errors_merge found violations sequence m).mp hm).2]
  have hvalid : (!(marks found violations).any (·.toFinding.isError)) =
      ((merge found violations sequence).errors.map (·.toFinding)).isEmpty := by
    rw [← isValid_merge found violations sequence, List.isEmpty_map]
    rfl
  rw [checked, herrors, hvalid]
  simp only [Bool.false_eq_true, if_false, bne_self_eq_false, List.map_map]
  rfl

/-- The record check accepts what is merged from any findings and violations. Each rule at a place
that any of them names is marked once, by the first of them, findings before violations; errors and
all else are parted and each in order; a result is valid when it has no errors; and each violation
gives its advice, also where it is not the first. -/
theorem merge_partitions (found : List Finding) (violations : List Violation) (sequence : Int) :
    let r := merge found violations sequence
    let all := found.map Mark.finding ++ violations.map Mark.violation
    (LiveResult.checked (r.errors.map (·.toFinding)) (r.warnings.map (·.toFinding)) r.suggestions
      (!(marks found violations).any (·.toFinding.isError)) () sequence =
        .ok { r with
          errors := r.errors.map fun m => .finding m.toFinding
          warnings := r.warnings.map fun m => .finding m.toFinding }) ∧
    (∀ key, (r.errors ++ r.warnings).filter (fun m => decide (m.toFinding.key = key)) =
      (all.find? fun m => decide (m.toFinding.key = key)).toList) ∧
    (∀ m, m ∈ r.errors ↔ m ∈ r.errors ++ r.warnings ∧ m.toFinding.severity = .error) ∧
    (∀ m, m ∈ r.warnings ↔ m ∈ r.errors ++ r.warnings ∧ m.toFinding.severity ≠ .error) ∧
    Mark.Ranked r.errors ∧ Mark.Ranked r.warnings ∧
    (r.isValid = true ↔ r.errors = []) ∧
    r.isValid = !(marks found violations).any (·.toFinding.isError) ∧
    r.suggestions = violations.map adviceOn ∧ r.sequence = sequence := by
  intro r all
  have hmem (m : Mark) : m ∈ r.errors ++ r.warnings ↔ m ∈ marks found violations :=
    (merge_perm found violations sequence).mem_iff
  refine ⟨checked_merge found violations sequence, filter_merge found violations sequence, ?_, ?_,
    sortMarks_ranked _, sortMarks_ranked _, List.isEmpty_iff, isValid_merge _ _ _, rfl, rfl⟩
  · intro m
    rw [hmem, mem_errors_merge, Finding.isError, beq_iff_eq]
  · intro m
    rw [hmem, mem_warnings_merge, Finding.isError, beq_eq_false_iff_ne]

end LiveResult

end CampaignCheck

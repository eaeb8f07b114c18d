import CampaignCheck.Proofs.Fix.Settling
import CampaignCheck.Validator.Registry

namespace CampaignCheck

namespace Text

/-- A text is put together again from its lines just if none of them ended in a carriage return. -/
theorem unlines_lines_eq_iff (cs : List Char) :
    unlines (lines cs) = cs ↔ ∀ raw ∈ cut '\n' cs, raw.getLast? ≠ some '\r' := by
  constructor
  · intro h raw hraw
    have hcut : cut '\n' cs = lines cs := by
      rw [← cut_unlines (lines_ne_nil cs) fun l => not_mem_of_mem_lines, h]
    rw [hcut] at hraw
    exact (isLine_of_mem_lines hraw).last
  · intro h
    have hlines : lines cs = cut '\n' cs := by
      rw [lines, List.map_congr_left fun raw hraw => dropReturns_eq_self_iff.mpr (h raw hraw),
        List.map_id']
    rw [hlines, unlines_cut]

end Text

namespace Fix

/-- A step that records no change leaves the lines as they are. -/
theorem step_of_changes_eq_nil {fixers : List (String × Fixer)} {s : Fixed} {f : Finding}
    (h : (step fixers s f).changes = []) : s.changes = [] ∧ (step fixers s f).lines = s.lines := by
  by_cases hout : f.line = 0 ∨ s.lines.length < f.line
  · obtain ⟨hlines, hchanges⟩ := step_outside fixers hout
    exact ⟨hchanges ▸ h, hlines⟩
  · obtain ⟨n, hn⟩ : ∃ n, f.line = n + 1 := ⟨f.line - 1, by omega⟩
    have hlt : n < s.lines.length := by omega
    obtain ⟨hlines, hchanges⟩ := step_at fixers hn (List.getElem?_eq_getElem hlt)
    rw [hchanges] at h
    split_ifs at h with hsame
    refine ⟨h, ?_⟩
    rw [hlines, hsame, List.set_getElem_self hlt]

theorem foldl_step_of_changes_eq_nil {fixers : List (String × Fixer)} {s : Fixed}
    {fs : List Finding} (h : (fs.foldl (step fixers) s).changes = []) :
    s.changes = [] ∧ (fs.foldl (step fixers) s).lines = s.lines := by
  induction fs generalizing s with
  | nil => exact ⟨h, rfl⟩
  | cons f fs ih =>
    obtain ⟨hchanges, hlines⟩ := ih h
    obtain ⟨hbefore, hstep⟩ := step_of_changes_eq_nil hchanges
    exact ⟨hbefore, hlines.trans hstep⟩

/-- Without a change the fixed text has the lines of the source. -/
theorem text_of_changes_eq_nil {fixers : List (String × Fixer)} {code : List Char}
    {fs : List Finding} (h : (run fixers code fs).changes = []) :
    text (run fixers code fs) = Text.unlines (Text.lines code) :=
  congrArg Text.unlines (foldl_step_of_changes_eq_nil h).2

end Fix

namespace FixReport

def changes (r : FixReport) : List FixChange := (r.edit.map (·.changes)).getD []

variable (v : Validator) (code : List Char) (fs : List Finding)

def Tried : Prop := fs ≠ [] ∧ v.supports .fix = true

/-- Fixing rewrites no line, but the source has a line that ends in a carriage return. -/
def OnlyReturns : Prop :=
  (v.applyFixes code fs).changes = [] ∧ ∃ raw ∈ Text.cut '\n' code, raw.getLast? = some '\r'

theorem onlyReturns_iff : OnlyReturns v code fs ↔
    (v.applyFixes code fs).changes = [] ∧ Fix.text (v.applyFixes code fs) ≠ code := by
  refine and_congr_right fun hnone => ?_
  rw [Validator.applyFixes, Fix.text_of_changes_eq_nil hnone, ne_eq, Text.unlines_lines_eq_iff]
  simp

/-- A report shows an edit just where fixing was tried and gives another text than the source. -/
theorem edit_build_eq_some_iff {e : Edit} : (build v code fs).edit = some e ↔
    Tried v fs ∧ Fix.text (v.applyFixes code fs) ≠ code ∧
      e = ⟨Fix.text (v.applyFixes code fs),
        diffOf v.dialect code (Fix.text (v.applyFixes code fs)),
        (v.applyFixes code fs).changes⟩ := by
  unfold build Tried
  by_cases htried : fs ≠ [] ∧ v.supports .fix = true
  · have hguard : (fs.isEmpty || !v.supports .fix) = false := by simpa using htried
    rw [hguard]
    by_cases htext : Fix.text (v.applyFixes code fs) = code
    · simp [htext]
    · simp [htext, htried, eq_comm]
  · have hguard : (fs.isEmpty || !v.supports .fix) = true := by
      simpa [or_iff_not_imp_left] using htried
    simp [hguard, htried]

theorem applied_build_iff : (build v code fs).applied = true ↔
    Tried v fs ∧ Fix.text (v.applyFixes code fs) ≠ code := by
  rw [applied, Option.isSome_iff_exists]
  constructor
  · rintro ⟨e, he⟩
    obtain ⟨htried, htext, -⟩ := (edit_build_eq_some_iff v code fs).mp he
    exact ⟨htried, htext⟩
  · rintro ⟨htried, htext⟩
    exact ⟨_, (edit_build_eq_some_iff v code fs).mpr ⟨htried, htext, rfl⟩⟩

theorem changes_build (h : (build v code fs).applied = true) :
    (build v code fs).changes = (v.applyFixes code fs).changes := by
  obtain ⟨e, he⟩ := Option.isSome_iff_exists.mp h
  rw [changes, he, ((edit_build_eq_some_iff v code fs).mp he).2.2]
  rfl

/-- A report that lists a change says that something was applied, and its fixed text is not the
source; where nothing was applied it shows no text and no difference. The other way round, something
is said to be applied without a change just where fixing rewrites no line but loses the carriage
returns at the ends of lines, and then the text is the source without these. -/
theorem applied_iff_listed :
    ((build v code fs).changes ≠ [] → (build v code fs).applied = true) ∧
    ((build v code fs).applied = true ∧ (build v code fs).changes = [] ↔
      Tried v fs ∧ OnlyReturns v code fs) ∧
    ((build v code fs).applied = false ↔ (build v code fs).edit = none) ∧
    ∀ e, (build v code fs).edit = some e →
      e.code ≠ code ∧ (e.changes = [] → e.code = Text.unlines (Text.lines code)) := by
  refine ⟨fun hlisted => ?_, ?_, by simp [applied], fun e he => ?_⟩
  · cases hedit : (build v code fs).edit with
    | none => exact absurd (by rw [changes, hedit]; rfl) hlisted
    | some e => rw [applied, hedit]; rfl
  · rw [onlyReturns_iff]
    constructor
    · rintro ⟨happlied, hnone⟩
      obtain ⟨htried, htext⟩ := (applied_build_iff v code fs).mp happlied
      exact ⟨htried, changes_build v code fs happlied ▸ hnone, htext⟩
    · rintro ⟨htried, hnone, htext⟩
      have happlied := (applied_build_iff v code fs).mpr ⟨htried, htext⟩
      exact ⟨happlied, (changes_build v code fs happlied).trans hnone⟩
  · obtain ⟨-, htext, rfl⟩ := (edit_build_eq_some_iff v code fs).mp he
    exact ⟨htext, Fix.text_of_changes_eq_nil⟩

theorem applied_iff_listed_doctype :
    let r := build (Validator.of .html) "<p>".toList
      [.note 1 (some 0) "html-doctype" "" .syntactic .warning]
    r.changes = [⟨"html-doctype", "", 1⟩] ∧ r.applied = true ∧
      ∃ e, r.edit = some e ∧ e.code ≠ "<p>".toList := by
  intro r
  have hlisted : r.changes = [⟨"html-doctype", "", 1⟩] := by
    simp only [r, build, Validator.applyFixes, Fix.run, Fix.order, List.mergeSort_singleton]
    decide
  have h := applied_iff_listed (Validator.of .html) "<p>".toList
    [.note 1 (some 0) "html-doctype" "" .syntactic .warning]
  have happlied : r.applied = true := h.1 (hlisted ▸ List.cons_ne_nil _ _)
  obtain ⟨e, he⟩ := Option.isSome_iff_exists.mp happlied
  exact ⟨hlisted, happlied, e, he, (h.2.2.2 e he).1⟩

/-- What was found in this query has no fixer, but its first line ends in a carriage return. -/
theorem applied_without_change :
    let r := build (Validator.of .sql) "SELECT *\r\nFROM Subscribers".toList
      [.report 1 (some 0) "sql-select-star" "Avoid SELECT *; list the columns you need" .performance
        .warning "Specify the needed columns explicitly"]
    r.applied = true ∧ r.changes = [] ∧
      r.edit = some ⟨"SELECT *\nFROM Subscribers".toList, [], []⟩ := by
  simp only [build, Validator.applyFixes, Fix.run, Fix.order, List.mergeSort_singleton]
  decide

end FixReport

end CampaignCheck

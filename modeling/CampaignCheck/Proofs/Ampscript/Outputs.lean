import CampaignCheck.Proofs.Ampscript.Delimiters
import CampaignCheck.Proofs.Ampscript.Templates

namespace CampaignCheck.Ampscript

open Text

/-- An output block starts at the column, and nothing behind its start ends it. -/
structure Unended (line : List Char) (column : Nat) : Prop where
  starts : "%%=".toList <+: line.drop column
  endless : ¬ "=%%".toList <:+: line.drop (column + 3)

/-- An end of an output block is put behind the start at the column: at a place `a`, for a broken
one or for the blanks that end the line. -/
inductive Completes (column : Nat) : List Char → List Char → List Char → Prop
  | replaced {a x b : List Char} (hle : column + 3 ≤ a.length) (hx : IsBrokenEnd a b x) :
      Completes column a (a ++ (x ++ b)) (a ++ ("=%%".toList ++ b))
  | appended {a s : List Char} (hle : column + 3 ≤ a.length) (hs : s.all isBlank = true) :
      Completes column a (a ++ s) (a ++ "=%%".toList)

section Completes

variable {column : Nat} {a line r : List Char}

/-- In both cases the texts agree up to the end that is put there. -/
theorem Completes.split (h : Completes column a line r) : column + 3 ≤ a.length ∧
    ∃ rest rest', line = a ++ rest ∧ r = a ++ ("=%%".toList ++ rest') := by
  cases h with
  | @replaced x b hle => exact ⟨hle, x ++ b, b, rfl, rfl⟩
  | @appended s hle => exact ⟨hle, s, [], rfl, rfl⟩

theorem Completes.take (h : Completes column a line r) :
    r.take (column + 3) = line.take (column + 3) := by
  obtain ⟨hle, rest, rest', rfl, rfl⟩ := h.split
  rw [List.take_append_of_le_length hle, List.take_append_of_le_length hle]

/-- The block ends where the end was put, unless it had one. -/
theorem Completes.find? (h : Completes column a line r)
    (hopen : ¬ "=%%".toList <:+: line.drop (column + 3)) :
    Text.find? "=%%".toList (r.drop (column + 3)) = some (a.length - (column + 3)) := by
  obtain ⟨hle, rest, rest', rfl, rfl⟩ := h.split
  rw [List.drop_append_of_le_length hle] at hopen ⊢
  have hbefore : ¬ "=%%".toList <:+: a.drop (column + 3) :=
    fun hend => hopen (hend.trans (List.prefix_append _ _).isInfix)
  rw [← List.append_assoc, find?_end hbefore, List.length_drop]

theorem Completes.ends (h : Completes column a line r) :
    "=%%".toList <:+: r.drop (column + 3) := by
  obtain ⟨hle, rest, rest', rfl, rfl⟩ := h.split
  rw [List.drop_append_of_le_length hle]
  exact ⟨_, _, List.append_assoc ..⟩

end Completes

theorem fixOutputBlock_completes {line : List Char} {f : Finding} {column : Nat}
    (hf : f.column = some column) (h : "%%=".toList <+: line.drop column) :
    ∃ a r, fixOutputBlock line f = some r ∧ Completes column a line r := by
  have hcases := fixOutputBlock_eq line f
  rw [hf, Option.getD_some] at hcases
  rcases hcases with ⟨hnot, -⟩ | ⟨-, ⟨a, x, b, hsplit, hle, hx, -, hr⟩ | ⟨-, hr⟩⟩
  · exact absurd h hnot
  · refine ⟨a, _, hr, ?_⟩
    rw [hsplit]
    exact .replaced hle hx
  · obtain ⟨s, hsplit, hs⟩ := exists_trimRight line
    have hsign : (line)[column + 2]? = some '=' := by
      obtain ⟨rest, hrest⟩ := h
      rw [← List.getElem?_drop, ← hrest]
      rfl
    refine ⟨trimRight line, _, hr, ?_⟩
    have hcompletes : Completes column (trimRight line) (trimRight line ++ s) _ :=
      .appended (lt_length_dropEndWhile hsign (by decide)) hs
    rwa [← hsplit] at hcompletes

/-- An output block that the scanner reports at its start has no end in its line. -/
theorem unended_of_reported {ls : List (List Char)} {line : List Char} {f : Finding}
    {k column : Nat} (hf : f ∈ (Regions.of ls).issues) (hrule : f.rule = "ampscript-output-syntax")
    (hline : f.line = k + 1) (hk : ls[k]? = some line) (hcolumn : f.column = some column)
    (hstart : "%%=".toList <+: line.drop column) : Unended line column := by
  refine ⟨hstart, fun hend => ?_⟩
  obtain ⟨j, hj, ⟨raw, hraw, hreported⟩ | hunclosed⟩ := cases_of_mem_issues hf
  all_goals obtain rfl : j = k := Nat.succ.inj (hj.symm.trans hline)
  · obtain rfl : raw = line := Option.some.inj (hraw.symm.trans hk)
    cases hreported with
    | delimiter hother =>
      rw [hrule] at hother
      exact absurd hother (by decide)
    | openOutput _ hopen =>
      rw [hcolumn, Option.getD_some] at hopen
      obtain ⟨pre, rest, rfl, rfl, -, hendless⟩ := hopen
      have hdrop : (pre ++ '%' :: '%' :: '=' :: rest).drop (pre.length + 3) = rest := by
        rw [← List.drop_drop, List.drop_left]
        rfl
      exact hendless (hdrop ▸ hend)
    | strayEnd _ hsign =>
      rw [hcolumn, Option.getD_some] at hsign
      obtain ⟨rest, hrest⟩ := hstart
      have hfirst : (raw)[column]? = some '%' := by
        rw [← Nat.add_zero column, ← List.getElem?_drop, ← hrest]
        rfl
      rw [hfirst] at hsign
      exact absurd hsign (by decide)
  · rw [hunclosed.column_eq] at hcolumn
    cases hcolumn

/-- The fixer closes every output block that has no end. The line stays up to and with the start of
the block, the block has the end that was put there for its end, a broken one or the blanks of the
line's end are all that goes; and among whatever lines it stands, no problem with output blocks is
reported of the line at the column. -/
theorem unended_output_closed {line : List Char} {f : Finding} {column : Nat}
    (hf : f.column = some column) (h : Unended line column) :
    ∃ a r, fixOutputBlock line f = some r ∧ Completes column a line r ∧
      r.take (column + 3) = line.take (column + 3) ∧
      Text.find? "=%%".toList (r.drop (column + 3)) = some (a.length - (column + 3)) ∧
      ∀ before after, ∀ g ∈ (Regions.of (before ++ r :: after)).issues,
        g.rule = "ampscript-output-syntax" → g.line = before.length + 1 →
          g.column ≠ some column := by
  obtain ⟨a, r, hr, hcompletes⟩ := fixOutputBlock_completes hf h.starts
  refine ⟨a, r, hr, hcompletes, hcompletes.take, hcompletes.find? h.endless, ?_⟩
  intro before after g hg hrule hline hcolumn
  have hplace : (before ++ r :: after)[before.length]? = some r := by simp
  have hstart : "%%=".toList <+: r.drop column := by
    rw [List.prefix_iff_eq_take, List.take_drop]
    refine (List.prefix_iff_eq_take.mp h.starts).trans ?_
    rw [List.take_drop]
    exact congrArg (List.drop column) hcompletes.take.symm
  exact (unended_of_reported hg hrule hline hplace hcolumn hstart).endless hcompletes.ends

/-- Half an end of an output block is completed. -/
theorem unended_output_closed_half :
    let line := "%%=v(@name)=% and more".toList
    let f := delimiterIssue 1 0 "ampscript-output-syntax"
      "Invalid AMPscript output block: %%= is not closed with =%%" "Close the output block with =%%"
    f.column = some 0 ∧ Unended line 0 ∧
      ∃ a r, fixOutputBlock line f = some r ∧ Completes 0 a line r ∧
        r.take 3 = line.take 3 ∧ ∀ g ∈ (Regions.of [r]).issues,
          g.rule = "ampscript-output-syntax" → g.line = 1 → g.column ≠ some 0 := by
  intro line f
  have hopen : Unended line 0 := ⟨by decide, by decide⟩
  obtain ⟨a, r, hr, hcompletes, htake, -, hquiet⟩ := @unended_output_closed line f 0 rfl hopen
  exact ⟨rfl, hopen, a, r, hr, hcompletes, htake, hquiet [] []⟩

end CampaignCheck.Ampscript

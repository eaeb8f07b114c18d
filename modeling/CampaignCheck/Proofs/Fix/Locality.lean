import CampaignCheck.Fix.Report
import CampaignCheck.Proofs.Sorting
import CampaignCheck.Validator.Basic
import Mathlib.Order.Nat

namespace CampaignCheck.Fix

/-- A line after one of its findings: as the rule's fixer has it, and as it was without a fixer or
where the fixer gives nothing. -/
def rewrite (fixers : List (String × Fixer)) (line : List Char) (f : Finding) : List Char :=
  ((fixers.lookup f.rule).bind fun fixer => fixer line f).getD line

/-- The findings of a line as they take their turns: from right to left, those of one column in the
order given, and only the first of each rule. -/
def turnsOn (fs : List Finding) (number : Nat) : List Finding :=
  firstByKey (·.rule) [] ((fs.filter fun f => decide (f.line = number)).mergeSort fun f g =>
    decide (g.column.getD 0 ≤ f.column.getD 0))

def changeFor (f : Finding) : FixChange :=
  ⟨f.rule, (f.hint.filter (!·.isEmpty)).getD f.message, f.line⟩

/-- One change for each finding that alters the line, in the order made. -/
def changesOn (fixers : List (String × Fixer)) : List Char → List Finding → List FixChange
  | _, [] => []
  | line, f :: fs =>
    let new := rewrite fixers line f
    if new = line then changesOn fixers new fs else changeFor f :: changesOn fixers new fs

section Step

variable (fixers : List (String × Fixer))

/-- A step rewrites the line of its finding, and records the change if it is one. -/
theorem step_at {s : Fixed} {f : Finding} {n : Nat} {line : List Char} (hn : f.line = n + 1)
    (hline : s.lines[n]? = some line) :
    (step fixers s f).lines = s.lines.set n (rewrite fixers line f) ∧
      (step fixers s f).changes =
        if rewrite fixers line f = line then s.changes else changeFor f :: s.changes := by
  have hsub : f.line - 1 = n := by omega
  have hzero : f.line ≠ 0 := by omega
  have hsame : s.lines.set n line = s.lines := by
    obtain ⟨hlt, rfl⟩ := List.getElem?_eq_some_iff.mp hline
    exact List.set_getElem_self hlt
  unfold step rewrite
  cases hl : fixers.lookup f.rule with
  | none =>
    simp only [Option.bind_none, Option.getD_none, hsame, if_true]
    split_ifs <;> exact ⟨rfl, rfl⟩
  | some fixer =>
    simp only [if_neg hzero, hsub, hline, Option.bind_some]
    obtain hnone | ⟨new, hnew⟩ := Option.eq_none_or_eq_some (fixer line f)
    · simp [hnone, hsame]
    · by_cases heq : new = line
      · simp [hnew, heq, hsame]
      · simp [hnew, heq, changeFor]

theorem step_outside {s : Fixed} {f : Finding}
    (h : f.line = 0 ∨ s.lines.length < f.line) :
    (step fixers s f).lines = s.lines ∧ (step fixers s f).changes = s.changes := by
  have hnone (hzero : f.line ≠ 0) : s.lines[f.line - 1]? = none :=
    List.getElem?_eq_none (by omega)
  unfold step
  cases fixers.lookup f.rule with
  | none =>
    simp only
    split_ifs <;> exact ⟨rfl, rfl⟩
  | some fixer =>
    simp only
    split_ifs with hzero
    · exact ⟨rfl, rfl⟩
    · simp [hnone hzero]

theorem step_lines (s : Fixed) (f : Finding) (i : Nat) :
    (step fixers s f).lines[i]? =
      s.lines[i]?.map fun line => if f.line = i + 1 then rewrite fixers line f else line := by
  by_cases hout : f.line = 0 ∨ s.lines.length < f.line
  · rw [(step_outside fixers hout).1]
    by_cases hf : f.line = i + 1
    · have hnone : s.lines[i]? = none := List.getElem?_eq_none (by omega)
      simp [hnone]
    · simp [hf]
  · obtain ⟨n, hn⟩ : ∃ n, f.line = n + 1 := ⟨f.line - 1, by omega⟩
    have hlt : n < s.lines.length := by omega
    rw [(step_at fixers hn (List.getElem?_eq_getElem hlt)).1, List.getElem?_set]
    by_cases hi : n = i
    · subst hi
      simp [hn, hlt]
    · have hf : f.line ≠ i + 1 := by omega
      simp [hi, hf]

theorem length_step (s : Fixed) (f : Finding) :
    (step fixers s f).lines.length = s.lines.length := by
  by_cases hout : f.line = 0 ∨ s.lines.length < f.line
  · rw [(step_outside fixers hout).1]
  · obtain ⟨n, hn⟩ : ∃ n, f.line = n + 1 := ⟨f.line - 1, by omega⟩
    have hlt : n < s.lines.length := by omega
    rw [(step_at fixers hn (List.getElem?_eq_getElem hlt)).1, List.length_set]

theorem step_changes (s : Fixed) (f : Finding) :
    (step fixers s f).changes = s.changes ∨
      (step fixers s f).changes = changeFor f :: s.changes ∧ 1 ≤ f.line ∧
        f.line ≤ s.lines.length := by
  by_cases hout : f.line = 0 ∨ s.lines.length < f.line
  · exact .inl (step_outside fixers hout).2
  · obtain ⟨n, hn⟩ : ∃ n, f.line = n + 1 := ⟨f.line - 1, by omega⟩
    have hlt : n < s.lines.length := by omega
    rw [(step_at fixers hn (List.getElem?_eq_getElem hlt)).2]
    split_ifs
    · exact .inl rfl
    · exact .inr ⟨rfl, by omega, by omega⟩

end Step

section Run

variable (fixers : List (String × Fixer))

theorem length_foldl_step (gs : List Finding) (s : Fixed) :
    (gs.foldl (step fixers) s).lines.length = s.lines.length := by
  induction gs generalizing s with
  | nil => rfl
  | cons f gs ih => rw [List.foldl_cons, ih, length_step]

/-- A run does to a line what the findings of this line do. -/
theorem foldl_step_lines (gs : List Finding) (s : Fixed) (i : Nat) :
    (gs.foldl (step fixers) s).lines[i]? = s.lines[i]?.map fun line =>
      (gs.filter fun f => decide (f.line = i + 1)).foldl (rewrite fixers) line := by
  induction gs generalizing s with
  | nil => simp
  | cons f gs ih =>
    rw [List.foldl_cons, ih, step_lines, Option.map_map]
    refine congrArg (fun g => s.lines[i]?.map g) (funext fun line => ?_)
    by_cases hf : f.line = i + 1
    · simp [hf]
    · simp [hf]

/-- The changes of a line that a run adds, newest first. -/
theorem foldl_step_changes (gs : List Finding) (s : Fixed) {n : Nat} {line : List Char}
    (hline : s.lines[n]? = some line) :
    (gs.foldl (step fixers) s).changes.filter (fun c => decide (c.line = n + 1)) =
      (changesOn fixers line (gs.filter fun f => decide (f.line = n + 1))).reverse ++
        s.changes.filter fun c => decide (c.line = n + 1) := by
  induction gs generalizing s line with
  | nil => simp [changesOn]
  | cons f gs ih =>
    have hnext := step_lines fixers s f n
    rw [hline, Option.map_some] at hnext
    rw [List.foldl_cons, ih _ hnext]
    by_cases hf : f.line = n + 1
    · rw [(step_at fixers hf hline).2]
      by_cases hsame : rewrite fixers line f = line
      · simp [hf, changesOn, hsame]
      · simp [hf, changesOn, hsame, changeFor]
    · have hchanges : (step fixers s f).changes.filter (fun c => decide (c.line = n + 1)) =
          s.changes.filter fun c => decide (c.line = n + 1) := by
        rcases step_changes fixers s f with h | ⟨h, -, -⟩
        · rw [h]
        · rw [h, List.filter_cons_of_neg (by simp [changeFor, hf])]
      simp [hf, hchanges]

theorem line_of_mem_changes (gs : List Finding) (s : Fixed)
    (hs : ∀ c ∈ s.changes, 1 ≤ c.line ∧ c.line ≤ s.lines.length) :
    ∀ c ∈ (gs.foldl (step fixers) s).changes, 1 ≤ c.line ∧ c.line ≤ s.lines.length := by
  induction gs generalizing s with
  | nil => exact hs
  | cons f gs ih =>
    rw [List.foldl_cons, ← length_step fixers s f]
    refine ih _ fun c hc => ?_
    rw [length_step]
    rcases step_changes fixers s f with h | ⟨h, hlow, hhigh⟩
    · exact hs c (h ▸ hc)
    · rw [h, List.mem_cons] at hc
      rcases hc with rfl | hc
      · exact ⟨hlow, hhigh⟩
      · exact hs c hc

/-- Findings taken from the last line to the first leave their changes in the order of lines. -/
theorem changes_sorted (gs : List Finding) (s : Fixed)
    (hgs : gs.Pairwise fun f g => g.line ≤ f.line)
    (hs : s.changes.Pairwise fun c d => c.line ≤ d.line)
    (hbelow : ∀ c ∈ s.changes, ∀ f ∈ gs, f.line ≤ c.line) :
    (gs.foldl (step fixers) s).changes.Pairwise fun c d => c.line ≤ d.line := by
  induction gs generalizing s with
  | nil => exact hs
  | cons f gs ih =>
    obtain ⟨hf, hgs⟩ := List.pairwise_cons.mp hgs
    rw [List.foldl_cons]
    rcases step_changes fixers s f with h | ⟨h, -, -⟩
    · refine ih _ hgs (h ▸ hs) fun c hc g hg => ?_
      exact hbelow c (h ▸ hc) g (List.mem_cons_of_mem f hg)
    · refine ih _ hgs ?_ fun c hc g hg => ?_
      · rw [h]
        exact List.pairwise_cons.mpr ⟨fun c hc => hbelow c hc f List.mem_cons_self, hs⟩
      · rw [h, List.mem_cons] at hc
        rcases hc with rfl | hc
        · exact hf g hg
        · exact hbelow c hc g (List.mem_cons_of_mem f hg)

end Run

/-- The first finding of each rule in a line, whatever other lines hold. -/
theorem filter_firstPerLine (number : Nat) (gs : List Finding) {seen : List (String × Nat)}
    {rules : List String} (hseen : ∀ r, (r, number) ∈ seen ↔ r ∈ rules) :
    (firstPerLine seen gs).filter (fun f => decide (f.line = number)) =
      firstByKey (·.rule) rules (gs.filter fun f => decide (f.line = number)) := by
  induction gs generalizing seen rules with
  | nil => rfl
  | cons f gs ih =>
    rw [firstPerLine]
    by_cases hf : f.line = number
    · rw [List.filter_cons_of_pos (by simpa using hf), firstByKey]
      by_cases hrule : f.rule ∈ rules
      · have hmem : (f.rule, f.line) ∈ seen := by
          rw [hf]
          exact (hseen f.rule).mpr hrule
        simp [hmem, hrule, ih hseen]
      · have hmem : (f.rule, f.line) ∉ seen := by
          rw [hf]
          exact fun h => hrule ((hseen f.rule).mp h)
        have hnext : ∀ r, (r, number) ∈ (f.rule, f.line) :: seen ↔ r ∈ f.rule :: rules := by
          intro r
          simp [hf, hseen r]
        rw [if_neg (by simpa using hmem), if_neg hrule,
          List.filter_cons_of_pos (by simpa using hf), ih hnext]
    · rw [List.filter_cons_of_neg (by simpa using hf)]
      have hnext : ∀ r, (r, number) ∈ (f.rule, f.line) :: seen ↔ r ∈ rules := by
        intro r
        simp [Ne.symm hf, hseen r]
      split_ifs
      · exact ih hseen
      · rw [List.filter_cons_of_neg (by simpa using hf)]
        exact ih hnext

theorem firstPerLine_sublist (seen : List (String × Nat)) (gs : List Finding) :
    (firstPerLine seen gs).Sublist gs := by
  induction gs generalizing seen with
  | nil => exact List.Sublist.refl _
  | cons f gs ih =>
    rw [firstPerLine]
    split_ifs
    · exact (ih seen).cons f
    · exact (ih _).cons_cons f

theorem notBefore_iff (f g : Finding) :
    notBefore f g = true ↔
      g.line < f.line ∨ f.line = g.line ∧ g.column.getD 0 ≤ f.column.getD 0 := by
  simp [notBefore]

theorem notBefore_trans (f g h : Finding) (hfg : notBefore f g = true)
    (hgh : notBefore g h = true) : notBefore f h = true := by
  rw [notBefore_iff] at *
  omega

theorem notBefore_total (f g : Finding) : (notBefore f g || notBefore g f) = true := by
  rw [Bool.or_eq_true, notBefore_iff, notBefore_iff]
  omega

theorem order_sorted (fs : List Finding) :
    (order fs).Pairwise fun f g => notBefore f g = true :=
  List.pairwise_mergeSort notBefore_trans notBefore_total fs

theorem column_trans (f g h : Finding) (hfg : decide (g.column.getD 0 ≤ f.column.getD 0) = true)
    (hgh : decide (h.column.getD 0 ≤ g.column.getD 0) = true) :
    decide (h.column.getD 0 ≤ f.column.getD 0) = true := by
  simp only [decide_eq_true_eq] at *
  omega

theorem column_total (f g : Finding) : (decide (g.column.getD 0 ≤ f.column.getD 0) ||
    decide (f.column.getD 0 ≤ g.column.getD 0)) = true := by
  simp only [Bool.or_eq_true, decide_eq_true_eq]
  omega

/-- The findings of a line, taken out of the order of all findings, are in the order of columns. -/
theorem filter_order (fs : List Finding) (number : Nat) :
    (order fs).filter (fun f => decide (f.line = number)) =
      (fs.filter fun f => decide (f.line = number)).mergeSort fun f g =>
        decide (g.column.getD 0 ≤ f.column.getD 0) := by
  refine eq_of_filter_key (fun f : Finding => OrderDual.toDual (f.column.getD 0)) ?_ ?_ ?_
  · have hline := (order_sorted fs).filter fun f => decide (f.line = number)
    refine hline.imp_of_mem fun {f g} hf hg hfg => ?_
    have hf' := of_decide_eq_true (List.mem_filter.mp hf).2
    have hg' := of_decide_eq_true (List.mem_filter.mp hg).2
    rw [notBefore_iff] at hfg
    rw [OrderDual.toDual_le_toDual]
    omega
  · refine (List.pairwise_mergeSort column_trans column_total _).imp fun {f g} hfg => ?_
    exact of_decide_eq_true hfg
  · intro k
    rw [filter_mergeSort_of_tied column_trans column_total, List.filter_filter, List.filter_filter,
      order, filter_mergeSort_of_tied notBefore_trans notBefore_total]
    · intro f g hf hg
      simp only [Bool.and_eq_true, decide_eq_true_eq] at hf hg
      have hcolumn := hf.1.trans hg.1.symm
      rw [OrderDual.toDual_inj] at hcolumn
      rw [notBefore_iff]
      omega
    · intro f g hf hg
      simp only [decide_eq_true_eq] at hf hg ⊢
      have hcolumn := hf.trans hg.symm
      rw [OrderDual.toDual_inj] at hcolumn
      omega

/-- The findings that the pass takes, seen from one line. -/
theorem filter_firstPerLine_order (fs : List Finding) (number : Nat) :
    (firstPerLine [] (order fs)).filter (fun f => decide (f.line = number)) =
      turnsOn fs number := by
  have hnone : ∀ r, (r, number) ∈ ([] : List (String × Nat)) ↔ r ∈ ([] : List String) := by simp
  rw [filter_firstPerLine number (order fs) hnone, filter_order]
  rfl

theorem of_mem_turnsOn {fs : List Finding} {number : Nat} {f : Finding}
    (h : f ∈ turnsOn fs number) : f ∈ fs ∧ f.line = number := by
  have hsort := List.mem_mergeSort.mp ((firstByKey_sublist _ _ _).subset h)
  simpa using hsort

/-- Leaving out rules without a fixer leaves them out of the turns. -/
theorem turnsOn_filter (fs : List Finding) (number : Nat) (q : String → Bool) :
    turnsOn (fs.filter fun f => q f.rule) number =
      (turnsOn fs number).filter fun f => q f.rule := by
  have hle (f g : Finding) : decide (g.column.getD 0 ≤ f.column.getD 0) = true ↔
      OrderDual.toDual (f.column.getD 0) ≤ OrderDual.toDual (g.column.getD 0) := by
    rw [decide_eq_true_eq, OrderDual.toDual_le_toDual]
  unfold turnsOn
  rw [List.filter_comm, ← filter_mergeSort hle]
  exact firstByKey_filter Finding.rule q (fun _ _ => Iff.rfl) _

section Unfixable

variable {fixers : List (String × Fixer)}

theorem rewrite_of_lookup_none {line : List Char} {f : Finding} (h : fixers.lookup f.rule = none) :
    rewrite fixers line f = line := by
  simp [rewrite, h]

theorem foldl_stays {fs : List Finding} {line : List Char}
    (h : ∀ f ∈ fs, rewrite fixers line f = line) : fs.foldl (rewrite fixers) line = line := by
  induction fs with
  | nil => rfl
  | cons f fs ih =>
    rw [List.foldl_cons, h f List.mem_cons_self]
    exact ih fun g hg => h g (List.mem_cons_of_mem f hg)

theorem foldl_rewrite_fixable (gs : List Finding) (line : List Char) :
    (gs.filter fun f => (fixers.lookup f.rule).isSome).foldl (rewrite fixers) line =
      gs.foldl (rewrite fixers) line := by
  induction gs generalizing line with
  | nil => rfl
  | cons f gs ih =>
    cases hf : fixers.lookup f.rule with
    | none => simp [hf, rewrite_of_lookup_none hf, ih]
    | some fixer => simp [hf, ih]

theorem changesOn_fixable (gs : List Finding) (line : List Char) :
    changesOn fixers line (gs.filter fun f => (fixers.lookup f.rule).isSome) =
      changesOn fixers line gs := by
  induction gs generalizing line with
  | nil => rfl
  | cons f gs ih =>
    cases hf : fixers.lookup f.rule with
    | none => simp [hf, changesOn, rewrite_of_lookup_none hf, ih]
    | some fixer => simp [hf, changesOn, ih]

end Unfixable

/-- The findings of a line that matter: in the source, and of a rule with a fixer. -/
theorem turnsOn_fixable (fixers : List (String × Fixer)) (fs : List Finding) {i size : Nat}
    (hi : i < size) :
    turnsOn (fs.filter fun f => decide (1 ≤ f.line ∧ f.line ≤ size) &&
        (fixers.lookup f.rule).isSome) (i + 1) =
      (turnsOn fs (i + 1)).filter fun f => (fixers.lookup f.rule).isSome := by
  rw [← turnsOn_filter fs (i + 1) fun rule => (fixers.lookup rule).isSome]
  unfold turnsOn
  rw [List.filter_filter, List.filter_filter]
  have hsame : (fs.filter fun f => decide (f.line = i + 1) &&
      (decide (1 ≤ f.line ∧ f.line ≤ size) && (fixers.lookup f.rule).isSome)) =
      fs.filter fun f => decide (f.line = i + 1) && (fixers.lookup f.rule).isSome := by
    refine List.filter_congr fun f _ => ?_
    by_cases hf : f.line = i + 1
    · have hwithin : 1 ≤ f.line ∧ f.line ≤ size := by omega
      simp [hwithin]
    · simp [hf]
  rw [hsame]

/-- What becomes of each line. -/
theorem run_lines (fixers : List (String × Fixer)) (code : List Char) (fs : List Finding)
    (i : Nat) : (run fixers code fs).lines[i]? =
      (Text.lines code)[i]?.map fun line => (turnsOn fs (i + 1)).foldl (rewrite fixers) line := by
  rw [run, foldl_step_lines, filter_firstPerLine_order]

theorem length_run (fixers : List (String × Fixer)) (code : List Char) (fs : List Finding) :
    (run fixers code fs).lines.length = (Text.lines code).length :=
  length_foldl_step fixers _ _

theorem run_changes_sorted (fixers : List (String × Fixer)) (code : List Char)
    (fs : List Finding) : (run fixers code fs).changes.Pairwise fun c d => c.line ≤ d.line := by
  have hlines : (order fs).Pairwise fun f g => g.line ≤ f.line := by
    refine (order_sorted fs).imp fun {f g} h => ?_
    rw [notBefore_iff] at h
    omega
  exact changes_sorted fixers _ _ (hlines.sublist (firstPerLine_sublist _ _)) .nil (by simp)

theorem line_of_mem_run_changes (fixers : List (String × Fixer)) (code : List Char)
    (fs : List Finding) : ∀ c ∈ (run fixers code fs).changes,
      1 ≤ c.line ∧ c.line ≤ (Text.lines code).length :=
  line_of_mem_changes fixers (firstPerLine [] (order fs)) ⟨Text.lines code, [], []⟩ (by simp)

section Places

variable {α β : Type} (key : β → Nat) (g : α × Nat → List β) (hg : ∀ a, ∀ b ∈ g a, key b = a.2)
include hg

theorem sorted_flatMap_zipIdx (as : List α) (start : Nat) :
    ((as.zipIdx start).flatMap g).Pairwise fun b c => key b ≤ key c := by
  rw [List.pairwise_flatMap]
  refine ⟨fun a _ => ?_, ?_⟩
  · refine List.pairwise_of_forall_mem_list fun b hb c hc => ?_
    rw [hg a b hb, hg a c hc]
  · have hsnd : ((as.zipIdx start).map (·.2)).Pairwise (· ≤ ·) := by
      rw [List.zipIdx_map_snd]
      exact List.pairwise_le_range'
    refine (List.pairwise_map.mp hsnd).imp fun {a a'} h b hb c hc => ?_
    rw [hg a b hb, hg a' c hc]
    exact h

theorem filter_flatMap_zipIdx_of_lt (as : List α) {start n : Nat} (h : n < start) :
    ((as.zipIdx start).flatMap g).filter (fun b => decide (key b = n)) = [] := by
  refine List.filter_eq_nil_iff.mpr fun b hb => ?_
  obtain ⟨a, ha, hb⟩ := List.mem_flatMap.mp hb
  have hlow := List.le_snd_of_mem_zipIdx ha
  have hkey := hg a b hb
  simp only [decide_eq_true_eq]
  omega

/-- The elements at one place of a list of lists, each of which holds the elements of its place. -/
theorem filter_flatMap_zipIdx (as : List α) (start n : Nat) :
    ((as.zipIdx start).flatMap g).filter (fun b => decide (key b = start + n)) =
      (as[n]?.map fun a => g (a, start + n)).getD [] := by
  induction as generalizing start n with
  | nil => simp
  | cons a as ih =>
    rw [List.zipIdx_cons, List.flatMap_cons, List.filter_append]
    cases n with
    | zero =>
      have hhead : (g (a, start)).filter (fun b => decide (key b = start + 0)) = g (a, start) :=
        List.filter_eq_self.mpr fun b hb => by simpa using hg _ b hb
      have hlow : start + 0 < start + 1 := Nat.lt_succ_self start
      rw [hhead, filter_flatMap_zipIdx_of_lt key g hg as hlow]
      simp
    | succ n =>
      have hhead : (g (a, start)).filter (fun b => decide (key b = start + (n + 1))) = [] := by
        refine List.filter_eq_nil_iff.mpr fun b hb => ?_
        have hkey := hg (a, start) b hb
        simp only [decide_eq_true_eq]
        omega
      have hshift : start + (n + 1) = start + 1 + n := by omega
      rw [hhead, hshift, ih]
      simp

end Places

theorem line_of_mem_changesOn {fixers : List (String × Fixer)} {line : List Char}
    {gs : List Finding} {number : Nat} (hgs : ∀ f ∈ gs, f.line = number) :
    ∀ c ∈ changesOn fixers line gs, c.line = number := by
  induction gs generalizing line with
  | nil => simp [changesOn]
  | cons f gs ih =>
    have hrest : ∀ c ∈ changesOn fixers (rewrite fixers line f) gs, c.line = number :=
      ih fun g hg => hgs g (List.mem_cons_of_mem f hg)
    intro c hc
    rw [changesOn] at hc
    split_ifs at hc
    · exact hrest c hc
    · rcases List.mem_cons.mp hc with rfl | hc
      · exact hgs f List.mem_cons_self
      · exact hrest c hc

/-- The changes of one line, the last one made first. -/
theorem filter_run_changes (fixers : List (String × Fixer)) (code : List Char) (fs : List Finding)
    (n : Nat) :
    (run fixers code fs).changes.filter (fun c => decide (c.line = n + 1)) =
      ((Text.lines code)[n]?.map fun line =>
        (changesOn fixers line (turnsOn fs (n + 1))).reverse).getD [] := by
  cases hline : (Text.lines code)[n]? with
  | none =>
    have hlen := List.getElem?_eq_none_iff.mp hline
    refine List.filter_eq_nil_iff.mpr fun c hc => ?_
    have hhigh := (line_of_mem_run_changes fixers code fs c hc).2
    simp only [decide_eq_true_eq]
    omega
  | some line =>
    have hchanges := foldl_step_changes fixers (firstPerLine [] (order fs))
      ⟨Text.lines code, [], []⟩ hline
    rw [filter_firstPerLine_order] at hchanges
    rw [run, hchanges]
    simp

/-- The changes of all lines from top to bottom, in each line the last one made first. -/
theorem run_changes (fixers : List (String × Fixer)) (code : List Char) (fs : List Finding) :
    (run fixers code fs).changes = ((Text.lines code).zipIdx 1).flatMap fun l =>
      (changesOn fixers l.1 (turnsOn fs l.2)).reverse := by
  have hkey (l : List Char × Nat) :
      ∀ c ∈ (changesOn fixers l.1 (turnsOn fs l.2)).reverse, c.line = l.2 := by
    intro c hc
    exact line_of_mem_changesOn (fun f hf => (of_mem_turnsOn hf).2) c (List.mem_reverse.mp hc)
  refine eq_of_filter_key (·.line) (run_changes_sorted fixers code fs)
    (sorted_flatMap_zipIdx _ _ hkey _ _) fun number => ?_
  cases number with
  | zero =>
    rw [filter_flatMap_zipIdx_of_lt FixChange.line _ hkey _ Nat.one_pos]
    refine List.filter_eq_nil_iff.mpr fun c hc => ?_
    have hlow := (line_of_mem_run_changes fixers code fs c hc).1
    simp only [decide_eq_true_eq]
    omega
  | succ n =>
    have hlisted := filter_flatMap_zipIdx FixChange.line _ hkey (Text.lines code) 1 n
    rw [Nat.add_comm 1 n] at hlisted
    exact (filter_run_changes fixers code fs n).trans hlisted.symm

/-- Fixing is local to lines. The fixed text has as many lines as the source; each is what the
findings of its own number make of the line at its place, and the changes are those that altered
their line, from top to bottom. So a line without a finding that has a fixer stays, findings outside
the source or without a fixer change nothing, and findings of other lines do not matter. -/
theorem fixes_stay_in_line (v : Validator) (code : List Char) (fs : List Finding) :
    let ls := Text.lines code
    let fixed := v.applyFixes code fs
    text fixed = Text.unlines fixed.lines ∧ fixed.lines.length = ls.length ∧
    (∀ i, fixed.lines[i]? =
      ls[i]?.map fun line => (turnsOn fs (i + 1)).foldl (rewrite v.fixers) line) ∧
    (fixed.changes = (ls.zipIdx 1).flatMap fun l =>
      (changesOn v.fixers l.1 (turnsOn fs l.2)).reverse) ∧
    (fixed.changes.Pairwise fun c d => c.line ≤ d.line) ∧
    (∀ i, (∀ f ∈ fs, f.line = i + 1 → v.fixers.lookup f.rule = none) →
      fixed.lines[i]? = ls[i]?) ∧
    (∀ gs, gs = fs.filter (fun f => decide (1 ≤ f.line ∧ f.line ≤ ls.length) &&
        (v.fixers.lookup f.rule).isSome) →
      (v.applyFixes code gs).lines = fixed.lines ∧
        (v.applyFixes code gs).changes = fixed.changes) ∧
    ∀ i gs, (gs.filter fun f => decide (f.line = i + 1)) =
        (fs.filter fun f => decide (f.line = i + 1)) →
      (v.applyFixes code gs).lines[i]? = fixed.lines[i]? := by
  intro ls fixed
  have hlines := run_lines v.fixers code
  have hchanges := run_changes v.fixers code
  refine ⟨rfl, length_run _ _ _, hlines fs, hchanges fs, run_changes_sorted _ _ _, ?_, ?_, ?_⟩
  · intro i hi
    have hstay (line : List Char) : (turnsOn fs (i + 1)).foldl (rewrite v.fixers) line = line :=
      foldl_stays fun f hf =>
        rewrite_of_lookup_none (hi f (of_mem_turnsOn hf).1 (of_mem_turnsOn hf).2)
    calc fixed.lines[i]? = ls[i]?.map (fun line =>
          (turnsOn fs (i + 1)).foldl (rewrite v.fixers) line) := hlines fs i
      _ = ls[i]? := by simp [hstay]
  · rintro gs rfl
    refine ⟨List.ext_getElem? fun i => ?_, ?_⟩
    · refine (hlines _ i).trans (.trans ?_ (hlines fs i).symm)
      cases hi : (Text.lines code)[i]? with
      | none => rfl
      | some line =>
        have hlt := (List.getElem?_eq_some_iff.mp hi).1
        rw [turnsOn_fixable v.fixers fs hlt]
        simp [foldl_rewrite_fixable]
    · refine (hchanges _).trans (.trans ?_ (hchanges fs).symm)
      refine List.flatMap_congr fun l hl => ?_
      obtain ⟨i, hi, hlt⟩ : ∃ i, l.2 = i + 1 ∧ i < (Text.lines code).length := by
        have hlow := List.le_snd_of_mem_zipIdx hl
        have hhigh := List.snd_lt_add_of_mem_zipIdx hl
        exact ⟨l.2 - 1, by omega, by omega⟩
      rw [hi, turnsOn_fixable v.fixers fs hlt, changesOn_fixable]
  · intro i gs hgs
    refine (hlines gs i).trans (.trans ?_ (hlines fs i).symm)
    unfold turnsOn
    rw [hgs]

end CampaignCheck.Fix

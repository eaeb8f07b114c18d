import CampaignCheck.Proofs.Ampscript.Rounds
import Mathlib.Data.Prod.Lex

namespace CampaignCheck

namespace Fix

/-- Of two findings that could take turns in either order, the one given first comes first. -/
theorem sublist_of_turnsOn {fs : List Finding} {number : Nat} {f g : Finding}
    (h : [f, g].Sublist (turnsOn fs number)) (hcolumn : f.column.getD 0 ≤ g.column.getD 0) :
    [f, g].Sublist fs := by
  have hsub := h.trans (firstByKey_sublist _ _ _)
  have hsorted := (List.pairwise_mergeSort column_trans column_total _).sublist hsub
  have hback : g.column.getD 0 ≤ f.column.getD 0 := by
    simpa using hsorted
  have hsame : g.column.getD 0 = f.column.getD 0 := Nat.le_antisymm hback hcolumn
  -- A stable sort keeps the findings of one column as they stand.
  have htied := filter_mergeSort_of_tied column_trans column_total
    (fun a => decide (a.column.getD 0 = f.column.getD 0)) (fun a b ha hb => by
      simp only [decide_eq_true_eq] at *
      omega) (fs.filter fun a => decide (a.line = number))
  have hpair := hsub.filter fun a => decide (a.column.getD 0 = f.column.getD 0)
  rw [htied] at hpair
  simp only [List.filter_cons, hsame, decide_true, if_true, List.filter_nil] at hpair
  exact hpair.trans (List.filter_sublist.trans List.filter_sublist)

theorem firstPerLine_of_seen {f : Finding} {seen : List (String × Nat)}
    (hf : (f.rule, f.line) ∈ seen) (gs : List Finding) :
    firstPerLine seen (gs.filter fun g => decide (g ≠ f)) = firstPerLine seen gs := by
  induction gs generalizing seen with
  | nil => rfl
  | cons g gs ih =>
    by_cases hg : g = f
    · subst hg
      rw [List.filter_cons_of_neg (by simp), firstPerLine, if_pos (by simpa using hf)]
      exact ih hf
    · rw [List.filter_cons_of_pos (by simpa using hg), firstPerLine, firstPerLine, ih hf,
        ih (List.mem_cons_of_mem _ hf)]

/-- A finding with one of its rule and line in front of it is passed over. -/
theorem firstPerLine_passes_over {f : Finding} {before : List Finding} (hf : f ∉ before)
    (hg : ∃ g ∈ before, g.rule = f.rule ∧ g.line = f.line) (behind : List Finding)
    (seen : List (String × Nat)) :
    firstPerLine seen ((before ++ behind).filter fun g => decide (g ≠ f)) =
      firstPerLine seen (before ++ behind) := by
  induction before generalizing seen with
  | nil => simp at hg
  | cons a before ih =>
    rw [List.mem_cons, not_or] at hf
    rw [List.cons_append, List.filter_cons_of_pos (by simpa using Ne.symm hf.1), firstPerLine,
      firstPerLine]
    by_cases hkey : (a.rule, a.line) = (f.rule, f.line)
    · have hseen : (f.rule, f.line) ∈ (a.rule, a.line) :: seen := by
        rw [hkey]
        exact List.mem_cons_self
      rw [firstPerLine_of_seen hseen]
      split_ifs with hmem
      · refine firstPerLine_of_seen ?_ _
        rw [← hkey]
        simpa using hmem
      · rfl
    · have hrest : ∃ g ∈ before, g.rule = f.rule ∧ g.line = f.line := by
        obtain ⟨g, hmem, hrule, hline⟩ := hg
        rcases List.mem_cons.mp hmem with rfl | hmem
        · exact absurd (Prod.ext hrule hline) hkey
        · exact ⟨g, hmem, hrule, hline⟩
      rw [ih hf.2 hrest, ih hf.2 hrest]

theorem order_filter (fs : List Finding) (p : Finding → Bool) :
    order (fs.filter p) = (order fs).filter p := by
  have hle (f g : Finding) : notBefore f g = true ↔
      OrderDual.toDual (toLex (f.line, f.column.getD 0)) ≤
        OrderDual.toDual (toLex (g.line, g.column.getD 0)) := by
    rw [notBefore_iff, OrderDual.toDual_le_toDual, Prod.Lex.toLex_le_toLex]
    simp only [eq_comm]
  exact (filter_mergeSort hle p fs).symm

/-- A finding that is given once, behind one of its rule and line that is not before it, makes no
difference. -/
theorem run_passes_over (fixers : List (String × Fixer)) (code : List Char)
    {before behind : List Finding} {f g : Finding} (hbefore : f ∉ before) (hbehind : f ∉ behind)
    (hg : g ∈ before) (hrule : g.rule = f.rule) (hline : g.line = f.line)
    (hcolumn : f.column.getD 0 ≤ g.column.getD 0) :
    run fixers code (before ++ f :: behind) =
      run fixers code ((before ++ f :: behind).filter fun a => decide (a ≠ f)) := by
  have hstands : [g, f].Sublist (order (before ++ f :: behind)) := by
    refine List.sublist_mergeSort notBefore_trans notBefore_total ?_ ?_
    · simp [notBefore_iff, hline, hcolumn]
    · exact (List.singleton_sublist.mpr hg).append
        (List.singleton_sublist.mpr List.mem_cons_self)
  have honce : (order (before ++ f :: behind)).count f = 1 := by
    rw [order, (List.mergeSort_perm _ _).count_eq, List.count_append, List.count_cons_self,
      List.count_eq_zero.mpr hbefore, List.count_eq_zero.mpr hbehind]
  obtain ⟨as, bs, hsplit, hga, hfb⟩ := List.cons_sublist_iff.mp hstands
  rw [hsplit, List.count_append] at honce
  have hfb' := List.count_pos_iff.mpr (List.singleton_sublist.mp hfb)
  have hfa : f ∉ as := List.count_eq_zero.mp (by omega)
  rw [run, run, order_filter, hsplit,
    firstPerLine_passes_over hfa ⟨g, hga, hrule, hline⟩]

end Fix

namespace Ampscript

open Text

/-- The finding says that a block is never closed: it is the one on delimiters without a column. -/
def SaysOpen (f : Finding) : Prop := f.rule = "ampscript-delimiters" ∧ f.column = none

theorem Elsewhere.not_saysOpen {f : Finding} (h : Elsewhere f) : ¬ SaysOpen f :=
  fun hopen => h.1 hopen.1

theorem Reported.not_saysOpen {raw : List Char} {f : Finding} (h : Reported raw f) :
    ¬ SaysOpen f := by
  rintro ⟨hrule, hcolumn⟩
  cases h with
  | delimiter _ hplace => exact hplace hcolumn
  | openOutput houtput | strayEnd houtput =>
    rw [houtput] at hrule
    exact absurd hrule (by decide)

/-- The finding on an open block stands behind all on delimiters and before all others. -/
theorem exists_split_of_saysOpen {code : List Char} {f : Finding} (hf : f ∈ grammarFindings code)
    (hopen : SaysOpen f) : ∃ before behind k, grammarFindings code = before ++ f :: behind ∧
      (∀ g ∈ before, ¬ SaysOpen g) ∧ (∀ g ∈ behind, Elsewhere g) ∧ f.line = k + 1 ∧
      Unclosed (lines code) k f := by
  obtain ⟨rest, hsplit, hrest⟩ := grammarFindings_split code
  have hbefore : ∀ g ∈ (regionLines 1 .outside (lines code)).2.2, ¬ SaysOpen g := by
    intro g hg
    obtain ⟨k, raw, -, -, hreported⟩ := reported_of_mem_regionLines g hg
    exact hreported.not_saysOpen
  have hnot {gs : List Finding} (hgs : ∀ g ∈ gs, ¬ SaysOpen g) : f ∉ gs := fun hm => hgs f hm hopen
  have hissue : f ∈ (Regions.of (lines code)).issues := by
    rw [hsplit, List.mem_append] at hf
    exact hf.resolve_right (hnot fun g hg => (hrest g hg).not_saysOpen)
  rcases issues_cases (lines code) with hnone | hclosed | ⟨g, k, hissues, hline, hunclosed⟩
  · rw [hnone] at hissue
    cases hissue
  · rw [hclosed] at hissue
    exact absurd hissue (hnot hbefore)
  · rw [hissues, List.mem_append] at hissue
    obtain rfl : f = g := List.mem_singleton.mp (hissue.resolve_left (hnot hbefore))
    refine ⟨_, rest, k, ?_, hbefore, hrest, hline, hunclosed⟩
    rw [hsplit, hissues, List.append_assoc, List.singleton_append]

theorem rewrite_blank {line : List Char} (hblank : allBlank line = true) {f : Finding}
    (hf : ¬ SaysOpen f) : Fix.rewrite fixers line f = line := by
  have hplain {c : Char} (hc : c ∈ line) : isBlank c = true := List.all_eq_true.mp hblank c hc
  by_cases hdelimiters : f.rule = "ampscript-delimiters"
  · rw [rewrite_delimiters hdelimiters, fixDelimiters]
    cases hcolumn : f.column with
    | none => exact absurd ⟨hdelimiters, hcolumn⟩ hf
    | some column =>
      simp only
      split_ifs with hstarts
      · have hmem := (startsWith_iff.mp hstarts).mem (a := ']') (by decide)
        exact absurd (hplain (List.mem_of_mem_drop hmem)) (by decide)
      · rfl
  · exact rewrite_of_not_mem (fun hmem => absurd (hplain hmem) (by decide)) hdelimiters

theorem doubled_of_not_mem {positions : List Nat} (i : Nat) (prev : Option Char) {cs : List Char}
    (h : AllLone positions i prev cs) (hcs : '=' ∉ cs) : doubled positions i cs = cs := by
  induction cs generalizing i prev with
  | nil => rfl
  | cons c cs ih =>
    rw [List.mem_cons, not_or] at hcs
    rw [doubled_cons_of_ne h (Ne.symm hcs.1), ih (i + 1) (some c) h.of_cons hcs.2]

theorem doubled_append {positions : List Nat} (i : Nat) (prev : Option Char) (cs : List Char)
    {ds : List Char} (h : AllLone positions i prev (cs ++ ds)) (hds : '=' ∉ ds) :
    doubled positions i (cs ++ ds) = doubled positions i cs ++ ds := by
  induction cs generalizing i prev with
  | nil => exact doubled_of_not_mem i prev h hds
  | cons c cs ih =>
    have hrest := ih (i + 1) (some c) h.of_cons
    rw [List.cons_append]
    by_cases hi : i ∈ positions
    · rw [doubled_cons_of_mem hi, doubled_cons_of_mem hi, hrest]
      rfl
    · rw [doubled_cons_of_not_mem hi, doubled_cons_of_not_mem hi, hrest]
      rfl

/-- A line that ends a block still does so after a turn that has nothing to do with delimiters. -/
theorem exists_rewrite_closed {f : Finding} (hf : Elsewhere f) (t : List Char) :
    ∃ u, Fix.rewrite fixers (t ++ " ]%%".toList) f = u ++ " ]%%".toList := by
  by_cases hcomparison : f.rule = "ampscript-comparison"
  · rw [rewrite_comparison hcomparison]
    rcases fixComparison_eq (t ++ " ]%%".toList) f with hnone | ⟨positions, hsome, hlone, -⟩
    · exact ⟨t, by rw [hnone, Option.getD_none]⟩
    · refine ⟨doubled positions 0 t, ?_⟩
      rw [hsome, Option.getD_some, doubled_append 0 none t hlone (by decide)]
  · exact ⟨t, rewrite_other hcomparison hf.1 hf.2⟩

theorem exists_foldl_closed {gs : List Finding} (hgs : ∀ g ∈ gs, Elsewhere g) (t : List Char) :
    ∃ u, gs.foldl (Fix.rewrite fixers) (t ++ " ]%%".toList) = u ++ " ]%%".toList := by
  induction gs generalizing t with
  | nil => exact ⟨t, rfl⟩
  | cons g gs ih =>
    obtain ⟨u, hu⟩ := exists_rewrite_closed (hgs g List.mem_cons_self) t
    rw [List.foldl_cons, hu]
    exact ih (fun g' hg' => hgs g' (List.mem_cons_of_mem g hg')) u

theorem rewrite_saysOpen {f : Finding} (h : SaysOpen f) (line : List Char) :
    Fix.rewrite fixers line f = trimRight line ++ " ]%%".toList := by
  rw [rewrite_delimiters h.1, fixDelimiters, h.2]
  rfl

section Pass

variable {code : List Char} {before behind : List Finding} {f : Finding} {k : Nat}
  (hbefore : ∀ g ∈ before, ¬ SaysOpen g) (hbehind : ∀ g ∈ behind, Elsewhere g)
  (hopen : SaysOpen f)
include hbefore hbehind hopen

/-- Behind the turn of the finding on an open block come findings that have nothing to do with
delimiters. -/
theorem elsewhere_of_turn_behind {as bs : List Finding}
    (hturns : Fix.turnsOn (before ++ f :: behind) (k + 1) = as ++ f :: bs) :
    ∀ g ∈ bs, Elsewhere g := by
  intro g hg
  have hpair : [f, g].Sublist (Fix.turnsOn (before ++ f :: behind) (k + 1)) := by
    rw [hturns]
    exact (List.Sublist.cons_cons f (List.singleton_sublist.mpr hg)).trans
      (List.sublist_append_right as _)
  have hcolumn : f.column.getD 0 ≤ g.column.getD 0 := by
    rw [hopen.2]
    exact Nat.zero_le _
  have hfirst : f ∉ before := fun hm => hbefore f hm hopen
  obtain ⟨r, r', hsplit, hf, hg⟩ := List.cons_sublist_iff.mp (Fix.sublist_of_turnsOn hpair hcolumn)
  rcases List.append_eq_append_iff.mp hsplit with ⟨u, rfl, hu⟩ | ⟨u, rfl, -⟩
  · cases u with
    | nil =>
      rw [List.append_nil] at hf
      exact absurd hf hfirst
    | cons a u =>
      have hbs : behind = u ++ r' := (List.cons.inj hu).2
      refine hbehind g ?_
      rw [hbs]
      exact List.mem_append_right u (List.singleton_sublist.mp hg)
  · exact absurd (List.mem_append_left u hf) hfirst

variable (hline : f.line = k + 1)
include hline

/-- The line of the finding ends the block if no other finding on delimiters shares it. -/
theorem exists_line_closed
    (halone : ∀ g ∈ before ++ f :: behind, g.line = f.line → g.rule = f.rule → g = f)
    (raw : List Char) : ∃ t, (Fix.turnsOn (before ++ f :: behind) (k + 1)).foldl
      (Fix.rewrite fixers) raw = t ++ " ]%%".toList := by
  have hf : f ∈ before ++ f :: behind := List.mem_append_right _ List.mem_cons_self
  obtain ⟨g, hg, hrule⟩ := Fix.exists_mem_turnsOn hf
  obtain ⟨hmem, hplace⟩ := Fix.of_mem_turnsOn hg
  obtain rfl : g = f := halone g hmem hplace hrule
  rw [hline] at hg
  obtain ⟨as, bs, hturns⟩ := List.append_of_mem hg
  rw [hturns, List.foldl_append, List.foldl_cons, rewrite_saysOpen hopen]
  exact exists_foldl_closed (elsewhere_of_turn_behind hbefore hbehind hopen hturns) _

theorem line_stays_blank {j : Nat} {raw : List Char} (hblank : allBlank raw = true) (hj : j ≠ k) :
    (Fix.turnsOn (before ++ f :: behind) (j + 1)).foldl (Fix.rewrite fixers) raw = raw := by
  refine Fix.foldl_stays fun g hg => rewrite_blank hblank fun hagain => ?_
  obtain ⟨hmem, hplace⟩ := Fix.of_mem_turnsOn hg
  rcases List.mem_append.mp hmem with hmem | hmem
  · exact hbefore g hmem hagain
  · rcases List.mem_cons.mp hmem with rfl | hmem
    · exact hj (Nat.succ.inj (hplace.symm.trans hline))
    · exact (hbehind g hmem).not_saysOpen hagain

end Pass

theorem not_saysOpen_of_not_endsOpen {code : List Char} (h : endsOpen (lines code) = false) :
    ∀ g ∈ grammarFindings code, ¬ SaysOpen g := by
  intro g hg hopen
  obtain ⟨_, _, _, -, -, -, -, hunclosed⟩ := exists_split_of_saysOpen hg hopen
  rw [hunclosed.endsOpen] at h
  cases h

theorem lastNonblank_lt (number default : Nat) (ls : List (List Char)) :
    lastNonblank number default ls = default ∨
      lastNonblank number default ls < number + ls.length := by
  induction ls generalizing number default with
  | nil => exact .inl rfl
  | cons l ls ih =>
    rw [lastNonblank, List.length_cons]
    split_ifs with hblank
    · exact (ih (number + 1) default).imp_right fun h => by omega
    · rcases ih (number + 1) number with h | h <;> right <;> omega

theorem lt_length_of_unclosed {code : List Char} {k : Nat} {f : Finding}
    (h : Unclosed (lines code) k f) : k < (lines code).length := by
  have hpos := List.length_pos_iff.mpr (lines_ne_nil code)
  have hlast := lastNonblank_lt 1 1 (lines code)
  rw [h.last] at hlast
  omega

/-- A block that is left open is closed by a pass of the fixes exactly for want of a rival. If no
other finding on delimiters is on the line of the finding on the open block, none is open in the
fixed text; and if there is one, the pass is that of the other findings. -/
theorem open_block_closed_or_passed_over {code : List Char} {f : Finding}
    (hf : f ∈ grammarFindings code) (hopen : SaysOpen f) :
    let found := grammarFindings code
    let others := found.filter fun g => decide (g ≠ f)
    ((∀ g ∈ others, g.line = f.line → g.rule ≠ f.rule) →
      ∀ g ∈ grammarFindings (Fix.text (Fix.run fixers code found)), ¬ SaysOpen g) ∧
    ((∃ g ∈ others, g.line = f.line ∧ g.rule = f.rule) →
      Fix.run fixers code found = Fix.run fixers code others) := by
  intro found others
  obtain ⟨before, behind, k, hsplit, hbefore, hbehind, hline, hunclosed⟩ :=
    exists_split_of_saysOpen hf hopen
  have hfound : found = before ++ f :: behind := hsplit
  have hothers {g : Finding} (hg : g ∈ found) (hne : g ≠ f) : g ∈ others :=
    List.mem_filter.mpr ⟨hg, decide_eq_true hne⟩
  refine ⟨fun hrivals => not_saysOpen_of_not_endsOpen ?_, ?_⟩
  · have halone : ∀ g ∈ before ++ f :: behind, g.line = f.line → g.rule = f.rule → g = f := by
      intro g hg hplace hrule
      by_contra hne
      exact hrivals g (hothers (hfound ▸ hg) hne) hplace hrule
    rw [lines_run]
    obtain ⟨raw, hraw⟩ : ∃ raw, (lines code)[k]? = some raw := by
      exact ⟨_, List.getElem?_eq_getElem (lt_length_of_unclosed hunclosed)⟩
    obtain ⟨t, ht⟩ := exists_line_closed hbefore hbehind hopen hline halone raw
    refine isBlock_regionLines_of_close (k := k) (t := t) ?_ fun j l hl hj => ?_
    · rw [Fix.run_lines, hraw, Option.map_some, hfound, ht]
    · rw [Fix.run_lines] at hl
      obtain ⟨line, hline', rfl⟩ := Option.map_eq_some_iff.mp hl
      have hblank := hunclosed.blank hline' hj
      rw [hfound, line_stays_blank hbefore hbehind hopen hline hblank (Nat.ne_of_gt hj)]
      exact hblank
  · rintro ⟨g, hg, hplace, hrule⟩
    obtain ⟨hmem, hne⟩ := List.mem_filter.mp hg
    have hfirst : g ∈ before := by
      rw [hfound, List.mem_append, List.mem_cons] at hmem
      rcases hmem with hmem | rfl | hmem
      · exact hmem
      · exact absurd rfl (of_decide_eq_true hne)
      · exact absurd (hrule.trans hopen.1) (hbehind g hmem).1
    have hcolumn : f.column.getD 0 ≤ g.column.getD 0 := by
      rw [hopen.2]
      exact Nat.zero_le _
    have honce : f ∉ before ∧ f ∉ behind :=
      ⟨fun hm => hbefore f hm hopen, fun hm => (hbehind f hm).not_saysOpen hopen⟩
    have hsame := Fix.run_passes_over fixers code honce.1 honce.2 hfirst hrule hplace hcolumn
    rw [← hfound] at hsame
    exact hsame

/-- The finding on a block that is opened on the first line and never closed. -/
def leftOpen (last : Nat) : Finding :=
  .report last none "ampscript-delimiters"
    "Processing block opened on line 1 is never closed with ]%%" .syntactic .error
    "Add ]%% at the end"

theorem open_block_closed_single :
    let code := "%%[\nSET @name = 'x'".toList
    let fixed := Fix.text (Fix.run fixers code (grammarFindings code))
    leftOpen 2 ∈ grammarFindings code ∧ SaysOpen (leftOpen 2) ∧
      fixed = "%%[\nSET @name = 'x' ]%%".toList ∧ ∀ g ∈ grammarFindings fixed, ¬ SaysOpen g := by
  intro code fixed
  have hfound : grammarFindings code = [leftOpen 2] := by decide +kernel
  have hf : leftOpen 2 ∈ grammarFindings code := hfound ▸ List.mem_singleton_self _
  have hclosed := (open_block_closed_or_passed_over hf ⟨rfl, rfl⟩).1
  rw [hfound] at hclosed
  refine ⟨hf, ⟨rfl, rfl⟩, by decide +kernel, ?_⟩
  have hfixed : fixed = Fix.text (Fix.run fixers code [leftOpen 2]) := by rw [← hfound]
  rw [hfixed]
  exact hclosed (by decide)

/-- A nested start of a block takes the turn of the finding on the block that is left open. -/
theorem open_block_passed_over_nested :
    let code := "%%[ SET @a = 1 %%[ SET @b = 2".toList
    let fixed := Fix.text (Fix.run fixers code (grammarFindings code))
    (∃ f ∈ grammarFindings code, SaysOpen f) ∧ fixed = code ∧
      ∃ g ∈ grammarFindings fixed, SaysOpen g := by
  intro code fixed
  have hfound : grammarFindings code = [delimiterIssue 1 15 "ampscript-delimiters"
      "Nested %%[ inside a processing block opened on line 1"
      "Close the previous block with ]%% before opening a new one", leftOpen 1] := by
    decide +kernel
  have hopen : ∃ f ∈ grammarFindings code, SaysOpen f :=
    ⟨leftOpen 1, by simp [hfound], rfl, rfl⟩
  have hfixed : fixed = code := by
    have horder : Fix.order (grammarFindings code) = grammarFindings code := by
      rw [Fix.order, hfound]
      exact List.mergeSort_of_pairwise (by decide)
    change Fix.text (Fix.run fixers code (grammarFindings code)) = code
    rw [Fix.run, horder, hfound]
    decide +kernel
  refine ⟨hopen, hfixed, ?_⟩
  rw [hfixed]
  exact hopen

end Ampscript

end CampaignCheck

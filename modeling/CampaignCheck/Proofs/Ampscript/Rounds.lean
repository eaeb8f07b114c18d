import CampaignCheck.Proofs.Ampscript.Delimiters
import CampaignCheck.Proofs.Ampscript.Repairs
import Mathlib.Algebra.BigOperators.Ring.List
import Mathlib.Algebra.Order.Ring.Nat
import Mathlib.Algebra.Order.BigOperators.Group.List

namespace CampaignCheck.Ampscript

open Text

/-- How many characters of a text are no blanks. -/
def inked (cs : List Char) : Nat := cs.countP fun c => !isBlank c

@[simp] theorem inked_append (cs ds : List Char) : inked (cs ++ ds) = inked cs + inked ds :=
  List.countP_append

theorem inked_cons (c : Char) (cs : List Char) : inked (c :: cs) = inked [c] + inked cs :=
  inked_append [c] cs

theorem inked_singleton_le (c : Char) : inked [c] ≤ 1 := List.countP_le_length

theorem inked_blank {s : List Char} (h : s.all isBlank = true) : inked s = 0 := by
  rw [inked, List.countP_eq_zero]
  intro c hc
  rw [List.all_eq_true.mp h c hc]
  decide

theorem inked_trimRight (line : List Char) : inked (trimRight line) = inked line := by
  obtain ⟨s, hsplit, hs⟩ := exists_trimRight line
  conv_rhs => rw [hsplit, inked_append, inked_blank hs, Nat.add_zero]

theorem inked_doubled (positions : List Nat) (i : Nat) (cs : List Char) :
    doubled positions i cs = cs ∨ inked cs < inked (doubled positions i cs) := by
  induction cs generalizing i with
  | nil => exact .inl rfl
  | cons c cs ih =>
    have hle : inked cs ≤ inked (doubled positions (i + 1) cs) := by
      rcases ih (i + 1) with hsame | hmore
      · rw [hsame]
      · exact Nat.le_of_lt hmore
    by_cases hmem : i ∈ positions
    · have hone := inked_singleton_le c
      have hsign : inked ['='] = 1 := rfl
      rw [doubled_cons_of_mem hmem, inked_cons c cs, inked_cons '=', inked_cons '=' (doubled _ _ _),
        hsign]
      exact .inr (by omega)
    · rw [doubled_cons_of_not_mem hmem]
      rcases ih (i + 1) with hsame | hmore
      · exact .inl (by rw [hsame])
      · rw [inked_cons c cs, inked_cons c (doubled _ _ _)]
        exact .inr (Nat.add_lt_add_left hmore _)

/-- Every change of a fixer leaves ink. -/
theorem inked_rewrite (line : List Char) (f : Finding) :
    Fix.rewrite fixers line f = line ∨ inked line < inked (Fix.rewrite fixers line f) := by
  by_cases hcomparison : f.rule = "ampscript-comparison"
  · rw [rewrite_comparison hcomparison]
    rcases fixComparison_eq line f with hnone | ⟨positions, hsome, -, -⟩
    · exact .inl (by rw [hnone, Option.getD_none])
    · rw [hsome, Option.getD_some]
      exact inked_doubled positions 0 line
  by_cases hdelimiters : f.rule = "ampscript-delimiters"
  · rw [rewrite_delimiters hdelimiters]
    rcases fixDelimiters_cases line f with hstays | ⟨-, hclose⟩ | ⟨-, hput⟩
    · exact .inl hstays
    · rw [hclose, inked_append, inked_trimRight]
      exact .inr (Nat.lt_add_of_pos_right (by decide))
    · rw [hput, inked_append]
      exact .inr (Nat.lt_add_of_pos_left (by decide))
  by_cases houtput : f.rule = "ampscript-output-syntax"
  · rw [rewrite_output houtput]
    rcases fixOutputBlock_eq line f with
      ⟨-, hnone⟩ | ⟨-, ⟨a, x, b, hsplit, -, hx, -, hsome⟩ | ⟨-, hsome⟩⟩
    · exact .inl (by rw [hnone, Option.getD_none])
    · have htwo : inked x = 2 := by cases hx <;> rfl
      have hthree : inked "=%%".toList = 3 := rfl
      rw [hsome, Option.getD_some, hsplit]
      simp only [inked_append, htwo, hthree]
      exact .inr (by omega)
    · rw [hsome, Option.getD_some, inked_append, inked_trimRight]
      exact .inr (Nat.lt_add_of_pos_right (by decide))
  · exact .inl (rewrite_other hcomparison hdelimiters houtput)

/-- A line that is changed at all is not the same in the end. -/
theorem inked_foldl (gs : List Finding) (line : List Char) :
    Fix.changesOn fixers line gs = [] ∨
      inked line < inked (gs.foldl (Fix.rewrite fixers) line) := by
  have hle (gs : List Finding) (line : List Char) :
      inked line ≤ inked (gs.foldl (Fix.rewrite fixers) line) := by
    induction gs generalizing line with
    | nil => exact Nat.le_refl _
    | cons f gs ih =>
      refine Nat.le_trans ?_ (ih _)
      rcases inked_rewrite line f with hsame | hmore
      · rw [hsame]
      · exact Nat.le_of_lt hmore
  induction gs generalizing line with
  | nil => exact .inl rfl
  | cons f gs ih =>
    rw [List.foldl_cons, Fix.changesOn]
    by_cases hsame : Fix.rewrite fixers line f = line
    · rw [if_pos hsame, hsame]
      exact ih line
    · exact .inr (Nat.lt_of_lt_of_le ((inked_rewrite line f).resolve_left hsame) (hle gs _))

/-- The change puts the start of a block in front of its line. -/
def opensBlock (c : FixChange) : Bool :=
  c.rule == "ampscript-delimiters" && c.message != "Add ]%% at the end"

section Turns

variable {ls : List (List Char)} {k : Nat} {raw : List Char}

/-- What becomes of a line while its findings take their turns, as long as no block is opened;
the findings given are still to come. -/
inductive Stage (ls : List (List Char)) (k : Nat) (raw : List Char) (gs : List Finding) :
    List Char → Prop
  | same : Stage ls k raw gs raw
  | lighter {line : List Char} (h : weight line < weight raw) : Stage ls k raw gs line
  | closed {f : Finding} (hunclosed : Unclosed ls k f)
      (hgs : ∀ g ∈ gs, g.rule ≠ "ampscript-delimiters") :
      Stage ls k raw gs (trimRight raw ++ " ]%%".toList)

/-- Findings that point to no open output block, and to no end of one, do not make a line heavier or
change it otherwise. -/
theorem rewrite_elsewhere {f : Finding} (h : Elsewhere f) (line : List Char) :
    Fix.rewrite fixers line f = line ∨ weight (Fix.rewrite fixers line f) < weight line := by
  by_cases hcomparison : f.rule = "ampscript-comparison"
  · by_cases hsame : Fix.rewrite fixers line f = line
    · exact .inl hsame
    · exact .inr (weight_comparison_lt hcomparison hsame)
  · exact .inl (rewrite_other hcomparison h.1 h.2)

theorem rewrite_strayEnd {f : Finding} {line : List Char}
    (hrule : f.rule = "ampscript-output-syntax") (h : (line)[f.column.getD 0]? = some '=') :
    Fix.rewrite fixers line f = line := by
  refine rewrite_output_of_not_start hrule ?_
  rintro ⟨rest, hrest⟩
  have hhead : (line.drop (f.column.getD 0))[0]? = some '%' := by rw [← hrest]; rfl
  rw [List.getElem?_drop, Nat.add_zero, h] at hhead
  exact absurd hhead (by decide)

theorem getElem?_close {line : List Char} {i : Nat} {c : Char} (h : (line)[i]? = some c)
    (hc : isBlank c = false) : (trimRight line ++ " ]%%".toList)[i]? = some c := by
  have hlt : i < (trimRight line).length := lt_length_dropEndWhile h hc
  obtain ⟨s, hsplit, -⟩ := exists_trimRight line
  rw [hsplit, List.getElem?_append_left hlt] at h
  rw [List.getElem?_append_left hlt, h]

/-- A turn of a finding takes the line on, unless it opens a block. -/
theorem Stage.next {f : Finding} {gs : List Finding} {line : List Char}
    (h : Stage ls k raw (f :: gs) line)
    (hf : Elsewhere f ∨ Reported raw f ∨ Unclosed ls k f)
    (hopens : Fix.rewrite fixers line f ≠ line → opensBlock (Fix.changeFor f) = false)
    (hrule : ∀ g ∈ gs, g.rule ≠ f.rule) :
    Stage ls k raw gs (Fix.rewrite fixers line f) := by
  cases h with
  | lighter hlighter => exact .lighter (Nat.lt_of_le_of_lt (weight_rewrite_le _ f) hlighter)
  | same =>
    rcases hf with helse | hreported | hunclosed
    · rcases rewrite_elsewhere helse raw with hsame | hlighter
      · rw [hsame]
        exact .same
      · exact .lighter hlighter
    · cases hreported with
      | delimiter hdelimiter hcolumn hmessage =>
        have hsame : Fix.rewrite fixers raw f = raw := by
          by_contra hne
          have hopened : opensBlock (Fix.changeFor f) = true := by
            rw [opensBlock, Bool.and_eq_true, beq_iff_eq, bne_iff_ne]
            exact ⟨hdelimiter, hmessage⟩
          rw [hopens hne] at hopened
          cases hopened
        rw [hsame]
        exact .same
      | openOutput houtput hopen => exact .lighter (weight_output_lt houtput hopen)
      | strayEnd houtput hsign =>
        rw [rewrite_strayEnd houtput hsign]
        exact .same
    · rw [rewrite_delimiters hunclosed.rule_eq]
      rcases fixDelimiters_cases raw f with hstays | ⟨-, hclose⟩ | ⟨hcolumn, -⟩
      · rw [hstays]
        exact .same
      · rw [hclose]
        exact .closed hunclosed fun g hg => hunclosed.rule_eq ▸ hrule g hg
      · exact absurd hunclosed.column_eq hcolumn
  | closed hunclosed hgs =>
    have hrest : ∀ g ∈ gs, g.rule ≠ "ampscript-delimiters" :=
      fun g hg => hgs g (List.mem_cons_of_mem f hg)
    have hle := weight_trimRight_close raw
    rcases hf with helse | hreported | hagain
    · rcases rewrite_elsewhere helse (trimRight raw ++ " ]%%".toList) with hsame | hlighter
      · rw [hsame]
        exact .closed hunclosed hrest
      · exact .lighter (Nat.lt_of_lt_of_le hlighter hle)
    · cases hreported with
      | delimiter hdelimiter => exact absurd hdelimiter (hgs f List.mem_cons_self)
      | openOutput houtput hopen =>
        obtain ⟨s, hsplit, hs⟩ := exists_trimRight raw
        rw [hsplit] at hopen
        exact .lighter (Nat.lt_of_lt_of_le (weight_output_lt houtput (hopen.close hs)) hle)
      | strayEnd houtput hsign =>
        rw [rewrite_strayEnd houtput (getElem?_close hsign (by decide))]
        exact .closed hunclosed hrest
    · exact absurd hagain.rule_eq (hgs f List.mem_cons_self)

theorem Stage.foldl {gs : List Finding} {line : List Char} (h : Stage ls k raw gs line)
    (hgs : ∀ f ∈ gs, Elsewhere f ∨ Reported raw f ∨ Unclosed ls k f)
    (hopens : ∀ c ∈ Fix.changesOn fixers line gs, opensBlock c = false)
    (hrules : (gs.map (·.rule)).Nodup) :
    Stage ls k raw [] (gs.foldl (Fix.rewrite fixers) line) := by
  induction gs generalizing line with
  | nil => exact h
  | cons f gs ih =>
    rw [List.map_cons, List.nodup_cons] at hrules
    rw [Fix.changesOn] at hopens
    rw [List.foldl_cons]
    refine ih (h.next (hgs f List.mem_cons_self) (fun hne => ?_) fun g hg heq => ?_)
      (fun g hg => hgs g (List.mem_cons_of_mem f hg)) (fun c hc => ?_) hrules.2
    · rw [if_neg hne] at hopens
      exact hopens _ List.mem_cons_self
    · exact hrules.1 (List.mem_map.mpr ⟨g, hg, heq⟩)
    · by_cases hsame : Fix.rewrite fixers line f = line
      · rw [if_pos hsame] at hopens
        exact hopens c hc
      · rw [if_neg hsame] at hopens
        exact hopens c (List.mem_cons_of_mem _ hc)

end Turns

/-- The weight of a text: twice that of its lines, and one for a block that is open in the end. -/
def burden (ls : List (List Char)) : Nat := 2 * (ls.map weight).sum + (endsOpen ls).toNat

/-- The lines after a round of fixes for what is found in the text. -/
def fixedLines (code : List Char) : List (List Char) := (Fix.run fixers code (checks code)).lines

def fixedLine (code : List Char) (l : List Char × Nat) : List Char :=
  (Fix.turnsOn (checks code) l.2).foldl (Fix.rewrite fixers) l.1

theorem mem_zipIdx_lines {code raw : List Char} {k : Nat} (hraw : (lines code)[k]? = some raw) :
    (raw, k + 1) ∈ (lines code).zipIdx 1 := by
  refine List.mem_of_getElem? (i := k) ?_
  rw [List.getElem?_zipIdx, hraw, Option.map_some, Nat.add_comm]

theorem fixedLines_eq (code : List Char) :
    fixedLines code = ((lines code).zipIdx 1).map (fixedLine code) := by
  refine List.ext_getElem? fun i => ?_
  rw [fixedLines, Fix.run_lines, List.getElem?_map, List.getElem?_zipIdx, Option.map_map,
    Nat.add_comm 1 i]
  rfl

theorem weight_fixedLine_le (code : List Char) (l : List Char × Nat) :
    weight (fixedLine code l) ≤ weight l.1 := by
  rw [fixedLine]
  generalize Fix.turnsOn (checks code) l.2 = gs
  generalize l.1 = line
  induction gs generalizing line with
  | nil => exact Nat.le_refl _
  | cons f gs ih => exact Nat.le_trans (ih _) (weight_rewrite_le line f)

theorem sum_weight_lines (code : List Char) :
    ((lines code).map weight).sum = (((lines code).zipIdx 1).map fun l => weight l.1).sum := by
  conv_lhs => rw [← List.zipIdx_map_fst 1 (lines code), List.map_map]
  rfl

theorem sum_weight_fixedLines_le (code : List Char) :
    ((fixedLines code).map weight).sum ≤ ((lines code).map weight).sum := by
  rw [fixedLines_eq, List.map_map, sum_weight_lines]
  exact List.sum_le_sum fun l _ => weight_fixedLine_le code l

/-- No round adds more to the burden than an open block. -/
theorem burden_fixedLines_le (code : List Char) :
    burden (fixedLines code) ≤ burden (lines code) + 1 := by
  have hsum := sum_weight_fixedLines_le code
  have hone := Bool.toNat_le (endsOpen (fixedLines code))
  rw [burden, burden]
  omega

/-- Some change of the round puts the start of a block in front of a line. -/
def roundOpens (code : List Char) : Bool :=
  (Fix.run fixers code (checks code)).changes.any opensBlock

theorem fixedLine_stage {code raw : List Char} {k : Nat} (hopens : roundOpens code = false)
    (hraw : (lines code)[k]? = some raw) :
    Stage (lines code) k raw [] (fixedLine code (raw, k + 1)) := by
  refine Stage.same.foldl (fun f hf => ?_) (fun c hc => ?_) (nodup_map_firstByKey _ _ _)
  · obtain ⟨hmem, hline⟩ := Fix.of_mem_turnsOn hf
    exact cases_of_mem_checks hraw hmem hline
  · rw [roundOpens, List.any_eq_false] at hopens
    refine Bool.not_eq_true _ ▸ hopens c ?_
    rw [Fix.run_changes, List.mem_flatMap]
    exact ⟨(raw, k + 1), mem_zipIdx_lines hraw, List.mem_reverse.mpr hc⟩

theorem fixedLines_getElem? {code raw : List Char} {k : Nat} (hraw : (lines code)[k]? = some raw) :
    (fixedLines code)[k]? = some (fixedLine code (raw, k + 1)) := by
  rw [fixedLines, Fix.run_lines, hraw, Option.map_some]
  rfl

theorem exists_of_fixedLines_getElem? {code line : List Char} {k : Nat}
    (h : (fixedLines code)[k]? = some line) :
    ∃ raw, (lines code)[k]? = some raw ∧ fixedLine code (raw, k + 1) = line := by
  rw [fixedLines, Fix.run_lines] at h
  exact Option.map_eq_some_iff.mp h

theorem exists_fixedLine_ne {code : List Char} (h : fixedLines code ≠ lines code) :
    ∃ k raw, (lines code)[k]? = some raw ∧ fixedLine code (raw, k + 1) ≠ raw := by
  by_contra hall
  simp only [not_exists, not_and, not_not] at hall
  refine h (List.ext_getElem? fun k => ?_)
  cases hraw : (lines code)[k]? with
  | none => rw [fixedLines, Fix.run_lines, hraw, Option.map_none]
  | some raw => rw [fixedLines_getElem? hraw, hall k raw hraw]

/-- If no line gets lighter and no block is opened, a line stays, or it is closed. -/
theorem fixedLine_stays_or_closes {code raw : List Char} {k : Nat}
    (hopens : roundOpens code = false)
    (hsame : ((fixedLines code).map weight).sum = ((lines code).map weight).sum)
    (hraw : (lines code)[k]? = some raw) :
    fixedLine code (raw, k + 1) = raw ∨ ∃ f, Unclosed (lines code) k f ∧
      fixedLine code (raw, k + 1) = trimRight raw ++ " ]%%".toList := by
  have hweight : ¬ weight (fixedLine code (raw, k + 1)) < weight raw := by
    intro hlt
    refine absurd hsame (Nat.ne_of_lt ?_)
    rw [fixedLines_eq, List.map_map, sum_weight_lines]
    exact List.sum_lt_sum _ _ (fun l _ => weight_fixedLine_le code l)
      ⟨_, mem_zipIdx_lines hraw, hlt⟩
  have hstage := fixedLine_stage hopens hraw
  generalize fixedLine code (raw, k + 1) = line at hweight hstage
  cases hstage with
  | same => exact .inl rfl
  | lighter hlt => exact absurd hlt hweight
  | closed hunclosed => exact .inr ⟨_, hunclosed, rfl⟩

/-- A round that opens no block takes from the burden, or it changes nothing. -/
theorem burden_fixedLines_lt {code : List Char} (hopens : roundOpens code = false)
    (hne : fixedLines code ≠ lines code) : burden (fixedLines code) < burden (lines code) := by
  have hsum := sum_weight_fixedLines_le code
  rcases Nat.lt_or_eq_of_le hsum with hlighter | hsame
  · have hone := Bool.toNat_le (endsOpen (fixedLines code))
    rw [burden, burden]
    omega
  -- The only line that changes is the last one that is not blank, and it closes the block.
  obtain ⟨k, raw, hraw, hchanged⟩ := exists_fixedLine_ne hne
  obtain ⟨f, hunclosed, hclosed⟩ :=
    (fixedLine_stays_or_closes hopens hsame hraw).resolve_left hchanged
  have hblank (j : Nat) (line : List Char) (hline : (fixedLines code)[j]? = some line)
      (hj : k < j) : allBlank line = true := by
    obtain ⟨l, hl, rfl⟩ := exists_of_fixedLines_getElem? hline
    rcases fixedLine_stays_or_closes hopens hsame hl with hstays | ⟨g, hagain, -⟩
    · rw [hstays]
      exact hunclosed.blank hl hj
    · have hplace := hagain.last.symm.trans hunclosed.last
      omega
  have hshut : endsOpen (fixedLines code) = false := by
    refine isBlock_regionLines_of_close (k := k) (t := trimRight raw) ?_ hblank
    rw [fixedLines_getElem? hraw, hclosed]
  rw [burden, burden, hsame, hshut, hunclosed.endsOpen]
  exact Nat.lt_succ_self _

/-- A round that opens a block changes some line for good. -/
theorem fixedLines_ne {code : List Char} (hopens : roundOpens code = true) :
    fixedLines code ≠ lines code := by
  intro hsame
  rw [roundOpens, List.any_eq_true] at hopens
  obtain ⟨c, hc, -⟩ := hopens
  rw [Fix.run_changes, List.mem_flatMap] at hc
  obtain ⟨⟨raw, number⟩, hmem, hc⟩ := hc
  have hfixed : fixedLine code (raw, number) = raw := by
    have hall : ((lines code).zipIdx 1).map (fixedLine code) =
        ((lines code).zipIdx 1).map Prod.fst := by
      rw [← fixedLines_eq, hsame, List.zipIdx_map_fst]
    exact List.map_inj_left.mp hall _ hmem
  rcases inked_foldl (Fix.turnsOn (checks code) number) raw with hnone | hmore
  · rw [List.mem_reverse, hnone] at hc
    cases hc
  · rw [fixedLine] at hfixed
    rw [hfixed] at hmore
    exact Nat.lt_irrefl _ hmore

/-- The lines of a fixed text are the fixed lines. -/
theorem lines_run (code : List Char) (fs : List Finding) :
    lines (Fix.text (Fix.run fixers code fs)) = (Fix.run fixers code fs).lines :=
  Fix.lines_text_run (fun f _ _ => isLine_rewrite f) code

def fixedText (code : List Char) : List Char := unlines (fixedLines code)

theorem lines_fixedText (code : List Char) : lines (fixedText code) = fixedLines code :=
  lines_run code (checks code)

theorem tally_le_length {w : Option Char → List Char → Nat} (hw : ∀ prev cs, w prev cs ≤ 1)
    (prev : Option Char) (cs : List Char) : tally w prev cs ≤ cs.length := by
  induction cs generalizing prev with
  | nil => exact Nat.le_refl _
  | cons c cs ih =>
    have hhere := hw prev (c :: cs)
    have hrest := ih (some c)
    rw [tally, List.length_cons]
    omega

theorem weight_le_length (line : List Char) : weight line ≤ 2 * line.length := by
  have houtput : tally openOutput none line ≤ line.length := by
    refine tally_le_length (fun prev cs => ?_) none line
    rw [openOutput]
    split_ifs <;> decide
  have hsigns : tally looseSign none line ≤ line.length := by
    refine tally_le_length (fun prev cs => ?_) none line
    rw [looseSign]
    split_ifs <;> decide
  rw [weight]
  omega

theorem sum_length_cut_le (sep : Char) (cs : List Char) :
    ((cut sep cs).map List.length).sum ≤ cs.length := by
  induction cs with
  | nil => simp [cut]
  | cons c cs ih =>
    by_cases hc : c = sep
    · rw [hc, cut_sep, List.map_cons, List.sum_cons, List.length_nil, List.length_cons]
      omega
    · obtain ⟨l, ls, hcut⟩ := cut_eq_cons sep cs
      rw [hcut] at ih
      rw [cut_cons hc hcut]
      simp only [List.map_cons, List.sum_cons, List.length_cons] at ih ⊢
      omega

theorem burden_lines_le (code : List Char) : burden (lines code) ≤ 4 * code.length + 1 := by
  have hsum : ((lines code).map weight).sum ≤ 2 * code.length := by
    calc ((lines code).map weight).sum
        = ((cut '\n' code).map fun l => weight (dropEndWhile (· == '\r') l)).sum := by
          rw [lines, List.map_map]
          rfl
      _ ≤ ((cut '\n' code).map fun l => 2 * l.length).sum :=
          List.sum_le_sum fun l _ => Nat.le_trans (weight_le_length _)
            (Nat.mul_le_mul_left 2 (length_dropEndWhile_le _ l))
      _ = 2 * ((cut '\n' code).map List.length).sum := List.sum_map_mul_left _ _ _
      _ ≤ 2 * code.length := Nat.mul_le_mul_left 2 (sum_length_cut_le '\n' code)
  have hone := Bool.toNat_le (endsOpen (lines code))
  rw [burden]
  omega

end CampaignCheck.Ampscript

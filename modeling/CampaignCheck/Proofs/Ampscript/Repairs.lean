import CampaignCheck.Proofs.Ampscript.Conditions
import CampaignCheck.Proofs.Ampscript.Weight
import CampaignCheck.Proofs.Fix.Settling
import CampaignCheck.Proofs.Lexical.Contexts
import CampaignCheck.Proofs.Script.Conditions

namespace CampaignCheck.Ampscript

open Text Pattern

/-- An equals sign that should be doubled. -/
abbrev IsLone : List Char → Nat → Prop := StandsAlone (.chars "=!<>") (.char '=')

theorem loneEquals_eq : loneEquals = aloneSign (.chars "=!<>") (.char '=') := rfl

theorem lastOf_take {cs : List Char} {n : Nat} {c : Char} (h : cs[n]? = some c) :
    lastOf none (cs.take (n + 1)) = some c := by
  rw [lastOf, Option.or_none, List.take_add_one, h, Option.toList_some, List.getLast?_concat]

theorem not_isWeak_of_sameLetter {c : Char} (h : sameLetter 'T' c = true) : isWeak c = false := by
  have hnone : ['=', '%', '[', ']', ' '].any (sameLetter 'T') = false := by decide +kernel
  by_contra hweak
  rw [Bool.not_eq_false, isWeak, List.contains_iff_mem] at hweak
  exact List.any_eq_false.mp hnone c hweak h

/-- A masked line, and where what stands between IF and THEN starts and stops in it. -/
structure Bounded (masked : List Char) (start stop : Nat) : Prop where
  opens : ∃ c, masked[start]? = some c ∧ sameLetter 'F' c = true
  closes : ∃ c, masked[stop]? = some c ∧ sameLetter 'T' c = true

/-- An equals sign that is alone in the condition of the masked line is alone in the line. -/
theorem Bounded.loneAt {line : List Char} {start stop j : Nat}
    (h : Bounded (Mask.alone (.of .ampscript) line) start stop)
    (hlone : IsLone (slice (Mask.alone (.of .ampscript) line) (start + 1) stop) j) :
    LoneAt none line (start + 1 + j) := by
  obtain ⟨hsign, hbefore, hbehind⟩ := hlone
  rw [← Bool.not_eq_true, sees_char] at hbehind
  have hend : ∀ m ∈ (Lexicon.of .ampscript).blockComment, m.2 = ['*', '/'] := by simp [Lexicon.of]
  have hbeside := Mask.inside_beside_kept (Lexicon.of_skipsBlanks .ampscript) hend
    (Lexicon.of_ignoresPliant .ampscript) (c := .code) trivial line
  set masked := Mask.alone (.of .ampscript) line with hmasked
  have hinside : Mask.inside (.of .ampscript) .code line = masked := rfl
  rw [hinside] at hbeside
  obtain ⟨⟨c, hc, hfirst⟩, d, hd, hlast⟩ := h
  rw [slice_getElem?] at hsign hbehind
  split_ifs at hsign with hlt
  refine ⟨Mask.equals_of_inside (c := .code) hsign, ?_, ?_⟩
  · intro hprev
    obtain ⟨p, hp⟩ : ∃ p, start + 1 + j = p + 1 := ⟨start + j, by omega⟩
    rw [hp] at hsign hprev
    have hraw : (line)[p + 1]? = some '=' := Mask.equals_of_inside (c := .code) hsign
    have hp' : p < line.length := Nat.lt_of_succ_lt (List.getElem?_eq_some_iff.mp hraw).1
    have hline := List.getElem?_eq_getElem hp'
    rw [lastOf_take hline, ← hline] at hprev
    have hshown : masked[p]? = some '=' := by
      rcases (hbeside p).1 hsign with hkept | hslash
      · exact hkept.trans hprev
      · rw [hprev] at hslash
        exact absurd hslash (by decide)
    cases j with
    | zero =>
      obtain rfl : p = start := by omega
      have hletter : c = '=' := Option.some.inj (hc.symm.trans hshown)
      rw [hletter] at hfirst
      exact absurd hfirst (by decide +kernel)
    | succ j =>
      have hseen : (slice masked (start + 1) stop)[j]? = some '=' := by
        have hplace : start + 1 + j = p := by omega
        rw [slice_getElem?, hplace, if_pos (by omega)]
        exact hshown
      rw [preceded, sees, hseen] at hbefore
      exact absurd hbefore (by decide)
  · intro hnext
    have hshown := (hbeside _).2 hsign hnext
    by_cases hwithin : start + 1 + (j + 1) < stop
    · rw [if_pos hwithin] at hbehind
      exact hbehind hshown
    · have hplace : start + 1 + j + 1 = stop := by omega
      rw [hplace, hd] at hshown
      rw [Option.some.inj hshown] at hlast
      exact absurd hlast (by decide +kernel)

/-- A letter of the line stands where the bounds stop. -/
theorem Bounded.not_all_isWeak {line : List Char} {start stop q : Nat}
    (h : Bounded (Mask.alone (.of .ampscript) line) start stop) (hq : q ≤ stop) :
    (line.drop q).all isWeak = false := by
  obtain ⟨d, hd, hlast⟩ := h.closes
  have hweak := not_isWeak_of_sameLetter hlast
  have hvisible : d ≠ ' ' := by
    rintro rfl
    exact absurd hweak (by decide)
  have hkept : (line)[stop]? = some d :=
    (Mask.inside_shows (.of .ampscript) .code line).getElem?_of_ne hvisible hd
  rw [List.all_eq_false]
  refine ⟨d, ?_, by rw [hweak]; decide⟩
  refine List.mem_of_getElem? (i := stop - q) ?_
  rw [List.getElem?_drop, Nat.add_sub_cancel' hq]
  exact hkept

/-- The fixer doubles lone equals signs in front of a letter, or has nothing to do. -/
theorem fixComparison_eq (line : List Char) (f : Finding) :
    fixComparison line f = none ∨ ∃ positions,
      fixComparison line f = some (doubled positions 0 line) ∧ AllLone positions 0 none line ∧
        ∃ j ∈ positions, (line.drop j).all isWeak = false := by
  rw [fixComparison]
  cases hm : condition.find? (Mask.alone (.of .ampscript) line) with
  | none => exact .inl rfl
  | some m =>
    obtain ⟨start, stop, hbounds, -, hopens, hcloses⟩ := condition_bounds (finds_of_find? hm)
    have hbounded : Bounded (Mask.alone (.of .ampscript) line) start stop := ⟨hopens, hcloses⟩
    have hgroup : m.group (Mask.alone (.of .ampscript) line) 1 =
        slice (Mask.alone (.of .ampscript) line) (start + 1) stop := by
      simp [Match.group, Match.group?, hbounds]
    have hstart : m.startOf 1 = start + 1 := by simp [Match.startOf, hbounds]
    simp only [Option.bind_some, hgroup, hstart]
    have hlone (e : Match)
        (he : e ∈ loneEquals.findAll (slice (Mask.alone (.of .ampscript) line) (start + 1) stop)) :
        LoneAt none line (start + 1 + e.start) ∧ start + 1 + e.start ≤ stop := by
      have halone : IsLone (slice (Mask.alone (.of .ampscript) line) (start + 1) stop) e.start :=
        mem_starts_aloneSign.mp (List.mem_map_of_mem he)
      refine ⟨hbounded.loneAt halone, ?_⟩
      have hsign := halone.sign
      rw [slice_getElem?] at hsign
      split_ifs at hsign with hlt
      exact Nat.le_of_lt hlt
    cases hfound : loneEquals.findAll
        (slice (Mask.alone (.of .ampscript) line) (start + 1) stop) with
    | nil => exact .inl rfl
    | cons e es =>
      rw [hfound] at hlone
      refine .inr ⟨(e :: es).map (start + 1 + ·.start), rfl, ?_, start + 1 + e.start, ?_, ?_⟩
      · intro q hq
        rw [Nat.zero_add] at hq
        obtain ⟨e', he', rfl⟩ := List.mem_map.mp hq
        exact (hlone e' he').1
      · exact List.mem_map_of_mem List.mem_cons_self
      · exact hbounded.not_all_isWeak (hlone e List.mem_cons_self).2

theorem brokenTerminator_eq : brokenTerminator =
    alt (seq (seq (one (.char '=')) (one (.char '%'))) (ahead false (one (.char '%'))))
      (seq (seq (behind false 1 (one (.char '='))) (seq (one (.char '%')) (one (.char '%'))))
        (ahead false (one (.char '[')))) := rfl

theorem simple_brokenTerminator : Simple brokenTerminator := by
  rw [brokenTerminator_eq]
  repeat' constructor

/-- What a fixer takes for the end of an output block starts at an offset. -/
def BrokenAt (cs : List Char) (pos : Nat) : Prop :=
  cs[pos]? = some '=' ∧ cs[pos + 1]? = some '%' ∧ cs[pos + 2]? ≠ some '%' ∨
    preceded (.char '=') cs pos = false ∧ cs[pos]? = some '%' ∧ cs[pos + 1]? = some '%' ∧
      cs[pos + 2]? ≠ some '['

theorem hit?_brokenTerminator {cs : List Char} {pos stop : Nat} :
    brokenTerminator.hit? cs pos = some stop ↔ BrokenAt cs pos ∧ stop = pos + 2 := by
  have hends : brokenTerminator.hit? cs pos =
      (if sees (.char '=') cs pos then if sees (.char '%') cs (pos + 1) then
        if sees (.char '%') cs (pos + 2) then none else some (pos + 2) else none else none).or
      (if preceded (.char '=') cs pos then none else if sees (.char '%') cs pos then
        if sees (.char '%') cs (pos + 1) then
          if sees (.char '[') cs (pos + 2) then none else some (pos + 2) else none else none) := by
    rw [brokenTerminator_eq, hit?, ends, ends, ends, ends_one, ends_one, ends_unless_ahead, ends,
      ends, ends_unless_behind, ends, ends_one, ends_one, ends_unless_ahead]
  rw [hends, BrokenAt]
  simp only [← sees_char, ne_eq]
  cases sees (.char '=') cs pos <;> cases sees (.char '%') cs (pos + 1) <;>
    cases sees (.char '%') cs (pos + 2) <;> cases preceded (.char '=') cs pos <;>
    cases sees (.char '%') cs pos <;> cases sees (.char '[') cs (pos + 2) <;> simp [eq_comm]

/-- The leftmost such place from an offset on. -/
theorem findFrom?_brokenTerminator {cs : List Char} {start : Nat} (hstart : start ≤ cs.length) :
    match brokenTerminator.findFrom? cs start with
    | some m => start ≤ m.start ∧ m.stop = m.start + 2 ∧ BrokenAt cs m.start ∧
        ∀ q, start ≤ q → q < m.start → ¬ BrokenAt cs q
    | none => ∀ q, start ≤ q → q ≤ cs.length → ¬ BrokenAt cs q := by
  have hnone {q : Nat} (h : brokenTerminator.hit? cs q = none) : ¬ BrokenAt cs q := by
    intro hbroken
    rw [hit?_brokenTerminator.mpr ⟨hbroken, rfl⟩] at h
    cases h
  rw [Pattern.findFrom?]
  simp only [List.size_toArray, if_pos hstart]
  cases hm : brokenTerminator.tryFrom cs.toArray (cs.length - start) start false with
  | some m =>
    obtain ⟨hhit, hle, hbefore⟩ := tryFrom_hit? simple_brokenTerminator hm
    obtain ⟨hbroken, hstop⟩ := hit?_brokenTerminator.mp hhit
    exact ⟨hle, hstop, hbroken, fun q hq hq' => hnone (hbefore q hq hq')⟩
  | none =>
    intro q hq hq'
    exact hnone (tryFrom_eq_none simple_brokenTerminator hm q hq (by omega))

/-- Behind the start of an output block, percent signs that end a text end the block if nothing
broken comes before the end of the text. -/
theorem endsClosed_of_unbroken {a b : List Char} {i : Nat}
    (hstart : "%%=".toList <+: (a ++ b).drop i) (hlength : i + 3 ≤ a.length)
    (hb : b[0]? ≠ some '[')
    (hnone : ∀ q, i + 3 ≤ q → q + 2 ≤ a.length → ¬ BrokenAt (a ++ b) q) : EndsClosed a := by
  rintro pre rfl
  by_contra hlast
  have hfirst : (pre ++ ['%', '%'] ++ b)[pre.length]? = some '%' := by simp
  have hsecond : (pre ++ ['%', '%'] ++ b)[pre.length + 1]? = some '%' := by simp
  have hthird : (pre ++ ['%', '%'] ++ b)[pre.length + 2]? = b[0]? := by
    rw [List.getElem?_append_right (by simp)]
    simp
  have hsign : (pre ++ ['%', '%'] ++ b)[i + 2]? = some '=' := by
    obtain ⟨rest, hrest⟩ := hstart
    rw [← List.getElem?_drop, ← hrest]
    rfl
  rw [List.length_append, List.length_cons, List.length_cons, List.length_nil] at hlength hnone
  by_cases hle : i + 3 ≤ pre.length
  · refine hnone pre.length hle (Nat.le_refl _) (.inr ⟨?_, hfirst, hsecond, by rwa [hthird]⟩)
    rw [List.getLast?_eq_getElem?] at hlast
    cases hpre : pre.length with
    | zero => rfl
    | succ n =>
      rw [hpre, Nat.add_sub_cancel] at hlast
      have hn : n < pre.length := by omega
      rw [preceded, ← Bool.not_eq_true, sees_char, List.append_assoc, List.getElem?_append_left hn]
      exact hlast
  · obtain hplace | hplace : i + 2 = pre.length ∨ i + 2 = pre.length + 1 := by omega
    · rw [hplace, hfirst] at hsign
      exact absurd hsign (by decide)
    · rw [hplace, hsecond] at hsign
      exact absurd hsign (by decide)

theorem eq_take_pair_drop {cs : List Char} {p : Nat} {c d : Char} (hc : cs[p]? = some c)
    (hd : cs[p + 1]? = some d) : cs = cs.take p ++ ([c, d] ++ cs.drop (p + 2)) := by
  obtain ⟨hp, rfl⟩ := List.getElem?_eq_some_iff.mp hc
  obtain ⟨hp', rfl⟩ := List.getElem?_eq_some_iff.mp hd
  calc cs = cs.take p ++ cs.drop p := (List.take_append_drop p cs).symm
    _ = _ := by rw [List.drop_eq_getElem_cons hp, List.drop_eq_getElem_cons hp']; rfl

theorem BrokenAt.isBrokenEnd {cs : List Char} {p : Nat} (h : BrokenAt cs p) :
    ∃ x, cs = cs.take p ++ (x ++ cs.drop (p + 2)) ∧
      IsBrokenEnd (cs.take p) (cs.drop (p + 2)) x ∧ (x ++ cs.drop (p + 2))[0]? ≠ some '[' := by
  have hnext : (cs.drop (p + 2))[0]? = cs[p + 2]? := List.getElem?_drop
  rcases h with ⟨hfirst, hsecond, hthird⟩ | ⟨hbefore, hfirst, hsecond, hthird⟩
  · refine ⟨['=', '%'], eq_take_pair_drop hfirst hsecond, .half ?_, by simp⟩
    rwa [hnext]
  · refine ⟨['%', '%'], eq_take_pair_drop hfirst hsecond, .bare ?_ ?_, by simp⟩
    · intro hlast
      cases p with
      | zero => simp at hlast
      | succ p =>
        have hp : p < cs.length := Nat.lt_of_succ_lt (List.getElem?_eq_some_iff.mp hfirst).1
        have hshown := List.getElem?_eq_getElem hp
        rw [preceded, ← Bool.not_eq_true, sees_char] at hbefore
        rw [List.take_add_one, hshown, Option.toList_some, List.getLast?_concat, ← hshown] at hlast
        exact hbefore hlast
    · rwa [hnext]

/-- The fixer puts the end of an output block in the place of a broken one, or at the end of the
line, or has nothing to do. -/
theorem fixOutputBlock_eq (line : List Char) (f : Finding) :
    ¬ "%%=".toList <+: line.drop (f.column.getD 0) ∧ fixOutputBlock line f = none ∨
      "%%=".toList <+: line.drop (f.column.getD 0) ∧
      ((∃ a x b, line = a ++ (x ++ b) ∧ f.column.getD 0 + 3 ≤ a.length ∧ IsBrokenEnd a b x ∧
          EndsClosed a ∧ fixOutputBlock line f = some (a ++ ("=%%".toList ++ b))) ∨
        EndsClosed (trimRight line) ∧
          fixOutputBlock line f = some (trimRight line ++ "=%%".toList)) := by
  rw [fixOutputBlock]
  by_cases hstart : "%%=".toList <+: line.drop (f.column.getD 0)
  swap
  · have hno : startsWith (line.drop (f.column.getD 0)) "%%=".toList = false := by
      rw [startsWith, ← Bool.not_eq_true, List.isPrefixOf_iff_prefix]
      exact hstart
    refine .inl ⟨hstart, ?_⟩
    simp only [hno, Bool.not_false, if_true]
  refine .inr ⟨hstart, ?_⟩
  have hlength : f.column.getD 0 + 3 ≤ line.length := by
    have hle := hstart.length_le
    rw [List.length_drop] at hle
    have hthree : "%%=".toList.length = 3 := rfl
    omega
  have hfirst := findFrom?_brokenTerminator hlength
  simp only [startsWith, List.isPrefixOf_iff_prefix.mpr hstart, Bool.not_true, Bool.false_eq_true,
    if_false]
  cases hm : brokenTerminator.findFrom? line (f.column.getD 0 + 3) with
  | some m =>
    rw [hm] at hfirst
    obtain ⟨hle, hstop, hbroken, hbefore⟩ := hfirst
    obtain ⟨x, hsplit, hend, hhead⟩ := hbroken.isBrokenEnd
    have hsize : m.start < line.length := by
      rcases hbroken with hbroken | hbroken
      · exact (List.getElem?_eq_some_iff.mp hbroken.1).1
      · exact (List.getElem?_eq_some_iff.mp hbroken.2.1).1
    have htake : (line.take m.start).length = m.start := List.length_take_of_le (Nat.le_of_lt hsize)
    refine .inl ⟨line.take m.start, x, line.drop (m.start + 2), hsplit, by rwa [htake], hend,
      ?_, ?_⟩
    · refine endsClosed_of_unbroken (i := f.column.getD 0) (b := x ++ line.drop (m.start + 2))
        (by rwa [← hsplit]) (by rwa [htake]) hhead ?_
      intro q hq hq'
      rw [← hsplit]
      exact hbefore q hq (by omega)
    · simp only [hstop, List.append_assoc]
  | none =>
    rw [hm] at hfirst
    refine .inr ⟨?_, rfl⟩
    obtain ⟨s, hsplit, hs⟩ := exists_trimRight line
    have hsize : f.column.getD 0 + 3 ≤ (trimRight line).length := by
      obtain ⟨rest, hrest⟩ := hstart
      have hsign : (line)[f.column.getD 0 + 2]? = some '=' := by
        rw [← List.getElem?_drop, ← hrest]
        rfl
      exact lt_length_dropEndWhile hsign (by decide)
    refine endsClosed_of_unbroken (i := f.column.getD 0) (b := s) (by rwa [← hsplit]) hsize
      (head_ne_of_blank hs (by decide)) ?_
    intro q hq hq'
    rw [← hsplit]
    refine hfirst q hq ?_
    rw [hsplit, List.length_append]
    omega

theorem OpenAt.starts {line : List Char} {i : Nat} (h : OpenAt line i) :
    "%%=".toList <+: line.drop i := by
  obtain ⟨pre, rest, rfl, rfl, -⟩ := h
  rw [List.drop_left]
  exact ⟨rest, rfl⟩

section Rewriting

variable {line : List Char} {f : Finding}

theorem rewrite_comparison (h : f.rule = "ampscript-comparison") :
    Fix.rewrite fixers line f = (fixComparison line f).getD line := by
  simp [Fix.rewrite, fixers, h, List.lookup_cons_self]

theorem rewrite_delimiters (h : f.rule = "ampscript-delimiters") :
    Fix.rewrite fixers line f = (fixDelimiters line f).getD line := by
  simp [Fix.rewrite, fixers, h, List.lookup_cons]

theorem rewrite_output (h : f.rule = "ampscript-output-syntax") :
    Fix.rewrite fixers line f = (fixOutputBlock line f).getD line := by
  simp [Fix.rewrite, fixers, h, List.lookup_cons]

theorem rewrite_other (hcomparison : f.rule ≠ "ampscript-comparison")
    (hdelimiters : f.rule ≠ "ampscript-delimiters") (houtput : f.rule ≠ "ampscript-output-syntax") :
    Fix.rewrite fixers line f = line := by
  simp [Fix.rewrite, fixers, List.lookup_cons, beq_eq_false_iff_ne.mpr hcomparison,
    beq_eq_false_iff_ne.mpr hdelimiters, beq_eq_false_iff_ne.mpr houtput]

/-- What the fixer of delimiters makes of a line. -/
theorem fixDelimiters_cases (line : List Char) (f : Finding) :
    (fixDelimiters line f).getD line = line ∨
      f.column = none ∧ (fixDelimiters line f).getD line = trimRight line ++ " ]%%".toList ∨
      f.column ≠ none ∧ (fixDelimiters line f).getD line = "%%[ ".toList ++ line := by
  rw [fixDelimiters]
  cases f.column with
  | none => exact .inr (.inl ⟨rfl, rfl⟩)
  | some column =>
    simp only
    split_ifs
    · exact .inr (.inr ⟨by simp, rfl⟩)
    · exact .inl rfl

theorem weight_trimRight_close (line : List Char) :
    weight (trimRight line ++ " ]%%".toList) ≤ weight line := by
  obtain ⟨s, hsplit, hs⟩ := exists_trimRight line
  have hclose := weight_close hs (t := trimRight line)
  rwa [← hsplit] at hclose

/-- No fixer adds to the weight of a line. -/
theorem weight_rewrite_le (line : List Char) (f : Finding) :
    weight (Fix.rewrite fixers line f) ≤ weight line := by
  by_cases hcomparison : f.rule = "ampscript-comparison"
  · rw [rewrite_comparison hcomparison]
    rcases fixComparison_eq line f with hnone | ⟨positions, hsome, hlone, -⟩
    · rw [hnone, Option.getD_none]
    · rw [hsome, Option.getD_some]
      exact weight_doubled_le hlone
  by_cases hdelimiters : f.rule = "ampscript-delimiters"
  · rw [rewrite_delimiters hdelimiters]
    rcases fixDelimiters_cases line f with hstays | ⟨-, hclose⟩ | ⟨-, hput⟩
    · rw [hstays]
    · rw [hclose]
      exact weight_trimRight_close line
    · rw [hput]
      exact weight_prefix line
  by_cases houtput : f.rule = "ampscript-output-syntax"
  · rw [rewrite_output houtput]
    rcases fixOutputBlock_eq line f with
      ⟨-, hnone⟩ | ⟨-, ⟨a, x, b, hsplit, -, hx, ha, hsome⟩ | ⟨ha, hsome⟩⟩
    · rw [hnone, Option.getD_none]
    · rw [hsome, Option.getD_some, hsplit]
      exact weight_end_le hx ha
    · obtain ⟨s, hsplit, hs⟩ := exists_trimRight line
      have htrim := weight_trim_le hs ha
      rw [← hsplit] at htrim
      rwa [hsome, Option.getD_some]
  · rw [rewrite_other hcomparison hdelimiters houtput]

/-- Fixing a comparison takes from the weight of a line that it changes. -/
theorem weight_comparison_lt (h : f.rule = "ampscript-comparison")
    (hne : Fix.rewrite fixers line f ≠ line) :
    weight (Fix.rewrite fixers line f) < weight line := by
  rw [rewrite_comparison h] at hne ⊢
  rcases fixComparison_eq line f with hnone | ⟨positions, hsome, hlone, j, hj, hletter⟩
  · rw [hnone] at hne
    exact absurd rfl hne
  · rw [hsome, Option.getD_some]
    exact weight_doubled_lt hlone hj hletter

/-- Closing an output block that is open where the finding points takes from the weight. -/
theorem weight_output_lt (h : f.rule = "ampscript-output-syntax")
    (hopen : OpenAt line (f.column.getD 0)) :
    weight (Fix.rewrite fixers line f) < weight line := by
  rw [rewrite_output h]
  rcases fixOutputBlock_eq line f with
    ⟨hstart, -⟩ | ⟨-, ⟨a, x, b, hsplit, hle, hx, ha, hsome⟩ | ⟨ha, hsome⟩⟩
  · exact absurd hopen.starts hstart
  · rw [hsome, Option.getD_some]
    rw [hsplit] at hopen ⊢
    exact weight_end_lt hx ha hopen hle
  · obtain ⟨s, hsplit, hs⟩ := exists_trimRight line
    rw [hsplit] at hopen
    have htrim := weight_trim_lt hs ha hopen
    rw [← hsplit] at htrim
    rwa [hsome, Option.getD_some]

/-- Where no output block starts the fixer has nothing to do. -/
theorem rewrite_output_of_not_start (h : f.rule = "ampscript-output-syntax")
    (hstart : ¬ "%%=".toList <+: line.drop (f.column.getD 0)) :
    Fix.rewrite fixers line f = line := by
  rw [rewrite_output h]
  rcases fixOutputBlock_eq line f with ⟨-, hnone⟩ | ⟨hstarts, -⟩
  · rw [hnone, Option.getD_none]
  · exact absurd hstarts hstart

/-- Fixers for what is no delimiter have nothing to do without an equals sign. -/
theorem rewrite_of_not_mem (h : '=' ∉ line)
    (hrule : f.rule ≠ "ampscript-delimiters") : Fix.rewrite fixers line f = line := by
  by_cases hcomparison : f.rule = "ampscript-comparison"
  · rw [rewrite_comparison hcomparison]
    rcases fixComparison_eq line f with hnone | ⟨positions, -, hlone, j, hj, -⟩
    · rw [hnone, Option.getD_none]
    · have hsign := (hlone j (by rwa [Nat.zero_add])).sign
      exact absurd (List.mem_of_getElem? hsign) h
  by_cases houtput : f.rule = "ampscript-output-syntax"
  · refine rewrite_output_of_not_start houtput fun hstart => h ?_
    exact List.mem_of_mem_drop (hstart.mem (by decide))
  · exact rewrite_other hcomparison hrule houtput

omit f line in
/-- Another text in the place of a part of a line leaves it a line. -/
theorem isLine_replace {a x y b : List Char} (h : IsLine (a ++ (x ++ b))) (hy : '\n' ∉ y)
    (hlast : y.getLast? ≠ some '\r') (hne : y ≠ []) : IsLine (a ++ (y ++ b)) := by
  obtain ⟨hfeed, hend⟩ := h
  simp only [List.mem_append, not_or] at hfeed
  refine ⟨?_, ?_⟩
  · simp only [List.mem_append, not_or]
    exact ⟨hfeed.1, hy, hfeed.2.2⟩
  · rw [List.getLast?_append, List.getLast?_append] at hend ⊢
    cases hb : b.getLast? with
    | some c => simpa [hb] using hend
    | none =>
      obtain ⟨c, hc⟩ := Option.ne_none_iff_exists'.mp (mt List.getLast?_eq_none_iff.mp hne)
      simpa [hc] using hlast

theorem isLine_rewrite (f : Finding) (h : IsLine line) : IsLine (Fix.rewrite fixers line f) := by
  obtain ⟨s, hsplit, -⟩ := exists_trimRight line
  have htrimmed : IsLine (trimRight line ++ (s ++ [])) := by rwa [List.append_nil, ← hsplit]
  by_cases hcomparison : f.rule = "ampscript-comparison"
  · rw [rewrite_comparison hcomparison]
    rcases fixComparison_eq line f with hnone | ⟨positions, hsome, hlone, -⟩
    · rwa [hnone, Option.getD_none]
    · have hstretch := Script.substituteFrom_eq_stretch positions 1 0 fun j hj => (hlone j hj).sign
      have hdoubled : doubled positions 0 line = _ := hstretch
      rw [hsome, Option.getD_some, hdoubled]
      exact h.stretch _
  by_cases hdelimiters : f.rule = "ampscript-delimiters"
  · rw [rewrite_delimiters hdelimiters]
    rcases fixDelimiters_cases line f with hstays | ⟨-, hclose⟩ | ⟨-, hput⟩
    · rwa [hstays]
    · have hline := isLine_replace htrimmed (y := " ]%%".toList) (by decide) (by decide) (by decide)
      rwa [hclose]
    · rw [hput]
      exact isLine_replace (a := []) (x := []) (y := "%%[ ".toList) h (by decide) (by decide)
        (by decide)
  by_cases houtput : f.rule = "ampscript-output-syntax"
  · rw [rewrite_output houtput]
    rcases fixOutputBlock_eq line f with
      ⟨-, hnone⟩ | ⟨-, ⟨a, x, b, hparts, -, -, -, hsome⟩ | ⟨-, hsome⟩⟩
    · rwa [hnone, Option.getD_none]
    · rw [hparts] at h
      rw [hsome, Option.getD_some]
      exact isLine_replace h (y := "=%%".toList) (by decide) (by decide) (by decide)
    · have hline := isLine_replace htrimmed (y := "=%%".toList) (by decide) (by decide) (by decide)
      rwa [hsome, Option.getD_some]
  · rwa [rewrite_other hcomparison hdelimiters houtput]

end Rewriting

end CampaignCheck.Ampscript

import CampaignCheck.Proofs.Placement
import CampaignCheck.Proofs.Sorting
import CampaignCheck.Proofs.Text.Letters
import CampaignCheck.Proofs.Text.Positions

namespace CampaignCheck

open Text

namespace Rule

/-- A match with characters starts at the place: in the line that the place names, or, for a rule on
the whole text, at the offset of the place in the text of all lines. -/
def MatchesAt (r : Rule) (ls : List (List Char)) (q : Position) : Prop :=
  ∃ p, r.compiled? = some p ∧
    ((1 ≤ q.line ∧ ∃ line m, ls[q.line - 1]? = some line ∧ m ∈ p.findAll line ∧
      m.start < m.stop ∧ m.start = q.column) ∨
    (r.scope = .text ∧ q.Within ls ∧ ∃ m, m ∈ p.findAll (unlines ls) ∧ m.start < m.stop ∧
      m.start = offsetOf ls q))

/-- Searching for the rule goes through to the end: its pattern can be read and no match has a
twisted group. -/
def Completes (r : Rule) (ls : List (List Char)) : Prop :=
  ∃ p, r.compiled? = some p ∧ (∀ line ∈ ls, ∀ m ∈ p.findAll line, m.isTwisted = false) ∧
    (r.scope = .text → ∀ m ∈ p.findAll (unlines ls), m.isTwisted = false)

end Rule

namespace Enforce

theorem untwisted_of_forall {ms : List Match} (h : ∀ m ∈ ms, m.isTwisted = false) :
    untwisted ms = (ms, true) := by
  have hall : ∀ m ∈ ms, (!m.isTwisted) = true := fun m hm => by simp [h m hm]
  unfold untwisted
  rw [List.span_eq_takeWhile_dropWhile]
  have htake : ms.takeWhile (!·.isTwisted) = ms := List.takeWhile_eq_self_iff.mpr hall
  have hdrop : ms.dropWhile (!·.isTwisted) = [] := List.dropWhile_eq_nil_iff.mpr hall
  rw [htake, hdrop]
  rfl

theorem mem_starts {ms : List Match} {start : Nat} :
    start ∈ starts ms ↔ ∃ m, m ∈ ms ∧ m.start < m.stop ∧ m.start = start := by
  simp [starts, and_assoc]

theorem inLines_of_forall {p : Pattern} {ls : List (List Char)}
    (h : ∀ line ∈ ls, ∀ m ∈ p.findAll line, m.isTwisted = false) (number : Nat) :
    (inLines p number ls).2 = true ∧ ∀ q : Position, q ∈ (inLines p number ls).1 ↔
      ∃ k line m, ls[k]? = some line ∧ m ∈ p.findAll line ∧ m.start < m.stop ∧
        q = ⟨number + k, m.start⟩ := by
  induction ls generalizing number with
  | nil => simp [inLines]
  | cons line rest ih =>
    obtain ⟨hwhole, hrest⟩ := ih (fun l hl => h l (List.mem_cons_of_mem line hl)) (number + 1)
    rw [inLines, untwisted_of_forall (h line List.mem_cons_self)]
    simp only [if_true]
    refine ⟨hwhole, fun q => ?_⟩
    rw [List.mem_append, hrest, List.mem_map]
    constructor
    · rintro (⟨start, hstart, rfl⟩ | ⟨k, l, m, hl, hm, hlt, rfl⟩)
      · obtain ⟨m, hm, hlt, rfl⟩ := mem_starts.mp hstart
        exact ⟨0, line, m, rfl, hm, hlt, rfl⟩
      · exact ⟨k + 1, l, m, by simpa using hl, hm, hlt, by rw [Nat.add_right_comm, Nat.add_assoc]⟩
    · rintro ⟨k, l, m, hl, hm, hlt, rfl⟩
      cases k with
      | zero =>
        obtain rfl : line = l := by simpa using hl
        exact .inl ⟨m.start, mem_starts.mpr ⟨m, hm, hlt, rfl⟩, rfl⟩
      | succ k =>
        exact .inr ⟨k, l, m, by simpa using hl, hm, hlt, by rw [Nat.add_right_comm, Nat.add_assoc]⟩

/-- The places of a rule whose search goes through are those where its pattern matches. -/
theorem mem_places {r : Rule} {code : List Char} (h : r.Completes (lines code)) (q : Position) :
    q ∈ places r (lines code) ↔ r.MatchesAt (lines code) q := by
  obtain ⟨p, hp, hline, htext⟩ := h
  obtain ⟨hwhole, hmem⟩ := inLines_of_forall hline 1
  have hplaces : places r (lines code) = (inLines p 1 (lines code)).1 ++
      if r.scope = .text then inText p (unlines (lines code)) else [] := by
    simp [places, hp, hwhole]
  have hfirst : q ∈ (inLines p 1 (lines code)).1 ↔ 1 ≤ q.line ∧ ∃ line m,
      (lines code)[q.line - 1]? = some line ∧ m ∈ p.findAll line ∧ m.start < m.stop ∧
        m.start = q.column := by
    rw [hmem]
    constructor
    · rintro ⟨k, line, m, hl, hm, hlt, rfl⟩
      exact ⟨by simp, line, m, by simpa using hl, hm, hlt, rfl⟩
    · rintro ⟨hq, line, m, hl, hm, hlt, hcol⟩
      refine ⟨q.line - 1, line, m, hl, hm, hlt, ?_⟩
      rw [Nat.add_sub_cancel' hq, hcol]
  have hsecond (hscope : r.scope = .text) : q ∈ inText p (unlines (lines code)) ↔
      q.Within (lines code) ∧ ∃ m, m ∈ p.findAll (unlines (lines code)) ∧ m.start < m.stop ∧
        m.start = offsetOf (lines code) q := by
    rw [inText, untwisted_of_forall (htext hscope), List.mem_map]
    have hplace {m : Match} (hm : m ∈ p.findAll (unlines (lines code))) :=
      positionAt_unlines_eq_iff (lines_ne_nil code) (fun _ => not_mem_of_mem_lines)
        (Pattern.finds_of_mem_findAll hm).1 q
    constructor
    · rintro ⟨start, hstart, hq⟩
      obtain ⟨m, hm, hlt, rfl⟩ := mem_starts.mp hstart
      obtain ⟨hwithin, hoffset⟩ := (hplace hm).mp hq
      exact ⟨hwithin, m, hm, hlt, hoffset⟩
    · rintro ⟨hwithin, m, hm, hlt, hoffset⟩
      exact ⟨m.start, mem_starts.mpr ⟨m, hm, hlt, rfl⟩, (hplace hm).mpr ⟨hwithin, hoffset⟩⟩
  rw [hplaces, List.mem_append, hfirst, Rule.MatchesAt]
  constructor
  · rintro (hq | hq)
    · exact ⟨p, hp, .inl hq⟩
    · split_ifs at hq with hscope
      · exact ⟨p, hp, .inr ⟨hscope, (hsecond hscope).mp hq⟩⟩
      · simp at hq
  · rintro ⟨p', hp', hq⟩
    obtain rfl : p = p' := by simpa [hp] using hp'
    rcases hq with hq | ⟨hscope, hq⟩
    · exact .inl hq
    · rw [if_pos hscope]
      exact .inr ((hsecond hscope).mpr hq)

theorem starts_nil (p : Pattern) : starts (untwisted (p.findAll [])).1 = [] := by
  refine List.eq_nil_iff_forall_not_mem.mpr fun start hstart => ?_
  obtain ⟨m, hm, hlt, rfl⟩ := mem_starts.mp hstart
  have hfound : m ∈ p.findAll [] := by
    have htake : m ∈ (p.findAll []).takeWhile (!·.isTwisted) := by
      simpa [untwisted, List.span_eq_takeWhile_dropWhile] using hm
    exact List.takeWhile_subset _ htake
  have hstop : m.stop ≤ 0 := (Pattern.finds_of_mem_findAll hfound).stop_le
  omega

/-- Nothing matches in a source without characters, so it needs no case of its own. -/
theorem places_lines_nil (r : Rule) : places r (lines []) = [] := by
  have hlines : lines [] = [[]] := rfl
  have htext : unlines [([] : List Char)] = [] := rfl
  rw [hlines, places]
  cases r.compiled? with
  | none => rfl
  | some p =>
    simp only [inText, htext, starts_nil, inLines, List.map_nil, ite_self, List.append_nil]
    split <;> rfl

/-- What the rules of a table find, in the order of the rules. -/
def found (t : RuleTable) (d : Dialect) (code : List Char) : List Violation :=
  (t.forDialect d).flatMap fun r => (places r (lines code)).map (Violation.ofRule r)

theorem violations_eq (t : RuleTable) (d : Dialect) (code : List Char) :
    violations t d code = (firstByKey (·.key) [] (found t d code)).mergeSort
      fun v w => v.toFinding.notAfter w.toFinding := by
  cases code with
  | nil =>
    have hfound : found t d [] = [] := by simp [found, places_lines_nil]
    simp [violations, hfound, firstByKey]
  | cons c code => rfl

theorem mem_found {t : RuleTable} {d : Dialect} {code : List Char} {v : Violation} :
    v ∈ found t d code ↔ ∃ r ∈ t.rules, r.appliesTo d = true ∧
      ∃ q ∈ places r (lines code), v = .ofRule r q := by
  simp only [found, List.mem_flatMap, List.mem_map, RuleTable.forDialect, List.mem_filter]
  constructor
  · rintro ⟨r, ⟨hr, happlies⟩, q, hq, rfl⟩
    exact ⟨r, hr, happlies, q, hq, rfl⟩
  · rintro ⟨r, hr, happlies, q, hq, rfl⟩
    exact ⟨r, ⟨hr, happlies⟩, q, hq, rfl⟩

theorem mem_keys {t : RuleTable} {d : Dialect} {code : List Char}
    {key : String × Nat × Option Nat} :
    (∃ v ∈ violations t d code, v.key = key) ↔ ∃ v ∈ found t d code, v.key = key := by
  simp only [violations_eq, List.mem_mergeSort]
  constructor
  · rintro ⟨v, hv, hkey⟩
    exact ⟨v, (firstByKey_sublist _ _ _).subset hv, hkey⟩
  · intro h
    have hmem : key ∈ (found t d code).map (·.key) := by simpa using h
    simpa using mem_map_firstByKey hmem List.not_mem_nil

theorem nodup_keys (t : RuleTable) (d : Dialect) (code : List Char) :
    ((violations t d code).map (·.key)).Nodup := by
  rw [violations_eq]
  have hperm := List.mergeSort_perm (firstByKey (·.key) [] (found t d code))
    fun v w => v.toFinding.notAfter w.toFinding
  exact (hperm.map _).nodup_iff.mpr (nodup_map_firstByKey _ _ _)

theorem toList_idOf (rule : String) (line column : Nat) :
    (Violation.idOf rule line (some column)).toList =
      (rule.toList ++ ':' :: Nat.toDigits 10 line) ++ ':' :: Nat.toDigits 10 column := by
  have hsep : ":".toList = [':'] := rfl
  simp only [Violation.idOf, Option.getD_some, toString_natCast, String.toList_append,
    toList_toString_nat, hsep, List.append_assoc, List.cons_append, List.nil_append]

/-- The name of a violation tells its rule and place, whatever the rule's own name is. -/
theorem idOf_inj {rule rule' : String} {line line' column column' : Nat}
    (h : Violation.idOf rule line (some column) = Violation.idOf rule' line' (some column')) :
    rule = rule' ∧ line = line' ∧ column = column' := by
  have hcolon : ':'.isDigit = false := rfl
  have hchars := congrArg String.toList h
  rw [toList_idOf, toList_idOf] at hchars
  obtain ⟨hfirst, hcolumn⟩ :=
    append_sep_inj (not_mem_toDigits hcolon _) (not_mem_toDigits hcolon _) hchars
  obtain ⟨hrule, hline⟩ :=
    append_sep_inj (not_mem_toDigits hcolon _) (not_mem_toDigits hcolon _) hfirst
  exact ⟨String.toList_inj.mp hrule, toDigits_inj hline, toDigits_inj hcolumn⟩

theorem mem_violations {t : RuleTable} {d : Dialect} {code : List Char} {v : Violation}
    (h : v ∈ violations t d code) : ∃ r ∈ t.rules, r.appliesTo d = true ∧
      ∃ q ∈ places r (lines code), v = .ofRule r q := by
  rw [violations_eq, List.mem_mergeSort] at h
  exact mem_found.mp ((firstByKey_sublist _ _ _).subset h)

theorem nodup_ids (t : RuleTable) (d : Dialect) (code : List Char) :
    ((violations t d code).map (·.id)).Nodup := by
  have hkeys := nodup_keys t d code
  rw [List.Nodup, List.pairwise_map] at hkeys ⊢
  refine hkeys.imp_of_mem fun {v w} hv hw hne hid => hne ?_
  obtain ⟨r, -, -, q, -, rfl⟩ := mem_violations hv
  obtain ⟨s, -, -, p, -, rfl⟩ := mem_violations hw
  obtain ⟨hrule, hline, hcolumn⟩ := idOf_inj hid
  simp only [Violation.ofRule, Finding.key, hrule, hline, hcolumn]

end Enforce

/-- The order of reports, spelled out. -/
theorem Finding.notAfter_iff (f g : Finding) : f.notAfter g = true ↔
    g.severity.rank < f.severity.rank ∨ g.severity.rank = f.severity.rank ∧
      (f.line < g.line ∨ f.line = g.line ∧
        (f.column.getD 0 < g.column.getD 0 ∨ f.column.getD 0 = g.column.getD 0 ∧
          f.rule ≤ g.rule)) := by
  unfold Finding.notAfter
  split_ifs with hrank hline hcolumn <;> grind

theorem Finding.notAfter_trans (f g h : Finding) (hfg : f.notAfter g = true)
    (hgh : g.notAfter h = true) : f.notAfter h = true := by
  rw [Finding.notAfter_iff] at *
  have hrule : f.rule ≤ g.rule → g.rule ≤ h.rule → f.rule ≤ h.rule := String.le_trans
  grind

theorem Finding.notAfter_total (f g : Finding) : (f.notAfter g || g.notAfter f) = true := by
  rw [Bool.or_eq_true, Finding.notAfter_iff, Finding.notAfter_iff]
  have hrule := String.le_total f.rule g.rule
  grind

namespace Enforce

theorem violations_sorted (t : RuleTable) (d : Dialect) (code : List Char) :
    (violations t d code).Pairwise fun v w => v.toFinding.notAfter w.toFinding = true := by
  rw [violations_eq]
  exact List.pairwise_mergeSort (fun u v w => Finding.notAfter_trans u.toFinding _ w.toFinding)
    (fun v w => Finding.notAfter_total v.toFinding w.toFinding) _

theorem key_ofRule (r : Rule) (q : Position) :
    (Violation.ofRule r q).key = (r.id, q.line, some q.column) := rfl

/-- Some rule of the name is reported at a place if and only if one of the table matches there. -/
theorem mem_keys_iff_matchesAt {t : RuleTable} {d : Dialect} {code : List Char} {id : String}
    (h : ∀ r ∈ t.rules, r.id = id → r.appliesTo d = true → r.Completes (lines code))
    (q : Position) :
    (∃ v ∈ violations t d code, v.key = (id, q.line, some q.column)) ↔
      ∃ r ∈ t.rules, r.id = id ∧ r.appliesTo d = true ∧ r.MatchesAt (lines code) q := by
  rw [mem_keys]
  constructor
  · rintro ⟨v, hv, hkey⟩
    obtain ⟨r, hr, happlies, q', hq', rfl⟩ := mem_found.mp hv
    rw [key_ofRule] at hkey
    obtain ⟨rfl, hplace⟩ := Prod.mk.inj hkey
    obtain ⟨hline, hcolumn⟩ := Prod.mk.inj hplace
    obtain rfl : q' = q := by
      cases q'
      cases q
      simp_all
    exact ⟨r, hr, rfl, happlies, (mem_places (h r hr rfl happlies) _).mp hq'⟩
  · rintro ⟨r, hr, rfl, happlies, hmatch⟩
    have hq := (mem_places (h r hr rfl happlies) q).mpr hmatch
    exact ⟨.ofRule r q, mem_found.mpr ⟨r, hr, happlies, q, hq, rfl⟩, rfl⟩

/-- For every table, dialect and source. A rule is reported at a place if and only if the table
holds it, it applies to the dialect and it has a match with characters that starts there; this for
the names of rules whose search goes through. Every report is that of a rule of the table at a
place; no rule is reported twice at a place; no two reports share their name; and the reports stand
by severity, the most serious first, then by line, column and rule. -/
theorem violations_exact (t : RuleTable) (d : Dialect) (code : List Char) :
    (∀ id, (∀ r ∈ t.rules, r.id = id → r.appliesTo d = true → r.Completes (lines code)) →
      ∀ q : Position, (∃ v ∈ violations t d code, v.key = (id, q.line, some q.column)) ↔
        ∃ r ∈ t.rules, r.id = id ∧ r.appliesTo d = true ∧ r.MatchesAt (lines code) q) ∧
    (∀ v ∈ violations t d code, ∃ r ∈ t.rules, r.appliesTo d = true ∧ ∃ q, v = .ofRule r q ∧
      (r.Completes (lines code) → r.MatchesAt (lines code) q)) ∧
    ((violations t d code).map (·.key)).Nodup ∧
    ((violations t d code).map (·.id)).Nodup ∧
    (violations t d code).Pairwise fun v w =>
      w.severity.rank < v.severity.rank ∨ w.severity.rank = v.severity.rank ∧
        (v.line < w.line ∨ v.line = w.line ∧
          (v.column.getD 0 < w.column.getD 0 ∨ v.column.getD 0 = w.column.getD 0 ∧
            v.rule ≤ w.rule)) := by
  refine ⟨fun id h q => mem_keys_iff_matchesAt h q, ?_, nodup_keys t d code, nodup_ids t d code, ?_⟩
  · intro v hv
    obtain ⟨r, hr, happlies, q, hq, rfl⟩ := mem_violations hv
    exact ⟨r, hr, happlies, q, rfl, fun h => (mem_places h q).mp hq⟩
  · exact (violations_sorted t d code).imp fun {v w} h => (Finding.notAfter_iff _ _).mp h

theorem violations_exact_run :
    let r : Rule :=
      { id := "run", name := "Run", category := .naming, severity := .info, pattern := "a+"
        scope := .text, message := "Run", dialects := [.sql] }
    let code := "b\naa".toList
    r.Completes (lines code) ∧ r.MatchesAt (lines code) ⟨2, 0⟩ ∧
      ∃ v ∈ violations ⟨[r]⟩ .sql code, v.key = ("run", 2, some 0) := by
  intro r code
  obtain ⟨p, hp⟩ : ∃ p, r.compiled? = some p := Option.isSome_iff_exists.mp (by decide +kernel)
  have hall : r.compiled?.all (fun p => (unlines (lines code) :: lines code).all fun line =>
      (p.findAll line).all (!·.isTwisted)) = true := by decide +kernel
  have hfirst : r.compiled?.all (fun p => (p.findAll "aa".toList).any fun m =>
      decide (m.start < m.stop) && m.start == 0) = true := by decide +kernel
  rw [hp, Option.all_some] at hall hfirst
  simp only [List.all_cons, List.all_eq_true, Bool.and_eq_true, Bool.not_eq_true'] at hall
  obtain ⟨m, hm, hstart⟩ := List.any_eq_true.mp hfirst
  obtain ⟨hlt, hzero⟩ := Bool.and_eq_true_iff.mp hstart
  have hcompletes : r.Completes (lines code) := ⟨p, hp, hall.2, fun _ => hall.1⟩
  have hmatches : r.MatchesAt (lines code) ⟨2, 0⟩ :=
    ⟨p, hp, .inl ⟨by decide, "aa".toList, m, by decide +kernel, hm, of_decide_eq_true hlt,
      beq_iff_eq.mp hzero⟩⟩
  refine ⟨hcompletes, hmatches, ?_⟩
  refine ((violations_exact ⟨[r]⟩ .sql code).1 "run" ?_ ⟨2, 0⟩).mpr
    ⟨r, List.mem_singleton_self r, rfl, by decide, hmatches⟩
  rintro s hs - -
  exact List.mem_singleton.mp hs ▸ hcompletes

end Enforce

end CampaignCheck

import CampaignCheck.Proofs.Fix.Idempotence
import CampaignCheck.Proofs.Fix.Semicolons

namespace CampaignCheck

namespace Text

/-- The text without the characters at some offsets. -/
def without (positions : List Nat) (cs : List Char) : List Char := Fix.substitute positions [] cs

section Without

variable {positions others : List Nat}

theorem without_cons_from (positions : List Nat) (i : Nat) (c : Char) (cs : List Char) :
    Fix.substituteFrom positions [] i (c :: cs) =
      if i ∈ positions then Fix.substituteFrom positions [] (i + 1) cs
      else c :: Fix.substituteFrom positions [] (i + 1) cs := by
  by_cases hi : i ∈ positions <;> simp [Fix.substituteFrom, hi]

theorem without_nil (cs : List Char) : without [] cs = cs := by
  have hfrom (i : Nat) : Fix.substituteFrom [] [] i cs = cs := by
    induction cs generalizing i with
    | nil => rfl
    | cons c cs ih => rw [without_cons_from, ih, if_neg List.not_mem_nil]
  exact hfrom 0

theorem without_congr (cs : List Char) (h : ∀ p, p ∈ positions ↔ p ∈ others) :
    without positions cs = without others cs := by
  have hfrom (i : Nat) (cs : List Char) :
      Fix.substituteFrom positions [] i cs = Fix.substituteFrom others [] i cs := by
    induction cs generalizing i with
    | nil => rfl
    | cons c cs ih => rw [without_cons_from, without_cons_from, ih, if_congr (h i) rfl rfl]
  exact hfrom 0 cs

/-- What is repeated once on the spot can be taken out again. -/
theorem without_stretch {k : Nat → Nat} (honce : ∀ i, k i ≤ 1)
    (h : ∀ p, p ∈ positions ↔ ∃ i, p = placeOf k i ∧ 0 < k i) (cs : List Char) :
    without positions (stretch k cs) = cs := by
  have hfrom (i : Nat) (cs : List Char) :
      Fix.substituteFrom positions [] (placeOf k i) (stretch (fun j => k (i + j)) cs) = cs := by
    induction cs generalizing i with
    | nil => rfl
    | cons c cs ih =>
      have hstay {p : Nat} (hlt : placeOf k i < p) (hlast : p ≤ placeOf k i + k i) :
          p ∉ positions := by
        intro hp
        obtain ⟨j, rfl, -⟩ := (h p).mp hp
        have hij := placeOf_lt_iff.mp hlt
        have hplace := placeOf_lt (k := k) hij
        omega
      have hhere : placeOf k i ∈ positions ↔ 0 < k i := by
        rw [h]
        constructor
        · rintro ⟨j, hplace, hpos⟩
          have hij : i = j := by
            have hle := placeOf_le_iff.mp (Nat.le_of_eq hplace)
            have hge := placeOf_le_iff.mp (Nat.le_of_eq hplace.symm)
            omega
          exact hij ▸ hpos
        · exact fun hpos => ⟨i, rfl, hpos⟩
      rw [stretch_from_cons]
      have hnext := ih (i + 1)
      rw [placeOf] at hnext
      rcases Nat.le_one_iff_eq_zero_or_eq_one.mp (honce i) with hzero | hone
      · have hnot : placeOf k i ∉ positions := by
          rw [hhere]
          omega
        rw [hzero] at hnext ⊢
        rw [List.replicate_one, List.singleton_append, without_cons_from, if_neg hnot, hnext]
      · have hmem : placeOf k i ∈ positions := by
          rw [hhere]
          omega
        rw [hone] at hnext ⊢
        rw [List.replicate_succ, List.replicate_one, List.cons_append, List.singleton_append,
          without_cons_from, if_pos hmem, without_cons_from,
          if_neg (hstay (Nat.lt_succ_self _) (by omega)), hnext]
  have hall := hfrom 0 cs
  simp only [Nat.zero_add, placeOf] at hall
  exact hall

section More

variable (hsub : ∀ p ∈ others, p ∈ positions)
include hsub

theorem length_substituteFrom_le (i : Nat) (cs : List Char) :
    (Fix.substituteFrom positions [] i cs).length ≤
      (Fix.substituteFrom others [] i cs).length := by
  induction cs generalizing i with
  | nil => exact Nat.le_refl _
  | cons c cs ih =>
    have hrest := ih (i + 1)
    rw [without_cons_from, without_cons_from]
    by_cases ho : i ∈ others
    · rwa [if_pos (hsub i ho), if_pos ho]
    · rw [if_neg ho, List.length_cons]
      split_ifs
      · exact Nat.le_succ_of_le hrest
      · exact Nat.succ_le_succ hrest

/-- Less is left where more is taken out. -/
theorem length_without_lt {cs : List Char} {p : Nat} (hp : p ∈ positions) (hnot : p ∉ others)
    (hlt : p < cs.length) : (without positions cs).length < (without others cs).length := by
  have hfrom (i : Nat) (cs : List Char) (hi : i ≤ p) (hlt : p < i + cs.length) :
      (Fix.substituteFrom positions [] i cs).length <
        (Fix.substituteFrom others [] i cs).length := by
    induction cs generalizing i with
    | nil =>
      rw [List.length_nil] at hlt
      omega
    | cons c cs ih =>
      rw [without_cons_from, without_cons_from]
      rw [List.length_cons] at hlt
      rcases Nat.eq_or_lt_of_le hi with rfl | hbehind
      · rw [if_pos hp, if_neg hnot, List.length_cons]
        exact Nat.lt_succ_of_le (length_substituteFrom_le hsub _ _)
      · have hrest := ih (i + 1) hbehind (by omega)
        by_cases ho : i ∈ others
        · rwa [if_pos (hsub i ho), if_pos ho]
        · rw [if_neg ho, List.length_cons]
          split_ifs
          · exact Nat.lt_succ_of_lt hrest
          · exact Nat.succ_lt_succ hrest
  exact hfrom 0 cs (Nat.zero_le p) (by omega)

/-- Blanks that are taken out do not show. -/
theorem filter_without {cs : List Char}
    (hblank : ∀ p ∈ positions, p ∉ others → ∀ c, cs[p]? = some c → c = ' ') :
    (without positions cs).filter (· ≠ ' ') = (without others cs).filter (· ≠ ' ') := by
  have hfrom (i : Nat) (cs : List Char)
      (hblank : ∀ p ∈ positions, p ∉ others → ∀ c, i ≤ p → cs[p - i]? = some c → c = ' ') :
      (Fix.substituteFrom positions [] i cs).filter (· ≠ ' ') =
        (Fix.substituteFrom others [] i cs).filter (· ≠ ' ') := by
    induction cs generalizing i with
    | nil => rfl
    | cons c cs ih =>
      have hrest := ih (i + 1) fun p hp hnot d hle hd => by
        refine hblank p hp hnot d (by omega) ?_
        have hshift : p - i = p - (i + 1) + 1 := by omega
        rw [hshift, List.getElem?_cons_succ]
        exact hd
      rw [without_cons_from, without_cons_from]
      by_cases hp : i ∈ positions
      · by_cases ho : i ∈ others
        · rw [if_pos hp, if_pos ho, hrest]
        · have hc : c = ' ' := hblank i hp ho c (Nat.le_refl i) (by simp)
          rw [if_pos hp, if_neg ho, hrest, List.filter_cons_of_neg (by simp [hc])]
      · have ho : i ∉ others := fun ho => hp (hsub i ho)
        rw [if_neg hp, if_neg ho, List.filter_cons, List.filter_cons, hrest]
  exact hfrom 0 cs fun p hp hnot c _ hc => hblank p hp hnot c hc

end More

end Without

end Text

namespace Sql

open Text Pattern Mask

theorem Doubled.not_next {cs : List Char} {pos : Nat} (h : Doubled cs pos) :
    ¬ Doubled cs (pos + 1) := by
  intro hnext
  have hsign : sees (.chars "<>!=") cs pos = true := by
    rw [sees, h.first]
    decide
  have hbefore := hnext.before
  rw [preceded, hsign] at hbefore
  cases hbefore

theorem apart_doubleEquals (cs : List Char) : doubleEquals.Apart cs := by
  intro pos stop h
  obtain ⟨hd, rfl⟩ := hit?_doubleEquals.mp h
  refine ⟨by omega, fun q hq hq' => ?_⟩
  obtain rfl : q = pos + 1 := by omega
  cases hhit : doubleEquals.hit? cs (pos + 1) with
  | none => rfl
  | some s => exact absurd (hit?_doubleEquals.mp hhit).1 hd.not_next

/-- Where a text has a doubled equals sign. -/
def doubledPlaces (cs : List Char) : List Nat := (doubleEquals.findAll cs).map (·.start)

theorem mem_doubledPlaces {cs : List Char} {pos : Nat} :
    pos ∈ doubledPlaces cs ↔ Doubled cs pos := by
  have hiff (stop : Nat) : (∃ m ∈ doubleEquals.findAll cs, m.start = pos ∧ m.stop = stop) ↔
      pos ≤ cs.length ∧ doubleEquals.hit? cs pos = some stop :=
    mem_findAll_iff simple_doubleEquals (apart_doubleEquals cs)
  rw [doubledPlaces, List.mem_map]
  constructor
  · rintro ⟨m, hm, rfl⟩
    exact (hit?_doubleEquals.mp ((hiff m.stop).mp ⟨m, hm, rfl, rfl⟩).2).1
  · intro hd
    have hlt := (List.getElem?_eq_some_iff.mp hd.first).1
    obtain ⟨m, hm, hstart, -⟩ :=
      (hiff (pos + 2)).mpr ⟨Nat.le_of_lt hlt, hit?_doubleEquals.mpr ⟨hd, rfl⟩⟩
    exact ⟨m, hm, hstart⟩

theorem hasDoubled_iff {cs : List Char} : HasDoubled cs ↔ doubledPlaces cs ≠ [] := by
  constructor
  · rintro ⟨pos, hd⟩ hnil
    have hmem := mem_doubledPlaces.mpr hd
    rw [hnil] at hmem
    cases hmem
  · intro hne
    obtain ⟨pos, hpos⟩ := List.exists_mem_of_ne_nil _ hne
    exact ⟨pos, mem_doubledPlaces.mp hpos⟩

/-- One sign of every doubled one goes, in the line and in its masked form alike. -/
theorem squeezed_eq_without {c : Context} (hc : c.Of (.of .sql)) (line : List Char) :
    squeezed line = without (doubledPlaces line) line ∧
      inside (.of .sql) c (squeezed line) =
        without (doubledPlaces line) (inside (.of .sql) c line) := by
  obtain ⟨k, hstretch, helastic, honce, htwice⟩ := exists_squeezed line
  have hplaces (p : Nat) : p ∈ doubledPlaces line ↔ ∃ i, p = placeOf k i ∧ 0 < k i := by
    rw [mem_doubledPlaces]
    constructor
    · intro hd
      obtain ⟨i, r, hr, rfl⟩ := exists_placeOf k p
      have hle := honce i
      obtain rfl | ⟨rfl, hone⟩ : r = 0 ∨ r = 1 ∧ k i = 1 := by omega
      · exact ⟨i, rfl, (htwice i).mpr hd⟩
      · exact absurd hd ((htwice i).mp (by omega)).not_next
    · rintro ⟨i, rfl, hpos⟩
      exact (htwice i).mp hpos
  constructor
  · have htaken := without_stretch honce hplaces (squeezed line)
    rwa [hstretch, eq_comm] at htaken
  · have htaken := without_stretch honce hplaces (inside (.of .sql) c (squeezed line))
    rwa [← inside_stretch (Lexicon.of_skipsBlanks .sql) (Lexicon.of_ignoresPliant .sql) hc
      helastic.pliant, hstretch, eq_comm] at htaken

/-- The line without the characters at some places. -/
def takenOut (positions : List Nat) (l : Line) : Line :=
  ⟨l.number, without positions l.raw, without positions l.masked⟩

/-- The line with one equals sign for two in its code, and with its literals and comments as they
are. -/
def repaired (l : Line) : Line := takenOut (doubledPlaces l.masked) l

/-- The line as a pass leaves it. The code decides whether it is touched, but not where. -/
def touched (l : Line) : Line :=
  if doubledPlaces l.masked = [] then l else takenOut (doubledPlaces l.raw) l

/-- A literal or a comment in the line has a doubled equals sign. -/
def HidesDoubled (l : Line) : Prop := ∃ pos, Doubled l.raw pos ∧ l.masked[pos]? ≠ some '='

/-- Lines that are masked as those of a query. -/
structure MaskedLine (l : Line) : Prop where
  doubled_iff : ∀ pos, Doubled l.masked pos ↔ Doubled l.raw pos ∧ l.masked[pos]? = some '='
  shows : Shows l.masked l.raw

theorem maskedLine_of_mem {code : List Char} {l : Line}
    (hl : l ∈ (MaskedSource.ofCode .sql code).lines) : MaskedLine l := by
  obtain ⟨i, raw, -, rfl⟩ := exists_of_mem_lines hl
  exact ⟨fun pos => doubled_inside_iff (of_before _ _ i), inside_shows _ _ raw⟩

section Line

variable {l : Line} (h : MaskedLine l)
include h

theorem MaskedLine.mem_raw {p : Nat} (hp : p ∈ doubledPlaces l.masked) : p ∈ doubledPlaces l.raw :=
  mem_doubledPlaces.mpr ((h.doubled_iff p).mp (mem_doubledPlaces.mp hp)).1

/-- A line becomes what it should unless it is touched in a literal or a comment. -/
theorem MaskedLine.touched_eq_iff :
    touched l = repaired l ↔ (HasDoubled l.masked → ¬HidesDoubled l) := by
  rw [hasDoubled_iff, touched, repaired]
  by_cases hnil : doubledPlaces l.masked = []
  · rw [if_pos hnil, hnil, takenOut, without_nil, without_nil]
    exact iff_of_true rfl fun hne => absurd rfl hne
  · rw [if_neg hnil]
    constructor
    · rintro hsame - ⟨pos, hd, hhidden⟩
      have hnot : pos ∉ doubledPlaces l.masked := by
        rw [mem_doubledPlaces, h.doubled_iff]
        exact fun hboth => hhidden hboth.2
      have hlt := length_without_lt (fun p => h.mem_raw) (mem_doubledPlaces.mpr hd) hnot
        (List.getElem?_eq_some_iff.mp hd.first).1
      have hraw := congrArg (fun l : Line => l.raw.length) hsame
      simp only [takenOut] at hraw
      omega
    · intro hshown
      have hplaces (p : Nat) : p ∈ doubledPlaces l.raw ↔ p ∈ doubledPlaces l.masked := by
        refine ⟨fun hp => ?_, h.mem_raw⟩
        rw [mem_doubledPlaces] at hp ⊢
        refine (h.doubled_iff p).mpr ⟨hp, ?_⟩
        by_contra hne
        exact hshown hnil ⟨p, hp, hne⟩
      rw [takenOut, takenOut, without_congr l.raw hplaces, without_congr l.masked hplaces]

/-- The code that shows becomes what it should in any case. -/
theorem MaskedLine.filter_touched :
    (touched l).masked.filter (· ≠ ' ') = (repaired l).masked.filter (· ≠ ' ') := by
  rw [touched, repaired]
  by_cases hnil : doubledPlaces l.masked = []
  · rw [if_pos hnil, hnil, takenOut, without_nil, without_nil]
  · rw [if_neg hnil]
    refine filter_without (fun p => h.mem_raw) fun p hp hnot c hc => ?_
    rw [mem_doubledPlaces] at hp hnot
    by_contra hne
    have hraw := h.shows.getElem?_of_ne hne hc
    rw [hp.first, Option.some.injEq] at hraw
    exact hnot ((h.doubled_iff p).mpr ⟨hp, by rw [hc, hraw]⟩)

end Line

theorem findingsOn_doubled (code : List Char) :
    sqlValidator.findingsOn "sql-double-equals" code =
      .ok ((checks code).filter fun f => f.rule == "sql-double-equals") := rfl

section Pass

variable {code : List Char} {fs : List Finding}
  (hfs : ∀ f, f ∈ fs ↔ f ∈ checks code ∧ f.rule = "sql-double-equals")
include hfs

/-- A line is fixed if its code has a doubled equals sign, and then as a whole. -/
theorem run_doubled_getElem? {i : Nat} {line : List Char} (hline : (lines code)[i]? = some line) :
    (Fix.run fixers code fs).lines[i]? =
      some (if doubledPlaces (inside (.of .sql) (before (.of .sql) (lines code) i) line) = []
        then line else squeezed line) := by
  have hfound : (∃ f ∈ fs, f.line = i + 1) ↔
      doubledPlaces (inside (.of .sql) (before (.of .sql) (lines code) i) line) ≠ [] := by
    rw [← hasDoubled_iff, ← reads code i line hline]
    simp only [hfs, and_assoc]
  rw [Fix.run_lines, hline, Option.map_some]
  rcases Fix.turnsOn_of_rule (fun f hf => ((hfs f).mp hf).2) (i + 1) with
    hnil | ⟨f, hf, hplace, hone⟩
  · have hnone : ¬∃ f ∈ fs, f.line = i + 1 := by
      rintro ⟨f, hf, hplace⟩
      obtain ⟨g, hg, -⟩ := Fix.exists_mem_turnsOn hf
      rw [hplace, hnil] at hg
      cases hg
    rw [hfound, not_not] at hnone
    rw [hnil, if_pos hnone, List.foldl_nil]
  · rw [if_neg (hfound.mp ⟨f, hf, hplace⟩), hone, List.foldl_cons, List.foldl_nil]
    rcases rewrite_cases f line with ⟨-, h⟩ | ⟨hother, -⟩
    · rw [h]
    · exact absurd ((hfs f).mp hf).2 hother

theorem lines_run_doubled :
    (MaskedSource.ofCode .sql (Fix.text (Fix.run fixers code fs))).lines =
      (MaskedSource.ofCode .sql code).lines.map touched := by
  refine List.ext_getElem? fun i => ?_
  rw [List.getElem?_map, lines_getElem?, lines_getElem?, settling.lines_text]
  cases hline : (lines code)[i]? with
  | none =>
    rw [Fix.run_lines, hline]
    rfl
  | some line =>
    have hc := of_before (.of .sql) (lines code) i
    have hsame (line' : List Char) :
        inside (.of .sql) (before (.of .sql) (Fix.run fixers code fs).lines i) line' =
          inside (.of .sql) (before (.of .sql) (lines code) i) line' := by
      have hlike := settling.before_text code fs i
      rw [settling.lines_text] at hlike
      exact inside_like (Lexicon.of_skipsBlanks .sql) (Lexicon.of_ignoresPliant .sql) hc hlike line'
    rw [run_doubled_getElem? hfs hline, Option.map_some, Option.map_some, Option.map_some, hsame,
      touched]
    split_ifs
    · rfl
    · rw [(squeezed_eq_without hc line).2, (squeezed_eq_without hc line).1]
      rfl

end Pass

end Sql

open Sql Mask in
/-- A pass for doubled equals signs takes one sign out of every doubled one in the lines whose code
has one. So it puts the operators right, and keeps literals and comments just if none of these lines
has a doubled equals sign in a literal or in a comment. -/
theorem doubled_equals_fixed_by_line (code : List Char) :
    ∃ fs, sqlValidator.findingsOn "sql-double-equals" code = .ok fs ∧
      (MaskedSource.ofCode .sql (Fix.text (sqlValidator.applyFixes code fs))).lines =
        (MaskedSource.ofCode .sql code).lines.map touched ∧
      (∀ l ∈ (MaskedSource.ofCode .sql code).lines,
        (touched l).masked.filter (· ≠ ' ') = (repaired l).masked.filter (· ≠ ' ')) ∧
      ((MaskedSource.ofCode .sql (Fix.text (sqlValidator.applyFixes code fs))).lines =
          (MaskedSource.ofCode .sql code).lines.map repaired ↔
        ∀ l ∈ (MaskedSource.ofCode .sql code).lines, HasDoubled l.masked → ¬HidesDoubled l) := by
  let fs := (checks code).filter fun f => f.rule == "sql-double-equals"
  have hlines : (MaskedSource.ofCode .sql (Fix.text (sqlValidator.applyFixes code fs))).lines =
      (MaskedSource.ofCode .sql code).lines.map touched := lines_run_doubled (by simp [fs])
  refine ⟨fs, findingsOn_doubled code, hlines, ?_, ?_⟩
  · exact fun l hl => (maskedLine_of_mem hl).filter_touched
  · rw [hlines, List.map_inj_left]
    exact forall₂_congr fun l hl => (maskedLine_of_mem hl).touched_eq_iff

def doubledSign (line column : Nat) : Finding :=
  .report line (some column) "sql-double-equals" "SQL compares with =, not =="
    .syntactic .error "Replace == with ="

theorem doubled_equals_fixed_in_literal :
    ∃ fs, sqlValidator.findingsOn "sql-double-equals"
        "SELECT a FROM t WHERE a == 'x==y'".toList = .ok fs ∧
      Fix.text (sqlValidator.applyFixes "SELECT a FROM t WHERE a == 'x==y'".toList fs) =
        "SELECT a FROM t WHERE a = 'x=y'".toList := by
  have hfound : sqlValidator.findingsOn "sql-double-equals"
      "SELECT a FROM t WHERE a == 'x==y'".toList = .ok [doubledSign 1 24] := by
    decide +kernel
  refine ⟨_, hfound, ?_⟩
  rw [Validator.applyFixes, Fix.run, Fix.order, List.mergeSort_singleton]
  decide +kernel

end CampaignCheck

import CampaignCheck.Proofs.Fix.Semicolons
import CampaignCheck.Proofs.Script.Stretched

namespace CampaignCheck

open Text Mask

/-- The part of a source that a view shows, masked line by line beside the raw lines. -/
def shownLines (d : Dialect) (view : List (List Char) → List (List Char)) (code : List Char) :
    List Line :=
  List.zipWith (fun (l : Line) raw => { l with raw := raw })
    (MaskedSource.ofLines (.of d) (view (lines code))).lines (lines code)

/-- The masked form of a line of a view. -/
def maskedAt (d : Dialect) (views : List (List Char)) (i : Nat) (v : List Char) : List Char :=
  inside (.of d) (before (.of d) views i) v

theorem mem_shownLines {d : Dialect} {view : List (List Char) → List (List Char)}
    {code : List Char} {l : Line} : l ∈ shownLines d view code ↔
      ∃ i v raw, (view (lines code))[i]? = some v ∧ (lines code)[i]? = some raw ∧
        l = ⟨i + 1, raw, maskedAt d (view (lines code)) i v⟩ := by
  rw [shownLines, List.mem_iff_getElem?]
  refine exists_congr fun i => ?_
  rw [List.getElem?_zipWith, Fix.ofLines_getElem?]
  cases hv : (view (lines code))[i]? with
  | none => simp
  | some v =>
    cases hraw : (lines code)[i]? with
    | none => simp
    | some raw => simp [maskedAt, eq_comm]

theorem number_pos_of_mem_shownLines {d : Dialect} {view : List (List Char) → List (List Char)}
    {code : List Char} {l : Line} (h : l ∈ shownLines d view code) : 0 < l.number := by
  obtain ⟨i, v, raw, -, -, rfl⟩ := mem_shownLines.mp h
  exact Nat.succ_pos i

/-- Where the view is the source, its lines are those of the masked source. -/
theorem shownLines_id (d : Dialect) (code : List Char) :
    shownLines d id code = (MaskedSource.ofCode d code).lines := by
  refine List.ext_getElem? fun i => ?_
  rw [shownLines, List.getElem?_zipWith, Fix.ofLines_getElem?, id, MaskedSource.ofCode,
    Fix.ofLines_getElem?]
  cases (lines code)[i]? <;> rfl

namespace Fix

/-- The findings of a rule are those lines in whose masked form some sign is flagged. -/
structure Watches (v : Validator) (rule : String) (source : List Char → List Line)
    (flags : List Char → Nat → Prop) : Prop where
  grammar : ∀ code, ∃ found, v.grammar code = .ok found ∧
    ∀ n, (∃ f ∈ found, f.rule = rule ∧ f.line = n) ↔
      ∃ l ∈ source code, l.number = n ∧ ∃ pos, flags l.masked pos
  findingsOn : ∀ code, ∃ fs, v.findingsOn rule code = .ok fs ∧ (∀ f ∈ fs, f.rule = rule) ∧
    ∀ n, (∃ f ∈ fs, f.line = n) ↔ ∃ l ∈ source code, l.number = n ∧ ∃ pos, flags l.masked pos

/-- Findings of one check of single lines that flags signs are those lines in which it flags one. -/
theorem Watches.of_lines {v : Validator} {rule : String} {source : List Char → List Line}
    {flags : List Char → Nat → Prop} {grammar meaning : List Char → List Finding}
    (check : Line → List Finding) (hgrammar : ∀ code, v.grammar code = .ok (grammar code))
    (hmeaning : ∀ code, v.meaning code = .ok (meaning code))
    (hchecks : ∀ code f, (f ∈ grammar code ++ meaning code ∧ f.rule = rule) ↔
      ∃ l ∈ source code, f ∈ check l)
    (hfound : ∀ code, ∀ l ∈ source code, ∀ f ∈ check l, f ∈ grammar code)
    (hline : ∀ l, ∀ f ∈ check l, f.line = max 1 l.number)
    (hnumber : ∀ code, ∀ l ∈ source code, 0 < l.number)
    (hflags : ∀ l, (∃ f, f ∈ check l) ↔ ∃ pos, flags l.masked pos) :
    Watches v rule source flags := by
  have hreads (code : List Char) (n : Nat) : (∃ l ∈ source code, ∃ f ∈ check l, f.line = n) ↔
      ∃ l ∈ source code, l.number = n ∧ ∃ pos, flags l.masked pos := by
    refine exists_congr fun l => and_congr_right fun hl => ?_
    have hpos := hnumber code l hl
    rw [← hflags]
    constructor
    · rintro ⟨f, hf, rfl⟩
      exact ⟨by rw [hline l f hf]; omega, f, hf⟩
    · rintro ⟨rfl, f, hf⟩
      exact ⟨f, hf, by rw [hline l f hf]; omega⟩
  constructor
  case grammar =>
    refine fun code => ⟨_, hgrammar code, fun n => Iff.trans ?_ (hreads code n)⟩
    constructor
    · rintro ⟨f, hf, hrule, hplace⟩
      obtain ⟨l, hl, hmem⟩ := (hchecks code f).mp ⟨List.mem_append_left _ hf, hrule⟩
      exact ⟨l, hl, f, hmem, hplace⟩
    · rintro ⟨l, hl, f, hf, hplace⟩
      exact ⟨f, hfound code l hl f hf, ((hchecks code f).mpr ⟨l, hl, hf⟩).2, hplace⟩
  case findingsOn =>
    refine fun code => ⟨(grammar code ++ meaning code).filter fun f => f.rule == rule, ?_,
      fun f hf => eq_of_beq (List.mem_filter.mp hf).2, fun n => Iff.trans ?_ (hreads code n)⟩
    · rw [Validator.findingsOn, hgrammar, hmeaning]
      rfl
    · simp only [List.mem_filter, beq_iff_eq, hchecks]
      constructor
      · rintro ⟨f, ⟨l, hl, hf⟩, hplace⟩
        exact ⟨l, hl, f, hf, hplace⟩
      · rintro ⟨l, hl, f, hf, hplace⟩
        exact ⟨f, ⟨l, hl, hf⟩, hplace⟩

/-- The fixer of a rule repeats the signs that are first in the line when it is masked alone, each
`more` times, and repeating signs takes the flags from these and from no others. -/
structure RepeatsFirst (v : Validator) (rule : String) (d : Dialect) (more : Nat)
    (flags first : List Char → Nat → Prop) : Prop where
  rewrites : ∀ raw f, f.rule = rule → ∃ k, rewrite v.fixers raw f = stretch k raw ∧
    Elastic k raw ∧ ∀ j, (k j = 0 ∨ k j = more) ∧ (0 < k j ↔ first (alone (.of d) raw) j)
  moves : ∀ k cs, Pliant k cs → ∀ pos,
    flags (stretch k cs) pos ↔ ∃ i, pos = placeOf k i ∧ k i = 0 ∧ flags cs i

/-- What a pass for the findings of one rule repeats: in the lines with a finding the signs that are
first in them, and nothing else. -/
structure Repeated (d : Dialect) (more : Nat) (first : List Char → Nat → Prop) (code : List Char)
    (fs : List Finding) (fixed : Fixed) (ks : Nat → Nat → Nat) : Prop where
  lines_eq : fixed.lines = (lines code).mapIdx fun i raw => stretch (ks i) raw
  elastic : ∀ i raw, (lines code)[i]? = some raw → Elastic (ks i) raw
  count : ∀ i raw, (lines code)[i]? = some raw → ∀ j, (ks i j = 0 ∨ ks i j = more) ∧
    (0 < ks i j ↔ (∃ f ∈ fs, f.line = i + 1) ∧ first (alone (.of d) raw) j)

/-- A pass for the findings of a rule leaves it to be found in just the lines that have a flagged
sign which is not first when the line is masked alone. -/
structure LeavesOthers (v : Validator) (rule : String) (d : Dialect) (source : List Line)
    (flags first : List Char → Nat → Prop) (code : List Char) (fs found : List Finding) : Prop where
  findingsOn : v.findingsOn rule code = .ok fs
  grammar : v.grammar (text (v.applyFixes code fs)) = .ok found
  lines : ∀ n, (∃ f ∈ found, f.rule = rule ∧ f.line = n) ↔
    ∃ l ∈ source, l.number = n ∧ ∃ pos, flags l.masked pos ∧ ¬ first (alone (.of d) l.raw) pos
  cleared : (∀ f ∈ found, f.rule ≠ rule) ↔
    ∀ l ∈ source, ∀ pos, flags l.masked pos → first (alone (.of d) l.raw) pos

section Pass

variable {v : Validator} {rule : String} {d : Dialect} {more : Nat}
  {flags first : List Char → Nat → Prop}

theorem RepeatsFirst.exists_repeated (h : RepeatsFirst v rule d more flags first)
    {fs : List Finding} (hfs : ∀ f ∈ fs, f.rule = rule) (code : List Char) :
    ∃ ks, Repeated d more first code fs (v.applyFixes code fs) ks := by
  have hline (i : Nat) (raw : List Char) : ∃ k,
      (turnsOn fs (i + 1)).foldl (rewrite v.fixers) raw = stretch k raw ∧ Elastic k raw ∧
        ∀ j, (k j = 0 ∨ k j = more) ∧
          (0 < k j ↔ (∃ f ∈ fs, f.line = i + 1) ∧ first (alone (.of d) raw) j) := by
    rcases turnsOn_of_rule hfs (i + 1) with hnil | ⟨f, hf, hplace, hone⟩
    · have hnone : ¬ ∃ f ∈ fs, f.line = i + 1 := by
        rintro ⟨f, hf, hplace⟩
        obtain ⟨g, hg, -⟩ := exists_mem_turnsOn hf
        rw [hplace, hnil] at hg
        cases hg
      exact ⟨fun _ => 0, by rw [hnil, stretch_zero]; rfl, .zero raw, by simp [hnone]⟩
    · obtain ⟨k, hk, helastic, hcount⟩ := h.rewrites raw f (hfs f hf)
      have hflagged : ∃ f ∈ fs, f.line = i + 1 := ⟨f, hf, hplace⟩
      refine ⟨k, by rw [hone]; exact hk, helastic, fun j => ⟨(hcount j).1, ?_⟩⟩
      rw [(hcount j).2, and_iff_right hflagged]
  choose ks hks using hline
  refine ⟨fun i => ks i ((lines code)[i]?.getD []), ?_, ?_, ?_⟩
  · refine List.ext_getElem? fun i => ?_
    rw [Validator.applyFixes, run_lines, List.getElem?_mapIdx]
    cases hraw : (lines code)[i]? with
    | none => rfl
    | some raw => simp [hks]
  · intro i raw hraw
    rw [hraw]
    exact (hks i raw).2.1
  · intro i raw hraw
    rw [hraw]
    exact (hks i raw).2.2

theorem Repeated.lines_text {code : List Char} {fs : List Finding} {fixed : Fixed}
    {ks : Nat → Nat → Nat} (h : Repeated d more first code fs fixed ks) :
    lines (text fixed) = (lines code).mapIdx fun i raw => stretch (ks i) raw := by
  rw [text, h.lines_eq]
  refine lines_unlines ?_ fun l hl => ?_
  · rw [ne_eq, List.mapIdx_eq_nil_iff]
    exact lines_ne_nil code
  · obtain ⟨i, hi, rfl⟩ := List.mem_mapIdx.mp hl
    exact (isLine_of_mem_lines (List.getElem_mem hi)).stretch _

omit more first in
/-- A line has a finding just if a sign in its masked form is flagged. -/
theorem flagged_iff {view : List (List Char) → List (List Char)} {code : List Char}
    {fs : List Finding} (hfs : ∀ n, (∃ f ∈ fs, f.line = n) ↔
      ∃ l ∈ shownLines d view code, l.number = n ∧ ∃ pos, flags l.masked pos)
    {i : Nat} {w raw : List Char} (hw : (view (lines code))[i]? = some w)
    (hraw : (lines code)[i]? = some raw) : (∃ f ∈ fs, f.line = i + 1) ↔
      ∃ pos, flags (maskedAt d (view (lines code)) i w) pos := by
  rw [hfs]
  constructor
  · rintro ⟨l, hl, hnumber, hpos⟩
    obtain ⟨j, w', raw', hw', -, rfl⟩ := mem_shownLines.mp hl
    obtain rfl : j = i := Nat.succ.inj hnumber
    obtain rfl : w = w' := Option.some.inj (hw.symm.trans hw')
    exact hpos
  · exact fun hpos => ⟨_, mem_shownLines.mpr ⟨i, w, raw, hw, hraw, rfl⟩, rfl, hpos⟩

/-- Where the view of the source is stretched like the source, what is found after the pass is the
signs that were flagged and are not first in their line. -/
theorem Repeated.left_iff (hrepeats : RepeatsFirst v rule d more flags first)
    {view : List (List Char) → List (List Char)}
    (hwatches : Watches v rule (shownLines d view) flags) {code : List Char} {fs : List Finding}
    (hfs : ∀ n, (∃ f ∈ fs, f.line = n) ↔
      ∃ l ∈ shownLines d view code, l.number = n ∧ ∃ pos, flags l.masked pos)
    {fixed : Fixed} {ks : Nat → Nat → Nat} (h : Repeated d more first code fs fixed ks)
    (hpliant : ∀ i w, (view (lines code))[i]? = some w → Pliant (ks i) w)
    (hview : view ((lines code).mapIdx fun i raw => stretch (ks i) raw) =
      (view (lines code)).mapIdx fun i w => stretch (ks i) w) :
    ∃ found, v.grammar (text fixed) = .ok found ∧
      ∀ n, (∃ f ∈ found, f.rule = rule ∧ f.line = n) ↔
        ∃ l ∈ shownLines d view code, l.number = n ∧
          ∃ pos, flags l.masked pos ∧ ¬ first (alone (.of d) l.raw) pos := by
  have hline {i : Nat} {w raw : List Char} (hw : (view (lines code))[i]? = some w)
      (hraw : (lines code)[i]? = some raw) :
      (∃ pos, flags (stretch (ks i) (maskedAt d (view (lines code)) i w)) pos) ↔
        ∃ pos, flags (maskedAt d (view (lines code)) i w) pos ∧ ¬ first (alone (.of d) raw) pos := by
    have hmoves := hrepeats.moves (ks i) _ (pliant_inside (hpliant i w hw) (.of d)
      (before (.of d) (view (lines code)) i))
    have hcount := h.count i raw hraw
    constructor
    · rintro ⟨pos, hpos⟩
      obtain ⟨j, -, hstay, hflag⟩ := (hmoves pos).mp hpos
      have hfound : ∃ f ∈ fs, f.line = i + 1 := (flagged_iff hfs hw hraw).mpr ⟨j, hflag⟩
      refine ⟨j, hflag, fun hfirst => ?_⟩
      have hrepeated := (hcount j).2.mpr ⟨hfound, hfirst⟩
      omega
    · rintro ⟨j, hflag, hfirst⟩
      refine ⟨placeOf (ks i) j, (hmoves _).mpr ⟨j, rfl, ?_, hflag⟩⟩
      by_contra hne
      exact hfirst ((hcount j).2.mp (Nat.pos_of_ne_zero hne)).2
  obtain ⟨found, hfound, hleft⟩ := hwatches.grammar (text fixed)
  refine ⟨found, hfound, fun n => (hleft n).trans ?_⟩
  simp only [mem_shownLines, h.lines_text, hview, List.getElem?_mapIdx]
  constructor
  · rintro ⟨l, ⟨i, w', raw', hw', hraw', rfl⟩, rfl, hflag⟩
    obtain ⟨w, hw, rfl⟩ := Option.map_eq_some_iff.mp hw'
    obtain ⟨raw, hraw, rfl⟩ := Option.map_eq_some_iff.mp hraw'
    refine ⟨_, ⟨i, w, raw, hw, hraw, rfl⟩, rfl, (hline hw hraw).mp ?_⟩
    simpa only [maskedAt, inside_stretched d hpliant hw] using hflag
  · rintro ⟨l, ⟨i, w, raw, hw, hraw, rfl⟩, rfl, hflag⟩
    refine ⟨_, ⟨i, _, _, by rw [hw]; rfl, by rw [hraw]; rfl, rfl⟩, rfl, ?_⟩
    simpa only [maskedAt, inside_stretched d hpliant hw] using (hline hw hraw).mpr hflag

theorem exists_leavesOthers (hrepeats : RepeatsFirst v rule d more flags first)
    {view : List (List Char) → List (List Char)}
    (hwatches : Watches v rule (shownLines d view) flags) (code : List Char)
    (hview : ∀ fs ks, (∀ n, (∃ f ∈ fs, f.line = n) ↔
        ∃ l ∈ shownLines d view code, l.number = n ∧ ∃ pos, flags l.masked pos) →
      Repeated d more first code fs (v.applyFixes code fs) ks →
      (∀ i w, (view (Text.lines code))[i]? = some w → Pliant (ks i) w) ∧
        view ((Text.lines code).mapIdx fun i raw => stretch (ks i) raw) =
          (view (Text.lines code)).mapIdx fun i w => stretch (ks i) w) :
    ∃ fs found, LeavesOthers v rule d (shownLines d view code) flags first code fs found := by
  obtain ⟨fs, hfindings, hrule, hfs⟩ := hwatches.findingsOn code
  obtain ⟨ks, hks⟩ := hrepeats.exists_repeated hrule code
  obtain ⟨hpliant, hstretch⟩ := hview fs ks hfs hks
  obtain ⟨found, hfound, hleft⟩ := hks.left_iff hrepeats hwatches hfs hpliant hstretch
  refine ⟨fs, found, hfindings, hfound, hleft, ?_⟩
  constructor
  · intro hnone l hl pos hflag
    by_contra hfirst
    obtain ⟨f, hf, hplace, -⟩ := (hleft l.number).mpr ⟨l, hl, rfl, pos, hflag, hfirst⟩
    exact hnone f hf hplace
  · intro hall f hf hplace
    obtain ⟨l, hl, -, pos, hflag, hfirst⟩ := (hleft f.line).mp ⟨f, hf, hplace, rfl⟩
    exact hfirst (hall l hl pos hflag)

end Pass

end Fix

end CampaignCheck

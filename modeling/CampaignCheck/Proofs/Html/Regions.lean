import CampaignCheck.Html.Markup
import CampaignCheck.Proofs.Html.Quotes
import CampaignCheck.Proofs.Pattern.Ways

namespace CampaignCheck.Html

open Pattern Text

def covers (ms : List Match) (i : Nat) : Bool := ms.any fun m => decide (m.start ≤ i ∧ i < m.stop)

/-- A match covers the offset and goes on behind it. -/
def crosses (ms : List Match) (i : Nat) : Bool :=
  ms.any fun m => decide (m.start ≤ i ∧ i + 1 < m.stop)

/-- The text with the characters at some offsets blanked. -/
def hide (hides : Nat → Bool) (cs : List Char) : List Char :=
  cs.mapIdx fun i c => if hides i then (if c = '\n' then c else ' ') else c

theorem hide_cons (hides : Nat → Bool) (c : Char) (cs : List Char) : hide hides (c :: cs) =
    (if hides 0 then (if c = '\n' then c else ' ') else c) :: hide (fun i => hides (i + 1)) cs :=
  List.mapIdx_cons

theorem hide_append (hides : Nat → Bool) (as bs : List Char) : hide hides (as ++ bs) =
    hide hides as ++ hide (fun i => hides (as.length + i)) bs := by
  rw [hide, List.mapIdx_append]
  simp only [hide, Nat.add_comm]

theorem hide_all {hides : Nat → Bool} {cs : List Char} (h : ∀ i < cs.length, hides i = true) :
    hide hides cs = erased cs := by
  induction cs generalizing hides with
  | nil => rfl
  | cons c cs ih =>
    rw [hide_cons, h 0 (Nat.succ_pos _), ih fun i hi => h (i + 1) (Nat.succ_lt_succ hi)]
    rfl

theorem hide_none {hides : Nat → Bool} {cs : List Char} (h : ∀ i < cs.length, hides i = false) :
    hide hides cs = cs := by
  induction cs generalizing hides with
  | nil => rfl
  | cons c cs ih =>
    rw [hide_cons, h 0 (Nat.succ_pos _), ih fun i hi => h (i + 1) (Nat.succ_lt_succ hi)]
    rfl

theorem getElem?_hide (hides : Nat → Bool) (cs : List Char) (i : Nat) : (hide hides cs)[i]? =
    cs[i]?.map fun c => if hides i then (if c = '\n' then c else ' ') else c :=
  List.getElem?_mapIdx

theorem covers_cons (m : Match) (ms : List Match) (i : Nat) :
    covers (m :: ms) i = (decide (m.start ≤ i ∧ i < m.stop) || covers ms i) := rfl

theorem covers_of_start_le {ms : List Match} {pos i : Nat} (h : ∀ m ∈ ms, pos ≤ m.start)
    (hi : i < pos) : covers ms i = false := by
  refine List.any_eq_false.mpr fun m hm => ?_
  have hstart := h m hm
  simp only [decide_eq_true_eq]
  omega

theorem spliceFrom_erased {p : Pattern} {cs : List Char} {pos : Nat} {ms : List Match}
    (h : Scans p cs pos ms) : spliceFrom cs (fun m => erased (m.text cs)) pos ms =
      hide (fun i => covers ms (pos + i)) (cs.drop pos) := by
  induction h with
  | done hle =>
    rw [spliceFrom, List.drop_of_length_le hle]
    rfl
  | @pass pos ms hlt hnone h ih =>
    have hlater : ∀ m ∈ ms, pos + 1 ≤ m.start := h.start_le
    have hhere : covers ms (pos + 0) = false := covers_of_start_le hlater (Nat.lt_succ_self pos)
    rw [spliceFrom_skip (Nat.le_succ pos) hlater, slice_one hlt, ih, List.drop_eq_getElem_cons hlt,
      hide_cons, hhere]
    simp only [Nat.add_right_comm, Nat.add_assoc]
    rfl
  | @take pos m ms hlt hm hstop h ih =>
    have hstart := start_of_tryAt hm
    have hle : m.stop ≤ cs.length := by
      simpa using (tryAt_within (by simp; omega) hm).1
    have hlength : (slice cs pos m.stop).length = m.stop - pos := by
      rw [slice, List.length_drop, List.length_take_of_le hle]
    have hfirst : hide (fun i => covers (m :: ms) (pos + i)) (slice cs pos m.stop) =
        erased (m.text cs) := by
      rw [Match.text, hstart]
      refine hide_all fun i hi => ?_
      rw [covers_cons, decide_eq_true (by omega), Bool.true_or]
    have hrest : (fun i => covers (m :: ms) (pos + (m.stop - pos + i))) =
        fun i => covers ms (m.stop + i) := by
      funext i
      rw [covers_cons, decide_eq_false (by omega), Bool.false_or]
      congr 1
      omega
    rw [← hstart, spliceFrom_take, hstart, ih, ← slice_append_drop cs (Nat.le_of_lt hstop),
      hide_append, hfirst, hlength, hrest]

theorem blanked_eq_hide {p : Pattern} (hp : NeverEmpty p) (cs : List Char) :
    blanked p cs = hide (covers (p.findAll cs)) cs := by
  have h := spliceFrom_erased (scans_findAll hp cs)
  simp only [Nat.zero_add, List.drop_zero] at h
  exact h

theorem hide_inserted {add : Nat → List Char} {hides hides' behind : Nat → Bool} {cs : List Char}
    (hat : ∀ i, hides' (placeOf (sizes add) i) = hides i)
    (hbehind : ∀ i r, 0 < r → r ≤ sizes add i → hides' (placeOf (sizes add) i + r) = behind i) :
    hide hides' (inserted add cs) =
      inserted (fun i => if behind i then erased (add i) else add i) (hide hides cs) := by
  induction cs generalizing add hides hides' behind with
  | nil => rfl
  | cons c cs ih =>
    have hhere : ∀ r < (add 0).length, hides' (r + 1) = behind 0 := by
      intro r hr
      have h0 := hbehind 0 (r + 1) (Nat.succ_pos r) hr
      rwa [placeOf, Nat.zero_add] at h0
    have hadd : hide (fun i => hides' (i + 1)) (add 0) =
        if behind 0 then erased (add 0) else add 0 := by
      split_ifs with hh
      · exact hide_all fun i hi => (hhere i hi).trans hh
      · exact hide_none fun i hi => (hhere i hi).trans (Bool.not_eq_true _ ▸ hh)
    have hplace (i : Nat) : placeOf (sizes add) (i + 1) =
        (add 0).length + 1 + placeOf (sizes fun i => add (i + 1)) i := placeOf_succ (sizes add) i
    have hrest := @ih (fun i => add (i + 1)) (fun i => hides (i + 1))
      (fun i => hides' ((add 0).length + i + 1)) (fun i => behind (i + 1))
      (fun i => by
        rw [← hat (i + 1), hplace]
        congr 1
        omega)
      fun i r hr hr' => by
        rw [← hbehind (i + 1) r hr hr', hplace]
        congr 1
        omega
    rw [inserted, hide_cons, hide_append, hadd, hide_cons, inserted, show hides' 0 = hides 0 from
      hat 0, hrest]

theorem covers_moved {k : Nat → Nat} {ms ms' : List Match}
    (h : List.Forall₂ (fun m m' => m'.start = placeOf k m.start ∧ m.start < m.stop ∧
      m'.stop = placeOf k (m.stop - 1) + 1) ms ms') (i : Nat) :
    covers ms' (placeOf k i) = covers ms i ∧
      ∀ r, 0 < r → r ≤ k i → covers ms' (placeOf k i + r) = crosses ms i := by
  have hstart (m : Match) (r : Nat) (hr : r ≤ k i) :
      placeOf k m.start ≤ placeOf k i + r ↔ m.start ≤ i := by
    constructor
    · intro hle
      by_contra hlt
      have hplace := placeOf_lt (k := k) (Nat.lt_of_not_le hlt)
      omega
    · intro hle
      exact Nat.le_add_right_of_le (placeOf_le_iff.mpr hle)
  have hcrosses (m : Match) (ms : List Match) : crosses (m :: ms) i =
      (decide (m.start ≤ i ∧ i + 1 < m.stop) || crosses ms i) := rfl
  induction h with
  | nil => exact ⟨rfl, fun _ _ _ => rfl⟩
  | @cons m m' ms ms' hm _ ih =>
    obtain ⟨hfirst, hlt, hlast⟩ := hm
    constructor
    · have hstop : placeOf k i < m'.stop ↔ i < m.stop := by
        rw [hlast, Nat.lt_succ_iff, placeOf_le_iff]
        omega
      have hbegin : m'.start ≤ placeOf k i ↔ m.start ≤ i := by
        rw [hfirst, placeOf_le_iff]
      rw [covers_cons, covers_cons, ih.1]
      simp only [hbegin, hstop]
    · intro r hr hr'
      have hstop : placeOf k i + r < m'.stop ↔ i + 1 < m.stop := by
        rw [hlast]
        constructor
        · intro hle
          by_contra hout
          have hplace : placeOf k (m.stop - 1) ≤ placeOf k i := placeOf_le_iff.mpr (by omega)
          omega
        · intro hin
          have hplace := placeOf_lt (k := k) (show i < m.stop - 1 by omega)
          omega
      rw [covers_cons, hcrosses, ih.2 r hr hr']
      simp only [hfirst, hstart m r hr', hstop]

/-- A pattern matches what is read, which is never nothing. -/
structure Reads (p : Pattern) (r : List Char → Option Nat) : Prop where
  stop : ∀ (cs : List Char) (pos : Nat),
    (p.tryAt cs.toArray pos false).map (·.stop) = (r (cs.drop pos)).map (pos + ·)
  pos : ∀ cs n, r cs = some n → 0 < n

theorem Reads.neverEmpty {p : Pattern} {r : List Char → Option Nat} (h : Reads p r) :
    NeverEmpty p := by
  intro text pos m hm
  have hstop := h.stop text.toList pos
  rw [Array.toArray_toList, hm] at hstop
  obtain ⟨n, hn, heq⟩ := Option.map_eq_some_iff.mp hstop.symm
  have hpos := h.pos _ n hn
  simp only at heq
  omega

theorem Reads.tryAt_eq_none {p : Pattern} {r : List Char → Option Nat} (h : Reads p r)
    {cs : List Char} {pos : Nat} :
    p.tryAt cs.toArray pos false = none ↔ r (cs.drop pos) = none := by
  rw [← Option.map_eq_none_iff, h.stop, Option.map_eq_none_iff]

theorem Reads.of_mem {p : Pattern} {r : List Char → Option Nat} (h : Reads p r) {cs : List Char}
    {m : Match} (hm : m ∈ p.findAll cs) : r (cs.drop m.start) = some (m.stop - m.start) := by
  have hhit := ((scans_findAll h.neverEmpty cs).hits m hm).1
  have hstop := h.stop cs m.start
  rw [hhit] at hstop
  obtain ⟨n, hn, heq⟩ := Option.map_eq_some_iff.mp hstop.symm
  have hlength : m.start + n = m.stop := heq
  rw [hn, ← hlength, Nat.add_sub_cancel_left]

/-- Where the matches are found in their new places, the same characters are blanked, and of what
is put into the text that which the matches go on behind. -/
theorem blanked_inserted {p : Pattern} {r : List Char → Option Nat} (hp : Reads p r)
    {add : Nat → List Char} {cs : List Char}
    (hnone : ∀ i, r (cs.drop i) = none → r (inserted (fun j => add (i + j)) (cs.drop i)) = none)
    (hadd : ∀ i, ∀ c ∈ add i, ∀ ds, r (c :: ds) = none)
    (hsome : ∀ m ∈ p.findAll cs, r (inserted (fun j => add (m.start + j)) (cs.drop m.start)) =
      some (placeOf (fun j => sizes add (m.start + j)) (m.stop - m.start - 1) + 1)) :
    blanked p (inserted add cs) = inserted
      (fun i => if crosses (p.findAll cs) i then erased (add i) else add i) (blanked p cs) := by
  have hmoved := (scans_findAll hp.neverEmpty cs).moved add
    (R := fun m m' => m.start < m.stop ∧ m'.stop = placeOf (sizes add) (m.stop - 1) + 1) ?_ ?_ ?_
  · obtain ⟨ms', hscan, hall⟩ := hmoved
    have hcovers := covers_moved hall
    rw [blanked_eq_hide hp.neverEmpty, blanked_eq_hide hp.neverEmpty,
      findAll_eq hp.neverEmpty hscan]
    exact hide_inserted (fun i => (hcovers i).1) fun i => (hcovers i).2
  · intro i _ hi
    rw [hp.tryAt_eq_none] at hi ⊢
    rw [drop_inserted]
    exact hnone i hi
  · intro i hi r hr hr'
    obtain ⟨c, hc, ds, hds⟩ := drop_between hi hr hr'
    rw [hp.tryAt_eq_none, hds]
    exact hadd i c hc ds
  · intro m hm _
    have hlt := ((scans_findAll hp.neverEmpty cs).hits m hm).2
    have hle := (finds_of_mem_findAll hm).stop_le
    have hstop := hp.stop (inserted add cs) (placeOf (sizes add) m.start)
    rw [drop_inserted, hsome m hm] at hstop
    obtain ⟨m', hm', heq⟩ := Option.map_eq_some_iff.mp hstop
    have hsplit := placeOf_add (sizes add) m.start (m.stop - m.start - 1)
    have hlast : m.start + (m.stop - m.start - 1) = m.stop - 1 := by omega
    rw [hlast] at hsplit
    have hstop' : m'.stop = placeOf (sizes add) (m.stop - 1) + 1 := by
      rw [hsplit, Nat.add_assoc]
      exact heq
    refine ⟨m', hm', ?_, hlt, hstop'⟩
    rw [hstop']
    exact resumes_behind (Nat.zero_lt_of_lt hlt) hle

section Inserted

variable {add : Nat → List Char}

theorem fits_of_inserted {ps : List (Char → Bool)}
    (hps : ∀ p ∈ ps, ∀ i, ∀ c ∈ add i, p c = false) {cs : List Char}
    (h : fits ps (inserted add cs) = true) :
    fits ps cs = true ∧ ∀ i, i + 1 < ps.length → add i = [] := by
  induction ps generalizing add cs with
  | nil => exact ⟨rfl, fun i hi => absurd hi (Nat.not_lt_zero _)⟩
  | cons p ps ih =>
    cases cs with
    | nil => cases h
    | cons c cs =>
      rw [inserted, fits, Bool.and_eq_true] at h
      cases ps with
      | nil =>
        refine ⟨by rw [fits, h.1]; rfl, fun i hi => ?_⟩
        simp at hi
      | cons p' ps' =>
        have hnil : add 0 = [] := by
          cases hq : add 0 with
          | nil => rfl
          | cons q qs =>
            have hfalse := hps p' (by simp) 0 q (by rw [hq]; exact List.mem_cons_self)
            rw [hq, List.cons_append, fits, hfalse, Bool.false_and] at h
            cases h.2
        rw [hnil, List.nil_append] at h
        obtain ⟨hfits, hrest⟩ : fits (p' :: ps') cs = true ∧
            ∀ i, i + 1 < (p' :: ps').length → add (i + 1) = [] :=
          ih (fun q hq i => hps q (List.mem_cons_of_mem p hq) (i + 1)) h.2
        refine ⟨by rw [fits, h.1, hfits]; rfl, fun i hi => ?_⟩
        cases i with
        | zero => exact hnil
        | succ i => exact hrest i (Nat.lt_of_succ_lt_succ hi)

theorem fits_inserted {ps : List (Char → Bool)} {cs : List Char} (h : fits ps cs = true)
    (hnil : ∀ i, i + 1 < ps.length → add i = []) : fits ps (inserted add cs) = true := by
  induction ps generalizing add cs with
  | nil => rfl
  | cons p ps ih =>
    cases cs with
    | nil => cases h
    | cons c cs =>
      rw [fits, Bool.and_eq_true] at h
      rw [inserted, fits, h.1, Bool.true_and]
      cases ps with
      | nil => rfl
      | cons p' ps' =>
        rw [hnil 0 (by simp), List.nil_append]
        exact ih h.2 fun i hi => hnil (i + 1) (Nat.succ_lt_succ hi)

/-- What follows some characters that have nothing but perhaps the last put behind them. -/
theorem drop_succ_inserted {n : Nat} {cs : List Char} (hn : n < cs.length)
    (hnil : ∀ i < n, add i = []) : (inserted add cs).drop (n + 1) =
      add n ++ inserted (fun j => add (n + 1 + j)) (cs.drop (n + 1)) := by
  obtain ⟨-, hsplit⟩ := inserted_split add (Nat.succ_le_of_lt hn)
  have hlength : (cs.take (n + 1)).length = n + 1 := List.length_take_of_le hn
  rw [hsplit, inserted_at_end hlength hnil, List.append_assoc, List.drop_left' hlength]

theorem firstAt_append {r : List Char → Option Nat} {qs : List Char}
    (h : ∀ q ∈ qs, ∀ ds, r (q :: ds) = none) (cs : List Char) :
    firstAt r (qs ++ cs) = (firstAt r cs).map (qs.length + ·) := by
  induction qs with
  | nil => simp
  | cons q qs ih =>
    rw [List.cons_append, firstAt, h q List.mem_cons_self, Option.none_or,
      ih fun q hq => h q (List.mem_cons_of_mem _ hq), Option.map_map]
    congr 1
    funext n
    simp [Nat.add_right_comm]

end Inserted

theorem length_of_fits {ps : List (Char → Bool)} {cs : List Char} (h : fits ps cs = true) :
    ps.length ≤ cs.length := by
  induction ps generalizing cs with
  | nil => exact Nat.zero_le _
  | cons p ps ih =>
    cases cs with
    | nil => cases h
    | cons c cs =>
      rw [fits, Bool.and_eq_true] at h
      exact Nat.succ_le_succ (ih h.2)

/-- Quotes and blanks are put into the text, and nothing else. -/
def Soft (add : Nat → List Char) : Prop := ∀ i, ∀ c ∈ add i, c = '"' ∨ c = ' '

theorem Soft.shift {add : Nat → List Char} (h : Soft add) (n : Nat) : Soft fun i => add (n + i) :=
  fun i => h (n + i)

/-- A reader that quotes and blanks do not mislead: it reads nothing at one of them, and nothing
that they would have brought about. -/
structure Firm (r : List Char → Option Nat) : Prop where
  skip : ∀ c, c = '"' ∨ c = ' ' → ∀ cs, r (c :: cs) = none
  back : ∀ (add : Nat → List Char) (cs : List Char), Soft add →
    (r (inserted add cs)).isSome → (r cs).isSome

section Firm

variable {r : List Char → Option Nat} (h : Firm r) {add : Nat → List Char} (hadd : Soft add)
include h hadd

theorem Firm.stays_none {cs : List Char} (hnone : r cs = none) : r (inserted add cs) = none := by
  have hback := h.back add cs hadd
  rw [hnone] at hback
  by_contra hne
  exact absurd (hback (Option.isSome_iff_ne_none.mpr hne)) Bool.false_ne_true

theorem Firm.firstAt_cons (c : Char) (cs : List Char) : firstAt r (inserted add (c :: cs)) =
    (r (inserted add (c :: cs))).or
      ((firstAt r (inserted (fun i => add (i + 1)) cs)).map ((add 0).length + 1 + ·)) := by
  rw [inserted, firstAt, firstAt_append fun q hq => h.skip q (hadd 0 q hq), Option.map_map]
  congr 2
  funext n
  simp only [Function.comp_apply]
  omega

theorem Firm.firstAt_back {cs : List Char} (hsome : (firstAt r (inserted add cs)).isSome) :
    (firstAt r cs).isSome := by
  induction cs generalizing add with
  | nil => exact hsome
  | cons c cs ih =>
    rw [h.firstAt_cons hadd, Option.isSome_or, Option.isSome_map, Bool.or_eq_true] at hsome
    rw [firstAt, Option.isSome_or, Option.isSome_map, Bool.or_eq_true]
    rcases hsome with hhere | hlater
    · exact .inl (h.back add (c :: cs) hadd hhere)
    · exact .inr (ih (fun i => hadd (i + 1)) hlater)

end Firm

theorem Firm.or {r r' : List Char → Option Nat} (h : Firm r) (h' : Firm r') :
    Firm fun cs => (r cs).or (r' cs) := by
  refine ⟨fun c hc cs => ?_, fun add cs hadd hsome => ?_⟩
  · simp only [h.skip c hc, h'.skip c hc, Option.or_none]
  · simp only [Option.isSome_or, Bool.or_eq_true] at hsome ⊢
    exact hsome.imp (h.back add cs hadd) (h'.back add cs hadd)

/-- The tests for a text. -/
def literal (d : List Char) : List (Char → Bool) := d.map fun a b => a == b

/-- How long the given text is, where it starts. -/
def opens (d cs : List Char) : Option Nat := if fits (literal d) cs then some d.length else none

/-- How long what stands from one text to the next other is. -/
def enclosed (a b cs : List Char) : Option Nat :=
  if fits (literal a) cs then (firstAt (opens b) (cs.drop a.length)).map (a.length + ·) else none

/-- A text with characters, none of them a quote or a blank. -/
structure Hard (d : List Char) : Prop where
  ne_nil : d ≠ []
  quote : '"' ∉ d
  blank : ' ' ∉ d

theorem Hard.literal {d : List Char} (hd : Hard d) {c : Char} (hc : c = '"' ∨ c = ' ') :
    ∀ p ∈ literal d, p c = false := by
  intro p hp
  obtain ⟨a, ha, rfl⟩ := List.mem_map.mp hp
  refine beq_false_of_ne ?_
  rintro rfl
  rcases hc with rfl | rfl
  · exact hd.quote ha
  · exact hd.blank ha

theorem length_literal (d : List Char) : (literal d).length = d.length := List.length_map _

section Enclosed

variable {a b : List Char} (ha : Hard a) (hb : Hard b)

include ha in
theorem Hard.fits_of_inserted {add : Nat → List Char} (hadd : Soft add) {cs : List Char}
    (h : fits (Html.literal a) (inserted add cs) = true) : fits (Html.literal a) cs = true ∧
      ∀ i, i + 1 < (Html.literal a).length → add i = [] :=
  Html.fits_of_inserted (fun p hp i c hc => ha.literal (hadd i c hc) p hp) h

include ha in
theorem Hard.skip {c : Char} (hc : c = '"' ∨ c = ' ') (cs : List Char) :
    fits (Html.literal a) (c :: cs) = false := by
  obtain ⟨x, d, rfl⟩ := List.exists_cons_of_ne_nil ha.ne_nil
  have hfalse := ha.literal hc (fun b => x == b) List.mem_cons_self
  rw [Html.literal, List.map_cons, fits, hfalse, Bool.false_and]

include hb in
theorem firm_opens : Firm (opens b) := by
  refine ⟨fun c hc cs => ?_, fun add cs hadd hsome => ?_⟩
  · rw [opens, hb.skip hc]
    rfl
  · rw [opens, Option.isSome_ite] at hsome ⊢
    exact (hb.fits_of_inserted hadd hsome).1

include ha in
/-- What follows the opening text with something put into the text. -/
theorem Hard.drop_inserted {add : Nat → List Char} {cs : List Char}
    (hfits : fits (Html.literal a) cs = true) (hnil : ∀ i, i + 1 < a.length → add i = []) :
    (inserted add cs).drop a.length = add (a.length - 1) ++
      inserted (fun j => add (a.length + j)) (cs.drop a.length) := by
  have hle := length_of_fits hfits
  rw [length_literal] at hle
  obtain ⟨n, hn⟩ := Nat.exists_eq_succ_of_ne_zero (List.length_eq_zero_iff.not.mpr ha.ne_nil)
  rw [hn] at hle hnil ⊢
  exact drop_succ_inserted hle fun i hi => hnil i (Nat.succ_lt_succ hi)

include ha hb

theorem firm_enclosed : Firm (enclosed a b) := by
  refine ⟨fun c hc cs => ?_, fun add cs hadd hsome => ?_⟩
  · rw [enclosed, ha.skip hc]
    rfl
  · by_cases hfits : fits (literal a) (inserted add cs) = true
    · obtain ⟨hstarts, hnil⟩ := ha.fits_of_inserted hadd hfits
      rw [length_literal] at hnil
      rw [enclosed, if_pos hfits, Option.isSome_map, ha.drop_inserted hstarts hnil,
        firstAt_append fun q hq => (firm_opens hb).skip q (hadd _ q hq), Option.isSome_map] at hsome
      rw [enclosed, if_pos hstarts, Option.isSome_map]
      exact (firm_opens hb).firstAt_back (hadd.shift a.length) hsome
    · rw [enclosed, if_neg hfits] at hsome
      cases hsome

omit ha hb in
/-- What is read up to a text ends with it. -/
theorem of_firstAt_opens {cs : List Char} {n : Nat} (h : firstAt (opens b) cs = some n) :
    b.length ≤ n ∧ fits (literal b) (cs.drop (n - b.length)) = true := by
  have hhere {ds : List Char} {k : Nat} (hk : opens b ds = some k) :
      b.length = k ∧ fits (literal b) ds = true := by
    rw [opens] at hk
    split_ifs at hk with hfits
    exact ⟨Option.some.inj hk, hfits⟩
  induction cs generalizing n with
  | nil =>
    obtain ⟨rfl, hfits⟩ := hhere h
    exact ⟨Nat.le_refl _, by rwa [Nat.sub_self]⟩
  | cons c cs ih =>
    rw [firstAt, Option.or_eq_some_iff] at h
    rcases h with h | ⟨-, h⟩
    · obtain ⟨rfl, hfits⟩ := hhere h
      exact ⟨Nat.le_refl _, by rwa [Nat.sub_self]⟩
    · obtain ⟨m, hm, rfl⟩ := Option.map_eq_some_iff.mp h
      obtain ⟨hle, hfits⟩ := ih hm
      refine ⟨Nat.le_succ_of_le hle, ?_⟩
      rwa [Nat.succ_sub hle, List.drop_succ_cons]

omit ha hb in
theorem of_enclosed {cs : List Char} {n : Nat} (h : enclosed a b cs = some n) :
    fits (literal a) cs = true ∧ a.length + b.length ≤ n ∧
      fits (literal b) (cs.drop (n - b.length)) = true := by
  rw [enclosed] at h
  split_ifs at h with hfits
  obtain ⟨m, hm, rfl⟩ := Option.map_eq_some_iff.mp h
  obtain ⟨hle, hends⟩ := of_firstAt_opens hm
  refine ⟨hfits, Nat.add_le_add_left hle _, ?_⟩
  rwa [Nat.add_sub_assoc hle, ← List.drop_drop]

omit ha in
theorem firstAt_opens_inserted {add : Nat → List Char} (hadd : Soft add) {cs : List Char} {n : Nat}
    (h : firstAt (opens b) cs = some n)
    (hnil : ∀ i, n < i + 1 + b.length → i + 1 < n → add i = []) :
    firstAt (opens b) (inserted add cs) = some (placeOf (sizes add) (n - 1) + 1) := by
  have hfirm := firm_opens hb
  obtain ⟨k, hk⟩ := Nat.exists_eq_succ_of_ne_zero (List.length_eq_zero_iff.not.mpr hb.ne_nil)
  induction cs generalizing add n with
  | nil =>
    rw [firstAt, opens, if_neg] at h
    · cases h
    · intro hfits
      have hle := length_of_fits hfits
      rw [length_literal, hk] at hle
      cases hle
  | cons c cs ih =>
    have hle := (of_firstAt_opens h).1
    rw [firstAt, Option.or_eq_some_iff] at h
    rw [hfirm.firstAt_cons hadd]
    rcases h with h | ⟨hnone, h⟩
    · rw [opens] at h
      split_ifs at h with hfits
      obtain rfl := Option.some.inj h
      have hthere : ∀ i, i + 1 < b.length → add i = [] := fun i hi => hnil i (by omega) hi
      have hplace : placeOf (sizes add) (b.length - 1) = b.length - 1 :=
        placeOf_of_once fun j hj => by rw [sizes, hthere j (by omega)]; rfl
      rw [opens, if_pos (fits_inserted hfits fun i hi => hthere i (by rwa [length_literal] at hi)),
        Option.some_or, hplace]
      congr 1
      omega
    · obtain ⟨m, hm, rfl⟩ := Option.map_eq_some_iff.mp h
      have hm' := (of_firstAt_opens hm).1
      obtain ⟨j, rfl⟩ := Nat.exists_eq_succ_of_ne_zero (n := m) (by omega)
      have hplace : placeOf (sizes add) (j + 1) =
          (add 0).length + 1 + placeOf (sizes fun i => add (i + 1)) j := placeOf_succ (sizes add) j
      rw [hfirm.stays_none hadd hnone, Option.none_or,
        ih (fun i => hadd (i + 1)) hm fun i hi hi' => hnil (i + 1) (by omega) (by omega)]
      simp only [Option.map_some, Nat.add_sub_cancel, hplace, Nat.succ_eq_add_one]
      congr 1

/-- A region is read again up to its end, unless something is put into the texts at its ends. -/
theorem enclosed_inserted {add : Nat → List Char} (hadd : Soft add) {cs : List Char} {n : Nat}
    (h : enclosed a b cs = some n) (hopen : ∀ i, i + 1 < a.length → add i = [])
    (hclose : ∀ i, i + 1 < b.length → add (n - b.length + i) = []) :
    enclosed a b (inserted add cs) = some (placeOf (sizes add) (n - 1) + 1) := by
  have hnil : ∀ i, n < i + 1 + b.length → i + 1 < n → add i = [] := by
    intro i hi hi'
    obtain ⟨j, rfl⟩ := Nat.exists_eq_add_of_le (show n - b.length ≤ i by omega)
    have hle := (of_enclosed h).2.1
    exact hclose j (by omega)
  rw [enclosed] at h ⊢
  split_ifs at h with hfits
  obtain ⟨m, hm, rfl⟩ := Option.map_eq_some_iff.mp h
  have hm' := (of_firstAt_opens hm).1
  have hbpos := List.length_pos_iff.mpr hb.ne_nil
  obtain ⟨k, hk⟩ := Nat.exists_eq_succ_of_ne_zero (List.length_eq_zero_iff.not.mpr ha.ne_nil)
  obtain ⟨j, rfl⟩ := Nat.exists_eq_succ_of_ne_zero (n := m) (by omega)
  have hfits' := @fits_inserted add _ _ hfits fun i hi =>
    hopen i (by rwa [length_literal] at hi)
  have hread := firstAt_opens_inserted hb (hadd.shift a.length) hm
    fun i hi hi' => hnil _ (by omega) (by omega)
  have hfirst : placeOf (sizes add) a.length = a.length + (add (a.length - 1)).length := by
    have honce : placeOf (sizes add) k = k :=
      placeOf_of_once fun i hi => by rw [sizes, hopen i (by omega)]; rfl
    rw [hk, placeOf, honce, sizes, Nat.succ_sub_one]
    omega
  have hplace : placeOf (sizes add) (a.length + j) = placeOf (sizes add) a.length +
      placeOf (sizes fun i => add (a.length + i)) j := placeOf_add (sizes add) a.length j
  rw [if_pos hfits', ha.drop_inserted hfits hopen,
    firstAt_append fun q hq => (firm_opens hb).skip q (hadd _ q hq), hread, Option.map_some,
    Option.map_some, Nat.add_sub_assoc (Nat.succ_pos j), Nat.succ_sub_one, hplace, hfirst]
  congr 1
  omega

end Enclosed

section Reading

variable {text : Array Char} {g : Sequel} {marks : Marks}

theorem leads_lit (s : String) (cs : List Char) (pos : Nat) :
    (lit s).leads text g cs pos marks =
      if fits (literal s.toList) cs then g (cs.drop s.toList.length) (pos + s.toList.length) marks
      else none := by
  have hsets := leads_inOrder text g marks (s.toList.map CharSet.char) cs pos
  rw [List.map_map, List.map_map, List.length_map] at hsets
  exact hsets

theorem leads_enclosed (a b : String) (cs : List Char) (pos : Nat) :
    (seq (seq (lit a) (manyFewest (one .all))) (lit b)).leads text done cs pos marks =
      (enclosed a.toList b.toList cs).map fun n => (pos + n, marks) := by
  have hend (ds : List Char) (stop : Nat) : (lit b).leads text done ds stop marks =
      (opens b.toList ds).map fun n => (stop + n, marks) := by
    rw [leads_lit, opens]
    split_ifs <;> rfl
  rw [leads_seq, leads_seq, leads_lit, enclosed]
  split_ifs with hfits
  · rw [leads_fewest, fewest_all (P := fun _ _ => True) (fun _ _ _ _ => trivial)
      (fun ds stop _ => hend ds stop) trivial, Option.map_map]
    congr 1
    funext n
    simp [Nat.add_assoc]
  · rfl

end Reading

theorem regular_inOrder {sets : List CharSet} (hne : sets ≠ []) (b : Nat) :
    Regular b (inOrder (sets.map one)) b := by
  induction sets with
  | nil => exact absurd rfl hne
  | cons set sets ih =>
    cases sets with
    | nil => exact .one b set
    | cons set' sets' => exact .seq (.one b set) (ih (by simp))

theorem regular_enclosed {a b : String} (ha : a.toList ≠ []) (hb : b.toList ≠ []) (n : Nat) :
    Regular n (seq (seq (lit a) (manyFewest (one .all))) (lit b)) n := by
  have hlit {s : String} (hs : s.toList ≠ []) : Regular n (lit s) n := by
    have hne : s.toList.map CharSet.char ≠ [] := by simpa using hs
    have hsets := regular_inOrder hne n
    rwa [List.map_map] at hsets
  exact .seq (.seq (hlit ha) (.manyFewest _ _)) (hlit hb)

theorem Reads.of_leads {p : Pattern} {r : List Char → Option Nat} {b : Nat} (hp : Regular 0 p b)
    (h : ∀ (cs : List Char) (pos : Nat), (p.leads cs.toArray done (cs.drop pos) pos #[]).map (·.1) =
      (r (cs.drop pos)).map (pos + ·)) (hpos : ∀ cs n, r cs = some n → 0 < n) : Reads p r := by
  refine ⟨fun cs pos => ?_, hpos⟩
  rw [tryAt_eq_leads hp, ← h, Option.map_map]
  rfl

theorem pos_of_enclosed {a b cs : List Char} {n : Nat} (ha : a ≠ [])
    (h : enclosed a b cs = some n) : 0 < n := by
  have hlength := List.length_pos_iff.mpr ha
  rw [enclosed] at h
  split_ifs at h
  obtain ⟨m, -, rfl⟩ := Option.map_eq_some_iff.mp h
  omega

def readComment (cs : List Char) : Option Nat := enclosed "<!--".toList "-->".toList cs

def readTemplate (cs : List Char) : Option Nat :=
  (enclosed "%%[".toList "]%%".toList cs).or (enclosed "%%=".toList "=%%".toList cs)

theorem comment_eq :
    comment = seq (seq (lit "<!--") (manyFewest (one .all))) (lit "-->") := rfl

theorem reads_comment : Reads comment readComment := by
  refine .of_leads (regular_enclosed (by decide) (by decide) 0) (fun cs pos => ?_)
    fun cs n hn => pos_of_enclosed (by decide) hn
  rw [comment_eq, leads_enclosed, Option.map_map]
  rfl

theorem hard_openings : Hard "<!--".toList ∧ Hard "%%[".toList ∧ Hard "%%=".toList := by
  refine ⟨⟨?_, ?_, ?_⟩, ⟨?_, ?_, ?_⟩, ?_, ?_, ?_⟩ <;> decide

theorem hard_ends : Hard "-->".toList ∧ Hard "]%%".toList ∧ Hard "=%%".toList := by
  refine ⟨⟨?_, ?_, ?_⟩, ⟨?_, ?_, ?_⟩, ?_, ?_, ?_⟩ <;> decide

theorem firm_comment : Firm readComment := firm_enclosed hard_openings.1 hard_ends.1

theorem templateScript_eq : templateScript =
    alt (seq (seq (lit "%%[") (manyFewest (one .all))) (lit "]%%"))
      (seq (seq (lit "%%=") (manyFewest (one .all))) (lit "=%%")) := rfl

theorem reads_templateScript : Reads templateScript readTemplate := by
  refine .of_leads (.alt (regular_enclosed (by decide) (by decide) 0)
    (regular_enclosed (by decide) (by decide) 0)) (fun cs pos => ?_) fun cs n hn => ?_
  · rw [templateScript_eq, leads_alt, leads_enclosed, leads_enclosed, readTemplate]
    cases enclosed "%%[".toList "]%%".toList (cs.drop pos) with
    | some n => rfl
    | none => rw [Option.map_none, Option.none_or, Option.none_or, Option.map_map]; rfl
  · rcases Option.or_eq_some_iff.mp hn with hfirst | ⟨-, hsecond⟩
    · exact pos_of_enclosed (by decide) hfirst
    · exact pos_of_enclosed (by decide) hsecond

theorem firm_templateScript : Firm readTemplate :=
  (firm_enclosed hard_openings.2.1 hard_ends.2.1).or (firm_enclosed hard_openings.2.2 hard_ends.2.2)

end CampaignCheck.Html

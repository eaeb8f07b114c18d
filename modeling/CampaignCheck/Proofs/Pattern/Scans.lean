import CampaignCheck.Proofs.Pattern.Progress
import CampaignCheck.Proofs.Text.Inserted

namespace CampaignCheck.Pattern

/-- What a scan finds from an offset on. -/
inductive Scans (p : Pattern) (cs : List Char) : Nat → List Match → Prop
  | done {pos : Nat} (h : cs.length ≤ pos) : Scans p cs pos []
  | pass {pos : Nat} {ms : List Match} (hlt : pos < cs.length)
      (hnone : p.tryAt cs.toArray pos false = none) (h : Scans p cs (pos + 1) ms) :
      Scans p cs pos ms
  | take {pos : Nat} {m : Match} {ms : List Match} (hlt : pos < cs.length)
      (hm : p.tryAt cs.toArray pos false = some m) (hstop : pos < m.stop)
      (h : Scans p cs m.stop ms) : Scans p cs pos (m :: ms)

def NeverEmpty (p : Pattern) : Prop :=
  ∀ (text : Array Char) (pos : Nat) (m : Match), p.tryAt text pos false = some m → pos < m.stop

theorem neverEmpty_of_leastWidth {p : Pattern} (hp : p.isPossessive = false)
    (hwidth : 0 < p.leastWidth) : NeverEmpty p := by
  intro text pos m hm
  obtain ⟨t, ht, rfl⟩ := tryAt_eq_some hm
  obtain ⟨u, hu, hk⟩ := run_advances text p hp false [] _ _ _ ht
  cases hk
  exact Nat.lt_of_lt_of_le (Nat.lt_add_of_pos_right hwidth) hu

variable {p : Pattern} {cs : List Char}

theorem Scans.unique {pos : Nat} {ms ms' : List Match} (h : Scans p cs pos ms)
    (h' : Scans p cs pos ms') : ms = ms' := by
  induction h generalizing ms' with
  | done hle =>
    cases h' with
    | done _ => rfl
    | pass hlt _ _ => omega
    | take hlt _ _ _ => omega
  | pass hlt hnone _ ih =>
    cases h' with
    | done hle => omega
    | pass _ _ h' => exact ih h'
    | take _ hm _ _ =>
      rw [hnone] at hm
      cases hm
  | take hlt hm _ _ ih =>
    cases h' with
    | done hle => omega
    | pass _ hnone _ =>
      rw [hnone] at hm
      cases hm
    | take _ hm' _ h' =>
      rw [hm, Option.some.injEq] at hm'
      subst hm'
      rw [ih h']

theorem Scans.start_le {pos : Nat} {ms : List Match} (h : Scans p cs pos ms) :
    ∀ m ∈ ms, pos ≤ m.start := by
  induction h with
  | done _ => simp
  | pass _ _ _ ih => exact fun m hm => Nat.le_of_succ_le (ih m hm)
  | take hlt hm hstop _ ih =>
    intro m' hm'
    rcases List.mem_cons.mp hm' with rfl | hlater
    · exact Nat.le_of_eq (start_of_tryAt hm).symm
    · exact Nat.le_trans (Nat.le_of_lt hstop) (ih m' hlater)

theorem Scans.hits {pos : Nat} {ms : List Match} (h : Scans p cs pos ms) :
    ∀ m ∈ ms, p.tryAt cs.toArray m.start false = some m ∧ m.start < m.stop := by
  induction h with
  | done _ => simp
  | pass _ _ _ ih => exact ih
  | take hlt hm hstop _ ih =>
    intro m' hm'
    rcases List.mem_cons.mp hm' with rfl | hlater
    · have hstart := start_of_tryAt hm
      exact ⟨by rwa [hstart], by rwa [hstart]⟩
    · exact ih m' hlater

/-- What no match covers has been passed. -/
theorem Scans.passed {pos : Nat} {ms : List Match} (h : Scans p cs pos ms) {i : Nat}
    (hi : pos ≤ i) (hout : ∀ m ∈ ms, ¬(m.start ≤ i ∧ i < m.stop)) (hlt : i < cs.length) :
    p.tryAt cs.toArray i false = none := by
  induction h with
  | done hle => omega
  | @pass pos ms _ hnone _ ih =>
    rcases Nat.eq_or_lt_of_le hi with rfl | hi
    · exact hnone
    · exact ih hi hout
  | take _ hm _ _ ih =>
    have hfirst := hout _ List.mem_cons_self
    rw [start_of_tryAt hm] at hfirst
    exact ih (by omega) fun m' hm' => hout m' (List.mem_cons_of_mem _ hm')

/-- Matches of a text follow each other from an offset on. -/
inductive Spaced (n : Nat) : Nat → List Match → Prop
  | nil {pos : Nat} (h : pos ≤ n) : Spaced n pos []
  | cons {pos : Nat} {m : Match} {ms : List Match} (hstart : pos ≤ m.start)
      (hstop : m.start < m.stop) (h : Spaced n m.stop ms) : Spaced n pos (m :: ms)

theorem Spaced.le {n pos : Nat} {ms : List Match} (h : Spaced n pos ms) : pos ≤ n := by
  induction h with
  | nil h => exact h
  | cons hstart hstop _ ih => omega

theorem Spaced.start_le {n pos : Nat} {ms : List Match} (h : Spaced n pos ms) :
    ∀ m ∈ ms, pos ≤ m.start := by
  induction h with
  | nil _ => simp
  | cons hstart hstop _ ih =>
    refine List.forall_mem_cons.mpr ⟨hstart, fun m hm => ?_⟩
    exact Nat.le_trans (Nat.le_of_lt (Nat.lt_of_le_of_lt hstart hstop)) (ih m hm)

theorem Spaced.earlier {n pos pos' : Nat} {ms : List Match} (h : Spaced n pos ms)
    (hle : pos' ≤ pos) : Spaced n pos' ms := by
  cases h with
  | nil h => exact .nil (Nat.le_trans hle h)
  | cons hstart hstop h => exact .cons (Nat.le_trans hle hstart) hstop h

theorem Scans.spaced {pos : Nat} {ms : List Match} (h : Scans p cs pos ms)
    (hpos : pos ≤ cs.length) : Spaced cs.length pos ms := by
  induction h with
  | done _ => exact .nil hpos
  | pass hlt _ _ ih => exact (ih hlt).earlier (Nat.le_succ _)
  | take hlt hm hstop _ ih =>
    have hstart := start_of_tryAt hm
    have hend := (tryAt_within (by simpa using hpos) hm).1
    exact .cons (Nat.le_of_eq hstart.symm) (hstart ▸ hstop) (ih (by simpa using hend))

/-- Only one match covers an offset. -/
theorem Scans.only {pos : Nat} {ms : List Match} (h : Scans p cs pos ms) {m m' : Match}
    (hm : m ∈ ms) (hm' : m' ∈ ms) {i : Nat} (hi : m.start ≤ i ∧ i < m.stop)
    (hi' : m'.start ≤ i ∧ i < m'.stop) : m = m' := by
  induction h with
  | done _ => cases hm
  | pass _ _ _ ih => exact ih hm hm'
  | take _ _ _ h ih =>
    rcases List.mem_cons.mp hm with rfl | hlater <;> rcases List.mem_cons.mp hm' with rfl | hlater'
    · rfl
    · have hstart := h.start_le m' hlater'
      omega
    · have hstart := h.start_le m hlater
      omega
    · exact ih hlater hlater'

theorem scans_pass {start n : Nat} {ms : List Match} (hlen : start + n ≤ cs.length)
    (hnone : ∀ q, start ≤ q → q < start + n → p.tryAt cs.toArray q false = none)
    (h : Scans p cs (start + n) ms) : Scans p cs start ms := by
  induction n generalizing start with
  | zero => exact h
  | succ n ih =>
    have hshift : start + (n + 1) = start + 1 + n := by omega
    rw [hshift] at hlen hnone h
    exact .pass (by omega) (hnone start (Nat.le_refl _) (by omega))
      (ih hlen (fun q hq hq' => hnone q (by omega) hq') h)

theorem tryFrom_of_some {text : Array Char} {n pos : Nat} {m : Match}
    (h : p.tryFrom text n pos false = some m) :
    p.tryAt text m.start false = some m ∧ pos ≤ m.start ∧ m.start ≤ pos + n ∧
      ∀ q, pos ≤ q → q < m.start → p.tryAt text q false = none := by
  induction n generalizing pos with
  | zero =>
    have hstart := start_of_tryAt h
    rw [hstart]
    exact ⟨h, Nat.le_refl _, Nat.le_refl _, fun q hq hq' => by omega⟩
  | succ n ih =>
    unfold tryFrom at h
    split at h
    · next m' hm =>
      cases h
      have hstart := start_of_tryAt hm
      rw [hstart]
      exact ⟨hm, Nat.le_refl _, by omega, fun q hq hq' => by omega⟩
    · next hnone =>
      obtain ⟨hm, hle, hle', hbefore⟩ := ih h
      refine ⟨hm, by omega, by omega, fun q hq hq' => ?_⟩
      rcases Nat.eq_or_lt_of_le hq with rfl | hlt
      · exact hnone
      · exact hbefore q hlt hq'

theorem tryFrom_of_none {text : Array Char} {n pos : Nat} (h : p.tryFrom text n pos false = none) :
    ∀ q, pos ≤ q → q ≤ pos + n → p.tryAt text q false = none := by
  induction n generalizing pos with
  | zero =>
    intro q hq hq'
    obtain rfl : q = pos := by omega
    exact h
  | succ n ih =>
    unfold tryFrom at h
    split at h
    · cases h
    · next hnone =>
      intro q hq hq'
      rcases Nat.eq_or_lt_of_le hq with rfl | hlt
      · exact hnone
      · exact ih h q hlt (by omega)

theorem scans_scan (hp : NeverEmpty p) {bound pos : Nat} (hpos : pos ≤ cs.length)
    (hbound : cs.length < bound + pos) :
    Scans p cs pos (p.scan cs.toArray bound pos false) := by
  induction bound generalizing pos with
  | zero => omega
  | succ bound ih =>
    rw [scan]
    split
    · next m hm =>
      obtain ⟨hhit, hle, hle', hbefore⟩ := tryFrom_of_some hm
      obtain ⟨-, hfinds⟩ := finds_of_tryFrom hpos hm
      have hlt := hp _ _ _ hhit
      have hstop := hfinds.stop_le
      have hempty : m.isEmpty = false := beq_false_of_ne (Nat.ne_of_lt hlt)
      obtain ⟨n, hn⟩ := Nat.exists_eq_add_of_le hle
      rw [hempty]
      rw [hn] at hhit hbefore hlt
      refine scans_pass (n := n) (by omega) hbefore (.take (by omega) hhit hlt ?_)
      exact ih hstop (by omega)
    · next hnone =>
      obtain ⟨n, hn⟩ := Nat.exists_eq_add_of_le hpos
      refine scans_pass (n := n) (by omega) (fun q hq hq' => ?_) (.done (by omega))
      exact tryFrom_of_none hnone q hq (by simp; omega)

theorem scans_findAll (hp : NeverEmpty p) (cs : List Char) : Scans p cs 0 (p.findAll cs) :=
  scans_scan hp (Nat.zero_le _) (by simp; omega)

/-- What is found can be told by any scan. -/
theorem findAll_eq (hp : NeverEmpty p) {ms : List Match} (h : Scans p cs 0 ms) :
    p.findAll cs = ms := (scans_findAll hp cs).unique h

section Splicing

variable {f : Match → List Char} {pos : Nat} {ms : List Match}

theorem spliceFrom_skip {q : Nat} (hq : pos ≤ q) (h : ∀ m ∈ ms, q ≤ m.start) :
    spliceFrom cs f pos ms = Text.slice cs pos q ++ spliceFrom cs f q ms := by
  cases ms with
  | nil => exact (Text.slice_append_drop cs hq).symm
  | cons m ms =>
    have hsplit : Text.slice cs pos q ++ Text.slice cs q m.start = Text.slice cs pos m.start :=
      Text.slice_append hq (h m List.mem_cons_self)
    rw [spliceFrom, spliceFrom, ← hsplit, List.append_assoc, List.append_assoc, List.append_assoc]

theorem spliceFrom_take (m : Match) :
    spliceFrom cs f m.start (m :: ms) = f m ++ spliceFrom cs f m.stop ms := by
  rw [spliceFrom, Text.slice_self, List.nil_append]

end Splicing

open Text

/-- If every match is replaced by its text with something put into it, so is the whole text. -/
theorem Scans.spliceFrom_inserted {f : Match → List Char} {pos : Nat} {ms : List Match}
    (h : Scans p cs pos ms) (add : Nat → List Char)
    (hf : ∀ m ∈ ms, f m = inserted (fun j => add (m.start + j)) (m.text cs))
    (hrest : ∀ i, pos ≤ i → (∀ m ∈ ms, ¬(m.start ≤ i ∧ i < m.stop)) → add i = []) :
    spliceFrom cs f pos ms = inserted (fun j => add (pos + j)) (cs.drop pos) := by
  induction h with
  | done hle =>
    rw [spliceFrom, List.drop_of_length_le hle]
    rfl
  | @pass pos ms hlt hnone h ih =>
    have hlater : ∀ m ∈ ms, pos + 1 ≤ m.start := h.start_le
    have hnothing : add pos = [] := by
      refine hrest pos (Nat.le_refl _) fun m hm hin => ?_
      have hstart := hlater m hm
      omega
    rw [spliceFrom_skip (Nat.le_succ pos) hlater, slice_one hlt,
      ih hf fun i hi => hrest i (Nat.le_of_succ_le hi), List.drop_eq_getElem_cons hlt,
      inserted_from_cons, hnothing]
    rfl
  | @take pos m ms hlt hm hstop h ih =>
    have hstart := start_of_tryAt hm
    have hlength : (m.text cs).length = m.stop - pos := by
      have hle : m.stop ≤ cs.length := by
        simpa using (tryAt_within (by simp; omega) hm).1
      rw [Match.text, Text.slice, List.length_drop, List.length_take_of_le hle, hstart]
    have hnext := ih (fun m' hm' => hf m' (List.mem_cons_of_mem m hm')) fun i hi hout => by
      refine hrest i (Nat.le_trans (Nat.le_of_lt hstop) hi) fun m' hm' => ?_
      rcases List.mem_cons.mp hm' with rfl | hm'
      · omega
      · exact hout m' hm'
    have hsplit := slice_append_drop cs (Nat.le_of_lt hstop)
    have hshift : (fun j => add (pos + (m.stop - pos + j))) = fun j => add (m.stop + j) := by
      funext j
      congr 1
      omega
    rw [← hstart, spliceFrom_take, hf m List.mem_cons_self, hnext, hstart, ← hsplit,
      inserted_append]
    rw [Match.text, hstart] at hlength ⊢
    rw [hlength, hshift]

section Moved

variable {add : Nat → List Char} {R : Match → Match → Prop} {pos : Nat} {ms : List Match}

/-- The scan that went on at `pos` of the text goes on at `stop` of the text with what is put into
it: right behind the character at some offset `j`, or between what is put there, and up to there
nothing is found. -/
def Resumes (p : Pattern) (add : Nat → List Char) (cs : List Char) (pos stop : Nat) : Prop :=
  ∃ j < cs.length, pos ≤ j + 1 ∧ placeOf (sizes add) j < stop ∧ stop ≤ placeOf (sizes add) (j + 1) ∧
    ∀ i, pos ≤ i → i ≤ j → p.tryAt cs.toArray i false = none

theorem resumes_behind (h : 0 < pos) (hle : pos ≤ cs.length) :
    Resumes p add cs pos (placeOf (sizes add) (pos - 1) + 1) := by
  obtain ⟨j, rfl⟩ := Nat.exists_eq_add_of_lt h
  rw [Nat.zero_add, Nat.add_sub_cancel] at *
  refine ⟨j, hle, Nat.le_refl _, Nat.lt_succ_self _, ?_, fun i hi hi' => by omega⟩
  rw [placeOf]
  omega

theorem resumes_at {q : Nat} (hpos : pos ≤ q) (hq : 0 < q) (hle : q ≤ cs.length)
    (hnone : ∀ i, pos ≤ i → i < q → p.tryAt cs.toArray i false = none) :
    Resumes p add cs pos (placeOf (sizes add) q) := by
  obtain ⟨j, rfl⟩ := Nat.exists_eq_succ_of_ne_zero (Nat.ne_of_gt hq)
  exact ⟨j, hle, hpos, placeOf_lt_iff.mpr (Nat.lt_succ_self j), Nat.le_refl _,
    fun i hi hi' => hnone i hi (Nat.lt_succ_of_le hi')⟩

/-- Where matches keep their starts and what is put into the text brings none about, a scan finds
them in their new places. -/
theorem Scans.moved (h : Scans p cs pos ms) (add : Nat → List Char)
    (hnone : ∀ i < cs.length, p.tryAt cs.toArray i false = none →
      p.tryAt (inserted add cs).toArray (placeOf (sizes add) i) false = none)
    (hbetween : ∀ i < cs.length, ∀ r, 0 < r → r ≤ sizes add i →
      p.tryAt (inserted add cs).toArray (placeOf (sizes add) i + r) false = none)
    (hsome : ∀ m ∈ ms, p.tryAt cs.toArray m.start false = some m →
      ∃ m', p.tryAt (inserted add cs).toArray (placeOf (sizes add) m.start) false = some m' ∧
        Resumes p add cs m.stop m'.stop ∧ R m m') :
    ∃ ms', Scans p (inserted add cs) (placeOf (sizes add) pos) ms' ∧
      List.Forall₂ (fun m m' => m'.start = placeOf (sizes add) m.start ∧ R m m') ms ms' := by
  -- the scan may also start further on, if nothing is found up to there
  suffices hlater : ∀ j, pos ≤ j → (∀ i, pos ≤ i → i < j → p.tryAt cs.toArray i false = none) →
      ∃ ms', Scans p (inserted add cs) (placeOf (sizes add) j) ms' ∧
        List.Forall₂ (fun m m' => m'.start = placeOf (sizes add) m.start ∧ R m m') ms ms' from
    hlater pos (Nat.le_refl _) fun i hi hi' => by omega
  induction h with
  | done hle =>
    intro j hj _
    refine ⟨[], .done ?_, .nil⟩
    rw [length_inserted]
    exact placeOf_le_iff.mpr (Nat.le_trans hle hj)
  | @pass pos ms hlt hhere h ih =>
    intro j hj hclear
    rcases Nat.eq_or_lt_of_le hj with rfl | hlater
    · obtain ⟨ms', hscans, hall⟩ := ih hsome (pos + 1) (Nat.le_refl _) fun i hi hi' => by omega
      refine ⟨ms', scans_pass (n := sizes add pos + 1) ?_ ?_ hscans, hall⟩
      · rw [length_inserted]
        exact placeOf_le_iff.mpr hlt
      · intro q hq hq'
        obtain ⟨r, rfl⟩ := Nat.exists_eq_add_of_le hq
        rcases Nat.eq_zero_or_pos r with rfl | hr
        · exact hnone pos hlt hhere
        · exact hbetween pos hlt r hr (by omega)
    · exact ih hsome j hlater fun i hi => hclear i (Nat.le_of_succ_le hi)
  | @take pos m ms hlt hm hstop h ih =>
    intro j hj hclear
    obtain rfl : pos = j := by
      by_contra hne
      have hnothing := hclear pos (Nat.le_refl _) (by omega)
      rw [hm] at hnothing
      cases hnothing
    have hstart := start_of_tryAt hm
    have hhere := hsome m List.mem_cons_self (by rwa [hstart])
    obtain ⟨m', hm', ⟨i, hi, hpos, hbehind, hupto, hclear'⟩, hR⟩ := hhere
    obtain ⟨ms', hscans, hall⟩ := ih (fun m' hm' => hsome m' (List.mem_cons_of_mem m hm')) (i + 1)
      hpos fun q hq hq' => hclear' q hq (Nat.le_of_lt_succ hq')
    obtain ⟨n, hn⟩ := Nat.exists_eq_add_of_le hupto
    have hresumed : Scans p (inserted add cs) m'.stop ms' := by
      refine scans_pass (n := n) ?_ (fun q hq hq' => ?_) (hn ▸ hscans)
      · rw [← hn, length_inserted]
        exact placeOf_le_iff.mpr hi
      · obtain ⟨r, rfl⟩ := Nat.exists_eq_add_of_le (Nat.le_trans (Nat.le_of_lt hbehind) hq)
        rw [placeOf] at hn
        exact hbetween i hi r (by omega) (by omega)
    have hstart' := start_of_tryAt hm'
    rw [hstart] at hm' hstart'
    refine ⟨m' :: ms', .take ?_ hm' ?_ hresumed, .cons ⟨?_, hR⟩ hall⟩
    · rw [length_inserted]
      exact placeOf_lt_iff.mpr hlt
    · have hplace : placeOf (sizes add) pos ≤ placeOf (sizes add) i :=
        placeOf_le_iff.mpr (by omega)
      omega
    · rw [hstart', hstart]

end Moved

end CampaignCheck.Pattern

import CampaignCheck.Diff.Matching
import Mathlib.Data.List.Basic

namespace CampaignCheck.Diff

variable {α : Type}

/-- The next `n` lines of the left sequence from `i` on are those of the right one from `j` on. -/
structure Same (left right : List α) (i j n : Nat) : Prop where
  left_le : i + n ≤ left.length
  right_le : j + n ≤ right.length
  eq : ∀ k < n, left[i + k]? = right[j + k]?

namespace Same

variable {left right : List α} {i j m n : Nat}

theorem nil (hi : i ≤ left.length) (hj : j ≤ right.length) : Same left right i j 0 :=
  ⟨hi, hj, fun k hk => absurd hk (Nat.not_lt_zero k)⟩

theorem append (hm : Same left right i j m) (hn : Same left right (i + m) (j + m) n) :
    Same left right i j (m + n) := by
  refine ⟨by have := hn.left_le; omega, by have := hn.right_le; omega, fun k hk => ?_⟩
  by_cases hkm : k < m
  · exact hm.eq k hkm
  · have hrest := hn.eq (k - m) (by omega)
    rwa [Nat.add_assoc, Nat.add_assoc, Nat.add_sub_cancel' (by omega)] at hrest

theorem left_part (h : Same left right i j (m + n)) : Same left right i j m := by
  refine ⟨by have := h.left_le; omega, by have := h.right_le; omega, fun k hk => ?_⟩
  exact h.eq k (by omega)

theorem right_part (h : Same left right i j (m + n)) : Same left right (i + m) (j + m) n := by
  refine ⟨by have := h.left_le; omega, by have := h.right_le; omega, fun k hk => ?_⟩
  rw [Nat.add_assoc, Nat.add_assoc]
  exact h.eq (m + k) (by omega)

theorem single (hi : i < left.length) (h : left[i]? = right[j]?) : Same left right i j 1 := by
  have hj : j < right.length := by
    rw [List.getElem?_eq_getElem hi] at h
    exact (List.getElem?_eq_some_iff.mp h.symm).1
  refine ⟨hi, hj, fun k hk => ?_⟩
  obtain rfl : k = 0 := by omega
  exact h

theorem take_drop (h : Same left right i j n) : (left.drop i).take n = (right.drop j).take n := by
  refine List.ext_getElem? fun k => ?_
  rw [List.getElem?_take, List.getElem?_take]
  split_ifs with hk
  · rw [List.getElem?_drop, List.getElem?_drop]
    exact h.eq k hk
  · rfl

end Same

/-- The run lies in the window, and its lines are the same in both sequences. -/
structure Run.Sound (left right : List α) (w : Window) (r : Run) : Prop where
  same : Same left right r.left r.right r.size
  leftStart_le : w.leftStart ≤ r.left
  rightStart_le : w.rightStart ≤ r.right
  le_leftStop : r.left + r.size ≤ w.leftStop
  le_rightStop : r.right + r.size ≤ w.rightStop

/-- A run of this length, sound in the window, ends before line `i` of the left sequence and at
line `j` of the right one. -/
def RunTo (left right : List α) (w : Window) (i j n : Nat) : Prop :=
  ∃ a b, a + n = i ∧ b + n = j + 1 ∧ Run.Sound left right w ⟨a, b, n⟩

section Ends

variable {left right : List α} {w : Window}

theorem RunTo.first {i j : Nat} (hi : w.leftStart ≤ i) (hi' : i < w.leftStop)
    (hj : w.rightStart ≤ j) (hj' : j < w.rightStop) (hlen : i < left.length)
    (heq : left[i]? = right[j]?) : RunTo left right w (i + 1) j 1 :=
  ⟨i, j, rfl, rfl, Same.single hlen heq, hi, hj, hi', hj'⟩

theorem RunTo.next {i j n : Nat} (h : RunTo left right w i j n) (hi : i < w.leftStop)
    (hj : j + 1 < w.rightStop) (hlen : i < left.length) (heq : left[i]? = right[j + 1]?) :
    RunTo left right w (i + 1) (j + 1) (n + 1) := by
  obtain ⟨a, b, rfl, hb, hrun⟩ := h
  have hsame : Same left right a b (n + 1) :=
    hrun.same.append (Same.single hlen (by rw [heq, hb]))
  have hstop : b + (n + 1) ≤ w.rightStop := by omega
  exact ⟨a, b, rfl, by omega, hsame, hrun.leftStart_le, hrun.rightStart_le, hi, hstop⟩

theorem RunTo.sound {i j n : Nat} (h : RunTo left right w i j n) :
    Run.Sound left right w ⟨i - n, j + 1 - n, n⟩ := by
  obtain ⟨a, b, rfl, hb, hrun⟩ := h
  rwa [← hb, Nat.add_sub_cancel, Nat.add_sub_cancel]

/-- One more line of the left sequence. -/
theorem extendRuns_sound {i : Nat} {lengths : List (Nat × Nat)} (hi : w.leftStart ≤ i)
    (hi' : i < w.leftStop) (hlen : i < left.length)
    (hlengths : ∀ p ∈ lengths, RunTo left right w i p.1 p.2) {js : List Nat}
    (hjs : ∀ j ∈ js, left[i]? = right[j]?) {new : List (Nat × Nat)} {best : Run}
    (hnew : ∀ p ∈ new, RunTo left right w (i + 1) p.1 p.2) (hbest : best.Sound left right w) :
    (∀ p ∈ (extendRuns w i lengths js new best).1, RunTo left right w (i + 1) p.1 p.2) ∧
      (extendRuns w i lengths js new best).2.Sound left right w := by
  induction js generalizing new best with
  | nil => exact ⟨hnew, hbest⟩
  | cons j js ih =>
    have heq := hjs j List.mem_cons_self
    have hjs' : ∀ k ∈ js, left[i]? = right[k]? := fun k hk => hjs k (List.mem_cons_of_mem j hk)
    rw [extendRuns]
    by_cases hout : (decide (j < w.rightStart) || decide (w.rightStop ≤ j)) = true
    · rw [if_pos hout]
      exact ih hjs' hnew hbest
    · rw [if_neg hout]
      have hj : w.rightStart ≤ j ∧ j < w.rightStop := by simpa using hout
      have hrun : RunTo left right w (i + 1) j
          ((if j = 0 then 0 else (lengths.lookup (j - 1)).getD 0) + 1) := by
        cases j with
        | zero => exact RunTo.first hi hi' hj.1 hj.2 hlen heq
        | succ j =>
          rw [if_neg (Nat.succ_ne_zero j), Nat.add_sub_cancel]
          cases hlook : lengths.lookup j with
          | none => exact RunTo.first hi hi' hj.1 hj.2 hlen heq
          | some n =>
            obtain ⟨l₁, l₂, rfl, -⟩ := List.lookup_eq_some_iff.mp hlook
            have hbefore : RunTo left right w i j n := hlengths (j, n) (by simp)
            exact hbefore.next hi' hj.2 hlen heq
      generalize (if j = 0 then 0 else (lengths.lookup (j - 1)).getD 0) = before at hrun ⊢
      refine ih hjs' (List.forall_mem_cons.mpr ⟨hrun, hnew⟩) ?_
      split_ifs
      · exact hrun.sound
      · exact hbest

end Ends

section Search

variable [DecidableEq α] {left right : List α} {w : Window}

theorem getElem?_of_mem_offsetsOf {x : α} {j : Nat} (h : j ∈ offsetsOf right x) :
    right[j]? = some x := by
  unfold offsetsOf at h
  split_ifs at h
  · cases h
  · simpa using (List.mem_filter.mp h).2

theorem longestFrom_sound {i : Nat} {lengths : List (Nat × Nat)} {best : Run} {xs : List α}
    (hi : w.leftStart ≤ i) (hxs : ∀ k x, xs[k]? = some x → left[i + k]? = some x)
    (hstop : i + xs.length ≤ w.leftStop)
    (hlengths : ∀ p ∈ lengths, RunTo left right w i p.1 p.2) (hbest : best.Sound left right w) :
    (longestFrom right w i lengths best xs).Sound left right w := by
  induction xs generalizing i lengths best with
  | nil => exact hbest
  | cons x xs ih =>
    rw [List.length_cons] at hstop
    have hx : left[i]? = some x := hxs 0 x rfl
    have hlen : i < left.length := (List.getElem?_eq_some_iff.mp hx).1
    have hjs : ∀ j ∈ offsetsOf right x, left[i]? = right[j]? := fun j hj => by
      rw [hx, getElem?_of_mem_offsetsOf hj]
    have hnone : ∀ p ∈ ([] : List (Nat × Nat)), RunTo left right w (i + 1) p.1 p.2 := by simp
    have hrow := extendRuns_sound hi (by omega) hlen hlengths hjs hnone hbest
    refine ih (by omega) (fun k y hy => ?_) (by omega) hrow.1 hrow.2
    rw [Nat.add_assoc, Nat.add_comm 1 k]
    exact hxs (k + 1) y hy

theorem growBack_sound {r : Run} (h : r.Sound left right w) (n : Nat) :
    (growBack left right w n r).Sound left right w := by
  induction n generalizing r with
  | zero => exact h
  | succ n ih =>
    rw [growBack]
    split_ifs with hgrow
    · simp only [Bool.and_eq_true, decide_eq_true_eq] at hgrow
      obtain ⟨⟨hl, hr⟩, heq⟩ := hgrow
      obtain ⟨a, b, m⟩ := r
      obtain ⟨a, rfl⟩ : ∃ a', a = a' + 1 := ⟨a - 1, by simp only at hl; omega⟩
      obtain ⟨b, rfl⟩ : ∃ b', b = b' + 1 := ⟨b - 1, by simp only at hr; omega⟩
      obtain ⟨hsame, -, -, hls, hrs⟩ := h
      simp only [Nat.add_sub_cancel] at *
      have hlen : a < left.length := by have := hsame.left_le; omega
      refine ih ⟨?_, by simp only; omega, by simp only; omega, by simp only; omega,
        by simp only; omega⟩
      have hgrown := (Same.single hlen heq).append hsame
      rwa [Nat.add_comm 1 m] at hgrown
    · exact h

theorem growForth_sound (hleft : w.leftStop ≤ left.length) {r : Run} (h : r.Sound left right w)
    (n : Nat) : (growForth left right w n r).Sound left right w := by
  induction n generalizing r with
  | zero => exact h
  | succ n ih =>
    rw [growForth]
    split_ifs with hgrow
    · simp only [Bool.and_eq_true, decide_eq_true_eq] at hgrow
      obtain ⟨⟨hl, hr⟩, heq⟩ := hgrow
      exact ih ⟨h.same.append (Same.single (by omega) heq), h.leftStart_le, h.rightStart_le, hl, hr⟩
    · exact h

/-- A part of both sequences, from the start to the end of each. -/
structure Window.Valid (left right : List α) (w : Window) : Prop where
  left_le : w.leftStart ≤ w.leftStop
  right_le : w.rightStart ≤ w.rightStop
  leftStop_le : w.leftStop ≤ left.length
  rightStop_le : w.rightStop ≤ right.length

omit [DecidableEq α] in
theorem Window.Valid.empty_sound (h : w.Valid left right) :
    Run.Sound left right w ⟨w.leftStart, w.rightStart, 0⟩ :=
  ⟨Same.nil (Nat.le_trans h.left_le h.leftStop_le) (Nat.le_trans h.right_le h.rightStop_le),
    Nat.le_refl _, Nat.le_refl _, h.left_le, h.right_le⟩

theorem longest_sound (h : w.Valid left right) : (longest left right w).Sound left right w := by
  refine growForth_sound h.leftStop_le (growBack_sound ?_ _) _
  refine longestFrom_sound (Nat.le_refl _) (fun k x hx => ?_) ?_ (by simp) h.empty_sound
  · rw [List.getElem?_drop, List.getElem?_take] at hx
    split_ifs at hx
    exact hx
  · have hle := h.leftStop_le
    have hstart := h.left_le
    rw [List.length_drop, List.length_take]
    omega

end Search

section Chain

variable {left right : List α}

/-- Runs of a window that follow each other in both sequences. -/
def Follow (left right : List α) : Window → List Run → Prop
  | _, [] => True
  | w, r :: rs => r.Sound left right w ∧
    Follow left right ⟨r.left + r.size, w.leftStop, r.right + r.size, w.rightStop⟩ rs

/-- Runs before a run, the run and runs behind it. -/
theorem Follow.append {w : Window} {rs ss : List Run} {r : Run} (hr : r.Sound left right w)
    (hrs : Follow left right ⟨w.leftStart, r.left, w.rightStart, r.right⟩ rs)
    (hss : Follow left right ⟨r.left + r.size, w.leftStop, r.right + r.size, w.rightStop⟩ ss) :
    Follow left right w (rs ++ r :: ss) := by
  induction rs generalizing w with
  | nil => exact ⟨hr, hss⟩
  | cons s rs ih =>
    obtain ⟨hs, hrs⟩ := hrs
    obtain ⟨hsame, hl, hr', hls, hrs'⟩ := hs
    have hleft := hr.le_leftStop
    have hright := hr.le_rightStop
    simp only at hl hr' hls hrs'
    refine ⟨⟨hsame, hl, hr', by omega, by omega⟩, ih ⟨hr.same, hls, hrs', hleft, hright⟩ hrs hss⟩

theorem Follow.joinRuns {w : Window} {rs : List Run} (h : Follow left right w rs) :
    Follow left right w (joinRuns rs) := by
  induction rs generalizing w with
  | nil => exact h
  | cons r rs ih =>
    obtain ⟨hr, hrs⟩ := h
    have hjoined := ih hrs
    rw [Diff.joinRuns]
    cases hj : Diff.joinRuns rs with
    | nil => exact ⟨hr, trivial⟩
    | cons s ss =>
      rw [hj] at hjoined
      simp only
      split_ifs with htouch
      · simp only [Bool.and_eq_true, decide_eq_true_eq] at htouch
        obtain ⟨hs, hss⟩ := hjoined
        obtain ⟨hsame, -, -, hls, hrs⟩ := hs
        simp only at hls hrs
        refine ⟨⟨?_, hr.leftStart_le, hr.rightStart_le, ?_, ?_⟩, ?_⟩
        · refine hr.same.append ?_
          rw [htouch.1, htouch.2]
          exact hsame
        · simp only
          omega
        · simp only
          omega
        · simp only [← Nat.add_assoc, htouch.1, htouch.2]
          exact hss
      · exact ⟨hr, hjoined⟩

theorem runsIn_follow [DecidableEq α] (n : Nat) {w : Window} (h : w.Valid left right) :
    Follow left right w (runsIn left right n w) := by
  induction n generalizing w with
  | zero => trivial
  | succ n ih =>
    have hr := longest_sound h
    have hstop := h.leftStop_le
    have hstop' := h.rightStop_le
    rw [runsIn]
    generalize longest left right w = r at hr ⊢
    by_cases hzero : r.size = 0
    · simp only [hzero, if_true]
      trivial
    · rw [if_neg hzero, List.append_assoc, List.singleton_append]
      refine Follow.append hr ?_ ?_
      · split_ifs with hbefore
        · refine ih ⟨hr.leftStart_le, hr.rightStart_le, ?_, ?_⟩
          · exact Nat.le_of_add_right_le hr.same.left_le
          · exact Nat.le_of_add_right_le hr.same.right_le
        · trivial
      · split_ifs with hbehind
        · exact ih ⟨hr.le_leftStop, hr.le_rightStop, hstop, hstop'⟩
        · trivial

/-- The matching runs of two sequences follow each other. -/
theorem matching_follow [DecidableEq α] (left right : List α) :
    Follow left right ⟨0, left.length, 0, right.length⟩ (matching left right) :=
  (runsIn_follow left.length ⟨Nat.zero_le _, Nat.zero_le _, Nat.le_refl _, Nat.le_refl _⟩).joinRuns

end Chain

end CampaignCheck.Diff

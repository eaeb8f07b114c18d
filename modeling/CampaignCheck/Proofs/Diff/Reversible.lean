import CampaignCheck.Fix.Report
import CampaignCheck.Proofs.Diff.Patch
import CampaignCheck.Proofs.Diff.Runs
import CampaignCheck.Proofs.Text.Positions
import CampaignCheck.Validator.Registry

namespace CampaignCheck

namespace Diff

open Patch Text

section Ranges

theorem toList_range (start stop : Nat) : (range start stop).toList =
    if stop - start = 1 then Nat.toDigits 10 (start + 1)
    else if stop - start = 0 then Nat.toDigits 10 start ++ ',' :: Nat.toDigits 10 0
    else Nat.toDigits 10 (start + 1) ++ ',' :: Nat.toDigits 10 (stop - start) := by
  have hzero : ",0".toList = ',' :: Nat.toDigits 10 0 := by decide
  have hcomma : ",".toList = [','] := rfl
  unfold range
  split_ifs
  · exact toList_toString_nat _
  · rw [String.toList_append, toList_toString_nat, hzero]
  · rw [String.toList_append, String.toList_append, toList_toString_nat, toList_toString_nat,
      hcomma, List.append_assoc, List.singleton_append]

theorem readSpan?_range (start stop : Nat) :
    readSpan? (range start stop).toList = some ⟨start, stop - start⟩ := by
  have hcomma : ','.isDigit = false := rfl
  have hpair (f n : Nat) : cut ',' (Nat.toDigits 10 f ++ ',' :: Nat.toDigits 10 n) =
      [Nat.toDigits 10 f, Nat.toDigits 10 n] := by
    rw [cut_append (not_mem_toDigits hcomma f), cut_of_not_mem (not_mem_toDigits hcomma n)]
  rw [toList_range]
  unfold readSpan?
  split_ifs with hone hzero
  · rw [cut_of_not_mem (not_mem_toDigits hcomma _)]
    simp [readNat?_toDigits, hone]
  · rw [hpair]
    simp only [readNat?_toDigits, Option.bind_some, Option.map_some, if_true, hzero]
  · rw [hpair]
    simp only [readNat?_toDigits, Option.bind_some, Option.map_some, if_neg hzero,
      Nat.add_sub_cancel]

/-- A range is written in digits and commas. -/
theorem not_mem_range {c : Char} (hc : c.isDigit = false) (hcomma : c ≠ ',') (start stop : Nat) :
    c ∉ (range start stop).toList := by
  have hdigits := not_mem_toDigits hc
  rw [toList_range]
  split_ifs
  · exact hdigits _
  · rw [List.mem_append, List.mem_cons]
    simp only [hdigits, hcomma, or_self, not_false_eq_true]
  · rw [List.mem_append, List.mem_cons]
    simp only [hdigits, hcomma, or_self, not_false_eq_true]

/-- The header of a hunk from and to these lines. -/
def header (i j m n : Nat) : List Char :=
  ("@@ -" ++ range i m ++ " +" ++ range j n ++ " @@").toList

theorem header_eq (i j m n : Nat) : header i j m n =
    ['@', '@'] ++ ' ' :: ('-' :: (range i m).toList ++ ' ' ::
      ('+' :: (range j n).toList ++ ' ' :: ['@', '@'])) := by
  have h₁ : "@@ -".toList = ['@', '@', ' ', '-'] := rfl
  have h₂ : " +".toList = [' ', '+'] := rfl
  have h₃ : " @@".toList = [' ', '@', '@'] := rfl
  simp [header, h₁, h₂, h₃]

theorem readHeader?_header (i j m n : Nat) :
    readHeader? (header i j m n) = some (⟨i, m - i⟩, ⟨j, n - j⟩) := by
  have hblank : ' '.isDigit = false := rfl
  have hl : ' ' ∉ '-' :: (range i m).toList := by
    simpa using not_mem_range hblank (by decide) i m
  have hr : ' ' ∉ '+' :: (range j n).toList := by
    simpa using not_mem_range hblank (by decide) j n
  have hcut : cut ' ' (header i j m n) =
      [['@', '@'], '-' :: (range i m).toList, '+' :: (range j n).toList, ['@', '@']] := by
    rw [header_eq, cut_append (by decide), cut_append hl, cut_append hr, cut_of_not_mem (by decide)]
  unfold readHeader?
  rw [hcut]
  simp [readSpan?_range]

theorem not_mem_header (i j m n : Nat) : '\n' ∉ header i j m n := by
  have hfeed : '\n'.isDigit = false := rfl
  have hrange := not_mem_range hfeed (by decide)
  rw [header_eq]
  simp [hrange]

end Ranges

section Edits

variable {α : Type}

/-- The lines of a text from one offset up to another. -/
def part (ls : List α) (start stop : Nat) : List α := (ls.take stop).drop start

theorem part_eq (ls : List α) (start stop : Nat) :
    part ls start stop = (ls.drop start).take (stop - start) :=
  List.drop_take

theorem part_append_drop (ls : List α) {start stop : Nat} (h : start ≤ stop) :
    part ls start stop ++ ls.drop stop = ls.drop start := by
  have hdrop : ls.drop stop = (ls.drop start).drop (stop - start) := by
    rw [List.drop_drop, Nat.add_sub_cancel' h]
  rw [part_eq, hdrop, List.take_append_drop]

theorem part_append_part (ls : List α) {i j k : Nat} (hij : i ≤ j) (hjk : j ≤ k) :
    part ls i j ++ part ls j k = part ls i k := by
  have hsize : k - i = (j - i) + (k - j) := by omega
  have hdrop : ls.drop j = (ls.drop i).drop (j - i) := by
    rw [List.drop_drop, Nat.add_sub_cancel' hij]
  rw [part_eq, part_eq, part_eq, hsize, List.take_add, hdrop]

theorem length_part (ls : List α) {start stop : Nat} (h : stop ≤ ls.length) :
    (part ls start stop).length = stop - start := by
  rw [part, List.length_drop, List.length_take, Nat.min_eq_left h]

theorem part_self (ls : List α) (start : Nat) : part ls start start = [] := by
  simp [part]

theorem Same.part {left right : List α} {i j n : Nat} (h : Same left right i j n) :
    part left i (i + n) = part right j (j + n) := by
  rw [part_eq, part_eq, Nat.add_sub_cancel_left, Nat.add_sub_cancel_left, h.take_drop]

def Edit.Fits (left right : List α) (e : Edit) : Prop :=
  e.window.Valid left right ∧
    match e.kind with
    | .keep => ∃ n, Same left right e.window.leftStart e.window.rightStart n ∧
        e.window.leftStop = e.window.leftStart + n ∧ e.window.rightStop = e.window.rightStart + n
    | .replace => True
    | .delete => e.window.rightStart = e.window.rightStop
    | .insert => e.window.leftStart = e.window.leftStop

/-- Edits that follow each other from a place in both texts to another. -/
def Path (left right : List α) : Nat → Nat → List Edit → Nat → Nat → Prop
  | i, j, [], m, n => i = m ∧ j = n
  | i, j, e :: es, m, n => e.Fits left right ∧ e.window.leftStart = i ∧ e.window.rightStart = j ∧
    Path left right e.window.leftStop e.window.rightStop es m n

variable {left right : List α}

theorem Same.fits {i j n : Nat} (h : Same left right i j n) :
    Edit.Fits left right ⟨.keep, i, i + n, j, j + n⟩ :=
  ⟨⟨Nat.le_add_right i n, Nat.le_add_right j n, h.left_le, h.right_le⟩, n, h, rfl, rfl⟩

namespace Path

theorem nil (i j : Nat) : Path left right i j [] i j := ⟨rfl, rfl⟩

theorem single {e : Edit} (h : e.Fits left right) :
    Path left right e.window.leftStart e.window.rightStart [e]
      e.window.leftStop e.window.rightStop :=
  ⟨h, rfl, rfl, nil _ _⟩

theorem append {i j k l m n : Nat} {es fs : List Edit} (hes : Path left right i j es k l)
    (hfs : Path left right k l fs m n) : Path left right i j (es ++ fs) m n := by
  induction es generalizing i j with
  | nil =>
    obtain ⟨rfl, rfl⟩ := hes
    exact hfs
  | cons e es ih =>
    obtain ⟨he, hi, hj, hes⟩ := hes
    exact ⟨he, hi, hj, ih hes⟩

theorem le {i j m n : Nat} {es : List Edit} (h : Path left right i j es m n) :
    i ≤ m ∧ j ≤ n := by
  induction es generalizing i j with
  | nil =>
    obtain ⟨rfl, rfl⟩ := h
    exact ⟨Nat.le_refl i, Nat.le_refl j⟩
  | cons e es ih =>
    obtain ⟨⟨hvalid, -⟩, rfl, rfl, hes⟩ := h
    exact ⟨Nat.le_trans hvalid.left_le (ih hes).1, Nat.le_trans hvalid.right_le (ih hes).2⟩

theorem le_length {i j m n : Nat} {es : List Edit} (h : Path left right i j es m n)
    (hi : i ≤ left.length) (hj : j ≤ right.length) : m ≤ left.length ∧ n ≤ right.length := by
  induction es generalizing i j with
  | nil =>
    obtain ⟨rfl, rfl⟩ := h
    exact ⟨hi, hj⟩
  | cons e es ih =>
    obtain ⟨⟨hvalid, -⟩, -, -, hes⟩ := h
    exact ih hes hvalid.leftStop_le hvalid.rightStop_le

theorem stop {i j m n : Nat} {es : List Edit} {e : Edit} (h : Path left right i j es m n)
    (he : es.getLast? = some e) : e.window.leftStop = m ∧ e.window.rightStop = n := by
  induction es generalizing i j with
  | nil => cases he
  | cons f es ih =>
    obtain ⟨-, -, -, hes⟩ := h
    cases es with
    | nil =>
      cases he
      exact hes
    | cons g es => exact ih hes (by simpa using he)

end Path

theorem gap_path {i j m n : Nat} (hi : i ≤ m) (hj : j ≤ n) (hm : m ≤ left.length)
    (hn : n ≤ right.length) : Path left right i j (gap i m j n) m n := by
  have hvalid : (⟨i, m, j, n⟩ : Window).Valid left right := ⟨hi, hj, hm, hn⟩
  unfold gap
  split_ifs with hboth hleft hright
  · exact Path.single (e := ⟨.replace, i, m, j, n⟩) ⟨hvalid, trivial⟩
  · obtain rfl : j = n := by simp at hboth; omega
    exact Path.single (e := ⟨.delete, i, m, j, j⟩) ⟨hvalid, rfl⟩
  · obtain rfl : i = m := by omega
    exact Path.single (e := ⟨.insert, i, i, j, n⟩) ⟨hvalid, rfl⟩
  · obtain rfl : i = m := by omega
    obtain rfl : j = n := by omega
    exact Path.nil i j

theorem editsFrom_path {m n : Nat} (hm : m ≤ left.length) (hn : n ≤ right.length) {i j : Nat}
    (hi : i ≤ m) (hj : j ≤ n) {rs : List Run} (h : Follow left right ⟨i, m, j, n⟩ rs) :
    Path left right i j (editsFrom m n i j rs) m n := by
  induction rs generalizing i j with
  | nil => exact gap_path hi hj hm hn
  | cons r rs ih =>
    obtain ⟨⟨hsame, hl, hr, hls, hrs⟩, hrest⟩ := h
    rw [editsFrom, List.append_assoc]
    have hbefore := gap_path hl hr (Nat.le_of_add_right_le hsame.left_le)
      (Nat.le_of_add_right_le hsame.right_le)
    exact hbefore.append ⟨hsame.fits, rfl, rfl, ih hls hrs hrest⟩

/-- The edits between two texts lead from their starts to their ends. -/
theorem edits_path [DecidableEq α] (left right : List α) :
    Path left right 0 0 (edits left right) left.length right.length :=
  editsFrom_path (Nat.le_refl _) (Nat.le_refl _) (Nat.zero_le _) (Nat.zero_le _)
    (matching_follow left right)

/-- Hunks from a place to another, with lines between them that stay. -/
inductive Spread (left right : List α) : Nat → Nat → List (List Edit) → Nat → Nat → Prop
  | last {i j m n : Nat} {g : List Edit} (hg : Path left right i j g m n) :
      Spread left right i j [g] m n
  | more {i j k l m n size : Nat} {g : List Edit} {gs : List (List Edit)}
      (hg : Path left right i j g k l) (hne : g ≠ []) (hgap : Same left right k l size)
      (hgs : Spread left right (k + size) (l + size) gs m n) :
      Spread left right i j (g :: gs) m n

theorem Edit.Fits.keep {w : Window} (h : Edit.Fits left right ⟨.keep, w⟩) :
    ∃ i j n, w = ⟨i, i + n, j, j + n⟩ ∧ Same left right i j n := by
  obtain ⟨i, i', j, j'⟩ := w
  obtain ⟨-, n, hsame, hl, hr⟩ := h
  obtain rfl : i' = i + n := hl
  obtain rfl : j' = j + n := hr
  exact ⟨i, j, n, rfl, hsame⟩

theorem Same.path {i j n : Nat} (h : Same left right i j n) :
    Path left right i j [⟨.keep, i, i + n, j, j + n⟩] (i + n) (j + n) :=
  Path.single h.fits

theorem head_window (i j n : Nat) : Window.head ⟨i, i + n, j, j + n⟩ =
    ⟨i, i + min n context, j, j + min n context⟩ := by
  simp only [Window.head, Nat.add_min_add_left]

theorem tail_window (i j n : Nat) : Window.tail ⟨i, i + n, j, j + n⟩ =
    ⟨i + (n - context), i + n, j + (n - context), j + n⟩ := by
  have hmax (a : Nat) : max a (a + n - context) = a + (n - context) := by omega
  simp only [Window.tail, hmax]

theorem trimFirst_path {i j m n : Nat} {es : List Edit} (h : Path left right i j es m n)
    (hi : i ≤ left.length) (hj : j ≤ right.length) :
    ∃ size, Same left right i j size ∧
      Path left right (i + size) (j + size) (trimFirst es) m n := by
  have hstay : ∃ size, Same left right i j size ∧ Path left right (i + size) (j + size) es m n :=
    ⟨0, Same.nil hi hj, h⟩
  match es, h with
  | [], _ => exact hstay
  | ⟨.replace, _⟩ :: _, _ => exact hstay
  | ⟨.delete, _⟩ :: _, _ => exact hstay
  | ⟨.insert, _⟩ :: _, _ => exact hstay
  | ⟨.keep, w⟩ :: es, ⟨he, hi', hj', hes⟩ =>
    obtain ⟨i, j, size, rfl, hsame⟩ := he.keep
    obtain rfl := hi'
    obtain rfl := hj'
    have hsize : size = size - context + (size - (size - context)) := by omega
    rw [hsize] at hsame
    have hfits := hsame.right_part.fits
    simp only [Nat.add_assoc, ← hsize] at hfits
    rw [trimFirst, tail_window]
    exact ⟨size - context, hsame.left_part, hfits, rfl, rfl, hes⟩

theorem trimLast_path {i j m n : Nat} {es : List Edit} (h : Path left right i j es m n)
    (hm : m ≤ left.length) (hn : n ≤ right.length) :
    ∃ k l size, Path left right i j (trimLast es) k l ∧ Same left right k l size ∧
      k + size = m ∧ l + size = n := by
  induction es generalizing i j with
  | nil => exact ⟨m, n, 0, h, Same.nil hm hn, rfl, rfl⟩
  | cons e es ih =>
    obtain ⟨he, hi, hj, hes⟩ := h
    obtain ⟨kind, w⟩ := e
    by_cases hlast : es = [] ∧ kind = .keep
    · obtain ⟨rfl, rfl⟩ := hlast
      obtain ⟨a, b, size, rfl, hsame⟩ := he.keep
      obtain ⟨rfl, rfl⟩ := hes
      have hsize : size = min size context + (size - min size context) := by omega
      rw [hsize] at hsame
      rw [trimLast, head_window]
      refine ⟨_, _, size - min size context, ⟨hsame.left_part.fits, hi, hj, rfl, rfl⟩,
        hsame.right_part, ?_, ?_⟩
      · rw [Nat.add_assoc, ← hsize]
      · rw [Nat.add_assoc, ← hsize]
    · have hstep : trimLast (⟨kind, w⟩ :: es) = ⟨kind, w⟩ :: trimLast es := by
        cases es with
        | nil => cases kind <;> first | rfl | simp at hlast
        | cons f es => cases kind <;> rfl
      obtain ⟨k, l, size, hpath, hrest⟩ := ih hes
      rw [hstep]
      exact ⟨k, l, size, ⟨he, hi, hj, hpath⟩, hrest⟩

/-- Cutting edits into hunks leaves out lines that stay, and nothing else. -/
theorem hunksFrom_spread {i j k l m n : Nat} {group es : List Edit}
    (hgroup : Path left right i j group k l) (hes : Path left right k l es m n) :
    Spread left right i j (hunksFrom group es) m n := by
  induction es generalizing group i j k l with
  | nil =>
    obtain ⟨rfl, rfl⟩ := hes
    exact .last hgroup
  | cons e es ih =>
    obtain ⟨he, rfl, rfl, hes⟩ := hes
    have hjoined : Spread left right i j (hunksFrom (group ++ [e]) es) m n :=
      ih (hgroup.append (Path.single he)) hes
    obtain ⟨kind, w⟩ := e
    cases kind with
    | replace => exact hjoined
    | delete => exact hjoined
    | insert => exact hjoined
    | keep =>
      rw [hunksFrom]
      split_ifs with hlong
      · obtain ⟨a, b, size, rfl, hsame⟩ := he.keep
        -- The first lines end this hunk, the last ones start the next; the rest is left out.
        simp only [Nat.add_sub_cancel_left] at hlong
        have hmin : min size context = context := by omega
        have hsize : size = context + ((size - context - context) + context) := by omega
        rw [hsize] at hsame
        have hgap := hsame.right_part
        have htail := hgap.right_part.path
        have hstop (c : Nat) : c + context + (size - context - context) + context = c + size := by
          omega
        have hstart (c : Nat) :
            c + context + (size - context - context) = c + (size - context) := by
          omega
        rw [hstop, hstop, hstart, hstart] at htail
        rw [head_window, tail_window, hmin]
        refine .more (hgroup.append hsame.left_part.path) (by simp) hgap.left_part ?_
        rw [hstart, hstart]
        exact ih htail hes
      · exact hjoined

/-- Hunks that change something, from a place to the ends of both texts; the lines between them, and
those before the first and behind the last one, stay. -/
inductive Covers (left right : List α) : Nat → Nat → List (List Edit) → Prop
  | done {i j size : Nat} (h : Same left right i j size) (hl : i + size = left.length)
      (hr : j + size = right.length) : Covers left right i j []
  | hunk {i j m n size : Nat} {g : List Edit} {gs : List (List Edit)}
      (h : Same left right i j size) (hne : g ≠ [])
      (hg : Path left right (i + size) (j + size) g m n) (hgs : Covers left right m n gs) :
      Covers left right i j (g :: gs)

theorem Path.same_of_changes_eq_false {i j m n : Nat} {g : List Edit}
    (h : Path left right i j g m n) (hg : changes g = false) (hi : i ≤ left.length)
    (hj : j ≤ right.length) : ∃ size, Same left right i j size ∧ i + size = m ∧ j + size = n := by
  match g, h with
  | [], ⟨hm, hn⟩ => exact ⟨0, Same.nil hi hj, hm, hn⟩
  | [⟨.keep, w⟩], ⟨he, hi, hj, hm, hn⟩ =>
    obtain ⟨i, j, size, rfl, hsame⟩ := he.keep
    obtain rfl := hi
    obtain rfl := hj
    exact ⟨size, hsame, hm, hn⟩
  | [⟨.replace, _⟩], _ => simp [changes] at hg
  | [⟨.delete, _⟩], _ => simp [changes] at hg
  | [⟨.insert, _⟩], _ => simp [changes] at hg
  | _ :: _ :: _, _ => simp [changes] at hg

/-- The last hunk is left out if it changes nothing. -/
def pruned (gs : List (List Edit)) : List (List Edit) :=
  gs.dropLast ++ gs.getLast?.toList.filter changes

theorem pruned_cons_of_ne_nil (g : List Edit) {gs : List (List Edit)} (h : gs ≠ []) :
    pruned (g :: gs) = g :: pruned gs := by
  obtain ⟨f, fs, rfl⟩ := List.exists_cons_of_ne_nil h
  simp [pruned]

theorem Spread.ne_nil {i j m n : Nat} {gs : List (List Edit)} (h : Spread left right i j gs m n) :
    gs ≠ [] := by
  cases h <;> simp

theorem Spread.covers {i j m n size before : Nat} {gs : List (List Edit)}
    (h : Spread left right (i + before) (j + before) gs m n) (hbefore : Same left right i j before)
    (hbehind : Same left right m n size) (hl : m + size = left.length)
    (hr : n + size = right.length) : Covers left right i j (pruned gs) := by
  generalize hi : i + before = i', hj : j + before = j' at h
  induction h generalizing i j before with
  | @last i' j' m n g hg =>
    subst hi hj
    by_cases hchanges : changes g = true
    · have hne : g ≠ [] := by
        rintro rfl
        simp [changes] at hchanges
      simpa [pruned, hchanges] using Covers.hunk hbefore hne hg (.done hbehind hl hr)
    · obtain ⟨mid, hmid, rfl, rfl⟩ :=
        hg.same_of_changes_eq_false (by simpa using hchanges) hbefore.left_le hbefore.right_le
      have hall := hbefore.append (hmid.append hbehind)
      have hnone : pruned [g] = [] := by simp [pruned, hchanges]
      rw [hnone]
      exact .done hall (by omega) (by omega)
  | more hg hne hgap hgs ih =>
    subst hi hj
    rw [pruned_cons_of_ne_nil _ hgs.ne_nil]
    exact .hunk hbefore hne hg (ih hgap hbehind hl hr rfl rfl)

/-- The hunks of a difference cover everything that changes. -/
theorem hunks_covers [DecidableEq α] (left right : List α) :
    Covers left right 0 0 (hunks (edits left right)) := by
  have hpath := edits_path left right
  obtain ⟨before, hbefore, hfirst⟩ := trimFirst_path hpath (Nat.zero_le _) (Nat.zero_le _)
  obtain ⟨m, n, size, hlast, hbehind, hl, hr⟩ :=
    trimLast_path hfirst (Nat.le_refl _) (Nat.le_refl _)
  have hspread := hunksFrom_spread (Path.nil _ _) hlast
  have hcovers := hspread.covers hbefore hbehind hl hr
  have hhunks : hunks (edits left right) =
      pruned (hunksFrom [] (trimLast (trimFirst (edits left right)))) := by
    unfold hunks
    split
    · next hnil => rw [hnil]; rfl
    · rfl
  rw [hhunks]
  exact hcovers

end Edits

section Lines

variable {left right : List (List Char)}

/-- The lines of a hunk that an edit gives. -/
def bodyOf (left right : List (List Char)) (e : Edit) : List Entry :=
  let w := e.window
  let removed := (part left w.leftStart w.leftStop).map (Entry.mk .removed)
  let added := (part right w.rightStart w.rightStop).map (Entry.mk .added)
  match e.kind with
  | .keep => (part left w.leftStart w.leftStop).map (Entry.mk .kept)
  | .replace => removed ++ added
  | .delete => removed
  | .insert => added

theorem editLines_eq (e : Edit) :
    editLines left right e = (bodyOf left right e).map fun l => l.kind.sign :: l.text := by
  obtain ⟨kind, w⟩ := e
  cases kind <;> simp [editLines, bodyOf, marked, part, LineKind.sign, Function.comp_def]

theorem leftLines_bodyOf {e : Edit} (h : e.Fits left right) :
    ((bodyOf left right e).filter (·.kind.inLeft)).map (·.text) =
      part left e.window.leftStart e.window.leftStop := by
  obtain ⟨kind, w⟩ := e
  cases kind with
  | keep => simp [bodyOf, List.filter_map, Function.comp_def, LineKind.inLeft]
  | replace => simp [bodyOf, List.filter_map, Function.comp_def, LineKind.inLeft]
  | delete => simp [bodyOf, List.filter_map, Function.comp_def, LineKind.inLeft]
  | insert =>
    have hsame : w.leftStart = w.leftStop := h.2
    simp [bodyOf, List.filter_map, Function.comp_def, LineKind.inLeft, hsame, part_self]

theorem rightLines_bodyOf {e : Edit} (h : e.Fits left right) :
    ((bodyOf left right e).filter (·.kind.inRight)).map (·.text) =
      part right e.window.rightStart e.window.rightStop := by
  obtain ⟨kind, w⟩ := e
  cases kind with
  | keep =>
    obtain ⟨i, j, n, rfl, hsame⟩ := h.keep
    simp [bodyOf, List.filter_map, Function.comp_def, LineKind.inRight, hsame.part]
  | replace => simp [bodyOf, List.filter_map, Function.comp_def, LineKind.inRight]
  | delete =>
    have hsame : w.rightStart = w.rightStop := h.2
    simp [bodyOf, List.filter_map, Function.comp_def, LineKind.inRight, hsame, part_self]
  | insert => simp [bodyOf, List.filter_map, Function.comp_def, LineKind.inRight]

/-- The hunk of some edits between these places. -/
def hunkOf (left right : List (List Char)) (i j : Nat) (es : List Edit) (m n : Nat) : Hunk :=
  ⟨⟨i, m - i⟩, ⟨j, n - j⟩, es.flatMap (bodyOf left right)⟩

theorem Path.lines_hunkOf {i j m n : Nat} {es : List Edit} (h : Path left right i j es m n) :
    (hunkOf left right i j es m n).leftLines = part left i m ∧
      (hunkOf left right i j es m n).rightLines = part right j n := by
  unfold Hunk.leftLines Hunk.rightLines hunkOf
  induction es generalizing i j with
  | nil =>
    obtain ⟨rfl, rfl⟩ := h
    simp [part_self]
  | cons e es ih =>
    obtain ⟨he, rfl, rfl, hes⟩ := h
    have hle := hes.le
    obtain ⟨hleft, hright⟩ := ih hes
    simp only at hleft hright ⊢
    rw [List.flatMap_cons, List.filter_append, List.filter_append, List.map_append,
      List.map_append, hleft, hright, leftLines_bodyOf he, rightLines_bodyOf he,
      part_append_part left he.1.left_le hle.1, part_append_part right he.1.right_le hle.2]
    exact ⟨rfl, rfl⟩

theorem hunkLines_eq {i j m n : Nat} {es : List Edit} (h : Path left right i j es m n)
    (hne : es ≠ []) : hunkLines left right es = header i j m n ::
      (hunkOf left right i j es m n).body.map fun l => l.kind.sign :: l.text := by
  obtain ⟨e, fs, rfl⟩ := List.exists_cons_of_ne_nil hne
  obtain ⟨last, hlast⟩ : ∃ last, (e :: fs).getLast? = some last := ⟨_, List.getLast?_cons⟩
  obtain ⟨hm, hn⟩ := h.stop hlast
  obtain ⟨-, rfl, rfl, -⟩ := h
  have hbody : (e :: fs).flatMap (editLines left right) =
      ((e :: fs).flatMap (bodyOf left right)).map fun l => l.kind.sign :: l.text := by
    rw [List.map_flatMap]
    exact List.flatMap_congr fun e _ => editLines_eq e
  rw [hunkLines, List.head?_cons, hlast]
  simp only [hm, hn, hbody, header, hunkOf]

theorem Path.read_hunkLines {i j m n : Nat} {es : List Edit} (h : Path left right i j es m n)
    (hne : es ≠ []) (hm : m ≤ left.length) (hn : n ≤ right.length) {rest : List (List Char)}
    {hs : List Hunk} (hrest : readHunks 0 0 rest = some ([], hs)) :
    readHunks 0 0 (hunkLines left right es ++ rest) =
      some ([], hunkOf left right i j es m n :: hs) := by
  obtain ⟨hleft, hright⟩ := h.lines_hunkOf
  have hcount : ((hunkOf left right i j es m n).body.filter (·.kind.inLeft)).length = m - i := by
    rw [← length_part left hm, ← hleft, Hunk.leftLines, List.length_map]
  have hcount' : ((hunkOf left right i j es m n).body.filter (·.kind.inRight)).length = n - j := by
    rw [← length_part right hn, ← hright, Hunk.rightLines, List.length_map]
  have hbody := readHunks_append (hunkOf left right i j es m n).body rest
  rw [hcount, hcount', hrest, Option.map_some, List.append_nil] at hbody
  rw [hunkLines_eq h hne, List.cons_append, readHunks, if_pos ⟨rfl, rfl⟩, readHeader?_header,
    Option.bind_some, hbody]
  rfl

theorem Path.leads {i j m n size : Nat} {es : List Edit} (hsame : Same left right i j size)
    (h : Path left right (i + size) (j + size) es m n) {hs : List Hunk}
    (hrest : Leads m n hs (left.drop m) (right.drop n)) :
    Leads i j (hunkOf left right (i + size) (j + size) es m n :: hs)
      (left.drop i) (right.drop j) := by
  obtain ⟨hleft, hright⟩ := h.lines_hunkOf
  obtain ⟨hm, hn⟩ := h.le_length hsame.left_le hsame.right_le
  obtain ⟨hle, hle'⟩ := h.le
  generalize hh : hunkOf left right (i + size) (j + size) es m n = hunk at hleft hright ⊢
  have hspans : hunk.left = ⟨i + size, m - (i + size)⟩ ∧
      hunk.right = ⟨j + size, n - (j + size)⟩ := by
    rw [← hh]
    exact ⟨rfl, rfl⟩
  have hstart : (part left i (i + size)).length = size := by
    rw [length_part left hsame.left_le, Nat.add_sub_cancel_left]
  have hstop : hunk.left.stop = m ∧ hunk.right.stop = n := by
    simp only [hspans, Span.stop]
    omega
  have hdrop : left.drop i = part left i (i + size) ++ hunk.leftLines ++ left.drop m := by
    rw [hleft, List.append_assoc, part_append_drop left hle,
      part_append_drop left (Nat.le_add_right i size)]
  have hdrop' : right.drop j = part left i (i + size) ++ hunk.rightLines ++ right.drop n := by
    rw [hright, List.append_assoc, part_append_drop right hle', hsame.part,
      part_append_drop right (Nat.le_add_right j size)]
  rw [hdrop, hdrop']
  refine .hunk ?_ ?_ ?_ ?_ ?_
  · rw [hspans.1, hstart]
  · rw [hspans.2, hstart]
  · rw [hleft, length_part left hm, hspans.1]
  · rw [hright, length_part right hn, hspans.2]
  · rwa [hstop.1, hstop.2]

/-- The hunks that a difference writes are read back, and lead from text to text. -/
theorem Covers.leads {i j : Nat} {gs : List (List Edit)} (h : Covers left right i j gs) :
    ∃ hs, readHunks 0 0 (gs.flatMap (hunkLines left right)) = some ([], hs) ∧
      Leads i j hs (left.drop i) (right.drop j) := by
  induction h with
  | @done i j size h hl hr =>
    have hdrop : left.drop i = right.drop j := by
      have htake := h.take_drop
      rwa [List.take_of_length_le (by rw [List.length_drop]; omega),
        List.take_of_length_le (by rw [List.length_drop]; omega)] at htake
    rw [hdrop]
    exact ⟨[], rfl, .done i j _⟩
  | @hunk i j m n size g gs h hne hg hgs ih =>
    obtain ⟨hs, hread, hleads⟩ := ih
    obtain ⟨hm, hn⟩ := hg.le_length h.left_le h.right_le
    exact ⟨_, hg.read_hunkLines hne hm hn hread, hg.leads h hleads⟩

theorem not_mem_of_mem_breakLines {cs l : List Char} (h : l ∈ breakLines cs) : '\n' ∉ l := by
  induction cs using breakLines.induct generalizing l with
  | case1 => simp [breakLines] at h
  | case2 cs ih =>
    rw [breakLines] at h
    rcases List.mem_cons.mp h with rfl | h
    · simp
    · exact ih h
  | case3 c cs hpair hbreak ih =>
    rw [breakLines.eq_3 c cs hpair, if_pos hbreak] at h
    rcases List.mem_cons.mp h with rfl | h
    · simp
    · exact ih h
  | case4 c cs hpair hplain k ks hk ih =>
    have hc : c ≠ '\n' := by
      rintro rfl
      exact hplain (by decide)
    rw [breakLines.eq_3 c cs hpair, if_neg hplain, hk] at h
    rcases List.mem_cons.mp h with rfl | h
    · have hrest : '\n' ∉ k := ih (by simp [hk])
      simp [hrest, Ne.symm hc]
    · exact ih (by simp [hk, h])
  | case5 c cs hpair hplain hcs ih =>
    have hc : c ≠ '\n' := by
      rintro rfl
      exact hplain (by decide)
    rw [breakLines.eq_3 c cs hpair, if_neg hplain, hcs] at h
    obtain rfl : l = [c] := by simpa using h
    simp [Ne.symm hc]

theorem not_mem_editLines {e : Edit} (hl : ∀ l ∈ left, '\n' ∉ l) (hr : ∀ l ∈ right, '\n' ∉ l) :
    ∀ l ∈ editLines left right e, '\n' ∉ l := by
  have hkinded (ls : List (List Char)) (hls : ∀ l ∈ ls, '\n' ∉ l) (c : Char) (hc : c ≠ '\n')
      (start stop : Nat) : ∀ l ∈ marked c ls start stop, '\n' ∉ l := by
    intro l hl
    obtain ⟨k, hk, rfl⟩ := List.mem_map.mp hl
    have hmem := List.mem_of_mem_take (List.mem_of_mem_drop hk)
    simpa [Ne.symm hc] using hls k hmem
  have hremoved := hkinded left hl '-' (by decide) e.window.leftStart e.window.leftStop
  have hkept := hkinded left hl ' ' (by decide) e.window.leftStart e.window.leftStop
  have hadded := hkinded right hr '+' (by decide) e.window.rightStart e.window.rightStop
  obtain ⟨kind, w⟩ := e
  cases kind with
  | keep => exact hkept
  | replace => exact List.forall_mem_append.mpr ⟨hremoved, hadded⟩
  | delete => exact hremoved
  | insert => exact hadded

theorem not_mem_hunkLines {es : List Edit} (hl : ∀ l ∈ left, '\n' ∉ l)
    (hr : ∀ l ∈ right, '\n' ∉ l) : ∀ l ∈ hunkLines left right es, '\n' ∉ l := by
  unfold hunkLines
  split
  · refine List.forall_mem_cons.mpr ⟨not_mem_header _ _ _ _, fun l hmem => ?_⟩
    obtain ⟨e, -, he⟩ := List.mem_flatMap.mp hmem
    exact not_mem_editLines hl hr l he
  · simp

/-- A difference is read as hunks that lead from its left lines to its right ones. -/
theorem unified_leads {leftName rightName : String} (hl : '\n' ∉ leftName.toList)
    (hr : '\n' ∉ rightName.toList) (hleft : ∀ l ∈ left, '\n' ∉ l)
    (hright : ∀ l ∈ right, '\n' ∉ l) :
    ∃ hs, read? (unlines (unified leftName rightName left right)) = some hs ∧
      Leads 0 0 hs left right := by
  obtain ⟨hs, hread, hleads⟩ := (hunks_covers left right).leads
  rw [List.drop_zero, List.drop_zero] at hleads
  refine ⟨hs, ?_, hleads⟩
  unfold unified
  cases hgroups : hunks (edits left right) with
  | nil =>
    rw [hgroups] at hread
    have hnone : hs = [] := by simpa [readHunks] using hread.symm
    rw [hnone]
    rfl
  | cons g gs =>
    rw [hgroups] at hread
    have hminus : "--- ".toList = ['-', '-', '-', ' '] := rfl
    have hplus : "+++ ".toList = ['+', '+', '+', ' '] := rfl
    have hfeed : ∀ l ∈ ("--- " ++ leftName).toList :: ("+++ " ++ rightName).toList ::
        (g :: gs).flatMap (hunkLines left right), '\n' ∉ l := by
      refine List.forall_mem_cons.mpr ⟨?_, List.forall_mem_cons.mpr ⟨?_, fun l hmem => ?_⟩⟩
      · simpa [hminus] using hl
      · simpa [hplus] using hr
      · obtain ⟨es, -, hes⟩ := List.mem_flatMap.mp hmem
        exact not_mem_hunkLines hleft hright l hes
    unfold read?
    simp only [cut_unlines (List.cons_ne_nil _ _) hfeed]
    have hstart : startsWith ("--- " ++ leftName).toList "--- ".toList = true := by
      simp [startsWith]
    have hstart' : startsWith ("+++ " ++ rightName).toList "+++ ".toList = true := by
      simp [startsWith]
    rw [hstart, hstart', hread]
    rfl

end Lines

end Diff

namespace FixReport

open Text Patch

/-- The difference that a report shows is a patch. Read by the book it is applied to the lines
before and gives the lines after; its reverse, applied to these, gives the lines before. -/
theorem diff_reversible {v : Validator} {code : List Char} {fs : List Finding} {e : Edit}
    (h : (build v code fs).edit = some e) :
    ∃ hs, read? e.diff = some hs ∧ apply hs (breakLines code) = some (breakLines e.code) ∧
      apply (reverse hs) (breakLines e.code) = some (breakLines code) := by
  have hdiff : e.diff = diffOf v.dialect code e.code := by
    unfold build at h
    split at h
    · cases h
    · simp only at h
      split at h
      · cases h
      · obtain rfl := Option.some.inj h
        rfl
  have hname (start : String) (hstart : '\n' ∉ start.toList) :
      '\n' ∉ (start ++ v.dialect.name).toList := by
    have hdialect : '\n' ∉ v.dialect.name.toList := by cases v.dialect <;> decide
    simpa using ⟨hstart, hdialect⟩
  obtain ⟨hs, hread, hleads⟩ := Diff.unified_leads (hname "before." (by decide))
    (hname "after." (by decide)) (fun l (hl : l ∈ breakLines code) =>
      Diff.not_mem_of_mem_breakLines hl) (fun l (hl : l ∈ breakLines e.code) =>
      Diff.not_mem_of_mem_breakLines hl)
  rw [hdiff]
  exact ⟨hs, hread, hleads.applyFrom, hleads.reverse.applyFrom⟩

/-- A declaration put before a source: one line becomes two. -/
theorem diff_reversible_doctype : ∃ e, (build (Validator.of .html) "<p>".toList
    [.note 1 (some 0) "html-doctype" "" .syntactic .warning]).edit = some e ∧
    ∃ hs, read? e.diff = some hs ∧ apply hs (breakLines "<p>".toList) = some (breakLines e.code) ∧
      apply (reverse hs) (breakLines e.code) = some (breakLines "<p>".toList) := by
  have h : (build (Validator.of .html) "<p>".toList
      [.note 1 (some 0) "html-doctype" "" .syntactic .warning]).edit = some
        ⟨"<!DOCTYPE html>\n<p>".toList,
          ("--- before.html\n+++ after.html\n" ++
            "@@ -1 +1,2 @@\n+<!DOCTYPE html>\n <p>").toList,
          [⟨"html-doctype", "", 1⟩]⟩ := by
    simp only [build, Validator.applyFixes, Fix.run, Fix.order, List.mergeSort_singleton]
    decide
  exact ⟨_, h, diff_reversible h⟩

end FixReport

end CampaignCheck

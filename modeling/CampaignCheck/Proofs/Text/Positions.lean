import CampaignCheck.Text.Lines
import Mathlib.Data.List.DropRight
import Mathlib.Data.List.Forall2
import Mathlib.Algebra.GroupWithZero.Nat
import Mathlib.Algebra.Order.SuccPred
import Mathlib.Data.Int.ConditionallyCompleteOrder
import Mathlib.Data.Int.SuccPred
import Mathlib.Data.Prod.Lex

namespace CampaignCheck.Text

theorem cut_eq_cons (sep : Char) (cs : List Char) : ∃ l ls, cut sep cs = l :: ls := by
  induction cs with
  | nil => exact ⟨[], [], rfl⟩
  | cons c cs ih =>
    obtain ⟨l, ls, h⟩ := ih
    by_cases hc : c = sep
    · exact ⟨[], cut sep cs, by simp [cut, hc]⟩
    · exact ⟨c :: l, ls, by simp [cut, hc, h]⟩

theorem cut_sep (sep : Char) (cs : List Char) : cut sep (sep :: cs) = [] :: cut sep cs := by
  simp [cut]

theorem cut_cons {sep c : Char} {cs l : List Char} {ls : List (List Char)} (hc : c ≠ sep)
    (h : cut sep cs = l :: ls) : cut sep (c :: cs) = (c :: l) :: ls := by
  simp [cut, hc, h]

theorem not_mem_of_mem_cut {sep : Char} {cs l : List Char} (h : l ∈ cut sep cs) : sep ∉ l := by
  induction cs generalizing l with
  | nil =>
    have hl : l = [] := by simpa [cut] using h
    simp [hl]
  | cons c cs ih =>
    obtain ⟨k, ks, hk⟩ := cut_eq_cons sep cs
    by_cases hc : c = sep
    · subst hc
      rw [cut_sep] at h
      rcases List.mem_cons.mp h with rfl | h
      · simp
      · exact ih h
    · rw [cut_cons hc hk] at h
      rcases List.mem_cons.mp h with rfl | h
      · have hs : sep ∉ k := ih (by simp [hk])
        simp [Ne.symm hc, hs]
      · exact ih (by simp [hk, h])

theorem cut_of_not_mem {sep : Char} {cs : List Char} (h : sep ∉ cs) : cut sep cs = [cs] := by
  induction cs with
  | nil => rfl
  | cons c cs ih =>
    have hn : c ≠ sep ∧ sep ∉ cs := by simpa [eq_comm] using h
    exact cut_cons hn.1 (ih hn.2)

theorem cut_append {sep : Char} {cs : List Char} (h : sep ∉ cs) (ds : List Char) :
    cut sep (cs ++ sep :: ds) = cs :: cut sep ds := by
  induction cs with
  | nil => exact cut_sep sep ds
  | cons c cs ih =>
    have hn : c ≠ sep ∧ sep ∉ cs := by simpa [eq_comm] using h
    exact cut_cons hn.1 (ih hn.2)

theorem unlines_cons_cons (l m : List Char) (ls : List (List Char)) :
    unlines (l :: m :: ls) = l ++ '\n' :: unlines (m :: ls) := by
  simp [unlines, List.intercalate]

/-- Lines that are put together and cut again are the same lines. -/
theorem cut_unlines {ls : List (List Char)} (hne : ls ≠ []) (h : ∀ l ∈ ls, '\n' ∉ l) :
    cut '\n' (unlines ls) = ls := by
  induction ls with
  | nil => exact absurd rfl hne
  | cons l ls ih =>
    cases ls with
    | nil =>
      have hl : unlines [l] = l := by simp [unlines, List.intercalate]
      rw [hl]
      exact cut_of_not_mem (h l (by simp))
    | cons m ms =>
      rw [unlines_cons_cons, cut_append (h l (by simp)), ih (by simp)]
      intro k hk
      exact h k (by simp [hk])

theorem dropEndWhile_initial (p : Char → Bool) (cs : List Char) : dropEndWhile p cs <+: cs :=
  List.rdropWhile_prefix p cs

theorem length_dropEndWhile_le (p : Char → Bool) (cs : List Char) :
    (dropEndWhile p cs).length ≤ cs.length :=
  (dropEndWhile_initial p cs).length_le

/-- What is dropped at the end ends before every character that is kept. -/
theorem lt_length_dropEndWhile {p : Char → Bool} {cs : List Char} {i : Nat} {c : Char}
    (h : cs[i]? = some c) (hc : p c = false) : i < (dropEndWhile p cs).length := by
  by_contra hi
  have hsplit : dropEndWhile p cs ++ cs.rtakeWhile p = cs := List.rdropWhile_append_rtakeWhile
  rw [← hsplit, List.getElem?_append_right (by omega)] at h
  have hm : c ∈ cs.rtakeWhile p := List.mem_of_getElem? h
  have hp := List.mem_rtakeWhile_imp hm
  simp [hc] at hp

theorem lines_ne_nil (cs : List Char) : lines cs ≠ [] := by
  obtain ⟨l, ls, h⟩ := cut_eq_cons '\n' cs
  simp [lines, h]

theorem not_mem_of_mem_lines {cs l : List Char} (h : l ∈ lines cs) : '\n' ∉ l := by
  obtain ⟨k, hk, rfl⟩ := List.mem_map.mp h
  intro hn
  exact not_mem_of_mem_cut hk ((dropEndWhile_initial _ k).subset hn)

/-- The place lies in one of the lines, at most right behind its last character. -/
def Position.Within (p : Position) (ls : List (List Char)) : Prop :=
  1 ≤ p.line ∧ ∃ l, ls[p.line - 1]? = some l ∧ p.column ≤ l.length

/-- Where a walk over some characters of a text ends: in the line that it has come to, counted from
the first, and before the character that comes next unless the line ends there. -/
theorem foldl_advance (cs : List Char) (offset : Nat) (p q : Position)
    (hq : (cs.take offset).foldl Position.advance p = q) :
    let base := if q.line = p.line then p.column else 0
    p.line ≤ q.line ∧ base ≤ q.column ∧ ∃ l, (cut '\n' cs)[q.line - p.line]? = some l ∧
      q.column - base ≤ l.length ∧
      ∀ c, cs[offset]? = some c → c ≠ '\n' → l[q.column - base]? = some c := by
  induction cs generalizing offset p with
  | nil =>
    subst hq
    simp [cut]
  | cons c cs ih =>
    obtain ⟨l, ls, hcut⟩ := cut_eq_cons '\n' cs
    cases offset with
    | zero =>
      subst hq
      by_cases hc : c = '\n'
      · simp [hc, cut_sep]
      · simp [cut_cons hc hcut]
    | succ offset =>
      obtain ⟨hline, hbase, k, hk, hlen, hchar⟩ := ih offset (p.advance c) (by simpa using hq)
      rw [List.getElem?_cons_succ]
      by_cases hc : c = '\n'
      · have hadv : p.advance c = ⟨p.line + 1, 0⟩ := by simp [Position.advance, hc]
        simp only [hadv, ite_self] at hline hbase hk hlen hchar
        have hne : q.line ≠ p.line := by omega
        have hsub : q.line - p.line = q.line - (p.line + 1) + 1 := by omega
        simp only [if_neg hne]
        refine ⟨by omega, hbase, k, ?_, hlen, hchar⟩
        rw [hc, cut_sep, hsub, List.getElem?_cons_succ]
        exact hk
      · have hadv : p.advance c = ⟨p.line, p.column + 1⟩ := by simp [Position.advance, hc]
        simp only [hadv] at hline hbase hk hlen hchar
        rw [cut_cons hc hcut]
        by_cases hl : q.line = p.line
        · simp only [hl, if_true, Nat.sub_self, hcut, List.getElem?_cons_zero,
            Option.some.injEq] at hbase hk hlen hchar ⊢
          subst hk
          have hsub : q.column - p.column = q.column - (p.column + 1) + 1 := by omega
          refine ⟨by omega, by omega, c :: l, rfl, by simp only [List.length_cons]; omega, ?_⟩
          rw [hsub]
          simpa using hchar
        · obtain ⟨n, hn⟩ : ∃ n, q.line - p.line = n + 1 := ⟨q.line - p.line - 1, by omega⟩
          simp only [if_neg hl, hcut, hn, List.getElem?_cons_succ] at hbase hk hlen hchar ⊢
          exact ⟨hline, hbase, k, hk, hlen, hchar⟩

/-- Every offset, also one past the end, has its place in the lines of the text. -/
theorem positionAt_within_cut (cs : List Char) (offset : Nat) :
    (positionAt cs offset).Within (cut '\n' cs) := by
  obtain ⟨hline, -, l, hl, hlen, -⟩ := foldl_advance cs offset ⟨1, 0⟩ _ rfl
  refine ⟨hline, l, hl, ?_⟩
  simpa [positionAt] using hlen

theorem Position.Within.shrink {line column column' : Nat} {ls : List (List Char)}
    (h : Position.Within ⟨line, column⟩ ls) (hc : column' ≤ column) :
    Position.Within ⟨line, column'⟩ ls := by
  obtain ⟨hline, l, hl, hcol⟩ := h
  exact ⟨hline, l, hl, Nat.le_trans hc hcol⟩

theorem Position.Within.next {line column n : Nat} {ls : List (List Char)}
    (h : Position.Within ⟨line, column + (n + 1)⟩ ls) :
    Position.Within ⟨line, column + 1 + n⟩ ls := by
  rw [Nat.add_assoc, Nat.add_comm 1]
  exact h

/-- Behind the lines of `done` comes a line, and a column of it is a place of them all. -/
theorem Position.within_here (done rest : List (List Char)) {line : List Char} {column : Nat}
    (h : column ≤ line.length) :
    Position.Within ⟨done.length + 1, column⟩ (done ++ line :: rest) :=
  ⟨by simp, line, by simp, h⟩

/-- Lines of the same lengths have the same places. -/
theorem Position.Within.congr {p : Position} {ls ms : List (List Char)} (h : p.Within ls)
    (hlen : ls.map List.length = ms.map List.length) : p.Within ms := by
  obtain ⟨hline, l, hl, hcol⟩ := h
  have hm : (ms.map List.length)[p.line - 1]? = some l.length := by
    rw [← hlen, List.getElem?_map, hl]
    rfl
  rw [List.getElem?_map] at hm
  obtain ⟨m, hm, hlm⟩ := Option.map_eq_some_iff.mp hm
  exact ⟨hline, m, hm, by omega⟩

/-- Every offset into lines that are put together has its place in these lines. -/
theorem positionAt_unlines_within {ls : List (List Char)} (hne : ls ≠ []) (h : ∀ l ∈ ls, '\n' ∉ l)
    (offset : Nat) : (positionAt (unlines ls) offset).Within ls := by
  have hw := positionAt_within_cut (unlines ls) offset
  rwa [cut_unlines hne h] at hw

/-- A character that ends no line has its place in a line of the source. -/
theorem positionAt_within_lines {cs : List Char} {offset : Nat} {c : Char}
    (h : cs[offset]? = some c) (hn : c ≠ '\n') (hr : c ≠ '\r') :
    (positionAt cs offset).Within (lines cs) := by
  obtain ⟨hline, -, l, hl, -, hchar⟩ := foldl_advance cs offset ⟨1, 0⟩ _ rfl
  refine ⟨hline, dropEndWhile (· == '\r') l, ?_, ?_⟩
  · rw [lines, List.getElem?_map]
    exact Option.map_eq_some_iff.mpr ⟨l, hl, rfl⟩
  · have hc : l[(positionAt cs offset).column]? = some c := by
      simpa [positionAt] using hchar c h hn
    exact Nat.le_of_lt (lt_length_dropEndWhile hc (by simp [hr]))

def offsetOf (ls : List (List Char)) (p : Position) : Nat :=
  ((ls.take (p.line - 1)).map fun l => l.length + 1).sum + p.column

theorem foldl_advance_of_not_mem {cs : List Char} (h : '\n' ∉ cs) (p : Position) :
    cs.foldl Position.advance p = ⟨p.line, p.column + cs.length⟩ := by
  induction cs generalizing p with
  | nil => rfl
  | cons c cs ih =>
    have hn : c ≠ '\n' ∧ '\n' ∉ cs := by simpa [eq_comm] using h
    have hadv : p.advance c = ⟨p.line, p.column + 1⟩ := by simp [Position.advance, hn.1]
    rw [List.foldl_cons, ih hn.2, hadv, List.length_cons]
    simp only [Position.mk.injEq, true_and]
    omega

theorem unlines_singleton (l : List Char) : unlines [l] = l := by
  simp [unlines, List.intercalate]

theorem infix_unlines {ls : List (List Char)} {l : List Char} (h : l ∈ ls) : l <:+: unlines ls := by
  induction ls with
  | nil => cases h
  | cons m rest ih =>
    cases rest with
    | nil =>
      obtain rfl : l = m := by simpa using h
      simp only [unlines_singleton, List.infix_rfl]
    | cons m' rest =>
      rw [unlines_cons_cons]
      rcases List.mem_cons.mp h with rfl | h
      · exact (List.prefix_append _ _).isInfix
      · exact (ih h).trans ((List.suffix_cons _ _).trans (List.suffix_append _ _)).isInfix

/-- The text of some lines starts with the first of them. -/
theorem take_unlines_cons {l : List Char} {n : Nat} (hn : n ≤ l.length) (ls : List (List Char)) :
    (unlines (l :: ls)).take n = l.take n := by
  cases ls with
  | nil => rw [unlines_singleton]
  | cons m ls => rw [unlines_cons_cons, List.take_append_of_le_length hn]

/-- The walk to the offset of a place ends at the place; `n` numbers the first line. -/
theorem foldl_advance_take_unlines {ls : List (List Char)} (h : ∀ l ∈ ls, '\n' ∉ l) (n k : Nat)
    {l : List Char} {column : Nat} (hl : ls[k]? = some l) (hc : column ≤ l.length) :
    ((unlines ls).take (((ls.take k).map fun l => l.length + 1).sum + column)).foldl
      Position.advance ⟨n, 0⟩ = ⟨n + k, column⟩ := by
  induction ls generalizing n k with
  | nil => simp at hl
  | cons m ls ih =>
    have hm : '\n' ∉ m := h m List.mem_cons_self
    cases k with
    | zero =>
      obtain rfl : m = l := by simpa using hl
      have hfeed : '\n' ∉ m.take column := fun hmem => hm (List.mem_of_mem_take hmem)
      simp only [List.take_zero, List.map_nil, List.sum_nil, Nat.zero_add]
      rw [take_unlines_cons hc, foldl_advance_of_not_mem hfeed, List.length_take,
        Nat.min_eq_left hc]
      simp
    | succ k =>
      have hl' : ls[k]? = some l := by simpa using hl
      obtain ⟨m', ls', rfl⟩ : ∃ m' ls', ls = m' :: ls' := by
        cases ls with
        | nil => simp at hl'
        | cons m' ls' => exact ⟨m', ls', rfl⟩
      have hrest := ih (fun l hl => h l (List.mem_cons_of_mem m hl)) (n + 1) k hl'
      generalize hoff : (((m' :: ls').take k).map fun l => l.length + 1).sum + column = offset
        at hrest
      have hsum : (((m :: m' :: ls').take (k + 1)).map fun l => l.length + 1).sum + column =
          m.length + (offset + 1) := by
        rw [List.take_succ_cons, List.map_cons, List.sum_cons]
        omega
      have hadv : (⟨n, m.length⟩ : Position).advance '\n' = ⟨n + 1, 0⟩ := rfl
      rw [hsum, unlines_cons_cons, List.take_length_add_append, List.take_succ_cons,
        List.foldl_append, foldl_advance_of_not_mem hm]
      simp only [Nat.zero_add, List.foldl_cons, hadv, hrest, Position.mk.injEq, and_true]
      omega

/-- Every offset into the text of some lines is that of a place in them. -/
theorem exists_offset {ls : List (List Char)} (hne : ls ≠ []) {offset : Nat}
    (h : offset ≤ (unlines ls).length) :
    ∃ k l column, ls[k]? = some l ∧ column ≤ l.length ∧
      offset = ((ls.take k).map fun l => l.length + 1).sum + column := by
  induction ls generalizing offset with
  | nil => exact absurd rfl hne
  | cons m ls ih =>
    by_cases hm : offset ≤ m.length
    · exact ⟨0, m, offset, rfl, hm, by simp⟩
    · cases ls with
      | nil =>
        rw [unlines_singleton] at h
        omega
      | cons m' ls =>
        rw [unlines_cons_cons, List.length_append, List.length_cons] at h
        have hrest : offset - (m.length + 1) ≤ (unlines (m' :: ls)).length := by omega
        obtain ⟨k, l, column, hl, hc, ho⟩ := ih (List.cons_ne_nil m' ls) hrest
        refine ⟨k + 1, l, column, by simpa using hl, hc, ?_⟩
        rw [List.take_succ_cons, List.map_cons, List.sum_cons]
        omega

theorem positionAt_offsetOf {ls : List (List Char)} (h : ∀ l ∈ ls, '\n' ∉ l) {q : Position}
    (hq : q.Within ls) : positionAt (unlines ls) (offsetOf ls q) = q := by
  obtain ⟨hline, l, hl, hc⟩ := hq
  have hwalk := foldl_advance_take_unlines h 1 (q.line - 1) hl hc
  rw [Nat.add_sub_cancel' hline] at hwalk
  exact hwalk

/-- The place of an offset is the one place in the lines that has this offset. -/
theorem positionAt_unlines_eq_iff {ls : List (List Char)} (hne : ls ≠ [])
    (h : ∀ l ∈ ls, '\n' ∉ l) {offset : Nat} (ho : offset ≤ (unlines ls).length) (q : Position) :
    positionAt (unlines ls) offset = q ↔ q.Within ls ∧ offset = offsetOf ls q := by
  constructor
  · rintro rfl
    obtain ⟨k, l, column, hl, hc, hoffset⟩ := exists_offset hne ho
    have hwalk := foldl_advance_take_unlines h 1 k hl hc
    rw [← hoffset] at hwalk
    have hq : positionAt (unlines ls) offset = ⟨1 + k, column⟩ := hwalk
    rw [hq]
    refine ⟨⟨by simp, l, by simpa [Nat.add_comm] using hl, hc⟩, ?_⟩
    simpa [offsetOf] using hoffset
  · rintro ⟨hq, rfl⟩
    exact positionAt_offsetOf h hq

theorem intercalate_cut (sep : Char) (cs : List Char) :
    List.intercalate [sep] (cut sep cs) = cs := by
  induction cs with
  | nil => rfl
  | cons c cs ih =>
    obtain ⟨l, ls, hcut⟩ := cut_eq_cons sep cs
    by_cases hc : c = sep
    · rw [hc, cut_sep, hcut, List.intercalate_cons_cons, ← hcut, ih]
      rfl
    · rw [cut_cons hc hcut]
      rw [hcut] at ih
      cases ls with
      | nil => rw [← ih]; simp [List.intercalate]
      | cons m ls =>
        rw [← ih, List.intercalate_cons_cons, List.intercalate_cons_cons]
        rfl

theorem unlines_cut (cs : List Char) : unlines (cut '\n' cs) = cs := intercalate_cut '\n' cs

/-- The last piece of a text is its end. -/
theorem exists_of_getLast?_cut {sep : Char} {cs l : List Char} (h : l ∈ (cut sep cs).getLast?) :
    ∃ front, cs = front ++ l := by
  induction cs generalizing l with
  | nil => exact ⟨[], by simpa [cut] using h⟩
  | cons c cs ih =>
    obtain ⟨k, ks, hcut⟩ := cut_eq_cons sep cs
    have hlater (hl : l ∈ (k :: ks).getLast?) : ∃ front, c :: cs = front ++ l := by
      obtain ⟨front, hfront⟩ := ih (hcut ▸ hl)
      exact ⟨c :: front, by rw [hfront, List.cons_append]⟩
    by_cases hc : c = sep
    · rw [hc, cut_sep, hcut, List.getLast?_cons_cons] at h
      exact hlater h
    · rw [cut_cons hc hcut] at h
      cases ks with
      | nil =>
        obtain rfl : c :: k = l := by simpa using h
        have hwhole := intercalate_cut sep cs
        rw [hcut, List.intercalate_singleton] at hwhole
        exact ⟨[], by rw [hwhole, List.nil_append]⟩
      | cons m ms =>
        rw [List.getLast?_cons_cons] at h
        exact hlater (by rwa [List.getLast?_cons_cons])

/-- The place of an offset into a text is the one place in its lines that has this offset. -/
theorem positionAt_eq_iff {cs : List Char} {offset : Nat} (h : offset ≤ cs.length) (q : Position) :
    positionAt cs offset = q ↔
      q.Within (cut '\n' cs) ∧ offset = offsetOf (cut '\n' cs) q := by
  have hne : cut '\n' cs ≠ [] := by
    obtain ⟨l, ls, hcut⟩ := cut_eq_cons '\n' cs
    simp [hcut]
  have hlen : offset ≤ (unlines (cut '\n' cs)).length := by rwa [unlines_cut]
  have hwalk := positionAt_unlines_eq_iff hne (fun l => not_mem_of_mem_cut) hlen q
  rwa [unlines_cut] at hwalk

/-- Offsets into a text have different places. -/
theorem eq_of_positionAt_eq {cs : List Char} {i j : Nat} (hi : i ≤ cs.length) (hj : j ≤ cs.length)
    (h : positionAt cs i = positionAt cs j) : i = j := by
  have hoffset := ((positionAt_eq_iff hi _).mp h).2
  rw [hoffset, ← ((positionAt_eq_iff hj _).mp rfl).2]

/-- A place in the lines of a text has an offset into the text. -/
theorem offsetOf_le_length {cs : List Char} {p : Position} (h : p.Within (cut '\n' cs)) :
    offsetOf (cut '\n' cs) p ≤ cs.length := by
  by_contra hbehind
  have hwalk := positionAt_offsetOf (fun l => not_mem_of_mem_cut) h
  rw [unlines_cut] at hwalk
  -- The walk to such an offset is that through the whole text, which ends at another.
  have hend : positionAt cs cs.length = p := by
    rw [← hwalk, positionAt, positionAt, List.take_length,
      List.take_of_length_le (Nat.le_of_not_le hbehind)]
  have hlength := ((positionAt_eq_iff (Nat.le_refl _) p).mp hend).2
  omega

theorem Position.lt_advance (p : Position) (c : Char) :
    toLex (p.line, p.column) < toLex ((p.advance c).line, (p.advance c).column) := by
  rw [Prod.Lex.toLex_lt_toLex]
  unfold Position.advance
  split_ifs
  · exact .inl (Nat.lt_succ_self p.line)
  · exact .inr ⟨rfl, Nat.lt_succ_self p.column⟩

theorem positionAt_succ {cs : List Char} {i : Nat} (h : i < cs.length) :
    positionAt cs (i + 1) = (positionAt cs i).advance cs[i] := by
  rw [positionAt, List.take_succ_eq_append_getElem h, List.foldl_append]
  rfl

/-- A walk counts the line feeds, and the characters since the last of them. -/
theorem foldl_advance_eq (cs : List Char) (p : Position) :
    cs.foldl Position.advance p = ⟨p.line + cs.count '\n',
      match findLast? ['\n'] cs with
      | some n => cs.length - (n + 1)
      | none => p.column + cs.length⟩ := by
  induction cs generalizing p with
  | nil => rfl
  | cons c cs ih =>
    rw [List.foldl_cons, ih, findLast?]
    by_cases hc : c = '\n'
    · subst hc
      cases findLast? ['\n'] cs with
      | none => simp [Position.advance, List.isPrefixOf]; omega
      | some n => simp [Position.advance]; omega
    · cases findLast? ['\n'] cs with
      | none => simp [Position.advance, List.isPrefixOf, hc, Ne.symm hc]; omega
      | some n => simp [Position.advance, hc]

theorem positionAnywhere_eq (cs : List Char) (offset : Int) :
    positionAnywhere cs offset = positionAt cs offset.toNat := by
  have hbefore : cs.take (max 0 (min offset cs.length)).toNat = cs.take offset.toNat := by
    rw [List.take_eq_take_iff]
    omega
  rw [positionAnywhere, hbefore, positionAt, foldl_advance_eq]
  cases findLast? ['\n'] (cs.take offset.toNat) with
  | none => simp; omega
  | some n => simp; omega

def offsets (cs : List Char) : Set Int := Set.Icc 0 cs.length

theorem positionAnywhere_eq_iff {cs : List Char} {offset : Int} (h : offset ∈ offsets cs)
    (p : Position) : positionAnywhere cs offset = p ↔
      p.Within (cut '\n' cs) ∧ offset = offsetOf (cut '\n' cs) p := by
  obtain ⟨n, rfl⟩ := Int.eq_ofNat_of_zero_le h.1
  have hwalk : positionAnywhere cs n = positionAt cs n := positionAnywhere_eq cs n
  rw [hwalk, positionAt_eq_iff (Int.ofNat_le.mp h.2), Int.ofNat_inj]

/-- Offsets and places determine each other. An offset into the text has its place in the lines
between line feeds, and is what the lines before that place, one character longer each, and the
column add up to; a later offset has a later place, and every place in the lines is that of one
offset. An offset outside the text has the place of the start or of the end. -/
theorem positions_invert_offsets (cs : List Char) :
    (∀ offset ∈ offsets cs, (positionAnywhere cs offset).Within (cut '\n' cs) ∧
      (offsetOf (cut '\n' cs) (positionAnywhere cs offset) : Int) = offset) ∧
    StrictMonoOn (fun offset => toLex
      ((positionAnywhere cs offset).line, (positionAnywhere cs offset).column)) (offsets cs) ∧
    (∀ p : Position, p.Within (cut '\n' cs) →
      ∃! offset, offset ∈ offsets cs ∧ positionAnywhere cs offset = p) ∧
    (∀ offset < 0, positionAnywhere cs offset = positionAnywhere cs 0) ∧
    ∀ offset > (cs.length : Int), positionAnywhere cs offset = positionAnywhere cs cs.length := by
  refine ⟨?_, ?_, ?_, ?_, ?_⟩
  · intro offset h
    obtain ⟨hwithin, hoffset⟩ := (positionAnywhere_eq_iff h _).mp rfl
    exact ⟨hwithin, hoffset.symm⟩
  · refine strictMonoOn_of_lt_add_one Set.ordConnected_Icc fun offset _ h hnext => ?_
    obtain ⟨n, rfl⟩ := Int.eq_ofNat_of_zero_le h.1
    have hlt : n < cs.length := Int.ofNat_lt.mp hnext.2
    have hplace : positionAnywhere cs (n : Int) = positionAt cs n := positionAnywhere_eq cs n
    have hstep : positionAnywhere cs (n + 1 : Int) = (positionAt cs n).advance cs[n] := by
      rw [← positionAt_succ hlt]
      exact positionAnywhere_eq cs (n + 1)
    simp only [hplace, hstep]
    exact Position.lt_advance _ _
  · intro p hp
    have hoffset : (offsetOf (cut '\n' cs) p : Int) ∈ offsets cs :=
      ⟨Int.natCast_nonneg _, Int.ofNat_le.mpr (offsetOf_le_length hp)⟩
    have hplace := (positionAnywhere_eq_iff hoffset p).mpr ⟨hp, rfl⟩
    refine ⟨offsetOf (cut '\n' cs) p, ⟨hoffset, hplace⟩, ?_⟩
    rintro offset ⟨h, hposition⟩
    exact ((positionAnywhere_eq_iff h p).mp hposition).2
  · intro offset h
    rw [positionAnywhere_eq, positionAnywhere_eq, Int.toNat_of_nonpos (Int.le_of_lt h)]
    rfl
  · intro offset h
    have hend : cs.take offset.toNat = cs.take cs.length := by
      rw [List.take_eq_take_iff]
      omega
    rw [positionAnywhere_eq, positionAnywhere_eq, positionAt, hend]
    rfl

/-- A line feed stands at the end of its line, and past the end there is only the end. -/
example : [-1, 2, 3, 4, 100].map (positionAnywhere "ab\ncd\nef".toList) =
    [⟨1, 0⟩, ⟨1, 2⟩, ⟨2, 0⟩, ⟨2, 1⟩, ⟨3, 2⟩] := by decide

end CampaignCheck.Text

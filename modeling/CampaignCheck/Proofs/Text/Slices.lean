import CampaignCheck.Text.Lines
import Mathlib.Tactic.Common
import Mathlib.Data.List.DropRight

namespace CampaignCheck.Text

theorem slice_getElem? (cs : List Char) (start stop j : Nat) :
    (slice cs start stop)[j]? = if start + j < stop then cs[start + j]? else none := by
  rw [slice, List.getElem?_drop, List.getElem?_take]

theorem length_slice (cs : List Char) (start stop : Nat) :
    (slice cs start stop).length = min stop cs.length - start := by
  rw [slice, List.length_drop, List.length_take]

theorem slice_self (cs : List Char) (i : Nat) : slice cs i i = [] :=
  List.drop_eq_nil_of_le (List.length_take_le i cs)

theorem slice_one {cs : List Char} {i : Nat} (h : i < cs.length) :
    slice cs i (i + 1) = [cs[i]] := by
  rw [slice, List.drop_take, List.drop_eq_getElem_cons h, Nat.add_sub_cancel_left]
  rfl

theorem slice_add_one {cs : List Char} {start i : Nat} {c : Char} (hle : start ≤ i)
    (hc : cs[i]? = some c) : slice cs start (i + 1) = slice cs start i ++ [c] := by
  have hi : i < cs.length := (List.getElem?_eq_some_iff.mp hc).1
  rw [slice, slice, List.take_add_one, hc, Option.toList_some,
    List.drop_append_of_le_length (by simp; omega)]

theorem slice_append_drop (cs : List Char) {start stop : Nat} (h : start ≤ stop) :
    slice cs start stop ++ cs.drop stop = cs.drop start := by
  have hd : cs.drop stop = (cs.drop start).drop (stop - start) := by
    rw [List.drop_drop, Nat.add_sub_cancel' h]
  rw [slice, List.drop_take, hd, List.take_append_drop]

theorem slice_append {cs : List Char} {a b c : Nat} (hab : a ≤ b) (hbc : b ≤ c) :
    slice cs a b ++ slice cs b c = slice cs a c := by
  have hsplit := slice_append_drop (cs.take c) hab
  rwa [slice, List.take_take, Nat.min_eq_left hbc] at hsplit

theorem drop_of_drop {cs as rest : List Char} {pos : Nat} (h : cs.drop pos = as ++ rest) :
    cs.drop (pos + as.length) = rest := by
  rw [← List.drop_drop, h, List.drop_left]

theorem getElem?_of_drop {cs as rest : List Char} {c : Char} {pos : Nat}
    (h : cs.drop pos = as ++ c :: rest) : cs[pos + as.length]? = some c := by
  rw [← List.head?_drop, drop_of_drop h, List.head?_cons]

theorem drop_add_one {cs rest : List Char} {c : Char} {pos : Nat} (h : cs.drop pos = c :: rest) :
    cs.drop (pos + 1) = rest := @drop_of_drop cs [c] rest pos h

theorem getElem?_here {cs rest : List Char} {c : Char} {pos : Nat} (h : cs.drop pos = c :: rest) :
    cs[pos]? = some c := @getElem?_of_drop cs [] rest c pos h

theorem slice_of_drop {cs as bs rest : List Char} {pos : Nat}
    (h : cs.drop pos = as ++ (bs ++ rest)) :
    slice cs (pos + as.length) (pos + (as ++ bs).length) = bs := by
  have hlength : pos + (as.length + bs.length) - (pos + as.length) = bs.length := by omega
  rw [slice, List.drop_take, drop_of_drop h, List.length_append, hlength, List.take_left]

theorem slice_here {cs bs rest : List Char} {pos : Nat} (h : cs.drop pos = bs ++ rest) :
    slice cs pos (pos + bs.length) = bs := @slice_of_drop cs [] bs rest pos h

/-- The same, with the bounds of the slice given in another way. -/
theorem slice_eq_of_drop {cs as bs rest : List Char} {pos start stop : Nat}
    (h : cs.drop pos = as ++ (bs ++ rest)) (hstart : start = pos + as.length)
    (hstop : stop = start + bs.length) : slice cs start stop = bs := by
  have hslice := slice_of_drop h
  rwa [List.length_append, ← Nat.add_assoc, ← hstart, ← hstop] at hslice

theorem mem_slice {cs : List Char} {start stop : Nat} {c : Char} :
    c ∈ slice cs start stop ↔ ∃ i, start ≤ i ∧ i < stop ∧ cs[i]? = some c := by
  rw [List.mem_iff_getElem?]
  constructor
  · rintro ⟨j, hj⟩
    rw [slice_getElem?] at hj
    split_ifs at hj with hlt
    exact ⟨start + j, Nat.le_add_right start j, hlt, hj⟩
  · rintro ⟨i, hstart, hstop, hc⟩
    refine ⟨i - start, ?_⟩
    rw [slice_getElem?, Nat.add_sub_cancel' hstart, if_pos hstop, hc]

theorem exists_trimRight (line : List Char) :
    ∃ s, line = trimRight line ++ s ∧ s.all isBlank = true :=
  ⟨line.rtakeWhile isBlank, List.rdropWhile_append_rtakeWhile.symm, by
    rw [List.rtakeWhile, List.all_reverse]
    exact List.all_takeWhile⟩

theorem visible_last {cs : List Char} {n : Nat} (h : (trimRight cs).length = n + 1) :
    ∃ c, cs[n]? = some c ∧ isBlank c = false := by
  have hinit : trimRight cs <+: cs := List.rdropWhile_prefix isBlank cs
  have hlt : n < (trimRight cs).length := by omega
  have hne : trimRight cs ≠ [] := List.ne_nil_of_length_pos (by omega)
  have hlast : (trimRight cs).getLast hne = (trimRight cs)[n] := by
    simp only [List.getLast_eq_getElem, h, Nat.add_sub_cancel]
  refine ⟨(trimRight cs)[n], ?_, ?_⟩
  · rw [hinit.getElem hlt]
    exact List.getElem?_eq_getElem _
  · have hnot : ¬ isBlank ((trimRight cs).getLast hne) = true :=
      List.rdropWhile_last_not isBlank cs hne
    rw [← hlast]
    simpa using hnot

theorem indentation_append_trimLeft (cs : List Char) : indentation cs ++ trimLeft cs = cs :=
  List.takeWhile_append_dropWhile

theorem isBlank_of_mem_indentation {cs : List Char} {c : Char} (h : c ∈ indentation cs) :
    isBlank c = true := List.mem_takeWhile_imp h

theorem exists_trim (cs : List Char) :
    ∃ tail, cs = indentation cs ++ (trim cs ++ tail) ∧ allBlank tail = true := by
  obtain ⟨tail, htail, hblank⟩ := exists_trimRight (trimLeft cs)
  refine ⟨tail, ?_, hblank⟩
  conv_lhs => rw [← indentation_append_trimLeft cs, htail]
  rfl

theorem not_mem_of_visible {cs : List Char} {c : Char} (h : allBlank cs = true)
    (hc : isBlank c = false) : c ∉ cs := fun hmem =>
  absurd (List.all_eq_true.mp h c hmem) (Bool.eq_false_iff.mp hc)

/-- A character that is no blank is kept when the text is trimmed. -/
theorem within_trim {cs : List Char} {i : Nat} {c : Char} (h : cs[i]? = some c)
    (hc : isBlank c = false) :
    (indentation cs).length ≤ i ∧ i < (indentation cs).length + (trim cs).length := by
  obtain ⟨tail, hsplit, htail⟩ := exists_trim cs
  rw [hsplit] at h
  by_contra hout
  rcases Nat.lt_or_ge i (indentation cs).length with hlt | hge
  · rw [List.getElem?_append_left hlt] at h
    exact not_mem_of_visible (List.all_eq_true.mpr fun _ => isBlank_of_mem_indentation) hc
      (List.mem_of_getElem? h)
  · rw [List.getElem?_append_right hge, List.getElem?_append_right (by omega)] at h
    exact not_mem_of_visible htail hc (List.mem_of_getElem? h)

theorem trim_ne_nil {cs : List Char} (h : allBlank cs = false) : trim cs ≠ [] := by
  obtain ⟨c, hc, hvisible⟩ := List.all_eq_false.mp h
  obtain ⟨i, hi⟩ := List.getElem?_of_mem hc
  have hwithin := within_trim hi (Bool.eq_false_iff.mpr hvisible)
  exact List.ne_nil_of_length_pos (by omega)

theorem trimLeft_append {front rest : List Char} (hfront : allBlank front = true) :
    trimLeft (front ++ rest) = trimLeft rest :=
  List.dropWhile_append_of_pos (List.all_eq_true.mp hfront)

theorem trimRight_append {rest back : List Char} (hback : allBlank back = true) :
    trimRight (rest ++ back) = trimRight rest := by
  have hreverse : ∀ c ∈ back.reverse, isBlank c = true :=
    fun c hc => List.all_eq_true.mp hback c (List.mem_reverse.mp hc)
  rw [trimRight, dropEndWhile, List.reverse_append, List.dropWhile_append_of_pos hreverse]
  rfl

/-- Blanks around a text that neither starts nor ends with one are what is trimmed. -/
theorem trim_between {front text back : List Char} (hfront : allBlank front = true)
    (hback : allBlank back = true) (hhead : ∀ c ∈ text.head?, isBlank c = false)
    (hlast : ∀ c ∈ text.getLast?, isBlank c = false) : trim (front ++ (text ++ back)) = text := by
  rw [trim, trimLeft_append hfront]
  cases text with
  | nil =>
    have hnone : trimLeft back = [] := List.dropWhile_eq_nil_iff.mpr (List.all_eq_true.mp hback)
    rw [List.nil_append, hnone]
    rfl
  | cons c cs =>
    have hstays : trimLeft (c :: cs ++ back) = c :: cs ++ back :=
      List.dropWhile_cons_of_neg (by simp [hhead c rfl])
    rw [hstays, trimRight_append hback]
    refine List.rdropWhile_eq_self_iff.mpr fun hne => ?_
    have hend := hlast _ (List.getLast?_eq_some_getLast hne)
    simp [hend]

end CampaignCheck.Text

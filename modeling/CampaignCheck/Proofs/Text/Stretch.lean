import CampaignCheck.Text.Lines
import Mathlib.Order.Basic

namespace CampaignCheck.Text

variable {α : Type}

/-- The text with `k i` more of the character at each offset `i`. -/
def stretch (k : Nat → Nat) : List α → List α
  | [] => []
  | c :: cs => List.replicate (k 0 + 1) c ++ stretch (fun i => k (i + 1)) cs

theorem stretch_zero (cs : List α) : stretch (fun _ => 0) cs = cs := by
  induction cs with
  | nil => rfl
  | cons c cs ih => rw [stretch, ih, List.replicate_one, List.singleton_append]

theorem mem_stretch {k : Nat → Nat} {cs : List α} {c : α} : c ∈ stretch k cs ↔ c ∈ cs := by
  induction cs generalizing k with
  | nil => simp [stretch]
  | cons d cs ih => simp [stretch, ih, List.mem_replicate]

theorem stretch_congr {k k' : Nat → Nat} {as : List α} (h : ∀ i < as.length, k i = k' i) :
    stretch k as = stretch k' as := by
  induction as generalizing k k' with
  | nil => rfl
  | cons a as ih =>
    rw [stretch, stretch, h 0 (Nat.succ_pos _), ih fun i hi => h (i + 1) (Nat.succ_lt_succ hi)]

theorem getLast?_stretch (k : Nat → Nat) (cs : List α) :
    (stretch k cs).getLast? = cs.getLast? := by
  induction cs generalizing k with
  | nil => rfl
  | cons c cs ih =>
    rw [stretch, List.getLast?_append, ih, List.getLast?_cons, List.getLast?_replicate]
    cases cs.getLast? <;> simp

theorem stretch_append (k : Nat → Nat) (as bs : List α) :
    stretch k (as ++ bs) = stretch k as ++ stretch (fun i => k (as.length + i)) bs := by
  induction as generalizing k with
  | nil => simp [stretch]
  | cons a as ih =>
    have hshift (i : Nat) : as.length + i + 1 = (a :: as).length + i := by
      rw [List.length_cons]
      omega
    rw [List.cons_append, stretch, ih, stretch, List.append_assoc]
    simp only [hshift]

/-- The counts from an offset on, without the first. -/
theorem counts_behind (k : Nat → Nat) (i : Nat) :
    (fun j => k (i + (j + 1))) = fun j => k (i + 1 + j) := by
  funext j
  rw [Nat.add_right_comm, Nat.add_assoc]

theorem stretch_from_cons (k : Nat → Nat) (i : Nat) (a : α) (as : List α) :
    stretch (fun j => k (i + j)) (a :: as) =
      List.replicate (k i + 1) a ++ stretch (fun j => k (i + 1 + j)) as := by
  rw [stretch, counts_behind]
  rfl

/-- The offset in the stretched text at which the character of an offset starts. -/
def placeOf (k : Nat → Nat) : Nat → Nat
  | 0 => 0
  | i + 1 => placeOf k i + k i + 1

theorem placeOf_succ (k : Nat → Nat) (i : Nat) :
    placeOf k (i + 1) = k 0 + 1 + placeOf (fun j => k (j + 1)) i := by
  induction i with
  | zero => simp [placeOf]
  | succ i ih =>
    rw [placeOf, ih, placeOf]
    omega

def countsFrom (n : Nat) (k : Nat → Nat) : Nat → Nat
  | 0 => n
  | i + 1 => k i

theorem stretch_countsFrom (n : Nat) (k : Nat → Nat) (c : α) (cs : List α) :
    stretch (countsFrom n k) (c :: cs) = List.replicate (n + 1) c ++ stretch k cs := rfl

theorem placeOf_countsFrom (n : Nat) (k : Nat → Nat) (i : Nat) :
    placeOf (countsFrom n k) (i + 1) = n + 1 + placeOf k i :=
  placeOf_succ (countsFrom n k) i

theorem placeOf_succ_of_once {k : Nat → Nat} {i : Nat} (h : k i = 0) :
    placeOf k (i + 1) = placeOf k i + 1 := by
  rw [placeOf, h]

theorem placeOf_lt {k : Nat → Nat} {i j : Nat} (h : i < j) : placeOf k i + k i < placeOf k j := by
  induction j with
  | zero => omega
  | succ j ih =>
    rw [placeOf]
    rcases Nat.eq_or_lt_of_le (Nat.le_of_lt_succ h) with rfl | hlt
    · omega
    · have hbefore := ih hlt
      omega

theorem placeOf_lt_iff {k : Nat → Nat} {i j : Nat} : placeOf k i < placeOf k j ↔ i < j := by
  refine ⟨fun h => ?_, fun h => ?_⟩
  · by_contra hle
    rcases Nat.eq_or_lt_of_le (Nat.not_lt.mp hle) with rfl | hlt
    · omega
    · have hplace := placeOf_lt (k := k) hlt
      omega
  · have hplace := placeOf_lt (k := k) h
    omega

theorem placeOf_le_iff {k : Nat → Nat} {i j : Nat} : placeOf k i ≤ placeOf k j ↔ i ≤ j := by
  rw [← Nat.not_lt, placeOf_lt_iff, Nat.not_lt]

theorem placeOf_add (k : Nat → Nat) (i n : Nat) :
    placeOf k (i + n) = placeOf k i + placeOf (fun j => k (i + j)) n := by
  induction n with
  | zero => rfl
  | succ n ih =>
    rw [← Nat.add_assoc, placeOf, ih, placeOf]
    omega

theorem placeOf_add_of_once {k : Nat → Nat} {i n : Nat} (h : ∀ j < n, k (i + j) = 0) :
    placeOf k (i + n) = placeOf k i + n := by
  induction n with
  | zero => rfl
  | succ n ih =>
    rw [← Nat.add_assoc, placeOf_succ_of_once (h n (Nat.lt_succ_self n)),
      ih fun j hj => h j (Nat.lt_succ_of_lt hj), Nat.add_assoc]

theorem placeOf_of_once {k : Nat → Nat} {n : Nat} (h : ∀ j < n, k j = 0) : placeOf k n = n := by
  have hplace := placeOf_add_of_once (k := k) (i := 0) (n := n) fun j hj => by
    rw [Nat.zero_add]
    exact h j hj
  rwa [Nat.zero_add, placeOf, Nat.zero_add] at hplace

theorem length_stretch (k : Nat → Nat) (cs : List α) :
    (stretch k cs).length = placeOf k cs.length := by
  induction cs generalizing k with
  | nil => rfl
  | cons c cs ih =>
    rw [stretch, List.length_append, List.length_replicate, ih, List.length_cons, placeOf_succ]

theorem stretch_replicate (k : Nat → Nat) (n : Nat) (a : α) :
    stretch k (List.replicate n a) = List.replicate (placeOf k n) a := by
  refine List.eq_replicate_iff.mpr ⟨?_, fun b hb => ?_⟩
  · rw [length_stretch, List.length_replicate]
  · exact List.eq_of_mem_replicate (mem_stretch.mp hb)

theorem exists_placeOf (k : Nat → Nat) (q : Nat) : ∃ i r, r ≤ k i ∧ q = placeOf k i + r := by
  induction q with
  | zero => exact ⟨0, 0, Nat.zero_le _, rfl⟩
  | succ q ih =>
    obtain ⟨i, r, hr, rfl⟩ := ih
    by_cases hlast : r = k i
    · exact ⟨i + 1, 0, Nat.zero_le _, by rw [placeOf, hlast]⟩
    · exact ⟨i, r + 1, by omega, rfl⟩

theorem getElem?_stretch {k : Nat → Nat} {i r : Nat} (hr : r ≤ k i) (cs : List α) :
    (stretch k cs)[placeOf k i + r]? = cs[i]? := by
  induction cs generalizing k i with
  | nil => simp [stretch]
  | cons c cs ih =>
    cases i with
    | zero =>
      have hlt : r < (List.replicate (k 0 + 1) c).length := by
        rw [List.length_replicate]
        omega
      rw [stretch, placeOf, Nat.zero_add, List.getElem?_append_left hlt,
        List.getElem?_replicate_of_lt (by omega)]
      rfl
    | succ i =>
      have hskip : k 0 + 1 + placeOf (fun j => k (j + 1)) i + r - (k 0 + 1) =
          placeOf (fun j => k (j + 1)) i + r := by omega
      rw [stretch, placeOf_succ, List.getElem?_append_right (by simp; omega),
        List.length_replicate, hskip]
      exact ih (k := fun j => k (j + 1)) hr

theorem getElem?_placeOf (k : Nat → Nat) (i : Nat) (cs : List α) :
    (stretch k cs)[placeOf k i]? = cs[i]? :=
  getElem?_stretch (Nat.zero_le _) cs

theorem drop_stretch (k : Nat → Nat) (i : Nat) (cs : List α) :
    (stretch k cs).drop (placeOf k i) = stretch (fun j => k (i + j)) (cs.drop i) := by
  induction i generalizing k cs with
  | zero => simp [placeOf]
  | succ i ih =>
    cases cs with
    | nil => simp [stretch]
    | cons c cs =>
      have hlen : (List.replicate (k 0 + 1) c).length = k 0 + 1 := List.length_replicate
      rw [stretch, placeOf_succ, ← List.drop_drop, List.drop_left' hlen, ih, List.drop_succ_cons]
      simp only [Nat.add_assoc, Nat.add_comm 1]

theorem take_stretch (k : Nat → Nat) (i : Nat) (cs : List α) :
    (stretch k cs).take (placeOf k i) = stretch k (cs.take i) := by
  induction i generalizing k cs with
  | zero => simp [placeOf, stretch]
  | succ i ih =>
    cases cs with
    | nil => simp [stretch]
    | cons c cs =>
      have hlen : (List.replicate (k 0 + 1) c).length ≤
          k 0 + 1 + placeOf (fun j => k (j + 1)) i := by
        rw [List.length_replicate]
        exact Nat.le_add_right _ _
      rw [stretch, placeOf_succ, List.take_succ_cons, stretch, ← ih, List.take_append,
        List.take_of_length_le hlen, List.length_replicate, Nat.add_sub_cancel_left]

theorem slice_stretch (k : Nat → Nat) (i j : Nat) (cs : List Char) :
    slice (stretch k cs) (placeOf k i) (placeOf k j) =
      stretch (fun n => k (i + n)) (slice cs i j) := by
  rw [slice, slice, take_stretch, drop_stretch]

/-- Only equals signs are repeated. -/
def Elastic (k : Nat → Nat) (cs : List Char) : Prop := ∀ i, 0 < k i → cs[i]? = some '='

theorem Elastic.zero (cs : List Char) : Elastic (fun _ => 0) cs :=
  fun _ hi => absurd hi (Nat.lt_irrefl 0)

theorem Elastic.behind {k : Nat → Nat} {i : Nat} {c : Char} {cs : List Char}
    (h : Elastic (fun j => k (i + j)) (c :: cs)) : Elastic (fun j => k (i + 1 + j)) cs := by
  rw [← counts_behind]
  exact fun j hj => h (j + 1) hj

theorem Elastic.drop {k : Nat → Nat} {cs : List Char} (h : Elastic k cs) (i : Nat) :
    Elastic (fun j => k (i + j)) (cs.drop i) := by
  intro j hj
  rw [List.getElem?_drop]
  exact h (i + j) hj

/-- Texts that are stretched one after the other are a stretched text. -/
theorem exists_stretch_append {k k' : Nat → Nat} {as bs : List Char} (h : Elastic k as)
    (h' : Elastic k' bs) : ∃ n, Elastic n (as ++ bs) ∧
      stretch n (as ++ bs) = stretch k as ++ stretch k' bs := by
  refine ⟨fun i => if i < as.length then k i else k' (i - as.length), fun i hi => ?_, ?_⟩
  · simp only at hi
    split_ifs at hi with hlt
    · rw [List.getElem?_append_left hlt]
      exact h i hi
    · rw [List.getElem?_append_right (Nat.le_of_not_lt hlt)]
      exact h' (i - as.length) hi
  · rw [stretch_append]
    congr 1
    · exact stretch_congr fun i hi => if_pos hi
    · refine stretch_congr fun i _ => ?_
      rw [if_neg (Nat.not_lt.mpr (Nat.le_add_right _ _)), Nat.add_sub_cancel_left]

/-- Only equals signs and blanks are repeated. -/
def Pliant (k : Nat → Nat) (cs : List Char) : Prop :=
  ∀ i, 0 < k i → cs[i]? = some '=' ∨ cs[i]? = some ' '

theorem Elastic.pliant {k : Nat → Nat} {cs : List Char} (h : Elastic k cs) : Pliant k cs :=
  fun i hi => .inl (h i hi)

section Pliant

variable {k : Nat → Nat} {c : Char} {cs : List Char}

theorem Pliant.stays (h : Pliant k cs) {i : Nat} (hc : cs[i]? = some c) (hequals : c ≠ '=')
    (hblank : c ≠ ' ') : k i = 0 := by
  by_contra hk
  rcases h i (Nat.pos_of_ne_zero hk) with he | he
  · rw [hc] at he
    exact hequals (Option.some.inj he)
  · rw [hc] at he
    exact hblank (Option.some.inj he)

theorem Pliant.tail (h : Pliant k (c :: cs)) : Pliant (fun i => k (i + 1)) cs :=
  fun i hi => h (i + 1) hi

theorem Pliant.behind {i : Nat} (h : Pliant (fun j => k (i + j)) (c :: cs)) :
    Pliant (fun j => k (i + 1 + j)) cs := by
  rw [← counts_behind]
  exact h.tail

theorem Pliant.drop (h : Pliant k cs) (i : Nat) : Pliant (fun j => k (i + j)) (cs.drop i) := by
  intro j hj
  rw [List.getElem?_drop]
  exact h (i + j) hj

theorem stretch_cons_of_once (h : k 0 = 0) :
    stretch k (c :: cs) = c :: stretch (fun i => k (i + 1)) cs := by
  rw [stretch, h]
  rfl

theorem stretch_eq_nil : stretch k cs = [] ↔ cs = [] := by
  cases cs <;> simp [stretch]

/-- The text has neither equals signs nor blanks. -/
def Stiff (cs : List Char) : Prop := '=' ∉ cs ∧ ' ' ∉ cs

theorem Stiff.ne {marker : List Char} {a : Char} (h : Stiff (a :: marker))
    (hc : c = '=' ∨ c = ' ') : a ≠ c := by
  rintro rfl
  rcases hc with rfl | rfl
  · exact h.1 List.mem_cons_self
  · exact h.2 List.mem_cons_self

/-- A marker starts a stretched text if it starts the text, where none of its characters but the
last falls on one that is repeated. -/
theorem isPrefixOf_stretch_of_ne {marker : List Char}
    (h : ∀ j, j + 1 < marker.length → 0 < k j → marker[j]? ≠ cs[j]?) :
    marker.isPrefixOf (stretch k cs) = marker.isPrefixOf cs := by
  induction marker generalizing k cs with
  | nil => simp
  | cons a marker ih =>
    cases cs with
    | nil => rfl
    | cons c cs =>
      have hrest := @ih (fun j => k (j + 1)) cs fun j hj hk => h (j + 1) (Nat.succ_lt_succ hj) hk
      by_cases hk : k 0 = 0
      · rw [stretch_cons_of_once hk]
        simp [List.isPrefixOf, hrest]
      · rw [stretch, List.replicate_succ, List.cons_append]
        cases marker with
        | nil => simp [List.isPrefixOf]
        | cons b marker =>
          have hne : a ≠ c := by simpa using h 0 (by simp) (Nat.pos_of_ne_zero hk)
          simp [List.isPrefixOf, beq_false_of_ne hne]

/-- A marker without equals signs and blanks starts a stretched text if it starts the text. -/
theorem isPrefixOf_stretch {marker : List Char} (hm : Stiff marker) (h : Pliant k cs) :
    marker.isPrefixOf (stretch k cs) = marker.isPrefixOf cs := by
  refine isPrefixOf_stretch_of_ne fun j _ hj heq => ?_
  rcases h j hj with hc | hc
  · exact hm.1 (List.mem_of_getElem? (heq.trans hc))
  · exact hm.2 (List.mem_of_getElem? (heq.trans hc))

/-- A marker that starts a text is not stretched. -/
theorem Pliant.once_of_isPrefixOf (h : Pliant k cs) {marker : List Char} (hm : Stiff marker)
    (hp : marker.isPrefixOf cs = true) : ∀ i < marker.length, k i = 0 := by
  intro i hi
  obtain ⟨rest, rfl⟩ := List.isPrefixOf_iff_prefix.mp hp
  have hc : (marker ++ rest)[i]? = some marker[i] := by
    rw [List.getElem?_append_left hi, List.getElem?_eq_getElem hi]
  refine h.stays hc ?_ ?_
  · intro he
    exact hm.1 (he ▸ List.getElem_mem hi)
  · intro hb
    exact hm.2 (hb ▸ List.getElem_mem hi)

end Pliant

end CampaignCheck.Text

import CampaignCheck.Proofs.Script.View

namespace CampaignCheck.Ssjs

open Text Pattern

/-- The tag that ends a stretch of script or of page. -/
def border (inside : Bool) : Pattern := if inside then scriptClose else scriptTag

def seen (inside : Bool) (c : Char) : Char := if inside then c else ' '

theorem viewChars_cons (raw : List Char) (i : Nat) (inside : Bool) (c : Char) (cs : List Char) :
    viewChars raw i 0 inside (c :: cs) =
      match (border inside).matchAt? raw i with
      | some m =>
        let r := viewChars raw (i + 1) (m.stop - i - 1) (!inside) cs
        (' ' :: r.1, r.2)
      | none =>
        let r := viewChars raw (i + 1) 0 inside cs
        (seen inside c :: r.1, r.2) := by
  cases inside <;> rfl

theorem viewChars_blanks (raw : List Char) (i m n : Nat) (inside : Bool) (c : Char)
    (rest : List Char) :
    viewChars raw i (m + n) inside (List.replicate m c ++ rest) =
      (List.replicate m ' ' ++ (viewChars raw (i + m) n inside rest).1,
        (viewChars raw (i + m) n inside rest).2) := by
  induction m generalizing i with
  | zero => simp
  | succ m ih =>
    have hplace : i + 1 + m = i + (m + 1) := by omega
    have hcount : m + 1 + n = m + n + 1 := by omega
    simp only [List.replicate_succ, List.cons_append, hcount, viewChars, ih, hplace]

/-- Where no tag starts, a repeated character is seen as often. -/
theorem viewChars_replicate {raw : List Char} {i m : Nat} {inside : Bool} (c : Char)
    (rest : List Char) (h : ∀ r < m, (border inside).matchAt? raw (i + r) = none) :
    viewChars raw i 0 inside (List.replicate m c ++ rest) =
      (List.replicate m (seen inside c) ++ (viewChars raw (i + m) 0 inside rest).1,
        (viewChars raw (i + m) 0 inside rest).2) := by
  induction m generalizing i with
  | zero => simp
  | succ m ih =>
    have hplace : i + 1 + m = i + (m + 1) := by omega
    have hfirst := h 0 (Nat.succ_pos m)
    rw [Nat.add_zero] at hfirst
    have hrest : ∀ r < m, (border inside).matchAt? raw (i + 1 + r) = none := by
      intro r hr
      have hnext := h (r + 1) (Nat.succ_lt_succ hr)
      rwa [← Nat.add_assoc, Nat.add_right_comm] at hnext
    simp only [List.replicate_succ, List.cons_append, viewChars_cons, hfirst, ih hrest, hplace]

section Stretch

variable {k : Nat → Nat} {raw : List Char} (h : Pliant k raw)
include h

theorem moves_border (inside : Bool) : Moves (border inside) k raw := by
  have hmarks : ∀ set ∈ [CharSet.char '<', .char '/'], Rigid set := by
    simp [Rigid, CharSet.mem]
  have hword : ∀ set ∈ scriptWord, Rigid set := by
    unfold Rigid
    decide +kernel
  have hmarks := fun set hset => still_of_pliant h (hmarks set hset)
  have hword := fun set hset => still_of_pliant h (hword set hset)
  have hopen := hmarks (.char '<') (by simp)
  have hend : Still k raw (.char '>') := still_of_pliant h (by simp [Rigid, CharSet.mem])
  have hlast := places_one hend (places_some k)
  have hskip := skips_one hend some
  cases inside with
  | true =>
    refine .of_simple simple_scriptClose ?_ ?_ ?_
    · exact places_inOrder hmarks (places_inOrder hword (places_many raw .blank hlast hskip))
    · exact skips_inOrder hmarks (by simp) _
    · cases simple_scriptClose with
      | seq hp _ => exact full_seq_one hp _ raw
  | false =>
    refine .of_simple simple_scriptTag ?_ ?_ ?_
    · exact places_one hopen (places_inOrder hword (places_wordEdge raw
        (places_many raw (.not (.char '>')) hlast hskip)))
    · exact skips_one hopen _
    · cases simple_scriptTag with
      | seq hp _ => exact full_seq_one hp _ raw

theorem viewChars_stretch {i n : Nat} {inside : Bool} {cs : List Char} (hcs : raw.drop i = cs) :
    viewChars (stretch k raw) (placeOf k i) (placeOf k (i + n) - placeOf k i) inside
        (stretch (fun j => k (i + j)) cs) =
      (stretch (fun j => k (i + j)) (viewChars raw i n inside cs).1,
        (viewChars raw i n inside cs).2) := by
  induction cs generalizing i n inside with
  | nil => rfl
  | cons c cs ih =>
    have hrest : raw.drop (i + 1) = cs := drop_add_one hcs
    have hnext : placeOf k i + (k i + 1) = placeOf k (i + 1) := rfl
    have hm := moves_border h inside
    rw [stretch_from_cons]
    cases n with
    | succ n =>
      have hplace : i + (n + 1) = i + 1 + n := by omega
      have hle : placeOf k (i + 1) ≤ placeOf k (i + 1 + n) := placeOf_le_iff.mpr (by omega)
      have hcount : placeOf k (i + (n + 1)) - placeOf k i =
          k i + 1 + (placeOf k (i + 1 + n) - placeOf k (i + 1)) := by
        rw [hplace]
        omega
      rw [hcount, viewChars_blanks, hnext, ih hrest]
      simp only [viewChars, stretch_from_cons]
    | zero =>
      have hstop := hm.matchAt? i
      rw [Nat.add_zero, Nat.sub_self, viewChars_cons]
      cases hmatch : (border inside).matchAt? raw i with
      | none =>
        rw [hmatch, Option.map_none, Option.map_eq_none_iff] at hstop
        have hnone : ∀ r < k i + 1,
            (border inside).matchAt? (stretch k raw) (placeOf k i + r) = none := by
          intro r hr
          cases r with
          | zero => exact hstop
          | succ r => exact hm.matchAt?_between (Nat.succ_pos r) (Nat.le_of_lt_succ hr)
        have hmore := @ih (i + 1) 0 inside hrest
        rw [Nat.add_zero, Nat.sub_self] at hmore
        rw [viewChars_replicate c _ hnone, hnext, hmore]
        simp only [stretch_from_cons]
      | some m =>
        rw [hmatch, Option.map_some] at hstop
        obtain ⟨m', hmatch', hplace⟩ := Option.map_eq_some_iff.mp hstop
        have hbracket : raw[i]? = some '<' := by
          cases inside with
          | true => exact getElem?_of_scriptClose hmatch
          | false => exact getElem?_of_scriptTag hmatch
        have hstay : k i = 0 := h.stays hbracket (by decide) (by decide)
        have hlt := hm.lt_stop hmatch
        have hbehind : i + 1 + (m.stop - i - 1) = m.stop := by omega
        have hmore := @ih (i + 1) (m.stop - i - 1) (!inside) hrest
        rw [hbehind, placeOf_succ_of_once hstay, ← Nat.sub_sub, ← hplace] at hmore
        rw [hstay, List.replicate_one, List.singleton_append, viewChars_cons, hmatch']
        simp only [hmore, stretch_from_cons, hstay, Nat.zero_add, List.replicate_one,
          List.singleton_append]

end Stretch

section Lines

variable {ks : Nat → Nat → Nat} {raws : List (List Char)}
  (h : ∀ i raw, raws[i]? = some raw → Pliant (ks i) raw)
include h

theorem viewLines_stretch (inside : Bool) :
    viewLines inside (raws.mapIdx fun i raw => stretch (ks i) raw) =
      (viewLines inside raws).mapIdx fun i v => stretch (ks i) v := by
  induction raws generalizing ks inside with
  | nil => rfl
  | cons raw rest ih =>
    have hrest : ∀ i raw, rest[i]? = some raw → Pliant (ks (i + 1)) raw :=
      fun i l hl => h (i + 1) l hl
    have hfirst : viewChars (stretch (ks 0) raw) 0 0 inside (stretch (ks 0) raw) =
        (stretch (ks 0) (viewChars raw 0 0 inside raw).1, (viewChars raw 0 0 inside raw).2) := by
      have hwhole := @viewChars_stretch _ raw (h 0 raw rfl) 0 0 inside raw List.drop_zero
      simpa [placeOf] using hwhole
    simp only [List.mapIdx_cons, viewLines, hfirst, ih hrest]

theorem any_occursIn_stretch :
    (raws.mapIdx fun i raw => stretch (ks i) raw).any scriptTag.occursIn =
      raws.any scriptTag.occursIn := by
  induction raws generalizing ks with
  | nil => rfl
  | cons raw rest ih =>
    have hrest : ∀ i raw, rest[i]? = some raw → Pliant (ks (i + 1)) raw :=
      fun i l hl => h (i + 1) l hl
    have hfirst : scriptTag.occursIn (stretch (ks 0) raw) = scriptTag.occursIn raw :=
      (moves_border (h 0 raw rfl) false).occursIn
    rw [List.mapIdx_cons, List.any_cons, List.any_cons, ih hrest, hfirst]

/-- The script of a page whose lines are stretched is stretched like the page. -/
theorem view_stretch : view (raws.mapIdx fun i raw => stretch (ks i) raw) =
    (view raws).mapIdx fun i v => stretch (ks i) v := by
  unfold view
  rw [any_occursIn_stretch h]
  split_ifs
  · exact viewLines_stretch h false
  · rfl

end Lines

end CampaignCheck.Ssjs

import CampaignCheck.Proofs.Pattern.Ends
import CampaignCheck.Proofs.Text.Stretch

namespace CampaignCheck

open Text

theorem Text.length_takeWhile_stretch (p : Char → Bool) (k : Nat → Nat) (cs : List Char) :
    ((stretch k cs).takeWhile p).length = placeOf k (cs.takeWhile p).length := by
  induction cs generalizing k with
  | nil => rfl
  | cons c cs ih =>
    cases hc : p c with
    | true =>
      rw [stretch, List.takeWhile_append_of_pos (by simp [hc]), List.takeWhile_cons_of_pos hc,
        List.length_append, List.length_replicate, ih, List.length_cons, placeOf_succ]
    | false =>
      rw [stretch, List.replicate_succ, List.cons_append, List.takeWhile_cons_of_neg (by simp [hc]),
        List.takeWhile_cons_of_neg (by simp [hc])]
      rfl

namespace Pattern

/-- The set has neither equals signs nor blanks. -/
def Rigid (set : CharSet) : Prop := set.mem '=' = false ∧ set.mem ' ' = false

/-- What leads on from an offset leads on from its place in the stretched text. -/
def Places (k : Nat → Nat) (g g' : Nat → Option Nat) : Prop :=
  ∀ i, g' (placeOf k i) = (g i).map (placeOf k)

/-- Nothing leads on from between the places. -/
def Skips (k : Nat → Nat) (g' : Nat → Option Nat) : Prop :=
  ∀ i r, 0 < r → r ≤ k i → g' (placeOf k i + r) = none

theorem places_some (k : Nat → Nat) : Places k some some := fun _ => rfl

theorem countOf_eq (set : CharSet) (cs : List Char) (pos : Nat) :
    countOf cs.toArray set (cs.toArray.size - pos) pos =
      ((cs.drop pos).takeWhile set.mem).length := by
  generalize hn : cs.toArray.size - pos = n
  rw [List.size_toArray] at hn
  induction n generalizing pos with
  | zero => simp [countOf, List.drop_eq_nil_of_le (show cs.length ≤ pos by omega)]
  | succ n ih =>
    have hlt : pos < cs.length := by omega
    rw [countOf, List.getElem?_toArray, List.getElem?_eq_getElem hlt,
      List.drop_eq_getElem_cons hlt, List.takeWhile_cons]
    simp only
    split_ifs
    · rw [ih (pos + 1) (by omega), List.length_cons]
    · rfl

theorem backOff_skip {g : Nat → Option Nat} {pos m n : Nat}
    (h : ∀ r, 0 < r → r ≤ n → g (pos + (m + r)) = none) :
    backOff g pos (m + n) = backOff g pos m := by
  induction n with
  | zero => rfl
  | succ n ih =>
    rw [← Nat.add_assoc, backOff, Nat.add_assoc m n 1, h (n + 1) (by omega) (Nat.le_refl _),
      Option.none_or]
    exact ih fun r hr hr' => h r hr (Nat.le_succ_of_le hr')

theorem backOff_stretch {k : Nat → Nat} {g g' : Nat → Option Nat} (hg : Places k g g')
    (hskip : Skips k g') (i n : Nat) :
    backOff g' (placeOf k i) (placeOf (fun j => k (i + j)) n) =
      (backOff g i n).map (placeOf k) := by
  induction n with
  | zero => exact hg i
  | succ n ih =>
    have hplace := placeOf_add k i n
    have htop : placeOf k i + (placeOf (fun j => k (i + j)) n + k (i + n) + 1) =
        placeOf k (i + (n + 1)) := by
      rw [← Nat.add_assoc i n 1, placeOf, hplace]
      omega
    have hbetween : backOff g' (placeOf k i) (placeOf (fun j => k (i + j)) n + k (i + n)) =
        backOff g' (placeOf k i) (placeOf (fun j => k (i + j)) n) := by
      refine backOff_skip fun r hr hr' => ?_
      rw [← Nat.add_assoc, ← hplace]
      exact hskip (i + n) r hr hr'
    rw [placeOf, backOff, htop, hg, hbetween, ih, backOff]
    cases g (i + (n + 1)) <;> rfl

theorem sees_stretch (set : CharSet) {k : Nat → Nat} {i r : Nat} (hr : r ≤ k i) (cs : List Char) :
    sees set (stretch k cs) (placeOf k i + r) = sees set cs i := by
  rw [sees, getElem?_stretch hr, sees]

theorem sees_placeOf (set : CharSet) (k : Nat → Nat) (i : Nat) (cs : List Char) :
    sees set (stretch k cs) (placeOf k i) = sees set cs i :=
  sees_stretch set (Nat.zero_le _) cs

theorem preceded_stretch (set : CharSet) (k : Nat → Nat) (i : Nat) (cs : List Char) :
    preceded set (stretch k cs) (placeOf k i) = preceded set cs i := by
  cases i with
  | zero => rfl
  | succ i => exact sees_stretch set (Nat.le_refl (k i)) cs

theorem preceded_stretch_succ (set : CharSet) {k : Nat → Nat} {i r : Nat} (hr : r ≤ k i)
    (cs : List Char) : preceded set (stretch k cs) (placeOf k i + (r + 1)) = sees set cs i :=
  sees_stretch set hr cs

/-- No character of the set is repeated. -/
def Still (k : Nat → Nat) (cs : List Char) (set : CharSet) : Prop :=
  ∀ i, 0 < k i → sees set cs i = false

section Stretch

variable {k : Nat → Nat} {cs : List Char}

theorem still_of_pliant (h : Pliant k cs) {set : CharSet} (hset : Rigid set) : Still k cs set := by
  intro i hi
  rcases h i hi with hc | hc
  · simp [sees, hc, hset.1]
  · simp [sees, hc, hset.2]

theorem still_of_elastic (h : Elastic k cs) {set : CharSet} (hset : set.mem '=' = false) :
    Still k cs set := fun i hi => by simp [sees, h i hi, hset]

theorem Still.stays {set : CharSet} (h : Still k cs set) {i : Nat} (hsees : sees set cs i = true) :
    k i = 0 := by
  by_contra hk
  rw [h i (Nat.pos_of_ne_zero hk)] at hsees
  cases hsees

theorem places_one {set : CharSet} (h : Still k cs set) {g g' : Nat → Option Nat}
    (hg : Places k g g') :
    Places k ((one set).ends cs.toArray g) ((one set).ends (stretch k cs).toArray g') := by
  intro i
  rw [ends_one, ends_one, sees_placeOf]
  split_ifs with hsees
  · rw [← placeOf_succ_of_once (h.stays hsees)]
    exact hg (i + 1)
  · rfl

theorem skips_one {set : CharSet} (h : Still k cs set) (g' : Nat → Option Nat) :
    Skips k ((one set).ends (stretch k cs).toArray g') := by
  intro i r hr hr'
  rw [ends_one, sees_stretch _ hr', h i (by omega)]
  rfl

theorem places_many (cs : List Char) (set : CharSet) {g g' : Nat → Option Nat}
    (hg : Places k g g') (hskip : Skips k g') :
    Places k ((many (one set)).ends cs.toArray g)
      ((many (one set)).ends (stretch k cs).toArray g') := by
  intro i
  simp only [many, ends, countOf_eq, drop_stretch, length_takeWhile_stretch]
  exact backOff_stretch hg hskip i _

theorem places_inOrder {sets : List CharSet} (hsets : ∀ set ∈ sets, Still k cs set)
    {g g' : Nat → Option Nat} (hg : Places k g g') :
    Places k ((inOrder (sets.map one)).ends cs.toArray g)
      ((inOrder (sets.map one)).ends (stretch k cs).toArray g') := by
  induction sets with
  | nil => exact hg
  | cons set sets ih =>
    have hrest := ih fun s hs => hsets s (List.mem_cons_of_mem set hs)
    have hset := hsets set List.mem_cons_self
    cases sets with
    | nil => exact places_one hset hg
    | cons s sets => exact places_one hset hrest

theorem skips_inOrder {sets : List CharSet} (hsets : ∀ set ∈ sets, Still k cs set) (hne : sets ≠ [])
    (g' : Nat → Option Nat) :
    Skips k ((inOrder (sets.map one)).ends (stretch k cs).toArray g') := by
  obtain ⟨set, sets, rfl⟩ := List.exists_cons_of_ne_nil hne
  have hset := hsets set List.mem_cons_self
  cases sets with
  | nil => exact skips_one hset g'
  | cons s sets => exact skips_one hset _

theorem places_alt {p q : Pattern} {g g' : Nat → Option Nat}
    (hp : Places k (p.ends cs.toArray g) (p.ends (stretch k cs).toArray g'))
    (hq : Places k (q.ends cs.toArray g) (q.ends (stretch k cs).toArray g')) :
    Places k ((alt p q).ends cs.toArray g) ((alt p q).ends (stretch k cs).toArray g') := by
  intro i
  simp only [ends, hp i, hq i]
  cases p.ends cs.toArray g i <;> rfl

theorem skips_alt {p q : Pattern} {g' : Nat → Option Nat}
    (hp : Skips k (p.ends (stretch k cs).toArray g'))
    (hq : Skips k (q.ends (stretch k cs).toArray g')) :
    Skips k ((alt p q).ends (stretch k cs).toArray g') := by
  intro i r hr hr'
  rw [ends, hp i r hr hr', hq i r hr hr']
  rfl

theorem wordEdge_stretch (i : Nat) :
    Anchor.holds (stretch k cs).toArray (placeOf k i) .wordEdge =
      Anchor.holds cs.toArray i .wordEdge := by
  have hafter : Anchor.wordAt Text.isWord (stretch k cs).toArray (placeOf k i) =
      Anchor.wordAt Text.isWord cs.toArray i := by
    simp only [Anchor.wordAt, List.getElem?_toArray, getElem?_placeOf]
  have hbefore : Anchor.wordBefore Text.isWord (stretch k cs).toArray (placeOf k i) =
      Anchor.wordBefore Text.isWord cs.toArray i := by
    cases i with
    | zero => rfl
    | succ i =>
      simp only [placeOf, Anchor.wordBefore, Anchor.wordAt, List.getElem?_toArray,
        getElem?_stretch (Nat.le_refl (k i))]
  simp only [Anchor.holds, Anchor.isEdge, hafter, hbefore]

theorem places_wordEdge (cs : List Char) {g g' : Nat → Option Nat} (hg : Places k g g') :
    Places k (wordEdge.ends cs.toArray g) (wordEdge.ends (stretch k cs).toArray g') := by
  intro i
  simp only [wordEdge, ends, wordEdge_stretch, hg i]
  split_ifs <;> rfl

theorem skips_wordEdge {g' : Nat → Option Nat} (hg : Skips k g') :
    Skips k (wordEdge.ends (stretch k cs).toArray g') := by
  intro i r hr hr'
  simp only [wordEdge, ends, hg i r hr hr']
  split_ifs <;> rfl

end Stretch

theorem exists_of_backOff {g : Nat → Option Nat} {pos n stop : Nat}
    (h : backOff g pos n = some stop) : ∃ m ≤ n, g (pos + m) = some stop := by
  induction n with
  | zero => exact ⟨0, Nat.le_refl _, h⟩
  | succ n ih =>
    rw [backOff] at h
    cases hg : g (pos + (n + 1)) with
    | some r =>
      rw [hg] at h
      exact ⟨n + 1, Nat.le_refl _, hg.trans h⟩
    | none =>
      rw [hg] at h
      obtain ⟨m, hm, hstop⟩ := ih h
      exact ⟨m, Nat.le_succ_of_le hm, hstop⟩

/-- Where the way through a pattern leads on, what comes after leads on. -/
theorem exists_of_ends {text : Array Char} {p : Pattern} (hp : Simple p) {g : Nat → Option Nat}
    {pos stop : Nat} (h : p.ends text g pos = some stop) : ∃ q, pos ≤ q ∧ g q = some stop := by
  induction hp generalizing g pos with
  | empty => exact ⟨pos, Nat.le_refl _, h⟩
  | one set =>
    rw [ends] at h
    split_ifs at h
    exact ⟨pos + 1, Nat.le_succ _, h⟩
  | anchor a =>
    rw [ends] at h
    split_ifs at h
    exact ⟨pos, Nat.le_refl _, h⟩
  | seq hp hq ihp ihq =>
    obtain ⟨m, hm, hrest⟩ := ihp h
    obtain ⟨q, hq, hg⟩ := ihq hrest
    exact ⟨q, Nat.le_trans hm hq, hg⟩
  | @alt p q hp hq ihp ihq =>
    rw [ends] at h
    cases hfirst : p.ends text g pos with
    | some r =>
      rw [hfirst] at h
      exact ihp (hfirst.trans h)
    | none =>
      rw [hfirst] at h
      exact ihq h
  | many set =>
    rw [many, ends] at h
    obtain ⟨m, -, hstop⟩ := exists_of_backOff h
    exact ⟨pos + m, Nat.le_add_right pos m, hstop⟩
  | capture n hp ih => exact ih h
  | ahead holds hp ih =>
    rw [ends] at h
    split_ifs at h
    exact ⟨pos, Nat.le_refl _, h⟩
  | behind holds width hp ih =>
    rw [ends] at h
    split_ifs at h <;> exact ⟨pos, Nat.le_refl _, h⟩

/-- A match that ends with a character is not empty. -/
theorem full_seq_one {p : Pattern} (hp : Simple p) (set : CharSet) (cs : List Char) :
    (seq p (one set)).Full cs := by
  intro pos stop h
  obtain ⟨i, hi, hlast⟩ := exists_of_ends hp h
  rw [ends_one] at hlast
  split_ifs at hlast
  obtain rfl : i + 1 = stop := Option.some.inj hlast
  exact Nat.lt_succ_of_le hi

section Search

/-- Where a match ends that starts at an offset. -/
def stopAt? (p : Pattern) (cs : List Char) (pos : Nat) : Option Nat :=
  (p.tryAt cs.toArray pos false).map (·.stop)

theorem stopAt?_eq_hit? {p : Pattern} (hp : Simple p) (cs : List Char) :
    p.stopAt? cs = p.hit? cs :=
  funext (map_stop_tryAt hp cs)

theorem stopAt?_of_tryFrom {p : Pattern} {cs : List Char} {n pos : Nat} {m : Match}
    (h : p.tryFrom cs.toArray n pos false = some m) : p.stopAt? cs m.start = some m.stop := by
  have hat {pos : Nat} {m : Match} (h : p.tryAt cs.toArray pos false = some m) :
      p.stopAt? cs m.start = some m.stop := by
    rw [start_of_tryAt h, stopAt?, h, Option.map_some]
  induction n generalizing pos with
  | zero => exact hat h
  | succ n ih =>
    rw [tryFrom] at h
    split at h
    · next first hfirst =>
      obtain rfl : first = m := Option.some.inj h
      exact hat hfirst
    · exact ih h

def bounds (m : Match) : Nat × Nat := (m.start, m.stop)

def movedBounds (k : Nat → Nat) (m : Match) : Nat × Nat := (placeOf k m.start, placeOf k m.stop)

/-- The pattern has its matches at the places where those of the text have moved, and no more; none
of them is empty. -/
structure Moves (p : Pattern) (k : Nat → Nat) (cs : List Char) : Prop where
  places : Places k (p.stopAt? cs) (p.stopAt? (stretch k cs))
  skips : Skips k (p.stopAt? (stretch k cs))
  full : ∀ pos stop, p.stopAt? cs pos = some stop → pos < stop

variable {p : Pattern} {k : Nat → Nat} {cs : List Char}

theorem Moves.of_simple (hp : Simple p) (hplaces : Places k (p.hit? cs) (p.hit? (stretch k cs)))
    (hskips : Skips k (p.hit? (stretch k cs))) (hfull : p.Full cs) : Moves p k cs := by
  constructor
  · rw [stopAt?_eq_hit? hp, stopAt?_eq_hit? hp]
    exact hplaces
  · rw [stopAt?_eq_hit? hp]
    exact hskips
  · rw [stopAt?_eq_hit? hp]
    exact hfull

theorem map_bounds_tryAt (p : Pattern) (cs : List Char) (pos : Nat) :
    (p.tryAt cs.toArray pos false).map bounds = (p.stopAt? cs pos).map fun stop => (pos, stop) := by
  rw [stopAt?]
  cases h : p.tryAt cs.toArray pos false with
  | none => rfl
  | some m => simp [bounds, start_of_tryAt h]

theorem Moves.tryAt (hm : Moves p k cs) (i : Nat) :
    (p.tryAt (stretch k cs).toArray (placeOf k i) false).map bounds =
      (p.tryAt cs.toArray i false).map (movedBounds k) := by
  have hcomp : movedBounds k = (fun b => (placeOf k b.1, placeOf k b.2)) ∘ bounds := rfl
  rw [hcomp, ← Option.map_map, map_bounds_tryAt, map_bounds_tryAt, hm.places i]
  cases p.stopAt? cs i <;> rfl

theorem Moves.tryAt_between (hm : Moves p k cs) {i r : Nat} (hr : 0 < r) (hr' : r ≤ k i) :
    p.tryAt (stretch k cs).toArray (placeOf k i + r) false = none := by
  have hnone := hm.skips i r hr hr'
  rwa [stopAt?, Option.map_eq_none_iff] at hnone

/-- Offsets without a match are passed over. -/
theorem tryFrom_pass {text : Array Char} {pos m n : Nat}
    (h : ∀ r < m, p.tryAt text (pos + r) false = none) :
    p.tryFrom text (m + n) pos false = p.tryFrom text n (pos + m) false := by
  induction m generalizing pos with
  | zero => rw [Nat.zero_add, Nat.add_zero]
  | succ m ih =>
    have hfirst := h 0 (Nat.succ_pos m)
    rw [Nat.add_zero] at hfirst
    have hrest : ∀ r < m, p.tryAt text (pos + 1 + r) false = none := by
      intro r hr
      have hnext := h (r + 1) (Nat.succ_lt_succ hr)
      rwa [← Nat.add_assoc, Nat.add_right_comm] at hnext
    rw [Nat.succ_add, tryFrom, hfirst, ih hrest, Nat.add_assoc, Nat.add_comm 1]

theorem Moves.tryFrom (hm : Moves p k cs) {n pos : Nat} (hpos : pos + n = cs.length) :
    (p.tryFrom (stretch k cs).toArray ((stretch k cs).length - placeOf k pos) (placeOf k pos)
        false).map bounds =
      (p.tryFrom cs.toArray n pos false).map (movedBounds k) := by
  have hsize := length_stretch k cs
  induction n generalizing pos with
  | zero =>
    rw [Nat.add_zero] at hpos
    rw [hsize, ← hpos, Nat.sub_self, Pattern.tryFrom, Pattern.tryFrom]
    exact hm.tryAt pos
  | succ n ih =>
    have hle : placeOf k (pos + 1) ≤ placeOf k cs.length := placeOf_le_iff.mpr (by omega)
    have hnext : placeOf k (pos + 1) = placeOf k pos + k pos + 1 := rfl
    have hrest := @ih (pos + 1) (by omega)
    have hhere := hm.tryAt pos
    rw [Pattern.tryFrom]
    cases hfirst : p.tryAt cs.toArray pos false with
    | some m =>
      rw [hfirst, Option.map_some] at hhere
      obtain ⟨m', hm', hbounds⟩ := Option.map_eq_some_iff.mp hhere
      obtain ⟨rest, hroom⟩ : ∃ rest, (stretch k cs).length - placeOf k pos = rest + 1 :=
        ⟨(stretch k cs).length - placeOf k pos - 1, by omega⟩
      rw [hroom, Pattern.tryFrom, hm']
      exact congrArg some hbounds
    | none =>
      rw [hfirst, Option.map_none, Option.map_eq_none_iff] at hhere
      have hroom : (stretch k cs).length - placeOf k pos =
          k pos + 1 + ((stretch k cs).length - placeOf k (pos + 1)) := by omega
      have hplace : placeOf k pos + (k pos + 1) = placeOf k (pos + 1) := rfl
      rw [hroom, tryFrom_pass, hplace]
      · exact hrest
      · intro r hr
        cases r with
        | zero => exact hhere
        | succ r => exact hm.tryAt_between (Nat.succ_pos r) (Nat.le_of_lt_succ hr)

theorem Moves.map_find? (hm : Moves p k cs) :
    (p.find? (stretch k cs)).map bounds = (p.find? cs).map (movedBounds k) := by
  have hfirst := hm.tryFrom (n := cs.length) (Nat.zero_add _)
  simpa [Pattern.find?, findFrom?, placeOf] using hfirst

theorem Moves.find? (hm : Moves p k cs) {m' : Match} (h : p.find? (stretch k cs) = some m') :
    ∃ m, p.find? cs = some m ∧ m'.start = placeOf k m.start ∧ m'.stop = placeOf k m.stop := by
  have hsame := hm.map_find?
  rw [h, Option.map_some] at hsame
  obtain ⟨m, hfirst, hbounds⟩ := Option.map_eq_some_iff.mp hsame.symm
  obtain ⟨hstart, hstop⟩ := Prod.mk.inj hbounds
  exact ⟨m, hfirst, hstart.symm, hstop.symm⟩

theorem Moves.occursIn (hm : Moves p k cs) : p.occursIn (stretch k cs) = p.occursIn cs := by
  rw [Pattern.occursIn, ← Option.isSome_map (f := bounds), hm.map_find?, Option.isSome_map,
    Pattern.occursIn]

theorem Moves.matchAt? (hm : Moves p k cs) (i : Nat) :
    (p.matchAt? (stretch k cs) (placeOf k i)).map (·.stop) =
      (p.matchAt? cs i).map fun m => placeOf k m.stop := by
  unfold Pattern.matchAt?
  simp only [length_stretch, placeOf_le_iff]
  split_ifs
  · have hstop := hm.places i
    rw [stopAt?, stopAt?, Option.map_map] at hstop
    exact hstop
  · rfl

theorem Moves.matchAt?_between (hm : Moves p k cs) {i r : Nat} (hr : 0 < r) (hr' : r ≤ k i) :
    p.matchAt? (stretch k cs) (placeOf k i + r) = none := by
  unfold Pattern.matchAt?
  split_ifs
  · exact hm.tryAt_between hr hr'
  · rfl

theorem Moves.lt_stop (hm : Moves p k cs) {i : Nat} {m : Match} (h : p.matchAt? cs i = some m) :
    i < m.stop := by
  unfold Pattern.matchAt? at h
  split_ifs at h
  exact hm.full i m.stop (by rw [stopAt?, h, Option.map_some])

theorem Moves.scan (hm : Moves p k cs) {bound bound' pos : Nat} (hpos : pos ≤ cs.length)
    (hb : cs.length < bound + pos) (hb' : (stretch k cs).length < bound' + placeOf k pos) :
    (p.scan (stretch k cs).toArray bound' (placeOf k pos) false).map bounds =
      (p.scan cs.toArray bound pos false).map (movedBounds k) := by
  have hsize := length_stretch k cs
  induction bound generalizing bound' pos with
  | zero => omega
  | succ bound ih =>
    have hle : placeOf k pos ≤ placeOf k cs.length := placeOf_le_iff.mpr hpos
    obtain ⟨bound', rfl⟩ : ∃ b, bound' = b + 1 := ⟨bound' - 1, by omega⟩
    have hfirst := hm.tryFrom (Nat.add_sub_of_le hpos)
    rw [Pattern.scan, Pattern.scan, List.size_toArray, List.size_toArray]
    cases hone : p.tryFrom cs.toArray (cs.length - pos) pos false with
    | none =>
      rw [hone, Option.map_none, Option.map_eq_none_iff] at hfirst
      rw [hfirst]
      rfl
    | some m =>
      rw [hone, Option.map_some] at hfirst
      obtain ⟨m', hm', hbounds⟩ := Option.map_eq_some_iff.mp hfirst
      obtain ⟨hstart, hstop⟩ := Prod.mk.inj hbounds
      have hlt := hm.full _ _ (stopAt?_of_tryFrom hone)
      have hlt' : m'.start < m'.stop := by
        rw [hstart, hstop]
        exact placeOf_lt_iff.mpr hlt
      obtain ⟨hstart', hfinds⟩ := finds_of_tryFrom hpos hone
      have hmore : placeOf k pos < placeOf k m.stop := placeOf_lt_iff.mpr (by omega)
      have hrest := @ih bound' m.stop hfinds.stop_le (by omega) (by omega)
      simp only [hm', Match.isEmpty_of_lt hlt, Match.isEmpty_of_lt hlt', List.map_cons, hbounds,
        hstop, hrest]

/-- A scan of the stretched text finds the matches where they have moved. -/
theorem Moves.map_findAll (hm : Moves p k cs) :
    (p.findAll (stretch k cs)).map bounds = (p.findAll cs).map (movedBounds k) :=
  hm.scan (Nat.zero_le cs.length) (by simp; omega) (by simp [placeOf]; omega)

theorem Moves.exists_mem_findAll (hm : Moves p k cs) {start stop : Nat} :
    (∃ m' ∈ p.findAll (stretch k cs), m'.start = start ∧ m'.stop = stop) ↔
      ∃ m ∈ p.findAll cs, placeOf k m.start = start ∧ placeOf k m.stop = stop := by
  have hsame : (start, stop) ∈ (p.findAll (stretch k cs)).map bounds ↔
      (start, stop) ∈ (p.findAll cs).map (movedBounds k) := by rw [hm.map_findAll]
  simpa only [List.mem_map, bounds, movedBounds, Prod.mk.injEq] using hsame

end Search

/-- An equals sign with no character of the first set before it and none of the second behind it. -/
structure StandsAlone (left right : CharSet) (cs : List Char) (pos : Nat) : Prop where
  sign : cs[pos]? = some '='
  before : preceded left cs pos = false
  behind : sees right cs (pos + 1) = false

def aloneSign (left right : CharSet) : Pattern :=
  behind false 1 (one left) ++ one (.char '=') ++ ahead false (one right)

variable {left right : CharSet} {cs : List Char} {pos : Nat}

theorem StandsAlone.le_length (h : StandsAlone left right cs pos) : pos ≤ cs.length :=
  Nat.le_of_lt (List.getElem?_eq_some_iff.mp h.sign).1

theorem simple_aloneSign (left right : CharSet) : Simple (aloneSign left right) := by
  unfold aloneSign
  repeat' constructor

theorem hit?_aloneSign {stop : Nat} : (aloneSign left right).hit? cs pos = some stop ↔
    StandsAlone left right cs pos ∧ stop = pos + 1 := by
  have hends : (aloneSign left right).hit? cs pos =
      if preceded left cs pos then none else if sees (.char '=') cs pos then
        if sees right cs (pos + 1) then none else some (pos + 1) else none := by
    rw [hit?, ← ends_unless_ahead, ← ends_one, ← ends_unless_behind]
    rfl
  rw [hends]
  constructor
  · intro h
    split_ifs at h with hbefore hsign hbehind
    rw [Bool.not_eq_true] at hbefore hbehind
    exact ⟨⟨(sees_char _ _ _).mp hsign, hbefore, hbehind⟩, (Option.some.inj h).symm⟩
  · rintro ⟨⟨hsign, hbefore, hbehind⟩, rfl⟩
    rw [hbefore, hbehind, (sees_char _ _ _).mpr hsign]
    rfl

theorem apart_aloneSign (left right : CharSet) (cs : List Char) :
    (aloneSign left right).Apart cs := by
  intro pos stop h
  obtain ⟨-, rfl⟩ := hit?_aloneSign.mp h
  exact ⟨Nat.lt_succ_self pos, fun q hq hq' => by omega⟩

/-- A scan finds the signs that stand alone. -/
theorem mem_starts_aloneSign : pos ∈ ((aloneSign left right).findAll cs).map (·.start) ↔
    StandsAlone left right cs pos := by
  rw [List.mem_map]
  constructor
  · rintro ⟨m, hm, rfl⟩
    have hhit := hit?_of_mem_findAll (simple_aloneSign left right)
      (apart_aloneSign left right cs).full hm
    exact (hit?_aloneSign.mp hhit).1
  · intro h
    obtain ⟨m, hm, hstart, -⟩ := (mem_findAll_iff (simple_aloneSign left right)
      (apart_aloneSign left right cs)).mpr ⟨h.le_length, hit?_aloneSign.mpr ⟨h, rfl⟩⟩
    exact ⟨m, hm, hstart⟩

/-- The signs that stand alone in a stretched text are those that stood alone and are not
repeated. -/
theorem standsAlone_stretch_iff {k : Nat → Nat} (hleft : left.mem '=' = true)
    (hright : right.mem '=' = true) :
    StandsAlone left right (stretch k cs) pos ↔
      ∃ i, pos = placeOf k i ∧ k i = 0 ∧ StandsAlone left right cs i := by
  constructor
  · intro h
    obtain ⟨i, r, hr, rfl⟩ := exists_placeOf k pos
    obtain ⟨hsign, hbefore, hbehind⟩ := h
    rw [getElem?_stretch hr] at hsign
    have hsees {set : CharSet} (hset : set.mem '=' = true) : sees set cs i = true := by
      simp [sees, hsign, hset]
    obtain rfl : r = 0 := by
      cases r with
      | zero => rfl
      | succ r =>
        rw [preceded_stretch_succ _ (Nat.le_of_succ_le hr), hsees hleft] at hbefore
        cases hbefore
    have hstay : k i = 0 := by
      by_contra hk
      rw [Nat.add_zero, sees_stretch _ (Nat.pos_of_ne_zero hk), hsees hright] at hbehind
      cases hbehind
    rw [Nat.add_zero, preceded_stretch] at hbefore
    rw [Nat.add_zero, ← placeOf_succ_of_once hstay, sees_placeOf] at hbehind
    exact ⟨i, rfl, hstay, hsign, hbefore, hbehind⟩
  · rintro ⟨i, rfl, hstay, hsign, hbefore, hbehind⟩
    refine ⟨?_, ?_, ?_⟩
    · rw [getElem?_placeOf, hsign]
    · rw [preceded_stretch, hbefore]
    · rw [← placeOf_succ_of_once hstay, sees_placeOf, hbehind]

end Pattern

end CampaignCheck

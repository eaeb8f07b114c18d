import CampaignCheck.Javascript.Grammar
import CampaignCheck.Proofs.Script.Conditions

namespace CampaignCheck.Javascript

open Text Pattern

def nullWord : Pattern := blanks ++ lit "null" ++ wordEdge

theorem nullWord_eq : nullWord = seq (seq (many (one .blank))
    (inOrder ([.char 'n', .char 'u', .char 'l', .char 'l'].map one))) wordEdge := rfl

theorem looseEquality_eq : looseEquality =
    seq (seq (seq (seq (behind false 1 (one (.chars "=!<>"))) (capture 1 (one (.chars "=!"))))
      (one (.char '='))) (ahead false (one (.char '=')))) (ahead false nullWord) := rfl

theorem simple_looseEquality : Simple looseEquality := by
  rw [looseEquality_eq, nullWord_eq]
  simp only [List.map, inOrder]
  repeat' constructor

/-- A comparison that converts types. -/
structure Loose (cs : List Char) (pos : Nat) : Prop where
  before : preceded (.chars "=!<>") cs pos = false
  first : sees (.chars "=!") cs pos = true
  second : cs[pos + 1]? = some '='
  third : sees (.char '=') cs (pos + 2) = false
  other : nullWord.hit? cs (pos + 2) = none

theorem hit?_looseEquality {cs : List Char} {pos stop : Nat} :
    looseEquality.hit? cs pos = some stop ↔ Loose cs pos ∧ stop = pos + 2 := by
  rw [looseEquality_eq, hit?, ends, ends, ends, ends, ends_unless_behind, ends, ends_one, ends_one,
    ends_unless_ahead, ends]
  constructor
  · intro h
    split_ifs at h with hbefore hfirst hsecond hthird hnull
    rw [Bool.not_eq_true] at hbefore hthird
    have hother : nullWord.hit? cs (pos + 2) = none := by
      rw [hit?]
      simpa using hnull
    exact ⟨⟨hbefore, hfirst, (sees_char _ _ _).mp hsecond, hthird, hother⟩,
      (Option.some.inj h).symm⟩
  · rintro ⟨⟨hbefore, hfirst, hsecond, hthird, hnull⟩, rfl⟩
    rw [hit?] at hnull
    simp [hbefore, hfirst, (sees_char _ _ _).mpr hsecond, hthird, hnull]

theorem sees_sign {cs : List Char} {pos : Nat} (h : sees (.chars "=!") cs pos = true) :
    sees (.chars "=!<>") cs pos = true := by
  have hsigns : CharSet.chars "=!" = .or (.char '=') (.char '!') := rfl
  have hmore : CharSet.chars "=!<>" =
      .or (.char '=') (.or (.char '!') (.or (.char '<') (.char '>'))) := rfl
  rw [sees, hsigns] at h
  rw [sees, hmore]
  cases hc : cs[pos]? with
  | none => simp [hc] at h
  | some c =>
    simp only [hc, Option.map_some, Option.getD_some, CharSet.mem, Bool.or_eq_true] at h ⊢
    exact h.imp_right .inl

theorem apart_looseEquality (cs : List Char) : looseEquality.Apart cs := by
  intro pos stop h
  obtain ⟨hloose, rfl⟩ := hit?_looseEquality.mp h
  refine ⟨by omega, fun q hq hq' => ?_⟩
  obtain rfl : q = pos + 1 := by omega
  cases hhit : looseEquality.hit? cs (pos + 1) with
  | none => rfl
  | some stop =>
    have hbefore := (hit?_looseEquality.mp hhit).1.before
    rw [preceded, sees_sign hloose.first] at hbefore
    cases hbefore

theorem places_nullWord {k : Nat → Nat} {cs : List Char} (h : Pliant k cs) :
    Places k (nullWord.hit? cs) (nullWord.hit? (stretch k cs)) := by
  have hnull : ∀ set ∈ [CharSet.char 'n', .char 'u', .char 'l', .char 'l'], Rigid set := by
    simp [Rigid, CharSet.mem]
  have hnull := fun set hset => still_of_pliant h (hnull set hset)
  have hword := places_inOrder hnull (places_wordEdge cs (places_some k))
  exact places_many cs .blank hword (skips_inOrder hnull (by simp) _)

/-- A loose comparison in a stretched text was one before, and its second sign is not repeated, if
no sign is doubled but behind another. -/
theorem Loose.of_stretch {k : Nat → Nat} {cs : List Char} (hk : Pliant k cs)
    (hdouble : ∀ i, k i = 1 → cs[i]? = some '=' → preceded (.chars "=!<>") cs i = true) {pos : Nat}
    (h : Loose (stretch k cs) pos) : ∃ i, Loose cs i ∧ k (i + 1) = 0 := by
  obtain ⟨i, r, hr, rfl⟩ := exists_placeOf k pos
  obtain ⟨hbefore, hfirst, hsecond, hthird, hother⟩ := h
  rw [sees_stretch _ hr] at hfirst
  obtain rfl : r = 0 := by
    cases r with
    | zero => rfl
    | succ r =>
      rw [preceded_stretch_succ _ (Nat.le_of_succ_le hr), sees_sign hfirst] at hbefore
      cases hbefore
  rw [Nat.add_zero, preceded_stretch] at hbefore
  have hstay : k i = 0 := by
    by_contra hne
    rw [Nat.add_zero, getElem?_stretch (Nat.pos_of_ne_zero hne)] at hsecond
    by_cases hone : k i = 1
    · rw [hdouble i hone hsecond] at hbefore
      cases hbefore
    · rw [Nat.add_zero, sees_stretch _ (show 2 ≤ k i by omega), (sees_char _ _ _).mpr hsecond]
        at hthird
      cases hthird
  have hnext := placeOf_succ_of_once hstay
  rw [Nat.add_zero, ← hnext, getElem?_placeOf] at hsecond
  have hstay' : k (i + 1) = 0 := by
    by_contra hne
    rw [Nat.add_zero, ← Nat.add_assoc _ 1 1, ← hnext, sees_stretch _ (Nat.pos_of_ne_zero hne),
      (sees_char _ _ _).mpr hsecond] at hthird
    cases hthird
  have hlast : placeOf k i + 0 + 2 = placeOf k (i + 2) := by
    rw [placeOf_succ_of_once hstay', hnext]
  rw [hlast, sees_placeOf] at hthird
  rw [hlast, places_nullWord hk, Option.map_eq_none_iff] at hother
  exact ⟨i, ⟨hbefore, hfirst, hsecond, hthird, hother⟩, hstay'⟩

theorem mem_stops_looseEquality {cs : List Char} {n : Nat} :
    n ∈ (looseEquality.findAll cs).map (·.stop) ↔ ∃ pos, Loose cs pos ∧ n = pos + 2 := by
  rw [List.mem_map]
  constructor
  · rintro ⟨m, hm, rfl⟩
    have hhit := hit?_of_mem_findAll simple_looseEquality (apart_looseEquality cs).full hm
    exact ⟨m.start, hit?_looseEquality.mp hhit⟩
  · rintro ⟨pos, hpos, rfl⟩
    have hlen : pos ≤ cs.length := by
      have hlt := (List.getElem?_eq_some_iff.mp hpos.second).1
      omega
    obtain ⟨m, hm, -, hstop⟩ := (mem_findAll_iff simple_looseEquality
      (apart_looseEquality cs)).mpr ⟨hlen, hit?_looseEquality.mpr ⟨hpos, rfl⟩⟩
    exact ⟨m, hm, hstop⟩

theorem insertAt_eq_stretch (positions : List Nat) (i : Nat) {cs : List Char}
    (h : ∀ j, i + j + 1 ∈ positions → cs[j]? = some '=') :
    insertAt positions '=' i cs = (if i ∈ positions then ['='] else []) ++
      stretch (fun j => if i + j + 1 ∈ positions then 1 else 0) cs := by
  induction cs generalizing i with
  | nil => simp [insertAt, stretch]
  | cons c cs ih =>
    have hshift (j : Nat) : i + 1 + j + 1 = i + (j + 1) + 1 := by omega
    have hrest := ih (i + 1) fun j hj => by simpa using h (j + 1) (hshift j ▸ hj)
    simp only [hshift] at hrest
    rw [insertAt, hrest, stretch]
    by_cases hnext : i + 1 ∈ positions
    · have hc : c = '=' := by simpa using h 0 hnext
      by_cases hi : i ∈ positions <;> simp [hi, hnext, hc]
    · by_cases hi : i ∈ positions <;> simp [hi, hnext]

/-- The offsets of the second signs of the loose comparisons of the masked line. -/
def looseSigns (masked : List Char) : List Nat := (looseEquality.findAll masked).map (·.stop - 1)

theorem mem_looseSigns {masked : List Char} {j : Nat} :
    j ∈ looseSigns masked ↔ ∃ pos, Loose masked pos ∧ j = pos + 1 := by
  have hstops := List.map_map (f := (·.stop)) (g := (· - 1)) (l := looseEquality.findAll masked)
  simp only [Function.comp_def] at hstops
  rw [looseSigns, ← hstops, List.mem_map]
  simp only [mem_stops_looseEquality]
  constructor
  · rintro ⟨-, ⟨pos, hpos, rfl⟩, rfl⟩
    exact ⟨pos, hpos, rfl⟩
  · rintro ⟨pos, hpos, rfl⟩
    exact ⟨pos + 2, ⟨pos, hpos, rfl⟩, rfl⟩

theorem sign_of_mem_looseSigns {masked : List Char} {j : Nat} (h : j ∈ looseSigns masked) :
    masked[j]? = some '=' := by
  obtain ⟨pos, hpos, rfl⟩ := mem_looseSigns.mp h
  exact hpos.second

/-- The fixer repeats the second signs of the loose comparisons of the line; without any it has
nothing to do. -/
theorem fixEquality_eq (raw : List Char) (f : Finding) : fixEquality raw f =
    if looseSigns (Mask.alone (.of .javascript) raw) = [] then none
    else some (stretch
      (fun j => if j ∈ looseSigns (Mask.alone (.of .javascript) raw) then 1 else 0) raw) := by
  set masked := Mask.alone (.of .javascript) raw with hmasked
  have hstop (j : Nat) :
      j + 1 ∈ (looseEquality.findAll masked).map (·.stop) ↔ j ∈ looseSigns masked := by
    rw [mem_stops_looseEquality, mem_looseSigns]
    exact exists_congr fun pos => and_congr_right fun _ => by omega
  have hzero : 0 ∉ (looseEquality.findAll masked).map (·.stop) := by
    rw [mem_stops_looseEquality]
    rintro ⟨pos, -, he⟩
    omega
  have hmade := @insertAt_eq_stretch ((looseEquality.findAll masked).map (·.stop)) 0 raw
    fun j hj => by
      rw [Nat.zero_add, hstop] at hj
      exact Mask.equals_of_inside (sign_of_mem_looseSigns hj)
  simp only [hzero, if_false, List.nil_append, Nat.zero_add, hstop] at hmade
  rw [← hmade, fixEquality, ← hmasked, looseSigns]
  generalize looseEquality.findAll masked = ms
  cases ms <;> rfl

/-- The fixer repeats the second signs of the loose comparisons of the line. -/
theorem fixEquality_stretch (raw : List Char) (f : Finding) :
    ∃ k, (fixEquality raw f).getD raw = stretch k raw ∧ Elastic k raw ∧
      ∀ j, 0 < k j ↔ ∃ pos, Loose (Mask.alone (.of .javascript) raw) pos ∧ j = pos + 1 := by
  simp only [← mem_looseSigns]
  rw [fixEquality_eq]
  set signs := looseSigns (Mask.alone (.of .javascript) raw) with hsigns
  have hcount (j : Nat) : 0 < (if j ∈ signs then 1 else 0) ↔ j ∈ signs := by
    split_ifs with hj <;> simp [hj]
  refine ⟨fun j => if j ∈ signs then 1 else 0, ?_, fun j hj => ?_, hcount⟩
  · split_ifs with hnone
    · simp [hnone, stretch_zero]
    · rfl
  · exact Mask.equals_of_inside (sign_of_mem_looseSigns ((hcount j).mp hj))

end CampaignCheck.Javascript

import CampaignCheck.Proofs.Lexical.Contexts
import CampaignCheck.Proofs.Pattern.Stretched
import CampaignCheck.Script.Condition

namespace CampaignCheck

open Text Pattern

theorem Text.allBlank_stretch (k : Nat → Nat) (cs : List Char) :
    allBlank (stretch k cs) = allBlank cs := by
  rw [Bool.eq_iff_iff, allBlank, allBlank, List.all_eq_true, List.all_eq_true]
  simp only [mem_stretch]

namespace Arguments

theorem cutFrom_replicate (vacant : Nat → Nat → Bool) (start i : Nat) (depth : Int)
    (spans : List Span) {c : Char} (hc : c = '=' ∨ c = ' ') (m : Nat) (cs : List Char) :
    cutFrom vacant start i depth spans (List.replicate m c ++ cs) =
      cutFrom vacant start (i + m) depth spans cs := by
  induction m generalizing i with
  | zero => rfl
  | succ m ih =>
    have hnext : i + 1 + m = i + (m + 1) := by omega
    rw [List.replicate_succ, List.cons_append, cutFrom]
    rcases hc with rfl | rfl <;> simp [isOpener, isCloser, ih, hnext]

/-- The bounds of an argument in the stretched text. -/
def spanPlace (k : Nat → Nat) (s : Span) : Span := (placeOf k s.1, placeOf k s.2)

/-- A stretched text is cut at the places where the cuts of the text have moved. -/
theorem cutFrom_stretch {k : Nat → Nat} (vacant vacant' : Nat → Nat → Bool)
    (hvacant : ∀ a b, vacant' (placeOf k a) (placeOf k b) = vacant a b) (start i : Nat)
    (depth : Int) (spans : List Span) {cs : List Char} (h : Pliant (fun j => k (i + j)) cs) :
    cutFrom vacant' (placeOf k start) (placeOf k i) depth (spans.map (spanPlace k))
        (stretch (fun j => k (i + j)) cs) =
      (cutFrom vacant start i depth spans cs).map (List.map (spanPlace k)) := by
  induction cs generalizing start i depth spans with
  | nil => rfl
  | cons c cs ih =>
    have hrest (start : Nat) (depth : Int) (spans : List Span) :=
      ih start (i + 1) depth spans h.behind
    rw [stretch_from_cons]
    by_cases hc : c = '=' ∨ c = ' '
    · have hplace : placeOf k i + (k i + 1) = placeOf k (i + 1) := rfl
      have hplain : cutFrom vacant start i depth spans (c :: cs) =
          cutFrom vacant start (i + 1) depth spans cs :=
        cutFrom_replicate vacant start i depth spans hc 1 cs
      rw [cutFrom_replicate _ _ _ _ _ hc, hplace, hrest, hplain]
    · have hstay : k i = 0 := h.stays (i := 0) (c := c) rfl (fun he => hc (.inl he))
        fun he => hc (.inr he)
      have hplace := placeOf_succ_of_once hstay
      have hspans : spans.map (spanPlace k) ++ [(placeOf k start, placeOf k i)] =
          (spans ++ [(start, i)]).map (spanPlace k) := by simp [spanPlace]
      have hcomma := hrest (i + 1) depth (spans ++ [(start, i)])
      rw [hplace] at hrest hcomma
      simp only [hstay, Nat.zero_add, List.replicate_one, List.singleton_append,
        cutFrom, hspans, hvacant, List.isEmpty_map]
      split_ifs <;> first | rfl | exact hrest _ _ _ | exact hcomma

theorem extent?_map {α β : Type} (f : α → β) (spans : Option (List (α × α))) :
    extent? (spans.map (List.map fun s => (f s.1, f s.2))) =
      (extent? spans).map fun s => (f s.1, f s.2) := by
  cases spans with
  | none => rfl
  | some spans =>
    cases spans with
    | nil => rfl
    | cons s ss =>
      have hlast : ((s :: ss).map fun s => (f s.1, f s.2)).getLast (by simp) =
          (f ((s :: ss).getLast (by simp)).1, f ((s :: ss).getLast (by simp)).2) :=
        List.getLast_map _
      exact congrArg (fun e : β × β => some (f s.1, e.2)) hlast

/-- The text in brackets moves with its bracket. -/
theorem extentAt?_stretch {k : Nat → Nat} {cs : List Char} (h : Pliant k cs) {i : Nat}
    (hi : k i = 0) :
    extentAt? (stretch k cs) (placeOf k i) = (extentAt? cs i).map (spanPlace k) := by
  have hvacant (a b : Nat) :
      allBlank (slice (stretch k cs) (placeOf k a) (placeOf k b)) = allBlank (slice cs a b) := by
    rw [slice_stretch, allBlank_stretch]
  have hcut := cutFrom_stretch (fun a b => allBlank (slice cs a b))
    (fun a b => allBlank (slice (stretch k cs) a b)) hvacant (i + 1) i 0 [] (h.drop i)
  rw [placeOf_succ_of_once hi, ← drop_stretch] at hcut
  rw [extentAt?, extentAt?, spans?, spans?]
  have hmap := extent?_map (placeOf k)
    (cutFrom (fun a b => allBlank (slice cs a b)) (i + 1) i 0 [] (cs.drop i))
  exact (congrArg extent? hcut).trans hmap

end Arguments

namespace Script

theorem conditionHead_eq : conditionHead =
    seq (seq (seq wordEdge (alt (inOrder ([.char 'i', .char 'f'].map one))
      (inOrder ([.char 'w', .char 'h', .char 'i', .char 'l', .char 'e'].map one))))
      (many (one .blank))) (one (.char '(')) := rfl

theorem simple_conditionHead : Simple conditionHead := by
  rw [conditionHead_eq]
  simp only [List.map, inOrder]
  repeat' constructor

theorem hit?_conditionHead {cs : List Char} {pos stop : Nat}
    (h : conditionHead.hit? cs pos = some stop) :
    ∃ i, stop = i + 1 ∧ pos ≤ i ∧ cs[i]? = some '(' := by
  rw [conditionHead_eq] at h
  cases simple_conditionHead with
  | seq hp _ =>
    obtain ⟨i, hi, hbracket⟩ := exists_of_ends hp h
    rw [ends_one] at hbracket
    split_ifs at hbracket with hsees
    exact ⟨i, (Option.some.inj hbracket).symm, hi, (sees_char _ _ _).mp hsees⟩

theorem full_conditionHead (cs : List Char) : conditionHead.Full cs := by
  intro pos stop h
  obtain ⟨i, rfl, hi, -⟩ := hit?_conditionHead h
  exact Nat.lt_succ_of_le hi

theorem moves_conditionHead {k : Nat → Nat} {cs : List Char} (h : Pliant k cs) :
    Moves conditionHead k cs := by
  have hopen : Still k cs (.char '(') := still_of_pliant h (by simp [Rigid, CharSet.mem])
  have hif : ∀ set ∈ [CharSet.char 'i', .char 'f'], Rigid set := by
    simp [Rigid, CharSet.mem]
  have hwhile : ∀ set ∈ [CharSet.char 'w', .char 'h', .char 'i', .char 'l', .char 'e'],
      Rigid set := by simp [Rigid, CharSet.mem]
  have hif := fun set hset => still_of_pliant h (hif set hset)
  have hwhile := fun set hset => still_of_pliant h (hwhile set hset)
  have hbracket := places_one hopen (places_some k)
  have hblanks := places_many cs .blank hbracket (skips_one hopen some)
  refine .of_simple simple_conditionHead ?_ ?_ (full_conditionHead cs)
  · exact places_wordEdge cs (places_alt (places_inOrder hif hblanks)
      (places_inOrder hwhile hblanks))
  · exact skips_wordEdge (skips_alt (skips_inOrder hif (by simp) _)
      (skips_inOrder hwhile (by simp) _))

abbrev Assigns : List Char → Nat → Prop :=
  StandsAlone (.chars "=!<>+-*/%&|^") (.chars "=>")

theorem assignmentSign_eq :
    assignmentSign = aloneSign (.chars "=!<>+-*/%&|^") (.chars "=>") := rfl

theorem assigns_stretch_iff {k : Nat → Nat} {cs : List Char} {pos : Nat} :
    Assigns (stretch k cs) pos ↔ ∃ i, pos = placeOf k i ∧ k i = 0 ∧ Assigns cs i :=
  standsAlone_stretch_iff (by decide) (by decide)

/-- An offset at which the condition assigns whose bracket opens right before `stop`. -/
def AssignsIn (cs : List Char) (stop pos : Nat) : Prop :=
  ∃ e, Arguments.extentAt? cs (stop - 1) = some e ∧
    ∃ i, Assigns (slice cs e.1 e.2) i ∧ pos = e.1 + i

theorem AssignsIn.sign {cs : List Char} {stop pos : Nat} (h : AssignsIn cs stop pos) :
    cs[pos]? = some '=' := by
  obtain ⟨e, -, i, hi, rfl⟩ := h
  have hsign := hi.sign
  rw [slice, List.getElem?_drop] at hsign
  rw [List.getElem?_take] at hsign
  split_ifs at hsign
  exact hsign

theorem assignsIn_stretch_iff {k : Nat → Nat} {cs : List Char} (hk : Pliant k cs) {i pos : Nat}
    (hi : cs[i]? = some '(') : AssignsIn (stretch k cs) (placeOf k (i + 1)) pos ↔
      ∃ j, pos = placeOf k j ∧ k j = 0 ∧ AssignsIn cs (i + 1) j := by
  have hstay : k i = 0 := hk.stays hi (by decide) (by decide)
  rw [AssignsIn, placeOf, Nat.add_sub_cancel, hstay, Nat.add_zero,
    Arguments.extentAt?_stretch hk hstay]
  constructor
  · rintro ⟨e', he', q, hq, rfl⟩
    obtain ⟨e, he, rfl⟩ := Option.map_eq_some_iff.mp he'
    simp only [Arguments.spanPlace, slice_stretch] at hq ⊢
    obtain ⟨j, rfl, hj, hassigns⟩ := assigns_stretch_iff.mp hq
    exact ⟨e.1 + j, (placeOf_add k e.1 j).symm, hj, e, he, j, hassigns, rfl⟩
  · rintro ⟨-, rfl, hj, e, he, j, hassigns, rfl⟩
    rw [Nat.add_sub_cancel] at he
    refine ⟨Arguments.spanPlace k e, by rw [he]; rfl, placeOf (fun n => k (e.1 + n)) j, ?_,
      placeOf_add k e.1 j⟩
    rw [Arguments.spanPlace, slice_stretch]
    exact assigns_stretch_iff.mpr ⟨j, rfl, hj, hassigns⟩

theorem assignsIn_iff {cs : List Char} {stop pos : Nat} :
    AssignsIn cs stop pos ↔ ∃ e, Arguments.extentAt? cs (stop - 1) = some e ∧
      pos ∈ (assignmentSign.findAll (slice cs e.1 e.2)).map (e.1 + ·.start) := by
  refine exists_congr fun e => and_congr_right fun _ => ?_
  have hstarts := List.map_map (f := (·.start)) (g := (e.1 + ·))
    (l := assignmentSign.findAll (slice cs e.1 e.2))
  rw [assignmentSign_eq] at hstarts ⊢
  simp only [Function.comp_def] at hstarts
  simp only [← hstarts, List.mem_map (f := (e.1 + ·)), mem_starts_aloneSign, eq_comm]

/-- An offset at which some condition of the masked line assigns. -/
def AssignsAt (masked : List Char) (pos : Nat) : Prop :=
  ∃ m ∈ conditionHead.findAll masked, AssignsIn masked m.stop pos

def Assigned (masked : List Char) : Prop := ∃ pos, AssignsAt masked pos

theorem exists_mem_assignedColumns {masked : List Char} :
    (∃ column, column ∈ assignedColumns masked) ↔ Assigned masked := by
  constructor
  · rintro ⟨column, hcolumn⟩
    obtain ⟨m, hm, hfirst⟩ := List.mem_filterMap.mp hcolumn
    obtain ⟨e, he, hsign⟩ := Option.bind_eq_some_iff.mp hfirst
    obtain ⟨s, hs, rfl⟩ := Option.map_eq_some_iff.mp hsign
    have hassigns := (hit?_aloneSign.mp (find?_hit? (simple_aloneSign _ _) hs).1).1
    exact ⟨e.1 + s.start, m, hm, e, he, s.start, hassigns, rfl⟩
  · rintro ⟨pos, m, hm, e, he, i, hi, -⟩
    obtain ⟨s, hs⟩ := (exists_find?_iff (simple_aloneSign _ _)).mpr
      ⟨i, hi.le_length, i + 1, hit?_aloneSign.mpr ⟨hi, rfl⟩⟩
    rw [← assignmentSign_eq] at hs
    refine ⟨e.1 + s.start, List.mem_filterMap.mpr ⟨m, hm, ?_⟩⟩
    rw [he, Option.bind_some, hs]
    rfl

/-- The equals signs with which the conditions of a stretched line assign are those with which they
assigned and that are not repeated. -/
theorem assignsAt_stretch_iff {k : Nat → Nat} {cs : List Char} (hk : Pliant k cs) {pos : Nat} :
    AssignsAt (stretch k cs) pos ↔ ∃ i, pos = placeOf k i ∧ k i = 0 ∧ AssignsAt cs i := by
  have hbracket {m : Match} (hm : m ∈ conditionHead.findAll cs) :
      ∃ i, m.stop = i + 1 ∧ cs[i]? = some '(' := by
    obtain ⟨i, hi, -, hopen⟩ := hit?_conditionHead
      (hit?_of_mem_findAll simple_conditionHead (full_conditionHead cs) hm)
    exact ⟨i, hi, hopen⟩
  constructor
  · rintro ⟨m', hm', hpos⟩
    obtain ⟨m, hm, -, hstop⟩ :=
      (moves_conditionHead hk).exists_mem_findAll.mp ⟨m', hm', rfl, rfl⟩
    obtain ⟨i, hi, hopen⟩ := hbracket hm
    rw [← hstop, hi, assignsIn_stretch_iff hk hopen, ← hi] at hpos
    obtain ⟨j, hplace, hj, hassigns⟩ := hpos
    exact ⟨j, hplace, hj, m, hm, hassigns⟩
  · rintro ⟨j, rfl, hj, m, hm, hassigns⟩
    obtain ⟨m', hm', -, hstop⟩ :=
      (moves_conditionHead hk).exists_mem_findAll.mpr ⟨m, hm, rfl, rfl⟩
    obtain ⟨i, hi, hopen⟩ := hbracket hm
    refine ⟨m', hm', ?_⟩
    rw [hi] at hassigns
    rw [hstop, hi, assignsIn_stretch_iff hk hopen]
    exact ⟨j, rfl, hj, hassigns⟩

theorem Assigned.of_stretch {k : Nat → Nat} {cs : List Char} (hk : Pliant k cs)
    (h : Assigned (stretch k cs)) : Assigned cs := by
  obtain ⟨pos, hpos⟩ := h
  obtain ⟨i, -, -, hassigns⟩ := (assignsAt_stretch_iff hk).mp hpos
  exact ⟨i, hassigns⟩

/-- An offset at which the first condition of the masked line assigns. -/
def FirstAssigns (masked : List Char) (pos : Nat) : Prop :=
  ∃ m, conditionHead.find? masked = some m ∧ AssignsIn masked m.stop pos

theorem FirstAssigns.sign {masked : List Char} {pos : Nat} (h : FirstAssigns masked pos) :
    masked[pos]? = some '=' := by
  obtain ⟨m, -, hpos⟩ := h
  exact hpos.sign

theorem FirstAssigns.of_stretch {k : Nat → Nat} {cs : List Char} (hk : Pliant k cs) {pos : Nat}
    (h : FirstAssigns (stretch k cs) pos) : ∃ j, FirstAssigns cs j ∧ k j = 0 := by
  obtain ⟨m', hm', hpos⟩ := h
  obtain ⟨m, hm, -, hstop⟩ := (moves_conditionHead hk).find? hm'
  obtain ⟨i, hi, -, hbracket⟩ := hit?_conditionHead (find?_hit? simple_conditionHead hm).1
  rw [hstop, hi, assignsIn_stretch_iff hk hbracket, ← hi] at hpos
  obtain ⟨j, -, hstay, hj⟩ := hpos
  exact ⟨j, ⟨m, hm, hj⟩, hstay⟩

/-- The offsets at which the first condition of the masked line assigns. -/
def firstAssigned (masked : List Char) : List Nat :=
  ((conditionHead.find? masked).bind fun m =>
    (Arguments.extentAt? masked (m.stop - 1)).map fun e =>
      (assignmentSign.findAll (slice masked e.1 e.2)).map (e.1 + ·.start)).getD []

theorem mem_firstAssigned {masked : List Char} {pos : Nat} :
    pos ∈ firstAssigned masked ↔ FirstAssigns masked pos := by
  unfold firstAssigned FirstAssigns
  cases conditionHead.find? masked with
  | none => simp
  | some m =>
    simp only [Option.bind_some, Option.some.injEq, exists_eq_left', assignsIn_iff]
    cases Arguments.extentAt? masked (m.stop - 1) with
    | none => simp
    | some e => simp

theorem substituteFrom_eq_stretch (positions : List Nat) (m i : Nat) {cs : List Char}
    (h : ∀ j, i + j ∈ positions → cs[j]? = some '=') :
    Fix.substituteFrom positions (List.replicate (m + 1) '=') i cs =
      stretch (fun j => if i + j ∈ positions then m else 0) cs := by
  induction cs generalizing i with
  | nil => rfl
  | cons c cs ih =>
    have hshift (j : Nat) : i + 1 + j = i + (j + 1) := by omega
    have hrest := ih (i + 1) fun j hj => by simpa using h (j + 1) (hshift j ▸ hj)
    simp only [hshift] at hrest
    rw [Fix.substituteFrom, hrest, stretch]
    by_cases hi : i ∈ positions
    · have hc : c = '=' := by simpa using h 0 hi
      simp [hi, hc]
    · simp [hi]

/-- Equals signs that are replaced by several of them are repeated. -/
theorem substitute_eq_stretch {operator : String} {m : Nat}
    (hoperator : operator.toList = List.replicate (m + 1) '=') {raw : List Char}
    {positions : List Nat} (hsigns : ∀ j ∈ positions, raw[j]? = some '=') :
    Fix.substitute positions operator.toList raw =
      stretch (fun j => if j ∈ positions then m else 0) raw := by
  have hsame := @substituteFrom_eq_stretch positions m 0 raw fun j hj =>
    hsigns j (by rwa [Nat.zero_add] at hj)
  simp only [Nat.zero_add] at hsame
  rw [← hsame, hoperator]
  rfl

/-- How often each character is repeated then. -/
theorem exists_substitute_stretch {operator : String} {m : Nat}
    (hoperator : operator.toList = List.replicate (m + 1) '=') (hm : 0 < m) (raw : List Char)
    {positions : List Nat} (hsigns : ∀ j ∈ positions, raw[j]? = some '=') :
    ∃ k, Fix.substitute positions operator.toList raw = stretch k raw ∧ Elastic k raw ∧
      ∀ j, (k j = 0 ∨ k j = m) ∧ (0 < k j ↔ j ∈ positions) := by
  have hcount (j : Nat) : 0 < (if j ∈ positions then m else 0) ↔ j ∈ positions := by
    split_ifs with hj <;> simp [hj, hm]
  refine ⟨_, substitute_eq_stretch hoperator hsigns, ?_, ?_⟩
  · exact fun j hj => hsigns j ((hcount j).mp hj)
  · refine fun j => ⟨?_, hcount j⟩
    split_ifs <;> simp

theorem substitute_nil (new cs : List Char) : Fix.substitute [] new cs = cs := by
  have hnone (i : Nat) (cs : List Char) : Fix.substituteFrom [] new i cs = cs := by
    induction cs generalizing i with
    | nil => rfl
    | cons c cs ih => simp [Fix.substituteFrom, ih]
  exact hnone 0 cs

/-- The fixer has nothing to do if the first condition of the line assigns nowhere. -/
theorem fixCondition_eq (operator : String) (line : List Char) (f : Finding) :
    fixCondition operator line f =
      if firstAssigned (Mask.alone (.of .ssjs) line) = [] then none
      else some (Fix.substitute (firstAssigned (Mask.alone (.of .ssjs) line)) operator.toList
        line) := by
  simp only [fixCondition]
  unfold firstAssigned
  generalize Mask.alone (.of .ssjs) line = masked
  cases conditionHead.find? masked with
  | none => rfl
  | some m =>
    rw [Option.bind_some, Option.bind_some]
    cases Arguments.extentAt? masked (m.stop - 1) with
    | none => rfl
    | some e =>
      rw [Option.bind_some, Option.map_some, Option.getD_some]
      generalize (assignmentSign.findAll _).map _ = positions
      cases positions <;> rfl

theorem fixCondition_getD (operator : String) (line : List Char) (f : Finding) :
    (fixCondition operator line f).getD line =
      Fix.substitute (firstAssigned (Mask.alone (.of .ssjs) line)) operator.toList line := by
  rw [fixCondition_eq]
  split_ifs with hnone
  · rw [hnone, substitute_nil, Option.getD_none]
  · rfl

/-- The fixer repeats the equals signs with which the first condition of the line assigns. -/
theorem fixCondition_stretch {operator : String} {m : Nat}
    (hoperator : operator.toList = List.replicate (m + 1) '=') (hm : 0 < m) (raw : List Char)
    (f : Finding) :
    ∃ k, (fixCondition operator raw f).getD raw = stretch k raw ∧ Elastic k raw ∧
      ∀ j, (k j = 0 ∨ k j = m) ∧ (0 < k j ↔ FirstAssigns (Mask.alone (.of .ssjs) raw) j) := by
  rw [fixCondition_getD]
  simp only [← mem_firstAssigned]
  exact exists_substitute_stretch hoperator hm raw fun j hj =>
    Mask.equals_of_inside (mem_firstAssigned.mp hj).sign

end Script

end CampaignCheck

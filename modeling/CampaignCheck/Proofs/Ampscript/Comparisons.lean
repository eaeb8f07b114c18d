import CampaignCheck.Ampscript.Grammar
import CampaignCheck.Proofs.Ampscript.Repairs
import CampaignCheck.Proofs.Text.Letters

namespace CampaignCheck

open Text

namespace Pattern

/-- The first of the offsets from `pos` to `pos + n` that leads on. -/
def goForth (g : Nat → Option Nat) (pos : Nat) : Nat → Option Nat
  | 0 => g pos
  | n + 1 => (g pos).or (goForth g (pos + 1) n)

theorem goForth_of_some {g : Nat → Option Nat} {pos stop : Nat} (h : g pos = some stop) (n : Nat) :
    goForth g pos n = some stop := by
  cases n with
  | zero => exact h
  | succ n => rw [goForth, h, Option.some_or]

theorem goForth_pass {g : Nat → Option Nat} {pos m : Nat} (n : Nat)
    (h : ∀ r < m, g (pos + r) = none) : goForth g pos (m + n) = goForth g (pos + m) n := by
  induction m generalizing pos with
  | zero => rw [Nat.zero_add, Nat.add_zero]
  | succ m ih =>
    have hfirst := h 0 (Nat.succ_pos m)
    rw [Nat.add_zero] at hfirst
    have hrest : ∀ r < m, g (pos + 1 + r) = none := by
      intro r hr
      have hnext := h (r + 1) (Nat.succ_lt_succ hr)
      rwa [← Nat.add_assoc, Nat.add_right_comm] at hnext
    rw [Nat.succ_add, goForth, hfirst, Option.none_or, ih hrest, Nat.add_assoc, Nat.add_comm 1]

theorem goForth_stretch {k : Nat → Nat} {g g' : Nat → Option Nat} (hg : Places k g g')
    (hskip : Skips k g') (i n : Nat) :
    goForth g' (placeOf k i) (placeOf (fun j => k (i + j)) n) =
      (goForth g i n).map (placeOf k) := by
  induction n generalizing i with
  | zero => exact hg i
  | succ n ih =>
    have hrest := ih (i + 1)
    have hhere := hg i
    rw [placeOf_succ, counts_behind, Nat.add_zero, goForth]
    cases hfirst : g i with
    | some stop =>
      rw [hfirst, Option.map_some] at hhere
      rw [goForth_of_some hhere, Option.some_or, Option.map_some]
    | none =>
      rw [hfirst, Option.map_none] at hhere
      have hnone : ∀ r < k i + 1, g' (placeOf k i + r) = none := by
        intro r hr
        cases r with
        | zero => exact hhere
        | succ r => exact hskip i (r + 1) (Nat.succ_pos r) (Nat.le_of_lt_succ hr)
      rw [Option.none_or, ← hrest]
      exact goForth_pass _ hnone

theorem countOf_succ (text : Array Char) (set : CharSet) (bound pos : Nat) :
    countOf text set (bound + 1) pos =
      if countOf text set 1 pos = 0 then 0 else countOf text set bound (pos + 1) + 1 := by
  cases hc : text[pos]? with
  | none => simp [countOf, hc]
  | some c => cases hmem : set.mem c <;> simp [countOf, hc, hmem]

theorem simple_inOrder (sets : List CharSet) : Simple (inOrder (sets.map one)) := by
  induction sets with
  | nil => exact .empty
  | cons first sets ih =>
    cases sets with
    | nil => exact .one first
    | cons second sets => exact .seq (.one first) ih

section Ends

variable {text : Array Char} {looped : Bool} {rest : List Pattern} {s : Cursor} {k : Goal}
  {g : Nat → Option Nat} (hk : ∀ t, endOf (k t) = g t.pos)
include hk

theorem endOf_takeMore (set : CharSet) (bound : Nat) :
    endOf (takeMore text looped set bound s k) =
      goForth g s.pos (countOf text set bound s.pos) := by
  induction bound generalizing s with
  | zero =>
    have hhere := hk s.here
    rw [takeMore, countOf, goForth]
    cases hgoal : k s.here with
    | ok r => rw [hgoal] at hhere; exact hhere
    | error t => rw [hgoal] at hhere; exact hhere
  | succ bound ih =>
    have hhere := hk s.here
    rw [takeMore]
    cases hgoal : k s.here with
    | ok r =>
      rw [hgoal] at hhere
      exact (goForth_of_some hhere.symm _).symm
    | error t =>
      rw [hgoal] at hhere
      have hnone : g s.pos = none := hhere.symm
      rw [countOf_succ text set bound s.pos]
      by_cases hmore : countOf text set 1 s.pos = 0
      · simp only [hmore, if_true, goForth, hnone]
        rfl
      · simp only [hmore, if_false, goForth, hnone, Option.none_or]
        exact ih

/-- A group of as few characters of a set as possible. -/
theorem endOf_fewest (set : CharSet) :
    endOf ((capture 1 (repeated (one set) 0 none .fewest)).run text looped rest s k) =
      goForth g s.pos (countOf text set (text.size - s.pos) s.pos) := by
  have hgoal (t : Cursor) : endOf (k (t.mark 1)) = g t.pos := hk (t.mark 1)
  rw [run, run]
  simp only [repeatedSet, Nat.not_lt_zero, if_false]
  simpa [Cursor.mark, countOf] using endOf_takeMore hgoal set (text.size - s.pos)

/-- What may be left out is taken if that leads on. -/
theorem endOf_once {p : Pattern} (hp : Simple p) :
    endOf (upToMost (p.run text true []) 1 none s k) = (p.ends text g s.pos).or (g s.pos) := by
  have hback (pos : Nat) (o : MatchOutcome) : endOf (o.backTo pos) = endOf o := by
    cases o <;> rfl
  have hmore (t : Cursor) :
      endOf (upToMost (p.run text true []) 0 (some s.pos) t k) = g t.pos := by
    rw [upToMost, hback]
    exact hk t.here
  have hbody : endOf (p.run text true [] s.here fun t =>
      upToMost (p.run text true []) 0 (some s.pos) t k) = p.ends text g s.pos :=
    endOf_run hp true [] s.here hmore (needs_none g)
  rw [upToMost, if_neg (by simp), ← hbody]
  cases p.run text true [] s.here fun t => upToMost (p.run text true []) 0 (some s.pos) t k with
  | ok r => rfl
  | error t =>
    simp only [hback]
    exact hk s.here

theorem endOf_option {sets : List CharSet} (hlong : 2 ≤ sets.length) :
    endOf ((opt (inOrder (sets.map one))).run text looped rest s k) =
      (alt (inOrder (sets.map one)) empty).ends text g s.pos := by
  obtain ⟨first, second, more, rfl⟩ : ∃ a b l, sets = a :: b :: l := by
    match sets, hlong with
    | a :: b :: l, _ => exact ⟨a, b, l, rfl⟩
  exact endOf_once hk (simple_inOrder (first :: second :: more))

end Ends

end Pattern

namespace Ampscript

open Pattern

/-- Where the first THEN from an offset on ends that has its line in between. -/
def thenBehind (cs : List Char) (pos : Nat) : Option Nat :=
  goForth (thenWord.ends cs.toArray some) pos
    (countOf cs.toArray .inLine (cs.toArray.size - pos) pos)

def conditionEnd (cs : List Char) : Nat → Option Nat :=
  wordEdge.ends cs.toArray ((alt (inOrder ((letters "ELSE").map one)) empty).ends cs.toArray
    ((inOrder ((letters "IF").map one)).ends cs.toArray
      (wordEdge.ends cs.toArray (thenBehind cs))))

theorem simple_thenWord : Simple thenWord :=
  .seq (.seq (.anchor _) (simple_inOrder _)) (.anchor _)

theorem stopAt?_condition (cs : List Char) : condition.stopAt? cs = conditionEnd cs := by
  funext pos
  have hend : endOf (condition.run cs.toArray false [] ⟨pos, pos, #[]⟩ fun t =>
      if false && t.pos == pos then .error t else .ok t) = conditionEnd cs pos := by
    rw [condition_eq, run, run, run, run, run]
    refine endOf_run (.anchor _) false _ _ (fun a => ?_) (needs_none _)
    refine endOf_option (fun b => ?_) (by decide)
    refine endOf_run (simple_inOrder _) false _ b (fun c => ?_) (needs_none _)
    refine endOf_run (.anchor _) false _ c (fun d => ?_) (needs_none _)
    refine endOf_fewest (fun e => ?_) .inLine
    exact endOf_run simple_thenWord false [] e (fun _ => rfl) (needs_none _)
  unfold stopAt? tryAt
  rw [← hend]
  simp only
  split
  · next t ht => rw [ht]; rfl
  · next t ht => rw [ht]; rfl

theorem not_mem_letters {word : String} (hword : word.toList.all Char.isAlpha = true) {c : Char}
    (hc : isWord c = false) : ∀ set ∈ letters word, set.mem c = false := by
  intro set hset
  obtain ⟨a, ha, rfl⟩ := List.mem_map.mp hset
  by_contra hmem
  have hletter := List.all_eq_true.mp hword a ha
  rw [isWord_of_sameLetter hletter (Bool.not_eq_false _ ▸ hmem)] at hc
  cases hc

theorem rigid_letters (word : String) (hword : word.toList.all Char.isAlpha = true) :
    ∀ set ∈ letters word, Rigid set := fun set hset =>
  ⟨not_mem_letters hword (by decide) set hset, not_mem_letters hword (by decide) set hset⟩

section Stretch

variable {k : Nat → Nat} {cs : List Char} (hk : Pliant k cs)
include hk

/-- The letters of a word are not repeated. -/
theorem WordAt.placeOf_add {word : String} (hword : word.toList.all Char.isAlpha = true) {pos : Nat}
    (h : WordAt word cs pos) :
    placeOf k (pos + (letters word).length) = placeOf k pos + (letters word).length := by
  refine placeOf_add_of_once fun j hj => ?_
  have hset := List.getElem?_eq_getElem hj
  have hrigid := rigid_letters word hword _ (List.mem_of_getElem? hset)
  have hsees := h j _ hset
  rw [sees] at hsees
  cases hc : cs[pos + j]? with
  | none => simp [hc] at hsees
  | some c =>
    rw [hc, Option.map_some, Option.getD_some] at hsees
    refine hk.stays hc ?_ ?_
    · rintro rfl
      rw [hrigid.1] at hsees
      cases hsees
    · rintro rfl
      rw [hrigid.2] at hsees
      cases hsees

theorem moves_condition : Moves condition k cs := by
  have hstill (word : String) (hword : word.toList.all Char.isAlpha = true) :
      ∀ set ∈ letters word, Still k cs set := fun set hset =>
    still_of_pliant hk (rigid_letters word hword set hset)
  have helse := hstill "ELSE" (by decide)
  have hif := hstill "IF" (by decide)
  have hthen := hstill "THEN" (by decide)
  have hlast : Places k (thenWord.ends cs.toArray some)
      (thenWord.ends (stretch k cs).toArray some) :=
    places_wordEdge cs (places_inOrder hthen (places_wordEdge cs (places_some k)))
  have hskip : Skips k (thenWord.ends (stretch k cs).toArray some) :=
    skips_wordEdge (skips_inOrder hthen (by decide) _)
  have hbehind : Places k (thenBehind cs) (thenBehind (stretch k cs)) := by
    intro i
    unfold thenBehind
    simp only [countOf_eq, drop_stretch, length_takeWhile_stretch]
    exact goForth_stretch hlast hskip i _
  have hopen := places_inOrder hif (places_wordEdge cs hbehind)
  constructor
  · rw [stopAt?_condition, stopAt?_condition]
    exact places_wordEdge cs (places_alt (places_inOrder helse hopen) hopen)
  · rw [stopAt?_condition]
    exact skips_wordEdge (skips_alt (skips_inOrder helse (by decide) _)
      (skips_inOrder hif (by decide) _))
  · intro pos stop h
    obtain ⟨m, hm, rfl⟩ := Option.map_eq_some_iff.mp h
    obtain rfl := start_of_tryAt hm
    obtain ⟨head, stop, -, hle, hstop, -⟩ := condition_parts hm
    omega

omit hk in
/-- No letter counts as two different ones. -/
theorem not_else_of_if {cs' : List Char} {pos pos' : Nat} (hsame : cs'[pos']? = cs[pos]?)
    (hif : WordAt "IF" cs pos) (helse : WordAt "ELSEIF" cs' pos') : False := by
  obtain ⟨c, hc, hi⟩ := hif.getElem? (j := 0) (a := 'I') rfl
  obtain ⟨d, hd, he⟩ := helse.getElem? (j := 0) (a := 'E') rfl
  rw [Nat.add_zero] at hc hd
  obtain rfl : c = d := Option.some.inj (hc.symm.trans (hsame.symm.trans hd))
  have hall : ((letterForms 'I').all fun c => !(letterForms 'E').contains c) = true := by
    decide +kernel
  have hc := List.all_eq_true.mp hall c (mem_letterForms (by decide) hi)
  have he := mem_letterForms (by decide) he
  simp [he] at hc

/-- What stands between IF and THEN moves with its condition. -/
theorem bounds_stretch {m m' : Match} {b b' : Bool}
    (hm : condition.tryAt cs.toArray m.start b = some m)
    (hm' : condition.tryAt (stretch k cs).toArray m'.start b' = some m')
    (hstart : m'.start = placeOf k m.start) (hstop : m'.stop = placeOf k m.stop) :
    ∃ start stop, m.bounds? 1 = some (start, stop) ∧
      m'.bounds? 1 = some (placeOf k start, placeOf k stop) := by
  obtain ⟨head, stop, hbounds, -, hend, hthen, hopens⟩ := condition_parts hm
  obtain ⟨head', stop', hbounds', -, hend', -, hopens'⟩ := condition_parts hm'
  have hsame : (stretch k cs)[m'.start]? = cs[m.start]? := by rw [hstart, getElem?_placeOf]
  have hlast : placeOf k (stop + 4) = placeOf k stop + 4 := hthen.placeOf_add hk (by decide)
  have hfirst : placeOf k (m.start + head) = placeOf k m.start + head ∧ head' = head := by
    rcases hopens with ⟨rfl, hword⟩ | ⟨rfl, hword⟩
    · refine ⟨hword.placeOf_add hk (by decide), ?_⟩
      rcases hopens' with ⟨rfl, -⟩ | ⟨-, hother⟩
      · rfl
      · exact (not_else_of_if hsame hword hother).elim
    · refine ⟨hword.placeOf_add hk (by decide), ?_⟩
      rcases hopens' with ⟨-, hother⟩ | ⟨rfl, -⟩
      · exact (not_else_of_if hsame.symm hother hword).elim
      · rfl
  have hplace : stop' = placeOf k stop := by
    rw [hend', hend, hlast] at hstop
    exact Nat.add_right_cancel hstop
  exact ⟨m.start + head, stop, hbounds, by rw [hbounds', hfirst.2, hplace, hstart, ← hfirst.1]⟩

end Stretch

/-- An offset at which what a match has between IF and THEN has a lone equals sign. -/
def ComparesIn (masked : List Char) (m : Match) (pos : Nat) : Prop :=
  ∃ j, IsLone (m.group masked 1) j ∧ pos = m.startOf 1 + j

/-- An offset at which some condition of the masked line assigns where it should compare. -/
def ComparesAt (masked : List Char) (pos : Nat) : Prop :=
  ∃ m ∈ condition.findAll masked, ComparesIn masked m pos

/-- An offset at which the first condition of the masked line does. -/
def FirstCompares (masked : List Char) (pos : Nat) : Prop :=
  ∃ m, condition.find? masked = some m ∧ ComparesIn masked m pos

theorem comparesIn_iff {masked : List Char} {m : Match} {start stop pos : Nat}
    (h : m.bounds? 1 = some (start, stop)) :
    ComparesIn masked m pos ↔ ∃ j, IsLone (slice masked start stop) j ∧ pos = start + j := by
  simp [ComparesIn, Match.group, Match.group?, Match.startOf, h]

theorem ComparesIn.sign {masked : List Char} {m : Match} {pos : Nat} (hm : condition.Finds masked m)
    (h : ComparesIn masked m pos) : masked[pos]? = some '=' := by
  obtain ⟨start, stop, hbounds, -⟩ := condition_bounds hm
  obtain ⟨j, hj, rfl⟩ := (comparesIn_iff hbounds).mp h
  have hsign := hj.sign
  rw [slice_getElem?] at hsign
  split_ifs at hsign
  exact hsign

theorem ComparesAt.sign {masked : List Char} {pos : Nat} (h : ComparesAt masked pos) :
    masked[pos]? = some '=' := by
  obtain ⟨m, hm, hpos⟩ := h
  exact hpos.sign (finds_of_mem_findAll hm)

theorem FirstCompares.sign {masked : List Char} {pos : Nat} (h : FirstCompares masked pos) :
    masked[pos]? = some '=' := by
  obtain ⟨m, hm, hpos⟩ := h
  exact hpos.sign (finds_of_find? hm)

/-- A match of the condition in a stretched line and the match it comes from have the same lone
equals signs, but for those that are repeated. -/
theorem comparesIn_stretch_iff {k : Nat → Nat} {cs : List Char} (hk : Pliant k cs) {m m' : Match}
    (hm : condition.Finds cs m) (hm' : condition.Finds (stretch k cs) m')
    (hstart : m'.start = placeOf k m.start) (hstop : m'.stop = placeOf k m.stop) {pos : Nat} :
    ComparesIn (stretch k cs) m' pos ↔ ∃ i, pos = placeOf k i ∧ k i = 0 ∧ ComparesIn cs m i := by
  obtain ⟨-, b, hfound⟩ := hm
  obtain ⟨-, b', hfound'⟩ := hm'
  obtain ⟨start, stop, hbounds, hbounds'⟩ := bounds_stretch hk hfound hfound' hstart hstop
  simp only [comparesIn_iff hbounds, comparesIn_iff hbounds', slice_stretch]
  constructor
  · rintro ⟨j', hj', rfl⟩
    obtain ⟨j, rfl, hstay, hj⟩ := (standsAlone_stretch_iff (by decide) (by decide)).mp hj'
    exact ⟨start + j, (placeOf_add k start j).symm, hstay, j, hj, rfl⟩
  · rintro ⟨-, rfl, hstay, j, hj, rfl⟩
    refine ⟨placeOf (fun n => k (start + n)) j, ?_, placeOf_add k start j⟩
    exact (standsAlone_stretch_iff (by decide) (by decide)).mpr ⟨j, rfl, hstay, hj⟩

/-- The lone equals signs in the conditions of a stretched line are those of the line that are not
repeated. -/
theorem comparesAt_stretch_iff {k : Nat → Nat} {cs : List Char} (hk : Pliant k cs) {pos : Nat} :
    ComparesAt (stretch k cs) pos ↔ ∃ i, pos = placeOf k i ∧ k i = 0 ∧ ComparesAt cs i := by
  have hmoves := moves_condition hk
  constructor
  · rintro ⟨m', hm', hpos⟩
    obtain ⟨m, hm, hstart, hstop⟩ := hmoves.exists_mem_findAll.mp ⟨m', hm', rfl, rfl⟩
    obtain ⟨i, hi, hstay, hin⟩ := (comparesIn_stretch_iff hk (finds_of_mem_findAll hm)
      (finds_of_mem_findAll hm') hstart.symm hstop.symm).mp hpos
    exact ⟨i, hi, hstay, m, hm, hin⟩
  · rintro ⟨i, hi, hstay, m, hm, hin⟩
    obtain ⟨m', hm', hstart, hstop⟩ := hmoves.exists_mem_findAll.mpr ⟨m, hm, rfl, rfl⟩
    exact ⟨m', hm', (comparesIn_stretch_iff hk (finds_of_mem_findAll hm)
      (finds_of_mem_findAll hm') hstart hstop).mpr ⟨i, hi, hstay, hin⟩⟩

theorem FirstCompares.of_stretch {k : Nat → Nat} {cs : List Char} (hk : Pliant k cs) {pos : Nat}
    (h : FirstCompares (stretch k cs) pos) : ∃ j, FirstCompares cs j ∧ k j = 0 := by
  obtain ⟨m', hm', hpos⟩ := h
  obtain ⟨m, hm, hstart, hstop⟩ := (moves_condition hk).find? hm'
  obtain ⟨j, -, hstay, hj⟩ := (comparesIn_stretch_iff hk (finds_of_find? hm)
    (finds_of_find? hm') hstart hstop).mp hpos
  exact ⟨j, ⟨m, hm, hj⟩, hstay⟩

theorem mem_starts_loneEquals {masked : List Char} {m : Match} {pos : Nat} :
    pos ∈ (loneEquals.findAll (m.group masked 1)).map (m.startOf 1 + ·.start) ↔
      ComparesIn masked m pos := by
  have hstarts := List.map_map (f := (·.start)) (g := (m.startOf 1 + ·))
    (l := loneEquals.findAll (m.group masked 1))
  rw [loneEquals_eq] at hstarts ⊢
  simp only [Function.comp_def] at hstarts
  simp only [ComparesIn, ← hstarts, List.mem_map (f := (m.startOf 1 + ·)), mem_starts_aloneSign,
    eq_comm]

/-- A line is flagged if one of its conditions has a lone equals sign. -/
theorem exists_mem_assignedConditions {l : Line} :
    (∃ f, f ∈ assignedConditions l) ↔ ∃ pos, ComparesAt l.masked pos := by
  have hfirst (m : Match) : (∃ e, loneEquals.find? (m.group l.masked 1) = some e) ↔
      ∃ j, IsLone (m.group l.masked 1) j := by
    rw [loneEquals_eq, exists_find?_iff (simple_aloneSign _ _)]
    constructor
    · rintro ⟨j, -, stop, hstop⟩
      exact ⟨j, (hit?_aloneSign.mp hstop).1⟩
    · rintro ⟨j, hj⟩
      exact ⟨j, hj.le_length, j + 1, hit?_aloneSign.mpr ⟨hj, rfl⟩⟩
  constructor
  · rintro ⟨f, hf⟩
    obtain ⟨m, hm, hfound⟩ := List.mem_filterMap.mp hf
    obtain ⟨e, he, -⟩ := Option.map_eq_some_iff.mp hfound
    obtain ⟨j, hj⟩ := (hfirst m).mp ⟨e, he⟩
    exact ⟨m.startOf 1 + j, m, hm, j, hj, rfl⟩
  · rintro ⟨pos, m, hm, j, hj, -⟩
    obtain ⟨e, he⟩ := (hfirst m).mpr ⟨j, hj⟩
    exact ⟨_, List.mem_filterMap.mpr ⟨m, hm, by rw [he]; rfl⟩⟩

/-- The offsets at which the conditions of the masked line have lone equals signs. -/
def compared (masked : List Char) : List Nat :=
  (condition.findAll masked).flatMap fun m =>
    (loneEquals.findAll (m.group masked 1)).map (m.startOf 1 + ·.start)

theorem mem_compared {masked : List Char} {pos : Nat} :
    pos ∈ compared masked ↔ ComparesAt masked pos := by
  simp only [compared, List.mem_flatMap, mem_starts_loneEquals, ComparesAt]

/-- The offsets at which the first condition of the masked line has lone equals signs. -/
def firstCompared (masked : List Char) : List Nat :=
  ((condition.find? masked).map fun m =>
    (loneEquals.findAll (m.group masked 1)).map (m.startOf 1 + ·.start)).getD []

theorem mem_firstCompared {masked : List Char} {pos : Nat} :
    pos ∈ firstCompared masked ↔ FirstCompares masked pos := by
  unfold firstCompared FirstCompares
  cases condition.find? masked with
  | none => simp
  | some m => simp [← mem_starts_loneEquals]

/-- The fixer has nothing to do if the first condition of the line has no lone equals sign. -/
theorem fixComparison_eq_substitute (line : List Char) (f : Finding) : fixComparison line f =
    if firstCompared (Mask.alone (.of .ampscript) line) = [] then none
    else some (Fix.substitute (firstCompared (Mask.alone (.of .ampscript) line)) "==".toList
      line) := by
  simp only [fixComparison]
  unfold firstCompared
  generalize Mask.alone (.of .ampscript) line = masked
  cases condition.find? masked with
  | none => rfl
  | some m =>
    rw [Option.bind_some, Option.map_some, Option.getD_some]
    generalize (loneEquals.findAll _).map _ = positions
    cases positions <;> rfl

theorem fixComparison_getD (line : List Char) (f : Finding) : (fixComparison line f).getD line =
    Fix.substitute (firstCompared (Mask.alone (.of .ampscript) line)) "==".toList line := by
  rw [fixComparison_eq_substitute]
  split_ifs with hnone
  · rw [hnone, Script.substitute_nil, Option.getD_none]
  · rfl

/-- The fixer doubles the lone equals signs of the first condition of the line. -/
theorem fixComparison_stretch (raw : List Char) (f : Finding) :
    ∃ k, (fixComparison raw f).getD raw = stretch k raw ∧ Elastic k raw ∧
      ∀ j, (k j = 0 ∨ k j = 1) ∧ (0 < k j ↔ FirstCompares (Mask.alone (.of .ampscript) raw) j) := by
  rw [fixComparison_getD]
  simp only [← mem_firstCompared]
  exact Script.exists_substitute_stretch (m := 1) rfl (Nat.succ_pos 0) raw fun j hj =>
    Mask.equals_of_inside (mem_firstCompared.mp hj).sign

end Ampscript

end CampaignCheck

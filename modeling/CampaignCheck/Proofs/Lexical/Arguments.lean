import CampaignCheck.Lexical.Arguments
import CampaignCheck.Proofs.Text.Slices
import Mathlib

namespace CampaignCheck.Arguments

open Text

/-- What a character adds to the depth. -/
def weight (c : Char) : Int := if isOpener c then 1 else if isCloser c then -1 else 0

/-- The depth before an offset, counted from another. -/
def depth (cs : List Char) (p i : Nat) : Int := ((slice cs p i).map weight).sum

/-- The call that opens at an offset is closed at another: there the depth is back at none for the
first time. -/
def ClosedAt (cs : List Char) (p q : Nat) : Prop :=
  IsLeast {i | p < i ∧ i < cs.length ∧ depth cs p (i + 1) = 0} q

/-- A comma that stands between arguments of the call that opens at `p`. -/
def CommaAt (cs : List Char) (p i : Nat) : Prop := cs[i]? = some ',' ∧ depth cs p i = 1

/-- The stretches part the text between the bracket at `p` and an offset: they follow each other
with one comma of depth one between any two, and hold no other such comma. -/
structure Parts (cs : List Char) (p stop : Nat) (ss : List Span) : Prop where
  first : ss.head?.map Prod.fst = some (p + 1)
  last : ss.getLast?.map Prod.snd = some stop
  next : ss.IsChain fun s t => t.1 = s.2 + 1
  ordered : ∀ s ∈ ss, p < s.1 ∧ s.1 ≤ s.2
  commas : ∀ s ∈ ss.dropLast, s.2 < stop ∧ CommaAt cs p s.2
  whole : ∀ s ∈ ss, ∀ i, s.1 ≤ i → i < s.2 → ¬ CommaAt cs p i

variable {cs : List Char} {p : Nat}

theorem depth_add_one {i : Nat} {c : Char} (hle : p ≤ i) (hc : cs[i]? = some c) :
    depth cs p (i + 1) = depth cs p i + weight c := by
  rw [depth, depth, slice_add_one hle hc, List.map_append, List.sum_append, List.map_singleton,
    List.sum_singleton]

theorem depth_self (cs : List Char) (p : Nat) : depth cs p p = 0 := by
  rw [depth, slice_self]
  rfl

theorem weight_comma : weight ',' = 0 := rfl

theorem Parts.empty (cs : List Char) (p : Nat) : Parts cs p (p + 1) [(p + 1, p + 1)] where
  first := rfl
  last := rfl
  next := .singleton _
  ordered := by simp
  commas := by simp
  whole := by
    intro s hs i hi hi'
    obtain rfl := List.mem_singleton.mp hs
    exact absurd hi' (Nat.not_lt.mpr hi)

/-- The last stretch takes in a character that is no comma of depth one. -/
theorem Parts.grow {start i : Nat} {ss : List Span} (h : Parts cs p i (ss ++ [(start, i)]))
    (hi : ¬ CommaAt cs p i) : Parts cs p (i + 1) (ss ++ [(start, i + 1)]) := by
  have hlast := h.ordered (start, i) (by simp)
  have hnext := List.isChain_append.mp h.next
  refine ⟨?_, by simp, ?_, ?_, ?_, ?_⟩
  · rw [← h.first]
    cases ss <;> rfl
  · exact List.isChain_append.mpr ⟨hnext.1, .singleton _, by simpa using hnext.2.2⟩
  · intro s hs
    rcases List.mem_append.mp hs with hs | hs
    · exact h.ordered s (List.mem_append_left _ hs)
    · obtain rfl := List.mem_singleton.mp hs
      exact ⟨hlast.1, Nat.le_succ_of_le hlast.2⟩
  · rw [List.dropLast_concat]
    intro s hs
    have hcomma := h.commas s (by rwa [List.dropLast_concat])
    exact ⟨Nat.lt_succ_of_lt hcomma.1, hcomma.2⟩
  · intro s hs j hj hj'
    rcases List.mem_append.mp hs with hs | hs
    · exact h.whole s (List.mem_append_left _ hs) j hj hj'
    · obtain rfl := List.mem_singleton.mp hs
      rcases Nat.lt_succ_iff_lt_or_eq.mp hj' with hlt | rfl
      · exact h.whole (start, i) (by simp) j hj hlt
      · exact hi

/-- At a comma of depth one a new stretch begins. -/
theorem Parts.cut {start i : Nat} {ss : List Span} (h : Parts cs p i (ss ++ [(start, i)]))
    (hi : CommaAt cs p i) : Parts cs p (i + 1) (ss ++ [(start, i)] ++ [(i + 1, i + 1)]) := by
  have hlast := h.ordered (start, i) (by simp)
  refine ⟨?_, by simp, ?_, ?_, ?_, ?_⟩
  · rw [← h.first]
    cases ss <;> rfl
  · refine List.isChain_append.mpr ⟨h.next, .singleton _, ?_⟩
    simp
  · intro s hs
    rcases List.mem_append.mp hs with hs | hs
    · exact h.ordered s hs
    · obtain rfl := List.mem_singleton.mp hs
      exact ⟨by omega, Nat.le_refl _⟩
  · rw [List.dropLast_concat]
    intro s hs
    rcases List.mem_append.mp hs with hs | hs
    · have hcomma := h.commas s (by rwa [List.dropLast_concat])
      exact ⟨Nat.lt_succ_of_lt hcomma.1, hcomma.2⟩
    · obtain rfl := List.mem_singleton.mp hs
      exact ⟨Nat.lt_succ_self i, hi⟩
  · intro s hs j hj hj'
    rcases List.mem_append.mp hs with hs | hs
    · exact h.whole s hs j hj hj'
    · obtain rfl := List.mem_singleton.mp hs
      exact absurd hj' (Nat.not_lt.mpr hj)

/-- Between two stretches there is a comma, so that the text is not blank. -/
theorem Parts.not_allBlank {start stop : Nat} {ss : List Span}
    (h : Parts cs p stop (ss ++ [(start, stop)])) (hne : ss ≠ []) :
    allBlank (slice cs (p + 1) stop) = false := by
  obtain ⟨s, ss, rfl⟩ := List.exists_cons_of_ne_nil hne
  obtain ⟨hlt, hcomma, -⟩ := h.commas s (by rw [List.dropLast_concat]; exact List.mem_cons_self)
  have hordered := h.ordered s (by simp)
  refine List.all_eq_false.mpr ⟨',', mem_slice.mpr ⟨s.2, by omega, hlt, hcomma⟩, by decide⟩

theorem Parts.ne_nil {stop : Nat} {ss : List Span} (h : Parts cs p stop ss) : ss ≠ [] := by
  rintro rfl
  cases h.first

/-- From the first stretch to the last is all of the text. -/
theorem Parts.extent {stop : Nat} {ss : List Span} (h : Parts cs p stop ss) :
    extent? (some ss) = some (p + 1, stop) := by
  cases ss with
  | nil => exact absurd rfl h.ne_nil
  | cons s ss =>
    have hfirst : s.1 = p + 1 := Option.some.inj h.first
    have hlast := h.last
    rw [List.getLast?_eq_some_getLast (List.cons_ne_nil s ss), Option.map_some] at hlast
    rw [extent?, hfirst, Option.some.inj hlast]

theorem Parts.start_eq {start stop : Nat} (h : Parts cs p stop [(start, stop)]) : start = p + 1 :=
  Option.some.inj h.first

/-- The text up to `i` has been read, and the call is still open. -/
structure Open (cs : List Char) (p start i : Nat) (ss : List Span) : Prop where
  lt : p < i
  depth_pos : 1 ≤ depth cs p i
  still : ∀ j, p < j → j < i → depth cs p (j + 1) ≠ 0
  parts : Parts cs p i (ss ++ [(start, i)])

/-- What is to be said of a call: nothing if it is never closed, no argument if it is blank. -/
def Answers (cs : List Char) (p : Nat) : Option (List Span) → Prop
  | none => ∀ q, ¬ ClosedAt cs p q
  | some ss => ∃ q, ClosedAt cs p q ∧
      if allBlank (slice cs (p + 1) q) then ss = [] else Parts cs p q ss

section Open

variable {start i : Nat} {ss : List Span} {c : Char}

theorem Open.still_succ (h : Open cs p start i ss) (hdepth : 1 ≤ depth cs p (i + 1)) :
    ∀ j, p < j → j < i + 1 → depth cs p (j + 1) ≠ 0 := by
  intro j hj hj'
  rcases Nat.lt_succ_iff_lt_or_eq.mp hj' with hlt | rfl
  · exact h.still j hj hlt
  · omega

theorem Open.grow (h : Open cs p start i ss) (hdepth : 1 ≤ depth cs p (i + 1))
    (hi : ¬ CommaAt cs p i) : Open cs p start (i + 1) ss :=
  ⟨Nat.lt_succ_of_lt h.lt, hdepth, h.still_succ hdepth, h.parts.grow hi⟩

theorem Open.cut (h : Open cs p start i ss) (hi : CommaAt cs p i) :
    Open cs p (i + 1) (i + 1) (ss ++ [(start, i)]) := by
  have hdepth : 1 ≤ depth cs p (i + 1) := by
    rw [depth_add_one (Nat.le_of_lt h.lt) hi.1, hi.2, weight_comma]
    decide
  exact ⟨Nat.lt_succ_of_lt h.lt, hdepth, h.still_succ hdepth, h.parts.cut hi⟩

theorem Open.closedAt (h : Open cs p start i ss) (hlt : i < cs.length)
    (hdepth : depth cs p (i + 1) = 0) : ClosedAt cs p i := by
  refine ⟨⟨h.lt, hlt, hdepth⟩, fun j hj => ?_⟩
  by_contra hji
  exact h.still j hj.1 (Nat.lt_of_not_le hji) hj.2.2

theorem Open.never (h : Open cs p start i ss) (hle : cs.length ≤ i) (q : Nat) :
    ¬ ClosedAt cs p q := fun hq => h.still q hq.1.1 (by have := hq.1.2.1; omega) hq.1.2.2

/-- The answer at the bracket that closes the call. -/
theorem Open.answers (h : Open cs p start i ss) (hq : ClosedAt cs p i) :
    Answers cs p (some (if !allBlank (slice cs start i) || !ss.isEmpty then ss ++ [(start, i)]
      else ss)) := by
  refine ⟨i, hq, ?_⟩
  cases ss with
  | nil =>
    rw [h.parts.start_eq]
    cases hblank : allBlank (slice cs (p + 1) i) with
    | true => rfl
    | false => simpa [h.parts.start_eq] using h.parts
  | cons s ss => simpa [h.parts.not_allBlank] using h.parts

end Open

/-- From any offset where the call is open the reading comes to the right answer. The induction is
on the text that is left. -/
theorem cutFrom_answers {start i : Nat} {ss : List Span} {rest : List Char}
    (h : Open cs p start i ss) (hrest : cs.drop i = rest) :
    Answers cs p
      (cutFrom (fun a b => allBlank (slice cs a b)) start i (depth cs p i) ss rest) := by
  induction rest generalizing start i ss with
  | nil => exact h.never (List.drop_eq_nil_iff.mp hrest)
  | cons c rest ih =>
    have hc : cs[i]? = some c := getElem?_here hrest
    have hlt : i < cs.length := (List.getElem?_eq_some_iff.mp hc).1
    have hdrop : cs.drop (i + 1) = rest := drop_add_one hrest
    have hsucc := depth_add_one (Nat.le_of_lt h.lt) hc
    have hother (hne : c ≠ ',') : ¬ CommaAt cs p i :=
      fun hi => hne (Option.some.inj (hc.symm.trans hi.1))
    have hpos := h.depth_pos
    by_cases hopener : isOpener c = true
    · have hdepth : depth cs p (i + 1) = depth cs p i + 1 := by rw [hsucc, weight, if_pos hopener]
      rw [cutFrom, if_pos hopener, ← hdepth]
      exact ih (h.grow (by omega) (hother fun hc => by simp [hc, isOpener] at hopener)) hdrop
    by_cases hcloser : isCloser c = true
    · have hdepth : depth cs p (i + 1) = depth cs p i - 1 := by
        rw [hsucc, weight, if_neg hopener, if_pos hcloser, Int.sub_eq_add_neg]
      rw [cutFrom, if_neg hopener, if_pos hcloser, ← hdepth]
      by_cases hone : depth cs p i = 1
      · rw [if_pos hone]
        exact h.answers (h.closedAt hlt (by omega))
      · rw [if_neg hone]
        exact ih (h.grow (by omega) (hother fun hc => by simp [hc, isCloser] at hcloser)) hdrop
    have hdepth : depth cs p (i + 1) = depth cs p i := by
      rw [hsucc, weight, if_neg hopener, if_neg hcloser, Int.add_zero]
    rw [cutFrom, if_neg hopener, if_neg hcloser, ← hdepth]
    by_cases hcomma : CommaAt cs p i
    · rw [if_pos (by simp [hdepth, hcomma.2, Option.some.inj (hc.symm.trans hcomma.1)])]
      exact ih (h.cut hcomma) hdrop
    · have hplain : ¬(c = ',' ∧ depth cs p (i + 1) = 1) :=
        fun hi => hcomma ⟨by rw [hc, hi.1], hdepth ▸ hi.2⟩
      rw [if_neg (by simpa using hplain)]
      exact ih (h.grow (by omega) hcomma) hdrop

/-- Once the bracket has been read the call is open. -/
theorem open_start (hp : cs[p]? = some '(') : Open cs p (p + 1) (p + 1) [] := by
  have hdepth : depth cs p (p + 1) = 1 := by
    rw [depth_add_one (Nat.le_refl p) hp, depth_self]
    rfl
  exact ⟨Nat.lt_succ_self p, Int.le_of_eq hdepth.symm, fun j hj hj' => by omega, .empty cs p⟩

theorem spans?_answers (hp : cs[p]? = some '(') : Answers cs p (spans? cs p) := by
  have hdrop : cs.drop p = '(' :: cs.drop (p + 1) := by
    obtain ⟨hlt, hc⟩ := List.getElem?_eq_some_iff.mp hp
    rw [List.drop_eq_getElem_cons hlt, hc]
  have hdepth : depth cs p (p + 1) = 0 + 1 := by
    rw [depth_add_one (Nat.le_refl p) hp, depth_self]
    rfl
  rw [spans?, hdrop, cutFrom, if_pos (by rfl), ← hdepth]
  exact cutFrom_answers (open_start hp) rfl

section Answers

variable {o : Option (List Span)} (h : Answers cs p o)
include h

theorem Answers.eq_none_iff : o = none ↔ ¬∃ q, ClosedAt cs p q := by
  cases o with
  | none => exact ⟨fun _ ⟨q, hq⟩ => h q hq, fun _ => rfl⟩
  | some ss =>
    obtain ⟨q, hq, -⟩ := h
    exact ⟨nofun, fun hnone => absurd ⟨q, hq⟩ hnone⟩

theorem Answers.eq_nil_of_blank {q : Nat} (hq : ClosedAt cs p q)
    (hblank : allBlank (slice cs (p + 1) q) = true) : o = some [] := by
  cases o with
  | none => exact absurd hq (h q)
  | some ss =>
    obtain ⟨r, hr, hss⟩ := h
    obtain rfl : r = q := hr.unique hq
    rw [if_pos hblank] at hss
    rw [hss]

theorem Answers.exists_parts {q : Nat} (hq : ClosedAt cs p q)
    (hvisible : allBlank (slice cs (p + 1) q) = false) : ∃ ss, o = some ss ∧ Parts cs p q ss := by
  cases o with
  | none => exact absurd hq (h q)
  | some ss =>
    obtain ⟨r, hr, hss⟩ := h
    obtain rfl : r = q := hr.unique hq
    rw [if_neg (Bool.eq_false_iff.mp hvisible)] at hss
    exact ⟨ss, rfl, hss⟩

theorem Answers.eq_nil_iff :
    o = some [] ↔ ∃ q, ClosedAt cs p q ∧ allBlank (slice cs (p + 1) q) = true := by
  constructor
  · rintro rfl
    obtain ⟨q, hq, hss⟩ := h
    refine ⟨q, hq, ?_⟩
    by_contra hvisible
    rw [if_neg hvisible] at hss
    exact hss.ne_nil rfl
  · rintro ⟨q, hq, hblank⟩
    exact h.eq_nil_of_blank hq hblank

theorem Answers.extent_iff (e : Span) : extent? o = some e ↔
    ∃ q, ClosedAt cs p q ∧ allBlank (slice cs (p + 1) q) = false ∧ e = (p + 1, q) := by
  constructor
  · intro he
    cases o with
    | none => cases he
    | some ss =>
      obtain ⟨q, hq, hss⟩ := h
      refine ⟨q, hq, ?_⟩
      split_ifs at hss with hblank
      · subst hss
        cases he
      · rw [hss.extent] at he
        exact ⟨Bool.eq_false_iff.mpr hblank, (Option.some.inj he).symm⟩
  · rintro ⟨q, hq, hvisible, rfl⟩
    obtain ⟨ss, rfl, hparts⟩ := h.exists_parts hq hvisible
    exact hparts.extent

end Answers

/-- Arguments part the text of a call. A call has arguments if and only if it is closed somewhere,
and none of them if and only if nothing but blanks stands up to there; else they part the text
between the two brackets. The text in the brackets of a condition is all of it. -/
theorem arguments_partition (hp : cs[p]? = some '(') :
    (spans? cs p = none ↔ ¬∃ q, ClosedAt cs p q) ∧
    (spans? cs p = some [] ↔
      ∃ q, ClosedAt cs p q ∧ allBlank (slice cs (p + 1) q) = true) ∧
    (∀ q, ClosedAt cs p q → allBlank (slice cs (p + 1) q) = false →
      ∃ ss, spans? cs p = some ss ∧ Parts cs p q ss) ∧
    (∀ e, extentAt? cs p = some e ↔
      ∃ q, ClosedAt cs p q ∧ allBlank (slice cs (p + 1) q) = false ∧ e = (p + 1, q)) := by
  have hanswers := spans?_answers hp
  exact ⟨hanswers.eq_none_iff, hanswers.eq_nil_iff, fun q => hanswers.exists_parts,
    hanswers.extent_iff⟩

/-- A call with another call as its second argument. -/
theorem arguments_partition_nested :
    let cs := "f(a, g(b, c)) + (d".toList
    cs[1]? = some '(' ∧ spans? cs 1 = some [(2, 3), (4, 12)] ∧ ClosedAt cs 1 12 ∧
      Parts cs 1 12 [(2, 3), (4, 12)] ∧ extentAt? cs 1 = some (2, 12) := by
  intro cs
  have hp : cs[1]? = some '(' := by decide
  have hspans : spans? cs 1 = some [(2, 3), (4, 12)] := by decide
  have hextent : extentAt? cs 1 = some (2, 12) := by decide
  obtain ⟨-, -, hparts, hwhole⟩ := arguments_partition hp
  obtain ⟨q, hq, hblank, he⟩ := (hwhole (2, 12)).mp hextent
  obtain ⟨ss, hss, hq'⟩ := hparts q hq hblank
  obtain rfl : 12 = q := congrArg Prod.snd he
  obtain rfl : _ = ss := Option.some.inj (hspans.symm.trans hss)
  exact ⟨hp, hspans, hq, hq', hextent⟩

end CampaignCheck.Arguments

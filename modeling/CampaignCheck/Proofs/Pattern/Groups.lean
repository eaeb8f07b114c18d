import CampaignCheck.Proofs.Pattern.Ends
import Mathlib.Data.List.TakeWhile

/-!
Matches with their groups. As long as every group is numbered higher than those before it, a failed
attempt leaves no mark behind, so that the matcher can be read off the pattern with its marks too:
the ways of the pattern are gone through in order of preference, each with the text that it leaves.
-/

namespace CampaignCheck.Pattern

abbrev Marks := Array (Option Nat)

/-- What comes after a match. It is given the text that is left, where that starts, and the
marks. -/
abbrev Sequel := List Char → Nat → Marks → Option (Nat × Marks)

def marked (marks : Marks) (i pos : Nat) : Marks := (Cursor.mark ⟨pos, pos, marks⟩ i).marks

/-- So many characters of the set. -/
def exactly (set : CharSet) : Nat → Sequel → Sequel
  | 0, g, cs, pos, marks => g cs pos marks
  | _ + 1, _, [], _, _ => none
  | n + 1, g, c :: cs, pos, marks =>
    if set.mem c then exactly set n g cs (pos + 1) marks else none

/-- Characters of the set up to a limit, rather more than fewer. -/
def most (set : CharSet) (g : Sequel) : Option Nat → Sequel
  | _, [], pos, marks => g [] pos marks
  | limit, c :: cs, pos, marks =>
    if set.mem c && limit != some 0 then
      (most set g (limit.map (· - 1)) cs (pos + 1) marks).or (g (c :: cs) pos marks)
    else g (c :: cs) pos marks

/-- Characters of the set, rather fewer than more. -/
def fewest (set : CharSet) (g : Sequel) : Sequel
  | [], pos, marks => g [] pos marks
  | c :: cs, pos, marks =>
    (g (c :: cs) pos marks).or (if set.mem c then fewest set g cs (pos + 1) marks else none)

def leads (text : Array Char) : Pattern → Sequel → Sequel
  | empty, g => g
  | one set, g => exactly set 1 g
  | anchor a, g => fun cs pos marks => if a.holds text pos then g cs pos marks else none
  | seq p q, g => p.leads text (q.leads text g)
  | alt p q, g => fun cs pos marks => (p.leads text g cs pos marks).or (q.leads text g cs pos marks)
  | repeated (one set) _ _ .fewest, g => fewest set g
  | repeated (one set) least limit _, g => exactly set least (most set g limit)
  | repeated p _ _ _, g => fun cs pos marks => (p.leads text g cs pos marks).or (g cs pos marks)
  | capture n p, g => fun cs pos marks =>
    p.leads text (fun cs stop marks => g cs stop (marked marks (2 * n - 1) stop)) cs pos
      (marked marks (2 * n - 2) pos)
  | backreference n likeness, g => fun cs pos marks =>
    match Cursor.captured? ⟨pos, pos, marks⟩ n with
    | some (start, stop) =>
      if repeats text likeness start pos (stop - start) then
        g (cs.drop (stop - start)) (pos + (stop - start)) marks
      else none
    | none => none
  | _, _ => fun _ _ _ => none

section Equations

variable (text : Array Char) (g : Sequel)

theorem leads_seq (p q : Pattern) :
    (seq p q).leads text g = p.leads text (q.leads text g) := rfl

theorem leads_anchor (a : Anchor) (cs : List Char) (pos : Nat) (marks : Marks) :
    (anchor a).leads text g cs pos marks = if a.holds text pos then g cs pos marks else none := rfl

theorem leads_capture (n : Nat) (p : Pattern) (cs : List Char) (pos : Nat) (marks : Marks) :
    (capture n p).leads text g cs pos marks =
      p.leads text (fun cs stop marks => g cs stop (marked marks (2 * n - 1) stop)) cs pos
        (marked marks (2 * n - 2) pos) := rfl

theorem leads_alt (p q : Pattern) (cs : List Char) (pos : Nat) (marks : Marks) :
    (alt p q).leads text g cs pos marks =
      (p.leads text g cs pos marks).or (q.leads text g cs pos marks) := rfl

theorem leads_backreference {n start stop : Nat} (likeness : Likeness) (cs : List Char) {pos : Nat}
    {marks : Marks} (h : Cursor.captured? ⟨pos, pos, marks⟩ n = some (start, stop)) :
    (backreference n likeness).leads text g cs pos marks =
      if repeats text likeness start pos (stop - start) then
        g (cs.drop (stop - start)) (pos + (stop - start)) marks
      else none := by
  simp only [leads, h]

theorem leads_most (set : CharSet) (least : Nat) (limit : Option Nat) :
    (repeated (one set) least limit .most).leads text g = exactly set least (most set g limit) :=
  rfl

theorem leads_fewest (set : CharSet) : (manyFewest (one set)).leads text g = fewest set g := rfl

theorem leads_opt (p q : Pattern) (cs : List Char) (pos : Nat) (marks : Marks) :
    (opt (seq p q)).leads text g cs pos marks =
      ((seq p q).leads text g cs pos marks).or (g cs pos marks) := rfl

theorem run_opt (p q : Pattern) (looped : Bool) (rest : List Pattern) (s : Cursor) (k : Goal) :
    (opt (seq p q)).run text looped rest s k =
      match (seq p q).run text true [] s.here fun t => (k t.here).backTo t.pos with
      | .ok r => .ok r
      | .error _ => (k s.here).backTo s.pos := rfl

end Equations

/-- The groups of the pattern are numbered in order, higher than those that have set `b` marks. In
the end there are at most `b'` marks. -/
inductive Regular : Nat → Pattern → Nat → Prop
  | one (b : Nat) (set : CharSet) : Regular b (one set) b
  | anchor (b : Nat) (a : Anchor) : Regular b (anchor a) b
  | seq {b b' b'' : Nat} {p q : Pattern} (hp : Regular b p b') (hq : Regular b' q b'') :
      Regular b (seq p q) b''
  | alt {b b' : Nat} {p q : Pattern} (hp : Regular b p b') (hq : Regular b q b') :
      Regular b (alt p q) b'
  | many (b least : Nat) (set : CharSet) : Regular b (repeated (.one set) least none .most) b
  | atMostOne (b : Nat) (set : CharSet) : Regular b (opt (.one set)) b
  | manyFewest (b : Nat) (set : CharSet) : Regular b (manyFewest (.one set)) b
  | opt {b b' : Nat} {p q : Pattern} (hle : b ≤ b') (h : Regular b (.seq p q) b') :
      Regular b (opt (.seq p q)) b'
  | capture {b n : Nat} {p : Pattern} (hn : 0 < n) (hb : b ≤ 2 * n - 2)
      (h : Regular (2 * n - 1) p (2 * n - 1)) : Regular b (capture n p) (2 * n)
  | backreference (b n : Nat) (likeness : Likeness) : Regular b (backreference n likeness) b

/-- The outcome is the result, and a failure has left the marks as they were. -/
def Agrees (marks : Marks) : MatchOutcome → Option (Nat × Marks) → Prop
  | .ok t, r => r = some (t.pos, t.marks)
  | .error t, r => r = none ∧ marks.toList <+: t.marks.toList

theorem Agrees.mono {marks marks' : Marks} {o : MatchOutcome} {r : Option (Nat × Marks)}
    (h : Agrees marks' o r) (hmarks : marks.toList <+: marks'.toList) : Agrees marks o r := by
  cases o with
  | ok t => exact h
  | error t => exact ⟨h.1, List.IsPrefix.trans hmarks h.2⟩

section Marks

variable {marks : Marks} {i : Nat} (hi : marks.size ≤ i)
include hi

theorem marked_eq (pos : Nat) :
    marked marks i pos = (marks ++ Array.replicate (i - marks.size) none).push (some pos) := by
  have hsize : i + 1 - marks.size = i - marks.size + 1 := by omega
  unfold marked Cursor.mark
  apply Array.ext'
  simp only [hsize, Array.toList_setIfInBounds, Array.toList_append, Array.toList_replicate,
    Array.toList_push]
  rw [List.replicate_succ', ← List.append_assoc, List.set_append_right _ _ (by simp; omega)]
  simp [show i - (marks.size + (i - marks.size)) = 0 by omega]

theorem size_marked (pos : Nat) : (marked marks i pos).size = i + 1 := by
  rw [marked_eq hi, Array.size_push, Array.size_append, Array.size_replicate]
  omega

theorem prefix_marked (pos : Nat) : marks.toList <+: (marked marks i pos).toList := by
  rw [marked_eq hi, Array.toList_push, Array.toList_append, List.append_assoc]
  exact List.prefix_append _ _

end Marks

theorem marked_pair {marks : Marks} {n : Nat} (hm : marks.size = n) (start stop : Nat) :
    marked (marked marks n start) (n + 1) stop = (marks.push (some start)).push (some stop) := by
  have hstart := marked_eq (Nat.le_of_eq hm) start
  have hsize := size_marked (Nat.le_of_eq hm) start
  rw [marked_eq (Nat.le_of_eq hsize), hsize, hstart, hm]
  simp

/-- The marks of a first and a second group. -/
theorem marked_pairs (a b c d : Nat) :
    marked (marked (marked (marked #[] (2 * 1 - 2) a) (2 * 1 - 1) b) (2 * 2 - 2) c) (2 * 2 - 1) d =
      #[some a, some b, some c, some d] := by
  have hfirst : marked (marked #[] (2 * 1 - 2) a) (2 * 1 - 1) b = #[some a, some b] :=
    marked_pair rfl a b
  rw [hfirst]
  exact marked_pair rfl c d

theorem groups_of_marks {m : Match} {a b c d : Nat}
    (h : m.marks = #[some a, some b, some c, some d]) (cs : List Char) :
    m.group cs 1 = Text.slice cs a b ∧ m.group cs 2 = Text.slice cs c d ∧ m.startOf 1 = a ∧
      m.startOf 2 = c := by
  obtain ⟨start, stop, marks⟩ := m
  cases h
  exact ⟨rfl, rfl, rfl, rfl⟩

theorem marks_after {s t : Cursor} (h : s.marks.toList <+: t.marks.toList) (looped : Bool) :
    (s.after looped t).marks = s.marks := by
  cases looped with
  | true => rfl
  | false =>
    apply Array.ext'
    have htake := List.prefix_iff_eq_take.mp h
    simpa [Cursor.after] using htake.symm

section Parts

variable {text : Array Char} {looped : Bool} {s : Cursor} {k : Goal}

theorem getElem?_eq_head? (text : Array Char) (pos : Nat) :
    text[pos]? = (text.toList.drop pos).head? := by
  rw [List.head?_drop, Array.getElem?_toList]

/-- Nothing leads on from a text that starts with another character. -/
def Awaits (first : Option Char) (g : Sequel) : Prop :=
  ∀ c, first = some c → ∀ cs pos marks, cs.head? ≠ some c → g cs pos marks = none

theorem awaits_none (g : Sequel) : Awaits none g := fun _ hc => nomatch hc

theorem agrees_attempt (looped : Bool) {first : Option Char} {g : Sequel} (hg : Awaits first g)
    (here : Nat)
    (hk : ∀ pos reached, Agrees s.marks (k ⟨pos, reached, s.marks⟩)
      (g (text.toList.drop pos) pos s.marks)) :
    Agrees s.marks (attempt text looped first here s k) (g (text.toList.drop here) here s.marks) ∧
      ∀ t, attempt text looped first here s k = .error t → t.marks = s.marks ∧ t.pos = s.pos := by
  have hgoal := hk here here
  unfold attempt
  split_ifs with hfirst
  · cases hout : k ⟨here, here, s.marks⟩ with
    | ok t =>
      rw [hout] at hgoal
      exact ⟨hgoal, fun t ht => nomatch ht⟩
    | error t =>
      rw [hout] at hgoal
      have hmarks := marks_after hgoal.2 looped
      refine ⟨⟨hgoal.1, ?_⟩, ?_⟩
      · exact hmarks ▸ List.prefix_refl _
      · rintro _ ⟨⟩
        exact ⟨hmarks, rfl⟩
  · refine ⟨⟨?_, List.prefix_refl _⟩, by rintro _ ⟨⟩; exact ⟨rfl, rfl⟩⟩
    cases first with
    | none => simp at hfirst
    | some c =>
      refine hg c rfl _ _ _ ?_
      rw [← getElem?_eq_head?]
      simpa using hfirst

theorem agrees_giveBack (looped : Bool) {first : Option Char} {g : Sequel} (hg : Awaits first g)
    (pos extra : Nat) (hk : ∀ pos reached, Agrees s.marks (k ⟨pos, reached, s.marks⟩)
      (g (text.toList.drop pos) pos s.marks)) :
    Agrees s.marks (giveBack text looped first pos extra s k)
      (backOff (fun p => g (text.toList.drop p) p s.marks) pos extra) := by
  induction extra generalizing s with
  | zero =>
    rw [giveBack_zero, backOff]
    exact (agrees_attempt looped hg pos hk).1
  | succ extra ih =>
    obtain ⟨hagrees, herror⟩ := agrees_attempt looped hg (pos + (extra + 1)) hk
    rw [giveBack_succ, backOff]
    cases hout : attempt text looped first (pos + (extra + 1)) s k with
    | ok t =>
      rw [hout] at hagrees
      rw [show g _ _ _ = _ from hagrees]
      rfl
    | error t =>
      rw [hout] at hagrees
      have hmarks := (herror t hout).1
      rw [show g _ _ _ = _ from hagrees.1, Option.none_or]
      have hrest := ih (s := t) (hmarks.symm ▸ hk)
      rwa [hmarks] at hrest

theorem backOff_succ {α : Type} (g : Nat → Option α) (pos n : Nat) :
    backOff g pos (n + 1) = (backOff g (pos + 1) n).or (g pos) := by
  induction n with
  | zero => rfl
  | succ n ih =>
    rw [backOff, ih, backOff, Option.or_assoc]
    congr 2
    omega

theorem drop_eq_cons {pos : Nat} {c : Char} {cs : List Char} (h : text.toList.drop pos = c :: cs) :
    text[pos]? = some c ∧ text.toList.drop (pos + 1) = cs ∧ text.size - pos = cs.length + 1 := by
  have hlength := congrArg List.length h
  rw [List.length_drop, Array.length_toList, List.length_cons] at hlength
  refine ⟨by rw [getElem?_eq_head?, h]; rfl, ?_, hlength⟩
  rw [← List.drop_drop, h]
  rfl

theorem drop_eq_nil {pos : Nat} (h : text.toList.drop pos = []) :
    text[pos]? = none ∧ text.size - pos = 0 := by
  have hlength := congrArg List.length h
  rw [List.length_drop, Array.length_toList] at hlength
  exact ⟨by rw [getElem?_eq_head?, h]; rfl, hlength⟩

theorem countOf_at {pos : Nat} {c : Char} (h : text[pos]? = some c) (set : CharSet)
    (bound : Nat) : countOf text set (bound + 1) pos =
      if set.mem c then countOf text set bound (pos + 1) + 1 else 0 := by
  rw [countOf, h]

theorem countOf_le (text : Array Char) (set : CharSet) (bound pos : Nat) :
    countOf text set bound pos ≤ bound := by
  induction bound generalizing pos with
  | zero => exact Nat.le_refl 0
  | succ bound ih =>
    have hrest := ih (pos + 1)
    rw [countOf]
    split
    · split_ifs <;> omega
    · omega

theorem most_eq (set : CharSet) (g : Sequel) (limit : Option Nat) (pos : Nat) (marks : Marks) :
    most set g limit (text.toList.drop pos) pos marks =
      backOff (fun p => g (text.toList.drop p) p marks) pos
        (countOf text set (min (text.size - pos) (limit.getD (text.size - pos))) pos) := by
  induction hcs : text.toList.drop pos generalizing pos limit with
  | nil =>
    rw [(drop_eq_nil hcs).2, Nat.zero_min, countOf, backOff, hcs, most]
  | cons c cs ih =>
    obtain ⟨hc, hrest, hroom⟩ := drop_eq_cons hcs
    have hstay :
        backOff (fun p => g (text.toList.drop p) p marks) pos 0 = g (c :: cs) pos marks := by
      rw [backOff, hcs]
    rw [most, hroom]
    split_ifs with hgo
    · rw [Bool.and_eq_true, bne_iff_ne] at hgo
      have hbound : min (cs.length + 1) (limit.getD (cs.length + 1)) =
          min cs.length ((limit.map (· - 1)).getD cs.length) + 1 := by
        cases limit with
        | none => simp
        | some n =>
          have hn : n ≠ 0 := fun hn => hgo.2 (by rw [hn])
          simp only [Option.getD_some, Option.map_some]
          omega
      have hnext := ih (limit.map (· - 1)) (pos + 1) hrest
      have hsize : text.size - (pos + 1) = cs.length := by omega
      rw [hsize] at hnext
      rw [hbound, countOf_at hc, if_pos hgo.1, hnext, backOff_succ, hcs]
    · have hnone : countOf text set (min (cs.length + 1) (limit.getD (cs.length + 1))) pos = 0 := by
        rw [Bool.and_eq_true, bne_iff_ne, not_and_or, not_not] at hgo
        rcases hgo with hmem | rfl
        · cases min (cs.length + 1) (limit.getD (cs.length + 1)) with
          | zero => rfl
          | succ n => rw [countOf_at hc, if_neg hmem]
        · rfl
      rw [hnone, hstay]

theorem exactly_most_eq (set : CharSet) (g : Sequel) (least pos : Nat) (marks : Marks) :
    exactly set least (most set g none) (text.toList.drop pos) pos marks =
      if countOf text set (text.size - pos) pos < least then none
      else backOff (fun p => g (text.toList.drop p) p marks) (pos + least)
        (countOf text set (text.size - pos) pos - least) := by
  induction least generalizing pos with
  | zero =>
    rw [exactly, most_eq, Option.getD_none, Nat.min_self, if_neg (Nat.not_lt_zero _)]
    rfl
  | succ least ih =>
    cases hcs : text.toList.drop pos with
    | nil =>
      rw [(drop_eq_nil hcs).2, countOf, if_pos (Nat.succ_pos _)]
      rfl
    | cons c cs =>
      obtain ⟨hc, hrest, hroom⟩ := drop_eq_cons hcs
      have hnext := ih (pos + 1)
      have hsize : text.size - (pos + 1) = cs.length := by omega
      rw [hrest, hsize] at hnext
      rw [exactly, hroom, countOf_at hc, hnext]
      by_cases hmem : set.mem c = true
      · simp only [if_pos hmem, Nat.add_lt_add_iff_right, Nat.add_sub_add_right]
        rw [Nat.add_right_comm pos 1 least, Nat.add_assoc]
      · rw [if_neg hmem, if_neg hmem, if_pos (Nat.succ_pos least)]

theorem agrees_takeMore (set : CharSet) {g : Sequel} (bound : Nat)
    (hbound : bound = text.size - s.pos)
    (hk : ∀ pos reached, Agrees s.marks (k ⟨pos, reached, s.marks⟩)
      (g (text.toList.drop pos) pos s.marks)) :
    Agrees s.marks (takeMore text looped set bound s k)
      (fewest set g (text.toList.drop s.pos) s.pos s.marks) := by
  induction bound generalizing s with
  | zero =>
    have hnil : text.toList.drop s.pos = [] := List.drop_eq_nil_of_le (by simpa using by omega)
    have hhere := hk s.pos s.pos
    rw [hnil] at hhere ⊢
    rw [takeMore, fewest]
    cases hout : k s.here with
    | ok t =>
      rw [show k ⟨s.pos, s.pos, s.marks⟩ = _ from hout] at hhere
      exact hhere
    | error t =>
      rw [show k ⟨s.pos, s.pos, s.marks⟩ = _ from hout] at hhere
      refine ⟨hhere.1, ?_⟩
      simp only [marks_after hhere.2]
      exact List.prefix_refl _
  | succ bound ih =>
    cases hcs : text.toList.drop s.pos with
    | nil =>
      rw [(drop_eq_nil hcs).2] at hbound
      cases hbound
    | cons c cs =>
      obtain ⟨hc, hrest, hroom⟩ := drop_eq_cons hcs
      have hhere := hk s.pos s.pos
      rw [hcs] at hhere
      rw [takeMore, fewest]
      cases hout : k s.here with
      | ok t =>
        rw [show k ⟨s.pos, s.pos, s.marks⟩ = _ from hout] at hhere
        rw [show g _ _ _ = _ from hhere]
        rfl
      | error t =>
        rw [show k ⟨s.pos, s.pos, s.marks⟩ = _ from hout] at hhere
        have hmarks := marks_after hhere.2 looped
        rw [show g _ _ _ = _ from hhere.1, Option.none_or]
        simp only [countOf, hc]
        cases hmem : set.mem c with
        | false =>
          simp only [Bool.false_eq_true, if_false, if_true]
          refine ⟨rfl, ?_⟩
          simp only [hmarks]
          exact List.prefix_refl _
        | true =>
          have hnext := ih (s := ⟨s.pos + 1, if set.isFolded then s.pos + 1 else s.pos, s.marks⟩)
            (by simp only; omega) hk
          rw [hrest] at hnext
          simpa [hmarks] using hnext

theorem agrees_backTo {marks : Marks} {o : MatchOutcome} {r : Option (Nat × Marks)}
    (h : Agrees marks o r) (pos : Nat) : Agrees marks (o.backTo pos) r := by
  cases o <;> exact h

end Parts

theorem Regular.opening_ne {b b' : Nat} {p : Pattern} (h : Regular b p b') :
    p.opening ≠ .nothing := by
  induction h with
  | seq hp hq ihp ihq =>
    rw [opening]
    split
    · next hnothing => exact absurd hnothing ihp
    · next hother => exact hother
  | _ => simp [opening, Pattern.opt, Pattern.manyFewest]

/-- A pattern that opens with a set matches nowhere else. -/
theorem leads_of_opening_set {text : Array Char} {b b' : Nat} {p : Pattern} (h : Regular b p b')
    {set : CharSet} (hset : p.opening = .set set) {g : Sequel} {cs : List Char} {pos : Nat}
    {marks : Marks} (hc : (cs.head?.map set.mem).getD false = false) :
    p.leads text g cs pos marks = none := by
  induction h generalizing g with
  | one b s =>
    obtain rfl : s = set := by simpa [opening] using hset
    cases cs with
    | nil => rfl
    | cons c cs =>
      simp only [List.head?_cons, Option.map_some, Option.getD_some] at hc
      simp [leads, exactly, hc]
  | seq hp hq ihp ihq =>
    rw [opening] at hset
    rw [leads]
    split at hset
    · next hnothing => exact absurd hnothing hp.opening_ne
    · exact ihp hset
  | _ => simp [opening, opt, manyFewest] at hset

theorem awaits_firstChar? {text : Array Char} {b b' : Nat} {q : Pattern} (h : Regular b q b')
    (rest : List Pattern) (g : Sequel) : Awaits (firstChar? (q :: rest)) (q.leads text g) := by
  intro c hc cs pos marks hhead
  rw [firstChar?] at hc
  split at hc
  · next hnothing => exact absurd hnothing h.opening_ne
  · next d hset =>
    obtain rfl : d = c := by simpa using hc
    refine leads_of_opening_set h hset ?_
    cases cs with
    | nil => rfl
    | cons a cs =>
      have hne : ¬d = a := fun he => hhead (by rw [he]; rfl)
      simp [CharSet.mem, hne]
  · cases hc

section Run

variable {text : Array Char}

theorem agrees_branch (looped : Bool) {b b' : Nat} {p : Pattern} (hp : Regular b p b')
    {body : Matcher} (s : Cursor) {k : Goal} {g : Sequel}
    (h : Agrees s.marks (body s.here k) (p.leads text g (text.toList.drop s.pos) s.pos s.marks)) :
    Agrees s.marks (branch text looped p body s k)
        (p.leads text g (text.toList.drop s.pos) s.pos s.marks) ∧
      ∀ t, branch text looped p body s k = .error t → t.marks = s.marks ∧ t.pos = s.pos := by
  unfold branch
  split_ifs with hcandidate
  · cases hout : body s.here k with
    | ok t =>
      rw [hout] at h
      exact ⟨h, fun t ht => nomatch ht⟩
    | error t =>
      rw [hout] at h
      have hmarks := marks_after h.2 looped
      refine ⟨⟨h.1, ?_⟩, ?_⟩
      · exact hmarks ▸ List.prefix_refl _
      · rintro _ ⟨⟩
        exact ⟨hmarks, rfl⟩
  · refine ⟨⟨?_, List.prefix_refl _⟩, by rintro _ ⟨⟩; exact ⟨rfl, rfl⟩⟩
    unfold isCandidate at hcandidate
    split at hcandidate
    · next set hset =>
      simp only [Bool.or_eq_true, not_or, Bool.not_eq_true] at hcandidate
      refine leads_of_opening_set hp hset ?_
      rw [← getElem?_eq_head?]
      exact hcandidate.2
    · simp at hcandidate

/-- The matcher does what the ways of the pattern say. -/
theorem agrees_run {b b' : Nat} {p : Pattern} (hp : Regular b p b') (looped : Bool)
    (rest : List Pattern) {s : Cursor} (hs : s.marks.size ≤ b) {k : Goal} {g : Sequel}
    (hg : Awaits (firstChar? rest) g)
    (hk : ∀ t : Cursor, t.marks.size ≤ b' →
      Agrees t.marks (k t) (g (text.toList.drop t.pos) t.pos t.marks)) :
    Agrees s.marks (p.run text looped rest s k)
      (p.leads text g (text.toList.drop s.pos) s.pos s.marks) := by
  have hnone (g : Sequel) : Awaits (firstChar? []) g := awaits_none g
  induction hp generalizing looped rest s k g with
  | one b set =>
    simp only [run, leads]
    cases hcs : text.toList.drop s.pos with
    | nil =>
      rw [(drop_eq_nil hcs).1]
      exact ⟨rfl, List.prefix_refl _⟩
    | cons c cs =>
      obtain ⟨hc, hrest, -⟩ := drop_eq_cons hcs
      rw [hc]
      cases hmem : set.mem c with
      | false =>
        simp only [exactly, hmem]
        exact ⟨rfl, List.prefix_refl _⟩
      | true =>
        have hnext := hk { s with pos := s.pos + 1 } hs
        simp only [hrest] at hnext
        simpa [exactly, hmem] using hnext
  | anchor b a =>
    simp only [run, leads]
    split_ifs
    · exact hk s hs
    · exact ⟨rfl, List.prefix_refl _⟩
  | seq hp hq ihp ihq =>
    rw [run, leads]
    refine ihp looped _ hs (awaits_firstChar? hq rest g) fun t ht => ?_
    exact ihq looped rest ht hg hk
  | @alt b b' p q hp hq ihp ihq =>
    obtain ⟨hfirst, herror⟩ := agrees_branch looped hp s
      (ihp looped [] (s := s.here) hs (hnone g) hk)
    simp only [run, leads]
    cases hout : branch text looped p (p.run text looped []) s k with
    | ok t =>
      rw [hout] at hfirst
      rw [show p.leads text g _ _ _ = _ from hfirst]
      rfl
    | error t =>
      rw [hout] at hfirst
      obtain ⟨hmarks, hpos⟩ := herror t hout
      have ht : t.marks.size ≤ b := by rwa [hmarks]
      have hsecond := (ihq looped [] ht (hnone g) hk)
      have hsecond' := (agrees_branch looped hq t
        (ihq looped [] (s := t.here) ht (hnone g) hk)).1
      rw [hmarks, hpos] at hsecond hsecond'
      rw [show p.leads text g _ _ _ = _ from hfirst.1, Option.none_or]
      simp only
      split_ifs
      · exact hsecond
      · exact hsecond'
  | many b least set =>
    have hback (extra pos reached : Nat) :=
      agrees_giveBack looped (s := { s with reached := reached }) hg pos extra
        fun pos reached => hk ⟨pos, reached, s.marks⟩ hs
    have hroom : countOf text set (text.size - s.pos) s.pos ≤ text.size - s.pos :=
      countOf_le text set _ _
    rw [leads_most, exactly_most_eq]
    simp only [run, repeatedSet, Option.getD_none, Nat.min_self, reduceCtorEq, if_false]
    by_cases hless : countOf text set (text.size - s.pos) s.pos < least
    · rw [if_pos hless]
      split_ifs <;> exact ⟨rfl, List.prefix_refl _⟩
    · rw [if_neg hless, if_neg (by omega), if_neg hless]
      exact hback _ _ _
  | atMostOne b set =>
    have hback (extra pos reached : Nat) :=
      agrees_giveBack looped (s := { s with reached := reached }) hg pos extra
        fun pos reached => hk ⟨pos, reached, s.marks⟩ hs
    rw [opt, leads_most, exactly, most_eq]
    simp only [run, repeatedSet, Nat.not_lt_zero, if_false, reduceCtorEq, Nat.add_zero,
      Nat.sub_zero]
    exact hback _ _ _
  | manyFewest b set =>
    rw [leads_fewest, manyFewest]
    simp only [run, repeatedSet, Option.getD_none, Nat.min_self, Nat.not_lt_zero, if_false,
      if_true, countOf, Nat.add_zero, Nat.sub_zero]
    exact agrees_takeMore (s := { s with reached := _ }) set _ rfl
      fun pos reached => hk ⟨pos, reached, s.marks⟩ hs
  | @opt b b' p q hle h ih =>
    have hleave := agrees_backTo (hk s.here (Nat.le_trans hs hle)) s.pos
    have honce : Agrees s.marks
        ((seq p q).run text true [] s.here fun t => (k t.here).backTo t.pos)
        ((seq p q).leads text g (text.toList.drop s.pos) s.pos s.marks) :=
      ih true [] (s := s.here) hs (hnone g) fun t ht => agrees_backTo (hk t.here ht) t.pos
    rw [run_opt, leads_opt]
    cases hout : (seq p q).run text true [] s.here fun t => (k t.here).backTo t.pos with
    | ok t =>
      rw [hout] at honce
      rw [honce]
      rfl
    | error t =>
      rw [hout] at honce
      rw [honce.1, Option.none_or]
      exact hleave
  | @capture b n p hn hb h ih =>
    have hsize : s.marks.size ≤ 2 * n - 2 := Nat.le_trans hs hb
    have hmarked : (s.mark (2 * n - 2)).marks.size ≤ 2 * n - 1 := by
      have hstart := size_marked hsize s.pos
      rw [show (s.mark (2 * n - 2)).marks = marked s.marks (2 * n - 2) s.pos from rfl]
      omega
    have hgoal (t : Cursor) (ht : t.marks.size ≤ 2 * n - 1) :
        Agrees t.marks (k (t.mark (2 * n - 1)))
          (g (text.toList.drop t.pos) t.pos (marked t.marks (2 * n - 1) t.pos)) := by
      have hstop := size_marked ht t.pos
      refine (hk (t.mark (2 * n - 1)) ?_).mono (prefix_marked ht t.pos)
      rw [show (t.mark (2 * n - 1)).marks = marked t.marks (2 * n - 1) t.pos from rfl]
      omega
    exact (ih looped [] hmarked (hnone _) hgoal).mono (prefix_marked hsize s.pos)
  | backreference b n likeness =>
    simp only [run, leads]
    rw [show Cursor.captured? ⟨s.pos, s.pos, s.marks⟩ n = s.captured? n from rfl]
    cases s.captured? n with
    | none => exact ⟨rfl, List.prefix_refl _⟩
    | some b =>
      simp only
      split_ifs
      · have hnext := hk { s with pos := s.pos + (b.2 - b.1) } hs
        rwa [← List.drop_drop] at hnext
      · exact ⟨rfl, List.prefix_refl _⟩

end Run

def done : Sequel := fun _ pos marks => some (pos, marks)

theorem tryAt_eq_leads {b : Nat} {p : Pattern} (hp : Regular 0 p b) (cs : List Char) (pos : Nat) :
    p.tryAt cs.toArray pos false =
      (p.leads cs.toArray done (cs.drop pos) pos #[]).map fun r => ⟨pos, r.1, r.2⟩ := by
  have hagrees : Agrees #[] (p.run cs.toArray false [] ⟨pos, pos, #[]⟩ .ok)
      (p.leads cs.toArray done (cs.drop pos) pos #[]) :=
    agrees_run hp false [] (s := ⟨pos, pos, #[]⟩) (Nat.le_refl 0) (awaits_none done) fun _ _ => rfl
  simp only [tryAt, Bool.false_and, Bool.false_eq_true, if_false]
  cases hout : p.run cs.toArray false [] ⟨pos, pos, #[]⟩ fun t => .ok t with
  | ok t =>
    rw [hout] at hagrees
    rw [hagrees]
    rfl
  | error t =>
    rw [hout] at hagrees
    rw [hagrees.1]
    rfl

/-- The text starts with characters that pass the tests, one after the other. -/
def fits : List (Char → Bool) → List Char → Bool
  | [], _ => true
  | _ :: _, [] => false
  | p :: ps, c :: cs => p c && fits ps cs

section Reading

variable {text : Array Char} {g : Sequel} {marks : Marks}

theorem leads_inOrder (text : Array Char) (g : Sequel) (marks : Marks) (sets : List CharSet)
    (cs : List Char) (pos : Nat) :
    (inOrder (sets.map one)).leads text g cs pos marks =
      if fits (sets.map (·.mem)) cs then g (cs.drop sets.length) (pos + sets.length) marks
      else none := by
  induction sets generalizing cs pos with
  | nil => rfl
  | cons set sets ih =>
    have hstep : (inOrder ((set :: sets).map one)).leads text g cs pos marks =
        (one set).leads text ((inOrder (sets.map one)).leads text g) cs pos marks := by
      cases sets <;> rfl
    rw [hstep, leads]
    cases cs with
    | nil => rfl
    | cons c cs =>
      have hshift : pos + 1 + sets.length = pos + (set :: sets).length := by
        rw [List.length_cons]
        omega
      rw [exactly, exactly, List.map_cons, fits, ih, hshift]
      cases set.mem c <;> rfl

theorem leads_one (set : CharSet) (cs : List Char) (pos : Nat) :
    (one set).leads text g cs pos marks =
      if fits [set.mem] cs then g (cs.drop 1) (pos + 1) marks else none :=
  leads_inOrder text g marks [set] cs pos

theorem most_cons_of_mem {set : CharSet} {c : Char} (hc : set.mem c = true) (cs : List Char)
    (pos : Nat) : most set g none (c :: cs) pos marks =
      (most set g none cs (pos + 1) marks).or (g (c :: cs) pos marks) := by
  simp [most, hc]

theorem add_length_takeWhile_cons {set : CharSet} {c : Char} (hc : set.mem c = true)
    (cs : List Char) (pos : Nat) : pos + ((c :: cs).takeWhile set.mem).length =
      pos + 1 + (cs.takeWhile set.mem).length := by
  rw [List.takeWhile_cons_of_pos hc, List.length_cons]
  omega

theorem most_of_isSome {set : CharSet} {cs : List Char} {pos : Nat}
    (h : (g (cs.dropWhile set.mem) (pos + (cs.takeWhile set.mem).length) marks).isSome) :
    most set g none cs pos marks =
      g (cs.dropWhile set.mem) (pos + (cs.takeWhile set.mem).length) marks := by
  induction cs generalizing pos with
  | nil => rfl
  | cons c cs ih =>
    cases hmem : set.mem c with
    | false => simp [most, hmem]
    | true =>
      rw [add_length_takeWhile_cons hmem, List.dropWhile_cons_of_pos hmem] at h ⊢
      obtain ⟨r, hr⟩ := Option.isSome_iff_exists.mp h
      rw [most_cons_of_mem hmem, ih h, hr, Option.some_or]

/-- A repetition of any character takes all that is left. -/
theorem leads_rest {ds : List Char} {pos : Nat} (h : (g [] (pos + ds.length) marks).isSome) :
    (many (one .all)).leads text g ds pos marks = g [] (pos + ds.length) marks := by
  have htake : ds.takeWhile CharSet.all.mem = ds := List.takeWhile_eq_self_iff.mpr fun c _ => rfl
  have hdrop : ds.dropWhile CharSet.all.mem = [] := List.dropWhile_eq_nil_iff.mpr fun c _ => rfl
  have hmost : most .all g none ds pos marks = _ := most_of_isSome (by rwa [htake, hdrop])
  rw [htake, hdrop] at hmost
  exact hmost

theorem isSome_most {set : CharSet} {cs : List Char} {pos : Nat} (h : (g cs pos marks).isSome) :
    (most set g none cs pos marks).isSome := by
  cases cs with
  | nil => exact h
  | cons c cs =>
    rw [most]
    split_ifs
    · rw [Option.isSome_or, h, Bool.or_true]
    · exact h

/-- Nothing is given back to what goes on further on if it goes on at all. -/
theorem most_of_steady {set : CharSet}
    (h : ∀ c cs pos, set.mem c = true → (g (c :: cs) pos marks).isSome →
      (g cs (pos + 1) marks).isSome) (cs : List Char) (pos : Nat) :
    most set g none cs pos marks =
      g (cs.dropWhile set.mem) (pos + (cs.takeWhile set.mem).length) marks := by
  induction cs generalizing pos with
  | nil => rfl
  | cons c cs ih =>
    cases hmem : set.mem c with
    | false => simp [most, hmem]
    | true =>
      rw [add_length_takeWhile_cons hmem, List.dropWhile_cons_of_pos hmem, ← ih,
        most_cons_of_mem hmem]
      cases hhere : g (c :: cs) pos marks with
      | none => rw [Option.or_none]
      | some r =>
        have hnext : (most set g none cs (pos + 1) marks).isSome :=
          isSome_most (h c cs pos hmem (by rw [hhere]; rfl))
        obtain ⟨r', hr'⟩ := Option.isSome_iff_exists.mp hnext
        rw [hr', Option.some_or]

/-- Nothing is given back to what cannot start with a character of the set. -/
theorem most_of_rigid {set : CharSet}
    (h : ∀ c cs pos, set.mem c = true → g (c :: cs) pos marks = none) (cs : List Char) (pos : Nat) :
    most set g none cs pos marks =
      g (cs.dropWhile set.mem) (pos + (cs.takeWhile set.mem).length) marks := by
  refine most_of_steady (fun c cs pos hmem hsome => ?_) cs pos
  rw [h c cs pos hmem] at hsome
  cases hsome

theorem exactly_eq_some {set : CharSet} {n : Nat} {cs : List Char} {pos : Nat} {r : Nat × Marks}
    (h : exactly set n g cs pos marks = some r) : ∃ as ds, cs = as ++ ds ∧ as.length = n ∧
      (∀ c ∈ as, set.mem c = true) ∧ g ds (pos + n) marks = some r := by
  induction n generalizing cs pos with
  | zero => exact ⟨[], cs, rfl, rfl, by simp, h⟩
  | succ n ih =>
    cases cs with
    | nil => cases h
    | cons c cs =>
      rw [exactly] at h
      split_ifs at h with hc
      obtain ⟨as, ds, rfl, hlength, hmem, hg⟩ := ih h
      rw [Nat.add_assoc, Nat.add_comm 1 n] at hg
      exact ⟨c :: as, ds, rfl, congrArg (· + 1) hlength, List.forall_mem_cons.mpr ⟨hc, hmem⟩, hg⟩

theorem most_eq_some {set : CharSet} {cs : List Char} {pos : Nat} {r : Nat × Marks}
    (h : most set g none cs pos marks = some r) : ∃ as ds, cs = as ++ ds ∧
      (∀ c ∈ as, set.mem c = true) ∧ g ds (pos + as.length) marks = some r := by
  induction cs generalizing pos with
  | nil => exact ⟨[], [], rfl, by simp, h⟩
  | cons c cs ih =>
    have hstay (h : g (c :: cs) pos marks = some r) : ∃ as ds, c :: cs = as ++ ds ∧
        (∀ c ∈ as, set.mem c = true) ∧ g ds (pos + as.length) marks = some r :=
      ⟨[], c :: cs, rfl, by simp, h⟩
    rw [most] at h
    split_ifs at h with hc
    · rcases Option.or_eq_some_iff.mp h with h | ⟨-, h⟩
      · obtain ⟨as, ds, rfl, hmem, hg⟩ := ih h
        have hset : set.mem c = true := (Bool.and_eq_true _ _ ▸ hc).1
        rw [Nat.add_assoc, Nat.add_comm 1 as.length] at hg
        exact ⟨c :: as, ds, rfl, List.forall_mem_cons.mpr ⟨hset, hmem⟩, hg⟩
      · exact hstay h
    · exact hstay h

/-- What a repetition took, when it led on. -/
theorem leads_many_eq_some {set : CharSet} {least : Nat} {cs : List Char} {pos : Nat}
    {r : Nat × Marks}
    (h : (repeated (one set) least none .most).leads text g cs pos marks = some r) :
    ∃ as ds, cs = as ++ ds ∧ least ≤ as.length ∧ (∀ c ∈ as, set.mem c = true) ∧
      g ds (pos + as.length) marks = some r := by
  rw [leads_most] at h
  obtain ⟨as, ds, rfl, hlength, hmem, hg⟩ := exactly_eq_some h
  obtain ⟨bs, es, rfl, hmem', hg⟩ := most_eq_some hg
  refine ⟨as ++ bs, es, (List.append_assoc ..).symm, ?_, ?_, ?_⟩
  · rw [List.length_append, hlength]
    exact Nat.le_add_right least bs.length
  · exact List.forall_mem_append.mpr ⟨hmem, hmem'⟩
  · rwa [List.length_append, hlength, ← Nat.add_assoc]

theorem leads_one_eq_some {set : CharSet} {cs : List Char} {pos : Nat} {r : Nat × Marks}
    (h : (one set).leads text g cs pos marks = some r) :
    ∃ c ds, cs = c :: ds ∧ set.mem c = true ∧ g ds (pos + 1) marks = some r := by
  obtain ⟨as, ds, rfl, hlength, hmem, hg⟩ := exactly_eq_some h
  obtain ⟨c, rfl⟩ := List.length_eq_one_iff.mp hlength
  exact ⟨c, ds, rfl, hmem c (List.mem_singleton_self c), hg⟩

/-- How far it is to the end of the first match of what a reader reads. -/
def firstAt (r : List Char → Option Nat) : List Char → Option Nat
  | [] => r []
  | c :: cs => (r (c :: cs)).or ((firstAt r cs).map (· + 1))

theorem fewest_all {r : List Char → Option Nat} {P : List Char → Nat → Prop}
    (hP : ∀ c cs pos, P (c :: cs) pos → P cs (pos + 1))
    (hg : ∀ cs pos, P cs pos → g cs pos marks = (r cs).map fun n => (pos + n, marks))
    {cs : List Char} {pos : Nat} (h : P cs pos) :
    fewest .all g cs pos marks = (firstAt r cs).map fun n => (pos + n, marks) := by
  induction cs generalizing pos with
  | nil => exact hg [] pos h
  | cons c cs ih =>
    rw [fewest, hg _ _ h, ih (hP c cs pos h), firstAt]
    cases r (c :: cs) with
    | some n => rfl
    | none =>
      cases firstAt r cs with
      | none => rfl
      | some n => simp [CharSet.mem]; omega

end Reading

end CampaignCheck.Pattern

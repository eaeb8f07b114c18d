import CampaignCheck.Proofs.Pattern.Bounds
import Mathlib.Order.Basic

namespace CampaignCheck.Pattern

def endOf : MatchOutcome → Option Nat
  | .ok t => some t.pos
  | .error _ => none

/-- The first of the offsets from `pos + extra` down to `pos` that leads on. -/
def backOff {α : Type} (g : Nat → Option α) (pos : Nat) : Nat → Option α
  | 0 => g pos
  | extra + 1 => (g (pos + (extra + 1))).or (backOff g pos extra)

/-- Where the first way to match leads that leads on; `g` tells where what comes after leads. -/
def ends (text : Array Char) : Pattern → (Nat → Option Nat) → Nat → Option Nat
  | empty, g, pos => g pos
  | one set, g, pos => if (text[pos]?.map set.mem).getD false then g (pos + 1) else none
  | anchor a, g, pos => if a.holds text pos then g pos else none
  | seq p q, g, pos => p.ends text (q.ends text g) pos
  | alt p q, g, pos => (p.ends text g pos).or (q.ends text g pos)
  | repeated (one set) _ _ _, g, pos => backOff g pos (countOf text set (text.size - pos) pos)
  | capture _ p, g, pos => p.ends text g pos
  | ahead holds p, g, pos => if (p.ends text some pos).isSome = holds then g pos else none
  | behind holds width p, g, pos =>
    if width ≤ pos then
      if (p.ends text some (pos - width)).isSome = holds then g pos else none
    else if holds then none
    else g pos
  | _, _, _ => none

/-- The pattern is built from characters, anchors, groups, alternatives, looks around and
unbounded greedy repetitions of single characters. -/
inductive Simple : Pattern → Prop
  | empty : Simple empty
  | one (set : CharSet) : Simple (one set)
  | anchor (a : Anchor) : Simple (anchor a)
  | seq {p q : Pattern} (hp : Simple p) (hq : Simple q) : Simple (seq p q)
  | alt {p q : Pattern} (hp : Simple p) (hq : Simple q) : Simple (alt p q)
  | many (set : CharSet) : Simple (many (one set))
  | capture (n : Nat) {p : Pattern} (hp : Simple p) : Simple (capture n p)
  | ahead (holds : Bool) {p : Pattern} (hp : Simple p) : Simple (ahead holds p)
  | behind (holds : Bool) (width : Nat) {p : Pattern} (hp : Simple p) :
      Simple (behind holds width p)

variable {text : Array Char}

/-- Nothing leads on from an offset without the character. -/
def Needs (text : Array Char) (first : Option Char) (g : Nat → Option Nat) : Prop :=
  ∀ c, first = some c → ∀ pos, text[pos]? ≠ some c → g pos = none

theorem ends_of_opening_nothing {p : Pattern} (hp : Simple p) (h : p.opening = .nothing)
    (g : Nat → Option Nat) (pos : Nat) : p.ends text g pos = g pos := by
  induction hp generalizing g pos with
  | empty => rfl
  | @seq p q hp hq ihp ihq =>
    rw [opening] at h
    split at h
    · next hnothing =>
      rw [ends, ihp hnothing]
      exact ihq h g pos
    · next hother => exact absurd h hother
  | _ => simp [opening, many] at h

/-- A pattern that opens with a set matches nowhere else. -/
theorem ends_of_opening_set {p : Pattern} (hp : Simple p) {set : CharSet}
    (h : p.opening = .set set) {g : Nat → Option Nat} {pos : Nat}
    (hc : (text[pos]?.map set.mem).getD false = false) : p.ends text g pos = none := by
  induction hp generalizing g pos with
  | one s =>
    obtain rfl : s = set := by simpa [opening] using h
    simp [ends, hc]
  | @seq p q hp hq ihp ihq =>
    rw [opening] at h
    rw [ends]
    split at h
    · next hnothing =>
      rw [ends_of_opening_nothing hp hnothing]
      exact ihq h hc
    · exact ihp h hc
  | _ => simp [opening, many] at h

theorem needs_firstChar? {q : Pattern} (hq : Simple q) {rest : List Pattern}
    {g : Nat → Option Nat} (hg : Needs text (firstChar? rest) g) :
    Needs text (firstChar? (q :: rest)) (q.ends text g) := by
  intro c hc pos hpos
  rw [firstChar?] at hc
  split at hc
  · next hnothing =>
    rw [ends_of_opening_nothing hq hnothing]
    exact hg c hc pos hpos
  · next d hset =>
    obtain rfl : d = c := by simpa using hc
    refine ends_of_opening_set hq hset ?_
    cases ht : text[pos]? with
    | none => rfl
    | some a =>
      have hne : ¬d = a := fun he => hpos (by rw [ht, he])
      simp [CharSet.mem, hne]
  · cases hc

theorem needs_none (g : Nat → Option Nat) : Needs text none g := fun _ hc => nomatch hc

theorem endOf_attempt {looped : Bool} {first : Option Char} {k : Goal} {g : Nat → Option Nat}
    (hk : ∀ t, endOf (k t) = g t.pos) (hg : Needs text first g) (here : Nat) (s : Cursor) :
    endOf (attempt text looped first here s k) = g here := by
  have hgoal := hk { s with pos := here, reached := here }
  simp only at hgoal
  unfold attempt
  split_ifs with hfirst
  · rw [← hgoal]
    cases k { s with pos := here, reached := here } <;> rfl
  · cases first with
    | none => simp at hfirst
    | some c => exact (hg c rfl here (by simpa using hfirst)).symm

theorem endOf_giveBack {looped : Bool} {first : Option Char} {k : Goal} {g : Nat → Option Nat}
    (hk : ∀ t, endOf (k t) = g t.pos) (hg : Needs text first g) (pos extra : Nat) (s : Cursor) :
    endOf (giveBack text looped first pos extra s k) = backOff g pos extra := by
  induction extra generalizing s with
  | zero => rw [giveBack_zero, endOf_attempt hk hg, backOff]
  | succ extra ih =>
    rw [giveBack_succ, backOff, ← endOf_attempt hk hg (pos + (extra + 1)) s]
    cases attempt text looped first (pos + (extra + 1)) s k with
    | ok r => rfl
    | error t => exact ih t

theorem endOf_branch {looped : Bool} {p : Pattern} (hp : Simple p) {body : Matcher} {k : Goal}
    {g : Nat → Option Nat} {s : Cursor} (h : endOf (body s.here k) = p.ends text g s.pos) :
    endOf (branch text looped p body s k) = p.ends text g s.pos := by
  unfold branch
  split_ifs with hcandidate
  · rw [← h]
    cases body s.here k <;> rfl
  · unfold isCandidate at hcandidate
    split at hcandidate
    · next set hset =>
      have hout : (text[s.pos]?.map set.mem).getD false = false := by
        simp only [Bool.or_eq_true, not_or, Bool.not_eq_true] at hcandidate
        exact hcandidate.2
      exact (ends_of_opening_set hp hset hout).symm
    · simp at hcandidate

theorem pos_of_branch_eq_error {looped : Bool} {p : Pattern} {body : Matcher} {k : Goal}
    {s t : Cursor} (h : branch text looped p body s k = .error t) : t.pos = s.pos := by
  unfold branch at h
  split_ifs at h
  · split at h
    · cases h
    · cases h
      rfl
  · cases h
    rfl

theorem endOf_condition {looped holds : Bool} {start : Nat} {body : Matcher} {p : Pattern}
    {k : Goal} {g : Nat → Option Nat} (hk : ∀ t, endOf (k t) = g t.pos)
    (h : ∀ s : Cursor, endOf (body s fun t => .ok t.here) = p.ends text some s.pos) (s : Cursor) :
    endOf (condition looped holds start body s k) =
      if (p.ends text some start).isSome = holds then g s.pos else none := by
  have hbody := h { s with pos := start, reached := start }
  simp only at hbody
  rw [← hbody]
  unfold condition alone
  cases body { s with pos := start, reached := start } fun t => .ok t.here with
  | ok t =>
    cases holds with
    | true => simpa [endOf] using hk { t with pos := s.pos }
    | false => simp [endOf]
  | error t =>
    cases holds with
    | true => simp [endOf]
    | false =>
      have hafter : endOf (k (s.after looped t)) = g s.pos := hk _
      simpa [endOf] using hafter

/-- The matcher ends where the ways of the pattern lead. -/
theorem endOf_run {p : Pattern} (hp : Simple p) (looped : Bool) (rest : List Pattern) (s : Cursor)
    {k : Goal} {g : Nat → Option Nat} (hk : ∀ t, endOf (k t) = g t.pos)
    (hg : Needs text (firstChar? rest) g) :
    endOf (p.run text looped rest s k) = p.ends text g s.pos := by
  -- Inside groups, alternatives and looks around nothing is known of what follows.
  have hnone (g : Nat → Option Nat) : Needs text (firstChar? []) g := needs_none g
  induction hp generalizing looped rest s k g with
  | empty => exact hk s
  | one set =>
    simp only [run, ends]
    cases text[s.pos]? with
    | none => rfl
    | some c =>
      cases hc : set.mem c with
      | true => simpa [hc] using hk { s with pos := s.pos + 1 }
      | false => simp [hc, endOf]
  | anchor a =>
    simp only [run, ends]
    split_ifs
    · exact hk s
    · rfl
  | seq hp hq ihp ihq =>
    rw [run, ends]
    exact ihp looped _ s (fun t => ihq looped rest t hk hg) (needs_firstChar? hq hg)
  | @alt p q hp hq ihp ihq =>
    have hfirst : endOf (branch text looped p (p.run text looped []) s k) =
        p.ends text g s.pos := endOf_branch hp (ihp looped [] s.here hk (hnone g))
    rw [run, ends]
    cases hb : branch text looped p (p.run text looped []) s k with
    | ok r =>
      rw [hb] at hfirst
      rw [← hfirst]
      rfl
    | error t =>
      rw [hb] at hfirst
      rw [← hfirst, ← pos_of_branch_eq_error hb]
      simp only [endOf, Option.none_or]
      split_ifs
      · exact ihq looped [] t hk (hnone g)
      · exact endOf_branch hq (ihq looped [] t.here hk (hnone g))
  | many set =>
    simp only [many, run, ends, repeatedSet]
    simpa using endOf_giveBack hk hg s.pos _ _
  | capture n hp ih =>
    exact ih looped [] _ (fun t => hk (t.mark (2 * n - 1))) (hnone g)
  | ahead holds hp ih =>
    exact endOf_condition hk (fun t => ih looped [] t (fun _ => rfl) (hnone some)) s
  | behind holds width hp ih =>
    rw [run, ends]
    by_cases hwidth : width ≤ s.pos
    · rw [if_pos hwidth, if_pos hwidth]
      exact endOf_condition hk (fun t => ih looped [] t (fun _ => rfl) (hnone some)) s
    · rw [if_neg hwidth, if_neg hwidth]
      cases holds with
      | true => rfl
      | false => exact hk s

def hit? (p : Pattern) (cs : List Char) (pos : Nat) : Option Nat := p.ends cs.toArray some pos

theorem map_stop_tryAt {p : Pattern} (hp : Simple p) (cs : List Char) (pos : Nat) :
    (p.tryAt cs.toArray pos false).map (·.stop) = p.hit? cs pos := by
  have hend : endOf (p.run cs.toArray false [] ⟨pos, pos, #[]⟩ fun t =>
      if false && t.pos == pos then .error t else .ok t) = p.ends cs.toArray some pos :=
    endOf_run hp false [] _ (fun _ => rfl) (needs_none some)
  unfold tryAt hit?
  rw [← hend]
  simp only
  split
  · next t ht => rw [ht]; rfl
  · next t ht => rw [ht]; rfl

theorem hit?_of_tryAt {p : Pattern} (hp : Simple p) {cs : List Char} {pos : Nat} {m : Match}
    (h : p.tryAt cs.toArray pos false = some m) :
    m.start = pos ∧ p.hit? cs m.start = some m.stop := by
  have hstart := start_of_tryAt h
  refine ⟨hstart, ?_⟩
  rw [hstart, ← map_stop_tryAt hp, h]
  rfl

theorem tryFrom_hit? {p : Pattern} (hp : Simple p) {cs : List Char} {n pos : Nat} {m : Match}
    (h : p.tryFrom cs.toArray n pos false = some m) :
    p.hit? cs m.start = some m.stop ∧ pos ≤ m.start ∧
      ∀ q, pos ≤ q → q < m.start → p.hit? cs q = none := by
  induction n generalizing pos with
  | zero =>
    obtain ⟨rfl, hm⟩ := hit?_of_tryAt hp h
    exact ⟨hm, Nat.le_refl _, fun q hq hq' => absurd hq' (Nat.not_lt.mpr hq)⟩
  | succ n ih =>
    rw [tryFrom] at h
    split at h
    · next k hk =>
      cases h
      obtain ⟨rfl, hm⟩ := hit?_of_tryAt hp hk
      exact ⟨hm, Nat.le_refl _, fun q hq hq' => absurd hq' (Nat.not_lt.mpr hq)⟩
    · next hnone =>
      obtain ⟨hm, hpos, hbefore⟩ := ih h
      refine ⟨hm, Nat.le_of_succ_le hpos, fun q hq hq' => ?_⟩
      rcases Nat.eq_or_lt_of_le hq with rfl | hlt
      · rw [← map_stop_tryAt hp, hnone]
        rfl
      · exact hbefore q hlt hq'

theorem tryFrom_eq_none {p : Pattern} (hp : Simple p) {cs : List Char} {n pos : Nat}
    (h : p.tryFrom cs.toArray n pos false = none) :
    ∀ q, pos ≤ q → q ≤ pos + n → p.hit? cs q = none := by
  induction n generalizing pos with
  | zero =>
    intro q hq hq'
    obtain rfl : pos = q := by omega
    rw [tryFrom] at h
    rw [← map_stop_tryAt hp, h]
    rfl
  | succ n ih =>
    rw [tryFrom] at h
    split at h
    · cases h
    · next hnone =>
      intro q hq hq'
      rcases Nat.eq_or_lt_of_le hq with rfl | hlt
      · rw [← map_stop_tryAt hp, hnone]
        rfl
      · exact ih h q hlt (by omega)

/-- The leftmost match. -/
theorem find?_hit? {p : Pattern} (hp : Simple p) {cs : List Char} {m : Match}
    (h : p.find? cs = some m) :
    p.hit? cs m.start = some m.stop ∧ ∀ q < m.start, p.hit? cs q = none := by
  simp only [find?, findFrom?, Nat.zero_le, if_true] at h
  obtain ⟨hm, -, hbefore⟩ := tryFrom_hit? hp h
  exact ⟨hm, fun q hq => hbefore q (Nat.zero_le q) hq⟩

theorem hit?_of_find?_eq_none {p : Pattern} (hp : Simple p) {cs : List Char}
    (h : p.find? cs = none) : ∀ q ≤ cs.length, p.hit? cs q = none := by
  simp only [find?, findFrom?, Nat.zero_le, if_true] at h
  intro q hq
  exact tryFrom_eq_none hp h q (Nat.zero_le q) (by simpa using hq)

theorem exists_find?_iff {p : Pattern} (hp : Simple p) {cs : List Char} :
    (∃ m, p.find? cs = some m) ↔ ∃ pos ≤ cs.length, ∃ stop, p.hit? cs pos = some stop := by
  constructor
  · rintro ⟨m, hm⟩
    exact ⟨m.start, (finds_of_find? hm).1, m.stop, (find?_hit? hp hm).1⟩
  · rintro ⟨pos, hpos, stop, hstop⟩
    cases hfirst : p.find? cs with
    | some m => exact ⟨m, rfl⟩
    | none =>
      have hnone := hit?_of_find?_eq_none hp hfirst pos hpos
      rw [hstop] at hnone
      cases hnone

def Full (p : Pattern) (cs : List Char) : Prop := ∀ pos stop, p.hit? cs pos = some stop → pos < stop

/-- No match is empty, and none starts inside another. -/
def Apart (p : Pattern) (cs : List Char) : Prop :=
  ∀ pos stop, p.hit? cs pos = some stop →
    pos < stop ∧ ∀ q, pos < q → q < stop → p.hit? cs q = none

theorem Apart.full {p : Pattern} {cs : List Char} (h : p.Apart cs) : p.Full cs :=
  fun pos stop hhit => (h pos stop hhit).1

theorem Match.isEmpty_of_lt {m : Match} (h : m.start < m.stop) : m.isEmpty = false :=
  beq_false_of_ne (Nat.ne_of_lt h)

theorem hit?_of_mem_scan {p : Pattern} (hp : Simple p) {cs : List Char} (hf : p.Full cs)
    {bound pos : Nat} {m : Match} (h : m ∈ p.scan cs.toArray bound pos false) :
    p.hit? cs m.start = some m.stop := by
  induction bound generalizing pos with
  | zero => simp [scan] at h
  | succ bound ih =>
    rw [scan] at h
    split at h
    · next k hk =>
      have hhit := (tryFrom_hit? hp hk).1
      rw [Match.isEmpty_of_lt (hf _ _ hhit)] at h
      rcases List.mem_cons.mp h with rfl | h
      · exact hhit
      · exact ih h
    · simp at h

theorem hit?_of_mem_findAll {p : Pattern} (hp : Simple p) {cs : List Char} (hf : p.Full cs)
    {m : Match} (h : m ∈ p.findAll cs) : p.hit? cs m.start = some m.stop :=
  hit?_of_mem_scan hp hf h

theorem mem_scan_of_hit? {p : Pattern} (hp : Simple p) {cs : List Char} (ha : p.Apart cs)
    {bound pos start stop : Nat} (hb : cs.length < bound + pos) (hpos : pos ≤ start)
    (hstart : start ≤ cs.length) (h : p.hit? cs start = some stop) :
    ∃ m ∈ p.scan cs.toArray bound pos false, m.start = start ∧ m.stop = stop := by
  induction bound generalizing pos with
  | zero => omega
  | succ bound ih =>
    rw [scan]
    split
    · next k hk =>
      obtain ⟨hhit, hle, hbefore⟩ := tryFrom_hit? hp hk
      obtain ⟨hlt, hinside⟩ := ha _ _ hhit
      rw [Match.isEmpty_of_lt hlt]
      rcases Nat.lt_trichotomy start k.start with hless | rfl | hmore
      · rw [hbefore start hpos hless] at h
        cases h
      · refine ⟨k, List.mem_cons_self, rfl, ?_⟩
        rw [hhit] at h
        exact Option.some.inj h
      · have hbehind : k.stop ≤ start := by
          by_contra hin
          rw [hinside start hmore (by omega)] at h
          cases h
        obtain ⟨m, hm, hbounds⟩ := ih (by omega) hbehind
        exact ⟨m, List.mem_cons_of_mem k hm, hbounds⟩
    · next hnone =>
      have hnothing := tryFrom_eq_none hp hnone start hpos (by simp; omega)
      rw [h] at hnothing
      cases hnothing

/-- A scan stops at every match. -/
theorem mem_findAll_iff {p : Pattern} (hp : Simple p) {cs : List Char} (ha : p.Apart cs)
    {start stop : Nat} :
    (∃ m ∈ p.findAll cs, m.start = start ∧ m.stop = stop) ↔
      start ≤ cs.length ∧ p.hit? cs start = some stop := by
  constructor
  · rintro ⟨m, hm, rfl, rfl⟩
    exact ⟨(finds_of_mem_findAll hm).1, hit?_of_mem_findAll hp ha.full hm⟩
  · rintro ⟨hstart, h⟩
    exact mem_scan_of_hit? hp ha (by simp; omega) (Nat.zero_le start) hstart h

section Replacing

/-- What is left of a text from an offset on when every match is replaced by the same text. -/
inductive Replaced (p : Pattern) (new cs : List Char) : Nat → List Char → Prop
  | done : Replaced p new cs cs.length []
  | keep {pos : Nat} {c : Char} {rest : List Char} (h : p.hit? cs pos = none)
      (hc : cs[pos]? = some c) (hrest : Replaced p new cs (pos + 1) rest) :
      Replaced p new cs pos (c :: rest)
  | change {pos stop : Nat} {rest : List Char} (h : p.hit? cs pos = some stop)
      (hrest : Replaced p new cs stop rest) : Replaced p new cs pos (new ++ rest)

variable {p : Pattern} {new cs : List Char}

theorem Replaced.keep_slice {pos start : Nat} {rest : List Char} (hle : pos ≤ start)
    (hstart : start ≤ cs.length) (h : ∀ q, pos ≤ q → q < start → p.hit? cs q = none)
    (hrest : Replaced p new cs start rest) :
    Replaced p new cs pos (Text.slice cs pos start ++ rest) := by
  obtain ⟨n, rfl⟩ := Nat.exists_eq_add_of_le hle
  induction n generalizing pos with
  | zero => simpa [Text.slice] using hrest
  | succ n ih =>
    have hlt : pos < cs.length := by omega
    have hsplit : Text.slice cs pos (pos + (n + 1)) =
        cs[pos] :: Text.slice cs (pos + 1) (pos + (n + 1)) := by
      rw [Text.slice, List.drop_eq_getElem_cons (by simp; omega), List.getElem_take, Text.slice]
    have hshift : pos + (n + 1) = pos + 1 + n := by omega
    rw [hsplit, List.cons_append]
    refine .keep (h pos (Nat.le_refl _) (by omega)) (List.getElem?_eq_getElem hlt) ?_
    rw [hshift] at hrest h hstart ⊢
    exact ih (Nat.le_add_right _ _) hstart
      (fun q hq hq' => h q (Nat.le_of_succ_le hq) hq') hrest

theorem replaced_spliceFrom (hp : Simple p) (hf : p.Full cs) {bound pos : Nat}
    (hpos : pos ≤ cs.length) (hb : cs.length < bound + pos) :
    Replaced p new cs pos
      (spliceFrom cs (fun _ => new) pos (p.scan cs.toArray bound pos false)) := by
  induction bound generalizing pos with
  | zero => omega
  | succ bound ih =>
    rw [scan]
    split
    · next m hm =>
      obtain ⟨hhit, hle, hbefore⟩ := tryFrom_hit? hp hm
      obtain ⟨hstart, hstop⟩ := finds_of_tryFrom hpos hm
      have hlt := hf _ _ hhit
      rw [Match.isEmpty_of_lt hlt, spliceFrom, List.append_assoc]
      exact .keep_slice hle hstop.1 hbefore (.change hhit (ih hstop.stop_le (by omega)))
    · next hnone =>
      have hnothing := tryFrom_eq_none hp hnone
      have hslice : Text.slice cs pos cs.length = cs.drop pos := by
        rw [Text.slice, List.take_length]
      have hkept : Replaced p new cs pos (Text.slice cs pos cs.length ++ []) :=
        .keep_slice hpos (Nat.le_refl _) (fun q hq hq' => hnothing q hq (by simp; omega)) .done
      rw [hslice, List.append_nil] at hkept
      exact hkept

theorem replaced_replaceAll (hp : Simple p) (hf : p.Full cs) :
    Replaced p new cs 0 (p.replaceAll (fun _ => new) cs) :=
  replaced_spliceFrom hp hf (Nat.zero_le _) (by simp; omega)

end Replacing

section Signs

/-- The character at an offset is in the set. -/
def sees (set : CharSet) (cs : List Char) (pos : Nat) : Bool := (cs[pos]?.map set.mem).getD false

/-- The character before an offset is in the set. -/
def preceded (set : CharSet) (cs : List Char) : Nat → Bool
  | 0 => false
  | pos + 1 => sees set cs pos

theorem sees_char (c : Char) (cs : List Char) (pos : Nat) :
    sees (.char c) cs pos = true ↔ cs[pos]? = some c := by
  rw [sees]
  cases cs[pos]? with
  | none => simp
  | some d =>
    simp only [Option.map_some, Option.getD_some, CharSet.mem, beq_iff_eq, Option.some.injEq]
    exact eq_comm

variable (set : CharSet) (cs : List Char) (g : Nat → Option Nat) (pos : Nat)

theorem ends_one : (one set).ends cs.toArray g pos =
    if sees set cs pos then g (pos + 1) else none := by
  rw [ends, List.getElem?_toArray]
  rfl

theorem ends_unless_ahead : (ahead false (one set)).ends cs.toArray g pos =
    if sees set cs pos then none else g pos := by
  rw [ends, ends_one]
  cases sees set cs pos <;> rfl

theorem ends_unless_behind : (behind false 1 (one set)).ends cs.toArray g pos =
    if preceded set cs pos then none else g pos := by
  cases pos with
  | zero => rfl
  | succ pos =>
    rw [ends, if_pos (Nat.le_add_left 1 pos), Nat.add_sub_cancel, ends_one, preceded]
    cases sees set cs pos <;> rfl

end Signs

end CampaignCheck.Pattern

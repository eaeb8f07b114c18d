import CampaignCheck.Pattern.Search

namespace CampaignCheck

/-- The offsets of a cursor lie in a text of `n` characters, and its marks are as asked. -/
structure Cursor.Within (n : Nat) (M : Array (Option Nat) → Prop) (s : Cursor) : Prop where
  pos : s.pos ≤ n
  reached : s.reached ≤ n
  marks : M s.marks

/-- The condition on marks outlives failed attempts, and the marks of the groups given. -/
structure MarksKept (n : Nat) (groups : Nat → Prop) (M : Array (Option Nat) → Prop) : Prop where
  take : ∀ a b, M a → M b → M (b.take a.size)
  mark : ∀ (s : Cursor) (g i : Nat), groups g → i = 2 * g - 2 ∨ i = 2 * g - 1 → s.pos ≤ n →
    M s.marks → M (s.mark i).marks

namespace Cursor.Within

variable {n : Nat} {groups : Nat → Prop} {M : Array (Option Nat) → Prop} {s t : Cursor}

theorem here (h : s.Within n M) : s.here.Within n M := ⟨h.pos, h.pos, h.marks⟩

theorem move (h : s.Within n M) {pos reached : Nat} (hp : pos ≤ n) (hr : reached ≤ n) :
    Cursor.Within n M { s with pos := pos, reached := reached } := ⟨hp, hr, h.marks⟩

theorem after (hM : MarksKept n groups M) (hs : s.Within n M) (ht : t.Within n M) (looped : Bool) :
    (s.after looped t).Within n M := by
  refine ⟨hs.pos, ht.reached, ?_⟩
  cases looped with
  | false => exact hM.take _ _ hs.marks ht.marks
  | true => exact hs.marks

end Cursor.Within

namespace Pattern

/-- The cursor that matching ends with satisfies the condition. -/
def Ends (K : Cursor → Prop) : MatchOutcome → Prop
  | .ok t => K t
  | .error t => K t

/-- Matching keeps a condition on cursors if what comes after does. -/
def Keeps (K : Cursor → Prop) (m : Matcher) : Prop :=
  ∀ s k, K s → (∀ t, K t → Ends K (k t)) → Ends K (m s k)

theorem Ends.ok {K : Cursor → Prop} {r : MatchOutcome} {t : Cursor} (h : Ends K r)
    (hr : r = .ok t) : K t := by
  rw [hr] at h
  exact h

theorem Ends.error {K : Cursor → Prop} {r : MatchOutcome} {t : Cursor} (h : Ends K r)
    (hr : r = .error t) : K t := by
  rw [hr] at h
  exact h

section Combinators

variable {n : Nat} {groups : Nat → Prop} {M : Array (Option Nat) → Prop}

theorem ends_backTo {r : MatchOutcome} {pos : Nat} (hp : pos ≤ n)
    (h : Ends (Cursor.Within n M) r) : Ends (Cursor.Within n M) (r.backTo pos) := by
  cases r with
  | ok t => exact h
  | error t => exact ⟨h.pos, hp, h.marks⟩

theorem branch_keeps (hM : MarksKept n groups M) (text : Array Char) (looped : Bool) (p : Pattern)
    {body : Matcher} (hb : Keeps (Cursor.Within n M) body) :
    Keeps (Cursor.Within n M) (branch text looped p body) := by
  intro s k hs hk
  unfold branch
  split
  · have h := hb s.here k hs.here hk
    split
    · next r hr => exact h.ok hr
    · next t ht => exact hs.after hM (h.error ht) looped
  · exact hs

theorem add_countOf_le (text : Array Char) (set : CharSet) (bound pos : Nat)
    (hp : pos ≤ text.size) : pos + countOf text set bound pos ≤ text.size := by
  induction bound generalizing pos with
  | zero => simpa [countOf] using hp
  | succ bound ih =>
    rw [countOf]
    split
    · next c hc =>
      have hlt : pos < text.size := (Array.getElem?_eq_some_iff.mp hc).1
      have h := ih (pos + 1) (by omega)
      split <;> omega
    · omega

theorem add_le_of_repeats (text : Array Char) (likeness : Likeness) (start pos count : Nat)
    (hp : pos ≤ text.size) (h : repeats text likeness start pos count = true) :
    pos + count ≤ text.size := by
  induction count generalizing start pos with
  | zero => simpa using hp
  | succ count ih =>
    rw [repeats] at h
    split at h
    · next a b ha hb =>
      have hlt : pos < text.size := (Array.getElem?_eq_some_iff.mp hb).1
      have h' := ih (start + 1) (pos + 1) (by omega) (by simp_all)
      omega
    · cases h

/-- What comes after at one offset, unless the character that must come first is not there. -/
def attempt (text : Array Char) (looped : Bool) (first : Option Char) (here : Nat) : Matcher :=
  fun s k =>
    if first.isNone || text[here]? == first then
      match k { s with pos := here, reached := here } with
      | .ok r => .ok r
      | .error t => .error (s.after looped t)
    else .error s

theorem giveBack_zero (text : Array Char) (looped : Bool) (first : Option Char) (pos : Nat)
    (s : Cursor) (k : Goal) :
    giveBack text looped first pos 0 s k = attempt text looped first pos s k := by
  unfold giveBack
  change (match 0, attempt text looped first pos s k with
    | _, .ok r => Except.ok r
    | 0, .error t => Except.error t
    | extra + 1, .error t => giveBack text looped first pos extra t k) = _
  cases attempt text looped first pos s k <;> rfl

theorem giveBack_succ (text : Array Char) (looped : Bool) (first : Option Char) (pos extra : Nat)
    (s : Cursor) (k : Goal) :
    giveBack text looped first pos (extra + 1) s k =
      match attempt text looped first (pos + (extra + 1)) s k with
      | .ok r => .ok r
      | .error t => giveBack text looped first pos extra t k := by
  conv => lhs; unfold giveBack
  change (match extra + 1, attempt text looped first (pos + (extra + 1)) s k with
    | _, .ok r => Except.ok r
    | 0, .error t => Except.error t
    | extra + 1, .error t => giveBack text looped first pos extra t k) = _
  cases attempt text looped first (pos + (extra + 1)) s k <;> rfl

theorem attempt_keeps (hM : MarksKept n groups M) (text : Array Char) (looped : Bool)
    (first : Option Char) {here : Nat} (hp : here ≤ n) :
    Keeps (Cursor.Within n M) (attempt text looped first here) := by
  intro s k hs hk
  have h := hk { s with pos := here, reached := here } (hs.move hp hp)
  unfold attempt
  split
  · split
    · next r hr => exact h.ok hr
    · next t ht => exact hs.after hM (h.error ht) looped
  · exact hs

theorem giveBack_keeps (hM : MarksKept n groups M) (text : Array Char) (looped : Bool)
    (first : Option Char) (pos extra : Nat) (hp : pos + extra ≤ n) :
    Keeps (Cursor.Within n M) (giveBack text looped first pos extra) := by
  induction extra with
  | zero =>
    intro s k hs hk
    rw [giveBack_zero]
    exact attempt_keeps hM text looped first hp s k hs hk
  | succ extra ih =>
    intro s k hs hk
    have h := attempt_keeps hM text looped first hp s k hs hk
    rw [giveBack_succ]
    split
    · next r hr => exact h.ok hr
    · next t ht => exact ih (by omega) t k (h.error ht) hk

theorem takeMore_keeps (hM : MarksKept n groups M) (text : Array Char) (hn : n = text.size)
    (looped : Bool) (set : CharSet) (bound : Nat) :
    Keeps (Cursor.Within n M) (takeMore text looped set bound) := by
  induction bound with
  | zero =>
    intro s k hs hk
    have h := hk s.here hs.here
    have hmore := add_countOf_le text set 1 s.pos (hn ▸ hs.pos)
    rw [takeMore]
    split
    · next r hr => exact h.ok hr
    · next t ht =>
      refine ⟨hs.pos, ?_, (hs.after hM (h.error ht) looped).marks⟩
      have hp := hs.pos
      simp only
      split <;> omega
  | succ bound ih =>
    intro s k hs hk
    have h := hk s.here hs.here
    have hmore := add_countOf_le text set 1 s.pos (hn ▸ hs.pos)
    rw [takeMore]
    split
    · next r hr => exact h.ok hr
    · next t ht =>
      have hstay : (if set.isFolded then s.pos + countOf text set 1 s.pos else s.pos) ≤ n := by
        have hp := hs.pos
        split <;> omega
      simp only
      split
      · exact ⟨hs.pos, hstay, (hs.after hM (h.error ht) looped).marks⟩
      · refine ih _ k ⟨?_, hstay, (hs.after hM (h.error ht) looped).marks⟩ hk
        simp only
        omega

theorem repeatedSet_keeps (hM : MarksKept n groups M) (text : Array Char) (hn : n = text.size)
    (looped : Bool) (first : Option Char) (set : CharSet) (least : Nat) (limit : Option Nat)
    (greed : Greed) :
    Keeps (Cursor.Within n M) (repeatedSet text looped first set least limit greed) := by
  intro s k hs hk
  have hp := hs.pos
  have hcount (bound : Nat) := add_countOf_le text set bound s.pos (hn ▸ hp)
  unfold repeatedSet
  simp only
  split
  · exact hs
  · generalize hc : countOf text set _ s.pos = count
    have hle : s.pos + count ≤ n := by rw [← hc, hn]; exact hcount _
    have hr : (if set.isFolded then s.pos + count else s.pos) ≤ n := by split <;> omega
    split
    · exact hs.move hp hr
    · next hl =>
      cases greed with
      | most =>
        have hg : s.pos + least + (count - least) ≤ n := by omega
        exact giveBack_keeps hM text looped first _ _ hg _ k (hs.move hp hr) hk
      | fewest => exact takeMore_keeps hM text hn looped set _ _ k (hs.move hle hr) hk
      | possessive => exact hk _ (hs.move hle hr)

theorem times_keeps {body : Matcher} (hb : Keeps (Cursor.Within n M) body) (count : Nat) :
    Keeps (Cursor.Within n M) (times body count) := by
  induction count with
  | zero => exact fun s k hs hk => hk s hs
  | succ count ih =>
    intro s k hs hk
    rw [times]
    exact ends_backTo hs.pos (hb _ _ hs.here fun t ht => ih t k ht hk)

theorem upToMost_keeps {body : Matcher} (hb : Keeps (Cursor.Within n M) body) (count : Nat)
    (last : Option Nat) : Keeps (Cursor.Within n M) (upToMost body count last) := by
  induction count generalizing last with
  | zero => exact fun s k hs hk => ends_backTo hs.pos (hk _ hs.here)
  | succ count ih =>
    intro s k hs hk
    have hleave := ends_backTo hs.pos (hk _ hs.here)
    have h := hb s.here _ hs.here fun t ht => ih (some s.pos) t k ht hk
    unfold upToMost
    simp only
    split
    · exact hleave
    · split
      · next r hr => exact h.ok hr
      · exact hleave

theorem upToFewest_keeps (hM : MarksKept n groups M) (looped : Bool) {body : Matcher}
    (hb : Keeps (Cursor.Within n M) body) (count : Nat) (last : Option Nat) :
    Keeps (Cursor.Within n M) (upToFewest looped body count last) := by
  induction count generalizing last with
  | zero =>
    intro s k hs hk
    have h := hk _ hs.here
    unfold upToFewest
    split
    · next r hr => exact h.ok hr
    · next t ht => exact (hs.after hM (h.error ht) looped).here
  | succ count ih =>
    intro s k hs hk
    have h := hk _ hs.here
    unfold upToFewest
    split
    · next r hr => exact h.ok hr
    · next t ht =>
      have hs' := (hs.after hM (h.error ht) looped).here
      simp only
      split
      · exact hs'
      · exact ends_backTo hs'.pos (hb _ _ hs' fun t ht => ih _ t k ht hk)

theorem alone_ends {body : Matcher} (hb : Keeps (Cursor.Within n M) body) {s : Cursor}
    (hs : s.Within n M) : Ends (Cursor.Within n M) (alone body s) :=
  hb s _ hs fun _ ht => ht.here

theorem timesFirst_ends {body : Matcher} (hb : Keeps (Cursor.Within n M) body) (count : Nat)
    {s : Cursor} (hs : s.Within n M) : Ends (Cursor.Within n M) (timesFirst body count s) := by
  induction count generalizing s with
  | zero => exact hs
  | succ count ih =>
    have h := alone_ends hb hs
    unfold timesFirst
    split
    · next t ht => exact ih (h.ok ht)
    · next t ht => exact h.error ht

theorem upToFirst_within {body : Matcher} (hb : Keeps (Cursor.Within n M) body) (count : Nat)
    {s : Cursor} (hs : s.Within n M) : (upToFirst body count s).Within n M := by
  induction count generalizing s with
  | zero => exact hs
  | succ count ih =>
    have h := alone_ends hb hs
    unfold upToFirst
    split
    · next t ht =>
      split
      · exact h.ok ht
      · exact ih (h.ok ht)
    · next t ht => exact hs.move (h.error ht).reached (h.error ht).reached

theorem repeatedBody_keeps (hM : MarksKept n groups M) (looped : Bool) {body inLoop : Matcher}
    (hb : Keeps (Cursor.Within n M) body) (hl : Keeps (Cursor.Within n M) inLoop)
    (least bound : Nat) (greed : Greed) :
    Keeps (Cursor.Within n M) (repeatedBody looped body inLoop least bound greed) := by
  intro s k hs hk
  unfold repeatedBody
  cases greed with
  | most => exact times_keeps hl least s _ hs fun t ht => upToMost_keeps hl bound none t k ht hk
  | fewest =>
    exact times_keeps hl least s _ hs fun t ht => upToFewest_keeps hM looped hl bound none t k ht hk
  | possessive =>
    have h := timesFirst_ends hb least hs.here
    simp only
    split
    · next t ht => exact hk _ (upToFirst_within hb bound (h.ok ht))
    · next t ht => exact ⟨(h.error ht).pos, hs.pos, (h.error ht).marks⟩

theorem condition_keeps (hM : MarksKept n groups M) (looped holds : Bool) {start : Nat}
    (hp : start ≤ n) {body : Matcher} (hb : Keeps (Cursor.Within n M) body) :
    Keeps (Cursor.Within n M) (condition looped holds start body) := by
  intro s k hs hk
  have h := alone_ends hb (hs.move hp hp)
  unfold condition
  split
  · next t ht =>
    split
    · exact hk _ ⟨hs.pos, (h.ok ht).reached, (h.ok ht).marks⟩
    · exact h.ok ht
  · next t ht =>
    split
    · exact h.error ht
    · exact hk _ (hs.after hM (h.error ht) looped)

end Combinators

/-- The numbers under which a pattern remembers what it matched. -/
def groups : Pattern → List Nat
  | capture n p => n :: p.groups
  | seq p q | alt p q | ifCaptured _ p q => p.groups ++ q.groups
  | repeated p _ _ _ | ahead _ p | behind _ _ p | atomic p => p.groups
  | empty | one _ | anchor _ | backreference _ _ => []

/-- Matching a pattern stays in the text and keeps a condition on marks that its groups keep. -/
theorem run_keeps (text : Array Char) {G : Nat → Prop} {M : Array (Option Nat) → Prop}
    (hM : MarksKept text.size G M) (p : Pattern) (hg : ∀ g ∈ p.groups, G g) (looped : Bool)
    (rest : List Pattern) : Keeps (Cursor.Within text.size M) (p.run text looped rest) := by
  induction p generalizing looped rest with
  | empty => exact fun s k hs hk => hk s hs
  | one set =>
    intro s k hs hk
    rw [run]
    split
    · next c hc =>
      have hlt : s.pos < text.size := (Array.getElem?_eq_some_iff.mp hc).1
      split
      · exact hk _ (hs.move hlt hs.reached)
      · exact hs
    · exact hs
  | anchor a =>
    intro s k hs hk
    rw [run]
    split
    · exact hk s hs
    · exact hs
  | seq p q ihp ihq =>
    intro s k hs hk
    have hp := ihp (fun g h => hg g (by simp [groups, h])) looped (q :: rest)
    have hq := ihq (fun g h => hg g (by simp [groups, h])) looped rest
    rw [run]
    exact hp s _ hs fun t ht => hq t k ht hk
  | alt p q ihp ihq =>
    intro s k hs hk
    have hp := ihp (fun g h => hg g (by simp [groups, h])) looped []
    have hq := ihq (fun g h => hg g (by simp [groups, h])) looped []
    have h := branch_keeps hM text looped p hp s k hs hk
    rw [run]
    split
    · next r hr => exact h.ok hr
    · next t ht =>
      split
      · exact hq t k (h.error ht) hk
      · exact branch_keeps hM text looped q hq t k (h.error ht) hk
  | repeated p least limit greed ih =>
    have hb := ih (fun g h => hg g (by simp [groups, h]))
    cases p with
    | one set => exact fun s k hs hk =>
        repeatedSet_keeps hM text rfl looped _ set least limit greed s k hs hk
    | _ => exact fun s k hs hk =>
        repeatedBody_keeps hM looped (hb looped []) (hb true []) least _ greed s k hs hk
  | capture n p ih =>
    intro s k hs hk
    have hn : G n := hg n (by simp [groups])
    have hp := ih (fun g h => hg g (by simp [groups, h])) looped []
    rw [run]
    refine hp _ _ ⟨hs.pos, hs.reached, hM.mark s n _ hn (.inl rfl) hs.pos hs.marks⟩ fun t ht => ?_
    exact hk _ ⟨ht.pos, ht.reached, hM.mark t n _ hn (.inr rfl) ht.pos ht.marks⟩
  | backreference n likeness =>
    intro s k hs hk
    rw [run]
    split
    · next start stop _ =>
      split
      · next h =>
        exact hk _ (hs.move (add_le_of_repeats text likeness start _ _ hs.pos h) hs.reached)
      · exact hs
    · exact hs
  | ahead holds p ih =>
    intro s k hs hk
    rw [run]
    exact condition_keeps hM looped holds hs.pos (ih hg looped []) s k hs hk
  | behind holds width p ih =>
    intro s k hs hk
    have hp := hs.pos
    rw [run]
    split
    · exact condition_keeps hM looped holds (by omega) (ih hg looped []) s k hs hk
    · split
      · exact hs
      · exact hk s hs
  | atomic p ih =>
    intro s k hs hk
    have h := alone_ends (ih hg looped []) hs.here
    rw [run]
    split
    · next t ht => exact hk t (h.ok ht)
    · next t ht => exact ⟨(h.error ht).pos, hs.pos, (h.error ht).marks⟩
  | ifCaptured n p q ihp ihq =>
    intro s k hs hk
    have hp := ihp (fun g h => hg g (by simp [groups, h])) looped
    have hq := ihq (fun g h => hg g (by simp [groups, h])) looped rest
    unfold run
    split
    · exact hp _ s k hs hk
    · exact hq s k hs hk

/-- Every mark lies in a text of `n` characters. -/
def MarksWithin (n : Nat) (marks : Array (Option Nat)) : Prop :=
  ∀ i v : Nat, marks[i]? = some (some v) → v ≤ n

theorem mark_self (s : Cursor) (i : Nat) : (s.mark i).marks[i]? = some (some s.pos) := by
  simp only [Cursor.mark, Array.getElem?_setIfInBounds, if_true, Array.size_append,
    Array.size_replicate]
  exact if_pos (by omega)

theorem mark_of_ne (s : Cursor) {i j : Nat} (h : j ≠ i) (v : Nat) :
    (s.mark i).marks[j]? = some (some v) ↔ s.marks[j]? = some (some v) := by
  simp only [Cursor.mark, Array.getElem?_setIfInBounds, Ne.symm h, if_false,
    Array.getElem?_append, Array.getElem?_replicate]
  split
  · rfl
  · next hj =>
    rw [Array.getElem?_eq_none (by omega)]
    split <;> simp

theorem marksKept_marksWithin (n : Nat) : MarksKept n (fun _ => True) (MarksWithin n) := by
  refine ⟨?_, ?_⟩
  · intro a b _ hb i v h
    apply hb i v
    rw [Array.take_eq_extract, Array.getElem?_extract] at h
    split at h
    · simpa using h
    · cases h
  · intro s _ i _ _ hp hs j v h
    by_cases hj : j = i
    · rw [hj, mark_self] at h
      simp only [Option.some.injEq] at h
      omega
    · exact hs j v ((mark_of_ne s hj v).mp h)

def Finds (p : Pattern) (cs : List Char) (m : Match) : Prop :=
  m.start ≤ cs.length ∧ ∃ nonempty, p.tryAt cs.toArray m.start nonempty = some m

theorem tryAt_eq_some {p : Pattern} {text : Array Char} {pos : Nat} {nonempty : Bool} {m : Match}
    (h : p.tryAt text pos nonempty = some m) :
    ∃ t, p.run text false [] ⟨pos, pos, #[]⟩
      (fun t => if nonempty && t.pos == pos then .error t else .ok t) = .ok t ∧
      m = ⟨pos, t.pos, t.marks⟩ := by
  unfold tryAt at h
  simp only at h
  split at h
  · next t ht => exact ⟨t, ht, (Option.some.inj h).symm⟩
  · cases h

theorem start_of_tryAt {p : Pattern} {text : Array Char} {pos : Nat} {nonempty : Bool} {m : Match}
    (h : p.tryAt text pos nonempty = some m) : m.start = pos := by
  obtain ⟨t, -, rfl⟩ := tryAt_eq_some h
  rfl

/-- A match ends in the text, and so do its groups. -/
theorem tryAt_within {p : Pattern} {text : Array Char} {pos : Nat} {nonempty : Bool} {m : Match}
    (hp : pos ≤ text.size) (h : p.tryAt text pos nonempty = some m) :
    m.stop ≤ text.size ∧ MarksWithin text.size m.marks := by
  obtain ⟨t, ht, rfl⟩ := tryAt_eq_some h
  have hk := run_keeps text (marksKept_marksWithin text.size) p (fun _ _ => trivial) false []
    ⟨pos, pos, #[]⟩ (fun t => if nonempty && t.pos == pos then .error t else .ok t)
    ⟨hp, hp, by simp [MarksWithin]⟩ (fun t ht => by split <;> exact ht)
  exact ⟨(hk.ok ht).pos, (hk.ok ht).marks⟩

theorem tryFrom_eq_some {p : Pattern} {text : Array Char} {n pos : Nat} {nonempty : Bool}
    {m : Match} (h : p.tryFrom text n pos nonempty = some m) :
    pos ≤ m.start ∧ m.start ≤ pos + n ∧ ∃ b, p.tryAt text m.start b = some m := by
  induction n generalizing pos nonempty with
  | zero =>
    have hs := start_of_tryAt h
    exact ⟨by omega, by omega, nonempty, by rw [hs]; exact h⟩
  | succ n ih =>
    unfold tryFrom at h
    split at h
    · next k hk =>
      cases h
      have hs := start_of_tryAt hk
      exact ⟨by omega, by omega, nonempty, by rw [hs]; exact hk⟩
    · obtain ⟨h1, h2, h3⟩ := ih h
      exact ⟨by omega, by omega, h3⟩

theorem finds_of_tryFrom {p : Pattern} {cs : List Char} {pos : Nat} {nonempty : Bool} {m : Match}
    (hp : pos ≤ cs.length)
    (h : p.tryFrom cs.toArray (cs.toArray.size - pos) pos nonempty = some m) :
    pos ≤ m.start ∧ p.Finds cs m := by
  obtain ⟨hs, hle, hm⟩ := tryFrom_eq_some h
  simp only [List.size_toArray] at hle
  exact ⟨hs, by omega, hm⟩

theorem Finds.stop_le {p : Pattern} {cs : List Char} {m : Match} (h : p.Finds cs m) :
    m.stop ≤ cs.length := by
  obtain ⟨hs, b, hb⟩ := h
  simpa using (tryAt_within (by simpa using hs) hb).1

theorem Finds.marks {p : Pattern} {cs : List Char} {m : Match} (h : p.Finds cs m) :
    MarksWithin cs.length m.marks := by
  obtain ⟨hs, b, hb⟩ := h
  simpa using (tryAt_within (by simpa using hs) hb).2

theorem finds_of_mem_scan {p : Pattern} {cs : List Char} {bound pos : Nat} {nonempty : Bool}
    {m : Match} (hp : pos ≤ cs.length) (h : m ∈ p.scan cs.toArray bound pos nonempty) :
    p.Finds cs m := by
  induction bound generalizing pos nonempty with
  | zero => simp [scan] at h
  | succ bound ih =>
    unfold scan at h
    split at h
    · next k hk =>
      have hf := (finds_of_tryFrom hp hk).2
      rcases List.mem_cons.mp h with rfl | h
      · exact hf
      · exact ih hf.stop_le h
    · simp at h

theorem finds_of_mem_findAll {p : Pattern} {cs : List Char} {m : Match} (h : m ∈ p.findAll cs) :
    p.Finds cs m :=
  finds_of_mem_scan (Nat.zero_le _) h

theorem finds_of_find? {p : Pattern} {cs : List Char} {m : Match} (h : p.find? cs = some m) :
    p.Finds cs m := by
  simp only [find?, findFrom?, Nat.zero_le, if_true] at h
  exact (finds_of_tryFrom (Nat.zero_le _) h).2

theorem finds_of_matchAt? {p : Pattern} {cs : List Char} {start : Nat} {m : Match}
    (h : p.matchAt? cs start = some m) : p.Finds cs m := by
  unfold matchAt? at h
  split at h
  · next hs =>
    have he := start_of_tryAt h
    exact ⟨by omega, false, by rw [he]; exact h⟩
  · cases h

/-- The bounds of a group lie in the text. -/
theorem Finds.bounds {p : Pattern} {cs : List Char} {m : Match} (h : p.Finds cs m) {n : Nat}
    {b : Nat × Nat} (hb : m.bounds? n = some b) : b.1 ≤ cs.length ∧ b.2 ≤ cs.length := by
  unfold Match.bounds? Cursor.boundsIn at hb
  split at hb
  · next start stop h1 h2 =>
    cases hb
    exact ⟨h.marks _ _ h1, h.marks _ _ h2⟩
  · cases hb

theorem Finds.startOf_le {p : Pattern} {cs : List Char} {m : Match} (h : p.Finds cs m) (n : Nat) :
    m.startOf n ≤ cs.length := by
  unfold Match.startOf
  cases hb : m.bounds? n with
  | none => simpa using h.1
  | some b => simpa using (h.bounds hb).1

/-- What a group has matched ends in the text, counted from where the group starts. -/
theorem Finds.startOf_add_group_le {p : Pattern} {cs : List Char} {m : Match} (h : p.Finds cs m)
    (n : Nat) : m.startOf n + (m.group cs n).length ≤ cs.length := by
  unfold Match.startOf Match.group Match.group?
  cases hb : m.bounds? n with
  | none => simpa using h.1
  | some b =>
    have hle := h.bounds hb
    simp only [Option.map_some, Option.getD_some, Text.slice, List.length_drop, List.length_take]
    omega

end Pattern

end CampaignCheck

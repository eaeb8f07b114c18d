import CampaignCheck.Proofs.Pattern.Bounds
import CampaignCheck.Proofs.Text.Slices
import Mathlib.Data.List.Forall2

/-!
Progress of matching. Without possessive repetitions, what comes after a pattern starts at least as
many characters further on as the pattern needs, so that the matches of a scan follow each other and
replacing each by a text of the same length keeps every other character in its place.
-/

namespace CampaignCheck.Pattern

/-- Where matching succeeds, what comes after has started at least `width` characters on. -/
def Advances (width : Nat) (m : Matcher) : Prop :=
  ∀ s k r, m s k = .ok r → ∃ t : Cursor, s.pos + width ≤ t.pos ∧ k t = .ok r

theorem Advances.mono {v w : Nat} {m : Matcher} (h : Advances w m) (hv : v ≤ w) :
    Advances v m := by
  intro s k r hr
  obtain ⟨t, ht, hk⟩ := h s k r hr
  exact ⟨t, by omega, hk⟩

theorem backTo_eq_ok {r : MatchOutcome} {pos : Nat} {t : Cursor} (h : r.backTo pos = .ok t) :
    r = .ok t := by
  cases r with
  | ok s => exact h
  | error s => cases h

theorem branch_advances (text : Array Char) (looped : Bool) (p : Pattern) {w : Nat}
    {body : Matcher} (hb : Advances w body) : Advances w (branch text looped p body) := by
  intro s k r h
  unfold branch at h
  split at h
  · split at h
    · next u hu =>
      cases h
      exact hb s.here k r hu
    · cases h
  · cases h

theorem attempt_eq_ok {text : Array Char} {looped : Bool} {first : Option Char} {here : Nat}
    {s r : Cursor} {k : Goal} (h : attempt text looped first here s k = .ok r) :
    k { s with pos := here, reached := here } = .ok r := by
  unfold attempt at h
  split at h
  · split at h
    · next u hu =>
      cases h
      exact hu
    · cases h
  · cases h

theorem giveBack_eq_ok {text : Array Char} {looped : Bool} {first : Option Char} {pos extra : Nat}
    {s r : Cursor} {k : Goal} (h : giveBack text looped first pos extra s k = .ok r) :
    ∃ t : Cursor, pos ≤ t.pos ∧ t.pos ≤ pos + extra ∧ k t = .ok r := by
  induction extra generalizing s with
  | zero =>
    rw [giveBack_zero] at h
    exact ⟨_, Nat.le_refl pos, Nat.le_refl pos, attempt_eq_ok h⟩
  | succ extra ih =>
    rw [giveBack_succ] at h
    split at h
    · next u hu =>
      cases h
      exact ⟨_, Nat.le_add_right pos (extra + 1), Nat.le_refl _, attempt_eq_ok hu⟩
    · obtain ⟨t, hleast, hmost, hk⟩ := ih h
      exact ⟨t, hleast, Nat.le_succ_of_le hmost, hk⟩

theorem takeMore_advances (text : Array Char) (looped : Bool) (set : CharSet) (bound : Nat) :
    Advances 0 (takeMore text looped set bound) := by
  induction bound with
  | zero =>
    intro s k r h
    rw [takeMore] at h
    split at h
    · next u hu =>
      cases h
      exact ⟨s.here, Nat.le_refl _, hu⟩
    · cases h
  | succ bound ih =>
    intro s k r h
    rw [takeMore] at h
    split at h
    · next u hu =>
      cases h
      exact ⟨s.here, Nat.le_refl _, hu⟩
    · simp only at h
      split at h
      · cases h
      · obtain ⟨t, ht, hk⟩ := ih _ k r h
        simp only at ht
        exact ⟨t, by omega, hk⟩

theorem repeatedSet_advances (text : Array Char) (looped : Bool) (first : Option Char)
    (set : CharSet) (least : Nat) (limit : Option Nat) (greed : Greed) :
    Advances least (repeatedSet text looped first set least limit greed) := by
  intro s k r h
  unfold repeatedSet at h
  simp only at h
  split at h
  · cases h
  · generalize countOf text set _ s.pos = count at h
    split at h
    · cases h
    · next hl =>
      cases greed with
      | most =>
        obtain ⟨t, ht, -, hk⟩ := giveBack_eq_ok h
        exact ⟨t, ht, hk⟩
      | fewest =>
        obtain ⟨t, ht, hk⟩ := takeMore_advances text looped set _ _ k r h
        simp only at ht
        exact ⟨t, by omega, hk⟩
      | possessive => exact ⟨_, by simp only; omega, h⟩

theorem times_advances {w : Nat} {body : Matcher} (hb : Advances w body) (count : Nat) :
    Advances (count * w) (times body count) := by
  induction count with
  | zero => exact fun s k r h => ⟨s, by omega, h⟩
  | succ count ih =>
    intro s k r h
    obtain ⟨t, ht, hk⟩ := hb s.here _ r (backTo_eq_ok h)
    obtain ⟨u, hu, hk⟩ := ih t k r hk
    have hp : s.here.pos = s.pos := rfl
    have hm : (count + 1) * w = count * w + w := Nat.succ_mul count w
    exact ⟨u, by omega, hk⟩

theorem upToMost_advances {body : Matcher} (hb : Advances 0 body) (count : Nat)
    (last : Option Nat) : Advances 0 (upToMost body count last) := by
  induction count generalizing last with
  | zero => exact fun s k r h => ⟨s.here, Nat.le_refl _, backTo_eq_ok h⟩
  | succ count ih =>
    intro s k r h
    unfold upToMost at h
    simp only at h
    split at h
    · exact ⟨s.here, Nat.le_refl _, backTo_eq_ok h⟩
    · split at h
      · next u hu =>
        cases h
        obtain ⟨t, ht, hk⟩ := hb s.here _ r hu
        obtain ⟨u, hu, hk⟩ := ih _ t k r hk
        have hp : s.here.pos = s.pos := rfl
        exact ⟨u, by omega, hk⟩
      · exact ⟨s.here, Nat.le_refl _, backTo_eq_ok h⟩

theorem upToFewest_advances (looped : Bool) {body : Matcher} (hb : Advances 0 body) (count : Nat)
    (last : Option Nat) : Advances 0 (upToFewest looped body count last) := by
  induction count generalizing last with
  | zero =>
    intro s k r h
    unfold upToFewest at h
    split at h
    · next u hu =>
      cases h
      exact ⟨s.here, Nat.le_refl _, hu⟩
    · cases h
  | succ count ih =>
    intro s k r h
    unfold upToFewest at h
    split at h
    · next u hu =>
      cases h
      exact ⟨s.here, Nat.le_refl _, hu⟩
    · simp only at h
      split at h
      · cases h
      · obtain ⟨t, ht, hk⟩ := hb _ _ r (backTo_eq_ok h)
        obtain ⟨u, hu, hk⟩ := ih _ t k r hk
        have hp (f : Cursor) : (s.after looped f).here.pos = s.pos := rfl
        rw [hp] at ht
        exact ⟨u, by omega, hk⟩

theorem repeatedBody_advances (looped : Bool) {body inLoop : Matcher} {w : Nat}
    (hb : Advances w inLoop) (least bound : Nat) {greed : Greed} (hg : greed ≠ .possessive) :
    Advances (least * w) (repeatedBody looped body inLoop least bound greed) := by
  intro s k r h
  have h0 : Advances 0 inLoop := hb.mono (Nat.zero_le w)
  unfold repeatedBody at h
  cases greed with
  | most =>
    obtain ⟨t, ht, hk⟩ := times_advances hb least s _ r h
    obtain ⟨u, hu, hk⟩ := upToMost_advances h0 bound none t k r hk
    exact ⟨u, by omega, hk⟩
  | fewest =>
    obtain ⟨t, ht, hk⟩ := times_advances hb least s _ r h
    obtain ⟨u, hu, hk⟩ := upToFewest_advances looped h0 bound none t k r hk
    exact ⟨u, by omega, hk⟩
  | possessive => exact absurd rfl hg

theorem condition_advances (looped holds : Bool) (start : Nat) (body : Matcher) :
    Advances 0 (condition looped holds start body) := by
  intro s k r h
  unfold condition at h
  split at h
  · split at h
    · refine ⟨_, ?_, h⟩
      exact Nat.le_refl s.pos
    · cases h
  · split at h
    · cases h
    · refine ⟨_, ?_, h⟩
      exact Nat.le_refl s.pos

/-- The least number of characters that a pattern matches. -/
def leastWidth : Pattern → Nat
  | one _ => 1
  | seq p q => p.leastWidth + q.leastWidth
  | alt p q | ifCaptured _ p q => min p.leastWidth q.leastWidth
  | repeated p least _ _ => least * p.leastWidth
  | capture _ p | atomic p => p.leastWidth
  | _ => 0

/-- Some repetition in the pattern, outside conditions, is possessive. -/
def isPossessive : Pattern → Bool
  | seq p q | alt p q | ifCaptured _ p q => p.isPossessive || q.isPossessive
  | repeated p _ _ greed => decide (greed = .possessive) || p.isPossessive
  | capture _ p | atomic p => p.isPossessive
  | _ => false

/-- What comes after a pattern starts behind the characters that the pattern needs. -/
theorem run_advances (text : Array Char) (p : Pattern) (h : p.isPossessive = false)
    (looped : Bool) (rest : List Pattern) : Advances p.leastWidth (p.run text looped rest) := by
  induction p generalizing looped rest with
  | empty => exact fun s k r hr => ⟨s, Nat.le_refl _, hr⟩
  | one set =>
    intro s k r hr
    rw [run] at hr
    split at hr
    · split at hr
      · exact ⟨_, Nat.le_refl _, hr⟩
      · cases hr
    · cases hr
  | anchor a =>
    intro s k r hr
    rw [run] at hr
    split at hr
    · exact ⟨s, Nat.le_refl _, hr⟩
    · cases hr
  | seq p q ihp ihq =>
    have hpq : p.isPossessive = false ∧ q.isPossessive = false := by simpa [isPossessive] using h
    intro s k r hr
    rw [run] at hr
    obtain ⟨t, ht, hk⟩ := ihp hpq.1 looped (q :: rest) s _ r hr
    obtain ⟨u, hu, hk⟩ := ihq hpq.2 looped rest t k r hk
    exact ⟨u, by simp only [leastWidth]; omega, hk⟩
  | alt p q ihp ihq =>
    have hpq : p.isPossessive = false ∧ q.isPossessive = false := by simpa [isPossessive] using h
    have hp : Advances (leastWidth (alt p q)) (p.run text looped []) :=
      (ihp hpq.1 looped []).mono (Nat.min_le_left _ _)
    have hq : Advances (leastWidth (alt p q)) (q.run text looped []) :=
      (ihq hpq.2 looped []).mono (Nat.min_le_right _ _)
    have hpos (s : Cursor) (k : Goal) (t : Cursor)
        (ht : branch text looped p (p.run text looped []) s k = .error t) : t.pos = s.pos := by
      unfold branch at ht
      split at ht
      · split at ht
        · cases ht
        · cases ht
          rfl
      · cases ht
        rfl
    intro s k r hr
    rw [run] at hr
    split at hr
    · next u hu =>
      cases hr
      exact branch_advances text looped p hp s k r hu
    · next t ht =>
      rw [← hpos s k t ht]
      split at hr
      · exact hq t k r hr
      · exact branch_advances text looped q hq t k r hr
  | repeated p least limit greed ih =>
    have hg : greed ≠ .possessive ∧ p.isPossessive = false := by simpa [isPossessive] using h
    cases p with
    | one set =>
      rw [leastWidth, leastWidth, Nat.mul_one]
      exact repeatedSet_advances text looped (firstChar? rest) set least limit greed
    | _ => exact fun s k r hr =>
        repeatedBody_advances looped (ih hg.2 true []) least _ hg.1 s k r hr
  | capture n p ih =>
    intro s k r hr
    rw [run] at hr
    obtain ⟨t, ht, hk⟩ := ih h looped [] _ _ r hr
    exact ⟨t.mark (2 * n - 1), ht, hk⟩
  | backreference n likeness =>
    intro s k r hr
    rw [run] at hr
    split at hr
    · split at hr
      · exact ⟨_, Nat.le_add_right _ _, hr⟩
      · cases hr
    · cases hr
  | ahead holds p ih =>
    intro s k r hr
    rw [run] at hr
    exact condition_advances looped holds _ _ s k r hr
  | behind holds width p ih =>
    intro s k r hr
    rw [run] at hr
    split at hr
    · exact condition_advances looped holds _ _ s k r hr
    · split at hr
      · cases hr
      · exact ⟨s, Nat.le_refl _, hr⟩
  | atomic p ih =>
    intro s k r hr
    rw [run] at hr
    split at hr
    · next t ht =>
      obtain ⟨u, hu, hk⟩ := ih h looped [] s.here _ t ht
      have hut : u.pos = t.pos := by
        cases hk
        rfl
      exact ⟨t, by rw [← hut]; exact hu, hr⟩
    · cases hr
  | ifCaptured n p q ihp ihq =>
    have hpq : p.isPossessive = false ∧ q.isPossessive = false := by simpa [isPossessive] using h
    intro s k r hr
    unfold run at hr
    split at hr
    · exact (ihp hpq.1 looped _).mono (Nat.min_le_left _ _) s k r hr
    · exact (ihq hpq.2 looped rest).mono (Nat.min_le_right _ _) s k r hr

/-- A match is a success of the matcher at its start, and what came after started at its stop. -/
theorem Finds.exists_run {p : Pattern} {cs : List Char} {m : Match} (hf : p.Finds cs m) :
    ∃ (s r : Cursor) (k : Goal), s.pos = m.start ∧ p.run cs.toArray false [] s k = .ok r ∧
      ∀ t, k t = .ok r → t.pos = m.stop := by
  obtain ⟨-, b, hb⟩ := hf
  obtain ⟨r, hr, hm⟩ := tryAt_eq_some hb
  refine ⟨_, r, _, ?_, hr, ?_⟩
  · rfl
  · intro t hk
    have htr : t = r := by
      split at hk
      · cases hk
      · exact Except.ok.inj hk
    rw [htr, hm]

/-- A match has at least as many characters as its pattern needs. -/
theorem Finds.start_add_le {p : Pattern} {cs : List Char} {m : Match} (hf : p.Finds cs m)
    (h : p.isPossessive = false) : m.start + p.leastWidth ≤ m.stop := by
  obtain ⟨s, r, k, hstart, hr, hstop⟩ := hf.exists_run
  obtain ⟨t, ht, hk⟩ := run_advances cs.toArray p h false [] s k r hr
  rwa [hstart, hstop t hk] at ht

/-- The set of the character that every match of the pattern starts with, if that is plain. -/
def headSet? : Pattern → Option CharSet
  | one s => some s
  | seq (anchor _) q => q.headSet?
  | seq p _ | capture _ p => p.headSet?
  | repeated (one s) (_ + 1) _ _ => some s
  | _ => none

theorem head_of_countOf_pos {text : Array Char} {set : CharSet} {bound pos : Nat}
    (h : 0 < countOf text set bound pos) : ∃ c, text[pos]? = some c ∧ set.mem c = true := by
  cases bound with
  | zero => simp [countOf] at h
  | succ bound =>
    rw [countOf] at h
    split at h
    · next c hc =>
      split at h
      · next hm => exact ⟨c, hc, hm⟩
      · omega
    · omega

theorem repeatedSet_head {text : Array Char} {looped : Bool} {first : Option Char} {set : CharSet}
    {least : Nat} {limit : Option Nat} {greed : Greed} {s r : Cursor} {k : Goal}
    (h : repeatedSet text looped first set (least + 1) limit greed s k = .ok r) :
    ∃ c, text[s.pos]? = some c ∧ set.mem c = true := by
  unfold repeatedSet at h
  simp only at h
  split at h
  · cases h
  · generalize hc : countOf text set _ s.pos = count at h
    split at h
    · cases h
    · exact head_of_countOf_pos (by rw [hc]; omega)

theorem run_head {text : Array Char} {p : Pattern} {set : CharSet} (hp : p.headSet? = some set)
    {looped : Bool} {rest : List Pattern} {s r : Cursor} {k : Goal}
    (h : p.run text looped rest s k = .ok r) :
    ∃ c, text[s.pos]? = some c ∧ set.mem c = true := by
  induction p generalizing rest s k with
  | one s' =>
    cases hp
    rw [run] at h
    split at h
    · next c hc =>
      split at h
      · next hm => exact ⟨c, hc, hm⟩
      · cases h
    · cases h
  | seq p q ihp ihq =>
    rw [run] at h
    cases p with
    | anchor a =>
      rw [run] at h
      split at h
      · exact ihq hp h
      · cases h
    | _ => exact ihp hp h
  | capture n p ih =>
    rw [run] at h
    have hc := ih hp h
    exact hc
  | repeated p least limit greed ih =>
    cases p with
    | one s' =>
      cases least with
      | zero => cases hp
      | succ least =>
        cases hp
        exact repeatedSet_head h
    | _ => cases hp
  | _ => cases hp

/-- A match starts with a character of the set that its pattern opens with. -/
theorem Finds.head {p : Pattern} {cs : List Char} {m : Match} (hf : p.Finds cs m) {set : CharSet}
    (h : p.headSet? = some set) : ∃ c, cs[m.start]? = some c ∧ set.mem c = true := by
  obtain ⟨-, b, hb⟩ := hf
  obtain ⟨t, ht, -⟩ := tryAt_eq_some hb
  simpa using run_head h ht

theorem marksKept_getElem? (size i v : Nat) :
    MarksKept size (fun g => i ≠ 2 * g - 2 ∧ i ≠ 2 * g - 1) (fun ms => ms[i]? = some (some v)) := by
  refine ⟨?_, ?_⟩
  · intro a b ha hb
    have hi : i < a.size := (Array.getElem?_eq_some_iff.mp ha).1
    have hj : i < b.size := (Array.getElem?_eq_some_iff.mp hb).1
    rw [Array.take_eq_extract, Array.getElem?_extract, if_pos (by omega)]
    simpa using hb
  · intro s g j hg hj _ hs
    have hne : i ≠ j := by
      rcases hj with rfl | rfl
      · exact hg.1
      · exact hg.2
    exact (mark_of_ne s hne v).mpr hs

/-- The group of a number opens the pattern, behind nothing but conditions on the place, and no
other group of the pattern has its marks. -/
def opensWith (n : Nat) : Pattern → Bool
  | capture g p => g == n && p.groups.all fun g => g != n && g != 0
  | seq (anchor _) q => q.opensWith n
  | seq p q => p.opensWith n && q.groups.all fun g => g != n && g != 0
  | _ => false

theorem run_opensWith {n : Nat} (hn : 0 < n) {text : Array Char} {p : Pattern}
    (hp : p.opensWith n = true) {looped : Bool} {rest : List Pattern} {s : Cursor} {k : Goal}
    (hpos : s.pos ≤ text.size) (hreached : s.reached ≤ text.size)
    (hk : ∀ u, Cursor.Within text.size (·[2 * n - 2]? = some (some s.pos)) u →
      Ends (Cursor.Within text.size (·[2 * n - 2]? = some (some s.pos))) (k u))
    {r : Cursor} (h : p.run text looped rest s k = .ok r) :
    r.marks[2 * n - 2]? = some (some s.pos) := by
  have hM := marksKept_getElem? text.size (2 * n - 2) s.pos
  have hgroups {q : Pattern} (hq : (q.groups.all fun g => g != n && g != 0) = true) :
      ∀ g ∈ q.groups, 2 * n - 2 ≠ 2 * g - 2 ∧ 2 * n - 2 ≠ 2 * g - 1 := by
    intro g hg
    have hne : g ≠ n ∧ g ≠ 0 := by simpa using List.all_eq_true.mp hq g hg
    omega
  induction p generalizing rest s k with
  | capture g p ih =>
    simp only [opensWith, Bool.and_eq_true, beq_iff_eq] at hp
    obtain ⟨rfl, hinner⟩ := hp
    have hkeeps := run_keeps text hM p (hgroups hinner) looped []
    have hends := hkeeps (s.mark (2 * g - 2)) _ ⟨hpos, hreached, mark_self s _⟩ fun u hu =>
      hk (u.mark (2 * g - 1)) ⟨hu.pos, hu.reached, (mark_of_ne u (by omega) _).mpr hu.marks⟩
    rw [run] at h
    exact (hends.ok h).marks
  | seq p q ihp ihq =>
    rw [run] at h
    cases p with
    | anchor a =>
      rw [run] at h
      split at h
      · exact ihq hp hpos hreached hk h hM
      · cases h
    | _ =>
      obtain ⟨hfirst, hlater⟩ := Bool.and_eq_true_iff.mp hp
      have hkeeps := run_keeps text hM q (hgroups hlater) looped rest
      exact ihp hfirst hpos hreached (fun u hu => hkeeps u k hu hk) h hM
  | _ => cases hp

/-- A group that opens a pattern starts where the match starts. -/
theorem Finds.startOf_leading {n : Nat} {p : Pattern} {cs : List Char} {m : Match}
    (hf : p.Finds cs m) (hp : p.opensWith n = true) (hn : 0 < n) : m.startOf n = m.start := by
  obtain ⟨hs, b, hb⟩ := hf
  obtain ⟨t, ht, hm⟩ := tryAt_eq_some hb
  have hs' : m.start ≤ cs.toArray.size := by simpa using hs
  have hmark : m.marks[2 * n - 2]? = some (some m.start) := by
    rw [hm]
    refine run_opensWith hn hp hs' hs' ?_ ht
    intro u hu
    split <;> exact hu
  unfold Match.startOf Match.bounds? Cursor.boundsIn
  rw [hmark]
  split
  · next start stop h1 h2 =>
    have he : m.start = start := by simpa using h1
    exact he.symm
  · rfl

/-- The matches of a scan follow each other. -/
theorem findAll_apart {p : Pattern} (hp : p.isPossessive = false) (cs : List Char) :
    (p.findAll cs).Pairwise fun m m' => m.start + p.leastWidth ≤ m'.start := by
  have hscan (bound pos : Nat) (nonempty : Bool) (hpos : pos ≤ cs.length) :
      (∀ m ∈ p.scan cs.toArray bound pos nonempty, pos ≤ m.start) ∧
        (p.scan cs.toArray bound pos nonempty).Pairwise
          fun m m' => m.start + p.leastWidth ≤ m'.start := by
    induction bound generalizing pos nonempty with
    | zero => simp [scan]
    | succ bound ih =>
      unfold scan
      split
      · next m hm =>
        obtain ⟨hstart, hfinds⟩ := finds_of_tryFrom hpos hm
        have hstop := hfinds.start_add_le hp
        obtain ⟨hlater, hapart⟩ := ih m.stop m.isEmpty hfinds.stop_le
        refine ⟨List.forall_mem_cons.mpr ⟨hstart, ?_⟩, List.pairwise_cons.mpr ⟨?_, hapart⟩⟩
        all_goals
          intro m' hm'
          have hnext := hlater m' hm'
          omega
      · simp
  exact (hscan _ 0 false (Nat.zero_le _)).2

/-- Replacing every match by a text that is like it, place by place, keeps the whole text so. -/
theorem forall₂_replaceAll {R : Char → Char → Prop} (hR : ∀ c, R c c) {p : Pattern}
    (hp : p.isPossessive = false) {f : Match → List Char} {cs : List Char}
    (hf : ∀ m, p.Finds cs m → List.Forall₂ R (f m) (m.text cs)) :
    List.Forall₂ R (p.replaceAll f cs) cs := by
  have hrefl (l : List Char) : List.Forall₂ R l l := List.forall₂_same.mpr fun c _ => hR c
  have hscan (bound pos : Nat) (nonempty : Bool) (hpos : pos ≤ cs.length) :
      List.Forall₂ R (spliceFrom cs f pos (p.scan cs.toArray bound pos nonempty))
        (cs.drop pos) := by
    induction bound generalizing pos nonempty with
    | zero => exact hrefl _
    | succ bound ih =>
      unfold scan
      split
      · next m hm =>
        obtain ⟨hstart, hfinds⟩ := finds_of_tryFrom hpos hm
        have hstop := hfinds.start_add_le hp
        rw [spliceFrom, ← Text.slice_append_drop cs hstart,
          ← Text.slice_append_drop cs (show m.start ≤ m.stop by omega), ← List.append_assoc]
        exact List.rel_append (List.rel_append (hrefl _) (hf m hfinds))
          (ih m.stop m.isEmpty hfinds.stop_le)
      · exact hrefl _
  exact hscan _ 0 false (Nat.zero_le _)

end CampaignCheck.Pattern

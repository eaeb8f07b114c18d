import CampaignCheck.Ampscript.Vocabulary
import CampaignCheck.Proofs.Pattern.Progress
import CampaignCheck.Proofs.Pattern.Ends

namespace CampaignCheck

namespace Pattern

variable {text : Array Char} {looped : Bool} {rest : List Pattern} {s r : Cursor} {k : Goal}

theorem run_one_eq_ok {set : CharSet} (h : (one set).run text looped rest s k = .ok r) :
    ∃ c, text[s.pos]? = some c ∧ set.mem c = true ∧ k { s with pos := s.pos + 1 } = .ok r := by
  rw [run] at h
  split at h
  · next c hc =>
    split_ifs at h with hmem
    exact ⟨c, hc, hmem, h⟩
  · cases h

theorem run_anchor_eq_ok {a : Anchor} (h : (anchor a).run text looped rest s k = .ok r) :
    k s = .ok r := by
  rw [run] at h
  split_ifs at h
  exact h

/-- Characters in order lead on from behind them. -/
theorem run_inOrder_eq_ok {sets : List CharSet}
    (h : (inOrder (sets.map one)).run text looped rest s k = .ok r) :
    (∀ j set, sets[j]? = some set → ∃ c, text[s.pos + j]? = some c ∧ set.mem c = true) ∧
      k { s with pos := s.pos + sets.length } = .ok r := by
  induction sets generalizing rest s with
  | nil => exact ⟨by simp, h⟩
  | cons first sets ih =>
    have hstep : ∃ rest', (one first).run text looped rest' s
        (fun t => (inOrder (sets.map one)).run text looped rest t k) = .ok r := by
      cases sets with
      | nil => exact ⟨rest, h⟩
      | cons second sets => exact ⟨inOrder ((second :: sets).map one) :: rest, h⟩
    obtain ⟨rest', hfirst⟩ := hstep
    obtain ⟨c, hc, hmem, hnext⟩ := run_one_eq_ok hfirst
    obtain ⟨hall, hk⟩ := ih hnext
    refine ⟨?_, ?_⟩
    · intro j set hj
      cases j with
      | zero =>
        obtain rfl : first = set := by simpa using hj
        exact ⟨c, hc, hmem⟩
      | succ j =>
        have hshift : s.pos + (j + 1) = s.pos + 1 + j := by omega
        rw [hshift]
        exact hall j set hj
    · have hshift : s.pos + (first :: sets).length = s.pos + 1 + sets.length := by
        simp
        omega
      rw [hshift]
      exact hk

/-- What may be left out leads on from behind its characters, or from where it starts. -/
theorem run_option_eq_ok {sets : List CharSet} (hlong : 2 ≤ sets.length)
    (h : (opt (inOrder (sets.map one))).run text looped rest s k = .ok r) :
    ∃ t : Cursor, k t = .ok r ∧ (t.pos = s.pos ∨ t.pos = s.pos + sets.length ∧
      ∀ j set, sets[j]? = some set → ∃ c, text[s.pos + j]? = some c ∧ set.mem c = true) := by
  obtain ⟨first, second, more, rfl⟩ : ∃ a b l, sets = a :: b :: l := by
    match sets, hlong with
    | a :: b :: l, _ => exact ⟨a, b, l, rfl⟩
  have hbody :
      upToMost ((inOrder ((first :: second :: more).map one)).run text true []) 1 none s k =
        .ok r := h
  rw [upToMost, if_neg (by simp)] at hbody
  split at hbody
  · next u hu =>
    obtain rfl : u = r := Except.ok.inj hbody
    obtain ⟨hall, hnext⟩ := run_inOrder_eq_ok hu
    exact ⟨_, backTo_eq_ok hnext, .inr ⟨rfl, hall⟩⟩
  · exact ⟨s.here, backTo_eq_ok hbody, .inl rfl⟩

/-- Where characters in order fail, or what comes after them, no mark has changed on the way. -/
theorem run_inOrder_error {sets : List CharSet} {e : Cursor}
    (h : (inOrder (sets.map one)).run text looped rest s k = .error e) :
    e.marks = s.marks ∨ ∃ t : Cursor, t.marks = s.marks ∧ k t = .error e := by
  induction sets generalizing rest s with
  | nil => exact .inr ⟨s, rfl, h⟩
  | cons first sets ih =>
    have hstep : ∃ rest', (one first).run text looped rest' s
        (fun t => (inOrder (sets.map one)).run text looped rest t k) = .error e := by
      cases sets with
      | nil => exact ⟨rest, h⟩
      | cons second sets => exact ⟨inOrder ((second :: sets).map one) :: rest, h⟩
    obtain ⟨rest', hfirst⟩ := hstep
    rw [run] at hfirst
    split at hfirst
    · split_ifs at hfirst
      · have hnext := ih hfirst
        exact hnext
      · cases hfirst
        exact .inl rfl
    · cases hfirst
      exact .inl rfl

theorem run_anchor_error {a : Anchor} {e : Cursor}
    (h : (anchor a).run text looped rest s k = .error e) : e.marks = s.marks ∨ k s = .error e := by
  rw [run] at h
  split_ifs at h
  · exact .inr h
  · cases h
    exact .inl rfl

/-- The mark of a group survives the search for the shortest repetition behind it. -/
theorem takeMore_keeps_mark {set : CharSet} {bound i v : Nat}
    (hk : ∀ t e : Cursor, t.marks[i]? = some (some v) → k t = .error e →
      e.marks[i]? = some (some v))
    (h : takeMore text looped set bound s k = .ok r) (hs : s.marks[i]? = some (some v)) :
    ∃ t : Cursor, s.pos ≤ t.pos ∧ t.marks[i]? = some (some v) ∧ k t = .ok r := by
  induction bound generalizing s with
  | zero =>
    rw [takeMore] at h
    split at h
    · next u hu =>
      cases h
      exact ⟨s.here, Nat.le_refl _, hs, hu⟩
    · simp at h
  | succ bound ih =>
    rw [takeMore] at h
    split at h
    · next u hu =>
      cases h
      exact ⟨s.here, Nat.le_refl _, hs, hu⟩
    · next u hu =>
      by_cases hmore : countOf text set 1 s.pos = 0
      · simp [hmore] at h
      · simp only [hmore, if_false] at h
        have hleft : (s.after looped u).marks[i]? = some (some v) := by
          have hu' := hk s.here u hs hu
          simp only [Cursor.after]
          split_ifs
          · exact hs
          · exact (marksKept_getElem? 0 i v).1 _ _ hs hu'
        obtain ⟨t, ht, hmark, hlast⟩ := ih h hleft
        exact ⟨t, Nat.le_of_succ_le ht, hmark, hlast⟩

/-- A group of as few characters as possible starts here, and what comes after it starts behind. -/
theorem run_fewest_eq_ok {set : CharSet}
    (hk : ∀ t e : Cursor, k t = .error e → e.marks = t.marks)
    (h : (capture 1 (repeated (one set) 0 none .fewest)).run text looped rest s k = .ok r) :
    ∃ t : Cursor, s.pos ≤ t.pos ∧ t.marks[0]? = some (some s.pos) ∧ k (t.mark 1) = .ok r := by
  have hmark : (s.mark 0).marks[0]? = some (some s.pos) := mark_self s 0
  have hkept (t e : Cursor) (ht : t.marks[0]? = some (some s.pos))
      (he : k (t.mark 1) = .error e) : e.marks[0]? = some (some s.pos) := by
    rw [hk _ e he]
    exact (mark_of_ne t (by decide) s.pos).mpr ht
  rw [run, run] at h
  simp only [repeatedSet, Nat.not_lt_zero, if_false] at h
  obtain ⟨t, hpos, hkeeps, hlast⟩ := takeMore_keeps_mark hkept h hmark
  exact ⟨t, Nat.le_trans (Nat.le_add_right _ _) hpos, hkeeps, hlast⟩

end Pattern

namespace Ampscript

open Pattern

def letters (word : String) : List CharSet := word.toList.map .anyCase

def thenWord : Pattern := seq (seq wordEdge (inOrder ((letters "THEN").map one))) wordEdge

theorem condition_eq : condition =
    seq (seq (seq (seq (seq wordEdge (opt (inOrder ((letters "ELSE").map one))))
      (inOrder ((letters "IF").map one))) wordEdge)
      (capture 1 (repeated (one .inLine) 0 none .fewest))) thenWord := rfl

theorem run_thenWord_error {text : Array Char} {s e : Cursor} {k : Goal}
    (hk : ∀ t e : Cursor, k t = .error e → e.marks = t.marks)
    (h : thenWord.run text false [] s k = .error e) : e.marks = s.marks := by
  rw [thenWord, run, run] at h
  rcases run_anchor_error h with hmarks | h
  · exact hmarks
  · rcases run_inOrder_error h with hmarks | ⟨t, ht, h⟩
    · exact hmarks
    · rcases run_anchor_error h with hmarks | h
      · exact hmarks.trans ht
      · exact (hk t e h).trans ht

/-- A word in any case stands at an offset. -/
def WordAt (word : String) (cs : List Char) (pos : Nat) : Prop :=
  ∀ j set, (letters word)[j]? = some set → sees set cs (pos + j) = true

theorem sees_of_getElem? {set : CharSet} {cs : List Char} {pos : Nat}
    (h : ∃ c, cs.toArray[pos]? = some c ∧ set.mem c = true) : sees set cs pos = true := by
  obtain ⟨c, hc, hmem⟩ := h
  rw [List.getElem?_toArray] at hc
  simp [sees, hc, hmem]

theorem WordAt.getElem? {word : String} {cs : List Char} {pos : Nat} (h : WordAt word cs pos)
    {j : Nat} {a : Char} (ha : (letters word)[j]? = some (.anyCase a)) :
    ∃ c, cs[pos + j]? = some c ∧ Text.sameLetter a c = true := by
  have hsees := h j _ ha
  rw [sees] at hsees
  cases hc : cs[pos + j]? with
  | none => simp [hc] at hsees
  | some c => exact ⟨c, rfl, by simpa [hc, CharSet.mem] using hsees⟩

theorem run_thenWord_eq_ok {cs : List Char} {s r : Cursor} {k : Goal}
    (h : thenWord.run cs.toArray false [] s k = .ok r) :
    WordAt "THEN" cs s.pos ∧ k { s with pos := s.pos + 4 } = .ok r := by
  rw [thenWord, run, run] at h
  obtain ⟨hword, hedge⟩ := run_inOrder_eq_ok (run_anchor_eq_ok h)
  exact ⟨fun j set hj => sees_of_getElem? (hword j set hj), run_anchor_eq_ok hedge⟩

/-- What a condition is made of: the word that opens it, what stands between, and THEN. -/
theorem condition_parts {cs : List Char} {m : Match} {nonempty : Bool}
    (h : condition.tryAt cs.toArray m.start nonempty = some m) :
    ∃ head stop, m.bounds? 1 = some (m.start + head, stop) ∧ m.start + head ≤ stop ∧
      m.stop = stop + 4 ∧ WordAt "THEN" cs stop ∧
      (head = 2 ∧ WordAt "IF" cs m.start ∨ head = 6 ∧ WordAt "ELSEIF" cs m.start) := by
  obtain ⟨r, hrun, hm⟩ := tryAt_eq_some h
  rw [condition_eq, run, run, run, run, run] at hrun
  obtain ⟨a, hif, ha⟩ := run_option_eq_ok (by decide) (run_anchor_eq_ok hrun)
  obtain ⟨hword, hedge⟩ := run_inOrder_eq_ok hif
  have hgoal (t e : Cursor) (hte : (if (nonempty && t.pos == m.start) = true then Except.error t
      else Except.ok t : MatchOutcome) = .error e) : e.marks = t.marks := by
    split_ifs at hte
    cases hte
    rfl
  obtain ⟨b, hb, hstart, hthen⟩ := run_fewest_eq_ok
    (fun t e he => run_thenWord_error hgoal he) (run_anchor_eq_ok hedge)
  obtain ⟨hletters, hlast⟩ := run_thenWord_eq_ok hthen
  have hr : r = { b.mark 1 with pos := (b.mark 1).pos + 4 } := by
    split_ifs at hlast
    exact (Except.ok.inj hlast).symm
  have hopen : m.marks[0]? = some (some (a.pos + 2)) := by
    rw [hm, hr]
    exact (mark_of_ne b (by decide) _).mpr hstart
  have hclose : m.marks[1]? = some (some b.pos) := by
    rw [hm, hr]
    exact mark_self b 1
  have hbounds : m.bounds? 1 = some (a.pos + 2, b.pos) := by
    simp [Match.bounds?, Cursor.boundsIn, hopen, hclose]
  have hstop : m.stop = b.pos + 4 := by
    rw [hm, hr]
    rfl
  have hifWord : WordAt "IF" cs a.pos := fun j set hj => sees_of_getElem? (hword j set hj)
  rcases ha with ha | ⟨ha, helse⟩
  · rw [ha] at hbounds hifWord hb
    exact ⟨2, b.pos, hbounds, hb, hstop, hletters, .inl ⟨rfl, hifWord⟩⟩
  · rw [ha] at hbounds hifWord hb
    refine ⟨6, b.pos, hbounds, hb, hstop, hletters, .inr ⟨rfl, fun j set hj => ?_⟩⟩
    have hsplit : letters "ELSEIF" = letters "ELSE" ++ letters "IF" := rfl
    have hlength : (letters "ELSE").length = 4 := rfl
    rw [hsplit] at hj
    rcases Nat.lt_or_ge j 4 with hlt | hge
    · rw [List.getElem?_append_left hlt] at hj
      exact sees_of_getElem? (helse j set hj)
    · rw [List.getElem?_append_right hge, hlength] at hj
      have hplace : m.start + j = m.start + 4 + (j - 4) := by omega
      rw [hplace]
      exact hifWord (j - 4) set hj

/-- The bounds of what stands between IF and THEN. -/
theorem condition_bounds {cs : List Char} {m : Match} (h : condition.Finds cs m) :
    ∃ start stop, m.bounds? 1 = some (start + 1, stop) ∧ start + 1 ≤ stop ∧
      (∃ c, cs[start]? = some c ∧ Text.sameLetter 'F' c = true) ∧
      ∃ c, cs[stop]? = some c ∧ Text.sameLetter 'T' c = true := by
  obtain ⟨-, _, htry⟩ := h
  obtain ⟨head, stop, hbounds, hle, -, hthen, hopens⟩ := condition_parts htry
  have hlast := hthen.getElem? (j := 0) (a := 'T') rfl
  rcases hopens with ⟨rfl, hword⟩ | ⟨rfl, hword⟩
  · exact ⟨m.start + 1, stop, hbounds, hle, hword.getElem? (j := 1) (a := 'F') rfl, hlast⟩
  · exact ⟨m.start + 5, stop, hbounds, hle, hword.getElem? (j := 5) (a := 'F') rfl, hlast⟩

end Ampscript

end CampaignCheck

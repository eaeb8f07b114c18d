import CampaignCheck.Proofs.Lexical.Gaps
import CampaignCheck.Proofs.Pattern.Ways

namespace CampaignCheck

open Text

section Insertion

variable {p k : Nat} {line : List Char} {set : CharSet}

theorem Text.getElem?_withSemicolon (hp : p ≤ line.length) (k : Nat) :
    (withSemicolon p line)[k]? =
      if k < p then (line)[k]? else if k = p then some ';' else (line)[k - 1]? := by
  have hlength : (line.take p).length = p := by simp [hp]
  rw [withSemicolon, List.append_assoc]
  split_ifs with hlt heq
  · rw [List.getElem?_append_left (by omega), List.getElem?_take_of_lt hlt]
  · rw [List.getElem?_append_right (by omega), hlength, heq, Nat.sub_self]
    rfl
  · obtain ⟨n, rfl⟩ : ∃ n, k = p + (n + 1) := ⟨k - p - 1, by omega⟩
    rw [List.getElem?_append_right (by omega), hlength, Nat.add_sub_cancel_left,
      List.singleton_append, List.getElem?_cons_succ, List.getElem?_drop]
    rfl

namespace Pattern

theorem sees_withSemicolon_of_lt (hp : p ≤ line.length) (hk : k < p) :
    sees set (withSemicolon p line) k = sees set line k := by
  rw [sees, getElem?_withSemicolon hp, if_pos hk, sees]

theorem sees_withSemicolon_of_gt (hp : p ≤ line.length) (hk : p < k) :
    sees set (withSemicolon p line) k = sees set line (k - 1) := by
  rw [sees, getElem?_withSemicolon hp, if_neg (by omega), if_neg (by omega), sees]

theorem ne_of_sees (hp : p ≤ line.length) (hset : set.mem ';' = false)
    (h : sees set (withSemicolon p line) k = true) : k ≠ p := by
  rintro rfl
  rw [sees, getElem?_withSemicolon hp, if_neg (Nat.lt_irrefl k), if_pos rfl] at h
  simp [hset] at h

end Pattern

end Insertion

namespace Ssjs

open Pattern

def scriptWord : List CharSet :=
  [.anyCase 's', .anyCase 'c', .anyCase 'r', .anyCase 'i', .anyCase 'p', .anyCase 't']

theorem scriptClose_eq : scriptClose = seq (seq (seq (inOrder ([.char '<', .char '/'].map one))
    (inOrder (scriptWord.map one))) (many (one .blank))) (one (.char '>')) := rfl

theorem scriptTag_eq : scriptTag = seq (seq (seq (seq (one (.char '<'))
    (inOrder (scriptWord.map one))) wordEdge) (many (one (.not (.char '>'))))) (one (.char '>')) :=
  rfl

theorem simple_scriptClose : Simple scriptClose := by
  rw [scriptClose_eq, scriptWord]
  simp only [List.map, inOrder]
  repeat' constructor

theorem simple_scriptTag : Simple scriptTag := by
  rw [scriptTag_eq, scriptWord]
  simp only [List.map, inOrder]
  repeat' constructor

/-- The word script stands at an offset. -/
def IsScriptAt (cs : List Char) (pos : Nat) : Prop :=
  ∀ j set, scriptWord[j]? = some set → sees set cs (pos + j) = true

/-- An end tag of a script: the offset of its start and of its last character. -/
structure Closes (cs : List Char) (pos stop : Nat) : Prop where
  first : sees (.char '<') cs pos = true
  second : sees (.char '/') cs (pos + 1) = true
  word : IsScriptAt cs (pos + 2)
  before : pos + 8 ≤ stop
  blank : ∀ k, pos + 8 ≤ k → k < stop → sees .blank cs k = true
  last : sees (.char '>') cs stop = true

/-- A start tag of a script. -/
structure Opens (cs : List Char) (pos stop : Nat) : Prop where
  first : sees (.char '<') cs pos = true
  word : IsScriptAt cs (pos + 1)
  edge : Anchor.holds cs.toArray (pos + 7) .wordEdge = true
  before : pos + 7 ≤ stop
  inner : ∀ k, pos + 7 ≤ k → k < stop → sees (.not (.char '>')) cs k = true
  last : sees (.char '>') cs stop = true

theorem isSome_scriptClose {cs : List Char} {pos : Nat} :
    (scriptClose.hit? cs pos).isSome ↔ ∃ stop, Closes cs pos stop := by
  rw [scriptClose_eq, hit?, ends, ends, ends, isSome_ends_inOrder, isSome_ends_inOrder,
    isSome_ends_many]
  simp only [isSome_ends_one, Option.isSome_some, and_true]
  constructor
  · rintro ⟨hstart, hword, n, hblank, hlast⟩
    refine ⟨pos + 8 + n, hstart 0 _ rfl, hstart 1 _ rfl, hword, by omega, ?_, hlast⟩
    intro k hk hk'
    obtain ⟨j, rfl⟩ := Nat.exists_eq_add_of_le hk
    exact hblank j (by omega)
  · rintro ⟨stop, h⟩
    obtain ⟨n, rfl⟩ := Nat.exists_eq_add_of_le h.before
    refine ⟨?_, h.word, n, ?_, h.last⟩
    · intro j set hj
      cases j with
      | zero =>
        obtain rfl : CharSet.char '<' = set := by simpa using hj
        exact h.first
      | succ j =>
        cases j with
        | zero =>
          obtain rfl : CharSet.char '/' = set := by simpa using hj
          exact h.second
        | succ j => simp at hj
    · intro j hj
      exact h.blank _ (Nat.le_add_right _ _) (Nat.add_lt_add_left hj _)

theorem isSome_scriptTag {cs : List Char} {pos : Nat} :
    (scriptTag.hit? cs pos).isSome ↔ ∃ stop, Opens cs pos stop := by
  rw [scriptTag_eq, hit?, ends, ends, ends, ends, isSome_ends_one, isSome_ends_inOrder, wordEdge,
    isSome_ends_anchor, isSome_ends_many]
  simp only [isSome_ends_one, Option.isSome_some, and_true]
  have hlength : pos + 1 + scriptWord.length = pos + 7 := rfl
  rw [hlength]
  constructor
  · rintro ⟨hfirst, hword, hedge, n, hinner, hlast⟩
    refine ⟨pos + 7 + n, hfirst, hword, hedge, by omega, ?_, hlast⟩
    intro k hk hk'
    obtain ⟨j, rfl⟩ := Nat.exists_eq_add_of_le hk
    exact hinner j (by omega)
  · rintro ⟨stop, h⟩
    obtain ⟨n, rfl⟩ := Nat.exists_eq_add_of_le h.before
    refine ⟨h.first, h.word, h.edge, n, ?_, h.last⟩
    intro j hj
    exact h.inner _ (Nat.le_add_right _ _) (Nat.add_lt_add_left hj _)

section Tags

variable {p : Nat} {line : List Char}

theorem mem_scriptWord {j : Nat} {set : CharSet} (h : scriptWord[j]? = some set) :
    j < 6 ∧ set.mem ';' = false := by
  have hmem : set ∈ scriptWord := List.mem_of_getElem? h
  have hlt : j < scriptWord.length := (List.getElem?_eq_some_iff.mp h).1
  have hall : ∀ s ∈ scriptWord, s.mem ';' = false := by decide +kernel
  exact ⟨hlt, hall set hmem⟩

theorem IsScriptAt.ne (hp : p ≤ line.length) {pos : Nat}
    (h : IsScriptAt (withSemicolon p line) pos) {k : Nat} (hk : pos ≤ k) (hk' : k < pos + 6) :
    k ≠ p := by
  obtain ⟨j, rfl⟩ := Nat.exists_eq_add_of_le hk
  have hj : j < scriptWord.length := by
    change j < 6
    omega
  have hset := List.getElem?_eq_getElem hj
  exact ne_of_sees hp (mem_scriptWord hset).2 (h j _ hset)

theorem IsScriptAt.of_lt (hp : p ≤ line.length) {pos : Nat}
    (h : IsScriptAt (withSemicolon p line) pos) (hpos : pos + 6 ≤ p) : IsScriptAt line pos := by
  intro j set hj
  have hlt := (mem_scriptWord hj).1
  rw [← sees_withSemicolon_of_lt hp (by omega)]
  exact h j set hj

theorem IsScriptAt.of_gt (hp : p ≤ line.length) {pos : Nat}
    (h : IsScriptAt (withSemicolon p line) (pos + 1)) (hpos : p ≤ pos) : IsScriptAt line pos := by
  intro j set hj
  have hsees := h j set hj
  rw [sees_withSemicolon_of_gt hp (by omega)] at hsees
  rwa [show pos + 1 + j - 1 = pos + j by omega] at hsees

/-- A semicolon makes no end tag. -/
theorem not_closes_withSemicolon (hp : p ≤ line.length) (h : ∀ pos stop, ¬ Closes line pos stop)
    (pos stop : Nat) : ¬ Closes (withSemicolon p line) pos stop := by
  intro hc
  have hfirst : pos ≠ p := ne_of_sees hp (by decide) hc.first
  have hsecond : pos + 1 ≠ p := ne_of_sees hp (by decide) hc.second
  have hword (k : Nat) (hk : pos + 2 ≤ k) (hk' : k < pos + 8) : k ≠ p := hc.word.ne hp hk hk'
  have hblank (k : Nat) (hk : pos + 8 ≤ k) (hk' : k < stop) : k ≠ p :=
    ne_of_sees hp (by decide) (hc.blank k hk hk')
  have hlast : stop ≠ p := ne_of_sees hp (by decide) hc.last
  have hbefore := hc.before
  -- The semicolon is in no place of the tag, so that the tag is in front of it or behind it.
  rcases Nat.lt_or_ge stop p with hlt | hge
  · refine h pos stop ⟨?_, ?_, hc.word.of_lt hp (by omega), hbefore, ?_, ?_⟩
    · rw [← sees_withSemicolon_of_lt hp (by omega)]
      exact hc.first
    · rw [← sees_withSemicolon_of_lt hp (by omega)]
      exact hc.second
    · intro k hk hk'
      rw [← sees_withSemicolon_of_lt hp (by omega)]
      exact hc.blank k hk hk'
    · rw [← sees_withSemicolon_of_lt hp hlt]
      exact hc.last
  · have hpos : p < pos := by
      by_contra hle
      rcases Nat.lt_or_ge p (pos + 8) with hnear | hfar
      · exact hword p (by omega) hnear rfl
      · exact hblank p hfar (by omega) rfl
    obtain ⟨pos, rfl⟩ : ∃ n, pos = n + 1 := ⟨pos - 1, by omega⟩
    obtain ⟨stop, rfl⟩ : ∃ n, stop = n + 1 := ⟨stop - 1, by omega⟩
    have hmove {set : CharSet} {k : Nat} (hk : p ≤ k)
        (hsees : sees set (withSemicolon p line) (k + 1) = true) : sees set line k = true := by
      rw [sees_withSemicolon_of_gt hp (by omega)] at hsees
      exact hsees
    have hscript : IsScriptAt line (pos + 2) := IsScriptAt.of_gt hp hc.word (by omega)
    refine h pos stop ⟨hmove (by omega) hc.first, hmove (by omega) hc.second, hscript, by omega, ?_,
      hmove (by omega) hc.last⟩
    intro k hk hk'
    exact hmove (by omega) (hc.blank (k + 1) (by omega) (by omega))

theorem wordAt_withSemicolon (hp : p ≤ line.length) (k : Nat) :
    Anchor.wordAt isWord (withSemicolon p line).toArray k =
      if k < p then Anchor.wordAt isWord line.toArray k
      else if k = p then false else Anchor.wordAt isWord line.toArray (k - 1) := by
  simp only [Anchor.wordAt, List.getElem?_toArray, getElem?_withSemicolon hp]
  split_ifs
  · rfl
  · decide
  · rfl

theorem edge_iff (cs : List Char) (k : Nat) :
    Anchor.holds cs.toArray (k + 1) .wordEdge = true ↔
      Anchor.wordAt isWord cs.toArray k ≠ Anchor.wordAt isWord cs.toArray (k + 1) := by
  simp [Anchor.holds, Anchor.isEdge, Anchor.wordBefore]

/-- A semicolon before which no word goes on makes no start tag. -/
theorem not_opens_withSemicolon (hp : p ≤ line.length)
    (hnext : Anchor.wordAt isWord line.toArray p = false)
    (h : ∀ pos stop, ¬ Opens line pos stop) (pos stop : Nat) :
    ¬ Opens (withSemicolon p line) pos stop := by
  intro ho
  have hfirst : pos ≠ p := ne_of_sees hp (by decide) ho.first
  have hword (k : Nat) (hk : pos + 1 ≤ k) (hk' : k < pos + 7) : k ≠ p := ho.word.ne hp hk hk'
  have hlast : stop ≠ p := ne_of_sees hp (by decide) ho.last
  have hbefore := ho.before
  have hedge := (edge_iff _ _).mp ho.edge
  simp only [wordAt_withSemicolon hp] at hedge
  have hstay {set : CharSet} {k : Nat} (hk : k < p)
      (hsees : sees set (withSemicolon p line) k = true) : sees set line k = true := by
    rwa [sees_withSemicolon_of_lt hp hk] at hsees
  have hmove {set : CharSet} {k : Nat} (hk : p ≤ k)
      (hsees : sees set (withSemicolon p line) (k + 1) = true) : sees set line k = true := by
    rw [sees_withSemicolon_of_gt hp (by omega)] at hsees
    exact hsees
  rcases Nat.lt_or_ge p pos with hfront | hbehind
  · obtain ⟨pos, rfl⟩ : ∃ n, pos = n + 1 := ⟨pos - 1, by omega⟩
    obtain ⟨stop, rfl⟩ : ∃ n, stop = n + 1 := ⟨stop - 1, by omega⟩
    have hscript : IsScriptAt line (pos + 1) := IsScriptAt.of_gt hp ho.word (by omega)
    rw [if_neg (by omega), if_neg (by omega), if_neg (by omega), if_neg (by omega)] at hedge
    refine h pos stop ⟨hmove (by omega) ho.first, hscript, (edge_iff _ _).mpr hedge, by omega, ?_,
      hmove (by omega) ho.last⟩
    intro k hk hk'
    exact hmove (by omega) (ho.inner (k + 1) (by omega) (by omega))
  · have hfar : pos + 7 ≤ p := by
      by_contra hnear
      exact hword p (by omega) (by omega) rfl
    have hscript : IsScriptAt line (pos + 1) := ho.word.of_lt hp (by omega)
    have hedge' : Anchor.holds line.toArray (pos + 7) .wordEdge = true := by
      rw [edge_iff]
      rw [if_pos (by omega)] at hedge
      rcases Nat.eq_or_lt_of_le hfar with heq | hlt
      · rw [if_neg (by omega), if_pos heq] at hedge
        rw [heq, hnext]
        exact hedge
      · rwa [if_pos hlt] at hedge
    rcases Nat.lt_or_ge stop p with hlt | hge
    · refine h pos stop ⟨hstay (by omega) ho.first, hscript, hedge', hbefore, ?_, hstay hlt ho.last⟩
      intro k hk hk'
      exact hstay (by omega) (ho.inner k hk hk')
    · -- The semicolon is between the word and the end of the tag.
      obtain ⟨stop, rfl⟩ : ∃ n, stop = n + 1 := ⟨stop - 1, by omega⟩
      refine h pos stop ⟨hstay (by omega) ho.first, hscript, hedge', by omega, ?_,
        hmove (by omega) ho.last⟩
      intro k hk hk'
      rcases Nat.lt_or_ge k p with hkp | hkp
      · exact hstay hkp (ho.inner k hk (by omega))
      · exact hmove hkp (ho.inner (k + 1) (by omega) (by omega))

end Tags

/-- What starts a comment in a script is a slash. -/
theorem eq_slash {c : Char} {rest : List Char} (h : ¬ Mask.Plain (.of .ssjs) (c :: rest)) :
    c = '/' := by
  by_contra hc
  apply h
  constructor
  · intro m hm
    obtain rfl : ("/*".toList, "*/".toList) = m := by simpa [Lexicon.of] using hm
    simp [List.isPrefixOf, Ne.symm hc]
  · simp [Mask.starts, Lexicon.of, List.isPrefixOf, Ne.symm hc]

theorem wordAt_codeLength {line : List Char} (h : Mask.EndsInCode (.of .ssjs) line) :
    Anchor.wordAt isWord line.toArray (Mask.codeLength (.of .ssjs) line) = false := by
  rw [Anchor.wordAt, List.getElem?_toArray]
  cases hc : (line)[Mask.codeLength (.of .ssjs) line]? with
  | none => rfl
  | some c =>
    obtain ⟨hlt, rfl⟩ := List.getElem?_eq_some_iff.mp hc
    rcases h.next (Lexicon.of_skipsBlanks .ssjs) Lexicon.ssjs_ignoresSemicolons
      (List.drop_eq_getElem_cons hlt) with hblank | hcomment
    · exact isWord_of_isBlank hblank
    · simp only [eq_slash hcomment]
      decide

section Lines

variable {raw cs : List Char} {i : Nat}

theorem matchAt?_scriptClose (h : ∀ pos stop, ¬ Closes raw pos stop) (i : Nat) :
    scriptClose.matchAt? raw i = none := by
  rw [← Option.not_isSome_iff_eq_none, isSome_matchAt? simple_scriptClose, isSome_scriptClose]
  rintro ⟨-, stop, hstop⟩
  exact h i stop hstop

theorem occursIn_scriptTag : scriptTag.occursIn raw = true ↔ ∃ pos stop, Opens raw pos stop := by
  rw [occursIn_iff simple_scriptTag]
  simp only [isSome_scriptTag]
  constructor
  · rintro ⟨pos, -, stop, h⟩
    exact ⟨pos, stop, h⟩
  · rintro ⟨pos, stop, h⟩
    have hlt := (List.getElem?_eq_some_iff.mp ((sees_char _ _ _).mp h.first)).1
    exact ⟨pos, by omega, stop, h⟩

/-- A script element that is not closed in a line goes on behind it. -/
theorem viewChars_open (h : ∀ pos stop, ¬ Closes raw pos stop) :
    viewChars raw i 0 true cs = (cs, true) := by
  induction cs generalizing i with
  | nil => rfl
  | cons c cs ih => simp only [viewChars, matchAt?_scriptClose h, ih]

theorem viewChars_shut (h : ∀ pos stop, ¬ Opens raw pos stop) :
    (viewChars raw i 0 false cs).2 = false := by
  induction cs generalizing i with
  | nil => rfl
  | cons c cs ih =>
    have hnone : scriptTag.matchAt? raw i = none := by
      rw [← Option.not_isSome_iff_eq_none, isSome_matchAt? simple_scriptTag, isSome_scriptTag]
      rintro ⟨-, stop, hstop⟩
      exact h i stop hstop
    simp only [viewChars, hnone, ih]

theorem getElem?_of_scriptClose {m : Match} (h : scriptClose.matchAt? raw i = some m) :
    raw[i]? = some '<' := by
  have hsome : (scriptClose.matchAt? raw i).isSome := by simp [h]
  obtain ⟨-, stop, hstop⟩ := (isSome_matchAt? simple_scriptClose).mp hsome |>.imp_right
    isSome_scriptClose.mp
  exact (sees_char _ _ _).mp hstop.first

theorem getElem?_of_scriptTag {m : Match} (h : scriptTag.matchAt? raw i = some m) :
    raw[i]? = some '<' := by
  have hsome : (scriptTag.matchAt? raw i).isSome := by simp [h]
  obtain ⟨-, stop, hstop⟩ := (isSome_matchAt? simple_scriptTag).mp hsome |>.imp_right
    isSome_scriptTag.mp
  exact (sees_char _ _ _).mp hstop.first

/-- A line that is shown as it is, a script element being open before it, closes none. -/
theorem not_closes_of_viewChars (hcs : raw.drop i = cs)
    (h : (viewChars raw i 0 true cs).1 = cs) {pos stop : Nat} (hpos : i ≤ pos) :
    ¬ Closes raw pos stop := by
  induction cs generalizing i with
  | nil =>
    intro hcloses
    have hlt := (List.getElem?_eq_some_iff.mp ((sees_char _ _ _).mp hcloses.first)).1
    have hlength := List.drop_eq_nil_iff.mp hcs
    omega
  | cons c cs ih =>
    have hrest : raw.drop (i + 1) = cs := drop_add_one hcs
    have hhead : raw[i]? = some c := getElem?_here hcs
    cases hm : scriptClose.matchAt? raw i with
    | some m =>
      simp only [viewChars, hm, List.cons.injEq] at h
      rw [getElem?_of_scriptClose hm, Option.some_inj] at hhead
      rw [← hhead] at h
      exact absurd h.1 (by decide)
    | none =>
      simp only [viewChars, hm, List.cons.injEq, true_and] at h
      rcases Nat.eq_or_lt_of_le hpos with rfl | hlt
      · intro hcloses
        have hsome : (scriptClose.matchAt? raw i).isSome := by
          rw [isSome_matchAt? simple_scriptClose, isSome_scriptClose]
          have hlt := (List.getElem?_eq_some_iff.mp hhead).1
          exact ⟨by omega, stop, hcloses⟩
        simp [hm] at hsome
      · exact ih hrest h hlt

/-- A line that is shown as it is, no script element being open before it, is blank. -/
theorem eq_blank_of_viewChars (hcs : raw.drop i = cs)
    (h : (viewChars raw i 0 false cs).1 = cs) : ∀ c ∈ cs, c = ' ' := by
  induction cs generalizing i with
  | nil => simp
  | cons c cs ih =>
    have hrest : raw.drop (i + 1) = cs := drop_add_one hcs
    cases hm : scriptTag.matchAt? raw i with
    | some m =>
      have hhead : raw[i]? = some c := getElem?_here hcs
      simp only [viewChars, hm, List.cons.injEq] at h
      rw [getElem?_of_scriptTag hm, Option.some_inj] at hhead
      rw [← hhead] at h
      exact absurd h.1 (by decide)
    | none =>
      simp only [viewChars, hm, List.cons.injEq] at h
      exact List.forall_mem_cons.mpr ⟨h.1.symm, ih hrest h.2⟩

end Lines

section Ended

variable {raw raw' : List Char} {inside : Bool}

theorem not_endsInCode_of_blank (h : ∀ c ∈ raw, c = ' ') : ¬ Mask.EndsInCode (.of .ssjs) raw := by
  intro hends
  obtain ⟨n, hn⟩ := Nat.exists_eq_add_of_lt hends.pos
  rw [Nat.zero_add] at hn
  obtain ⟨c, hc, hvisible⟩ := Mask.visible_of_codeLength hn
  have hblank : c = ' ' := by
    by_contra hne
    have hraw := (Mask.inside_shows (.of .ssjs) .code raw).getElem?_of_ne hne hc
    exact hne (h c (List.mem_of_getElem? hraw))
  rw [hblank] at hvisible
  cases hvisible

theorem viewChars_ended (h : Mask.Ended (.of .ssjs) (viewChars raw 0 0 inside raw).1 raw raw') :
    Ssjs.viewChars raw' 0 0 inside raw' =
      (if raw' = raw then (Ssjs.viewChars raw 0 0 inside raw).1 else raw',
        (Ssjs.viewChars raw 0 0 inside raw).2) := by
  rcases h with rfl | ⟨hshown, hends, rfl⟩
  · rw [if_pos rfl]
  · have hle := Mask.codeLength_le (.of .ssjs) raw
    have hne : withSemicolon (Mask.codeLength (.of .ssjs) raw) raw ≠ raw := by
      intro heq
      have hlength := congrArg List.length heq
      simp [withSemicolon] at hlength
      omega
    cases inside with
    | false => exact absurd hends (not_endsInCode_of_blank (eq_blank_of_viewChars rfl hshown))
    | true =>
      have hopen (pos stop : Nat) : ¬ Closes raw pos stop :=
        not_closes_of_viewChars rfl hshown (Nat.zero_le pos)
      rw [viewChars_open (not_closes_withSemicolon hle hopen), viewChars_open hopen, if_neg hne]

theorem occursIn_ended_of_shut
    (h : Mask.Ended (.of .ssjs) (Ssjs.viewChars raw 0 0 false raw).1 raw raw')
    (htag : scriptTag.occursIn raw = true) : scriptTag.occursIn raw' = true := by
  rcases h with rfl | ⟨hshown, hends, -⟩
  · exact htag
  · exact absurd hends (not_endsInCode_of_blank (eq_blank_of_viewChars rfl hshown))

theorem occursIn_ended (h : Mask.Ended (.of .ssjs) raw raw raw')
    (htag : scriptTag.occursIn raw = false) : scriptTag.occursIn raw' = false := by
  have hnone (pos stop : Nat) : ¬ Opens raw pos stop := by
    intro hopens
    rw [occursIn_scriptTag.mpr ⟨pos, stop, hopens⟩] at htag
    cases htag
  rcases h with rfl | ⟨-, hends, rfl⟩
  · exact htag
  · rw [← Bool.not_eq_true, occursIn_scriptTag]
    rintro ⟨pos, stop, hopens⟩
    exact not_opens_withSemicolon (Mask.codeLength_le _ raw) (wordAt_codeLength hends) hnone pos
      stop hopens

variable {raws raws' : List (List Char)}

theorem viewLines_ended (hlength : raws'.length = raws.length)
    (h : ∀ (i : Nat) v raw raw', (viewLines inside raws)[i]? = some v → raws[i]? = some raw →
      raws'[i]? = some raw' → Mask.Ended (.of .ssjs) v raw raw')
    (i : Nat) (v raw raw' : List Char) (hv : (viewLines inside raws)[i]? = some v)
    (hraw : raws[i]? = some raw) (hraw' : raws'[i]? = some raw') :
    (viewLines inside raws')[i]? = some (if raw' = raw then v else raw') := by
  induction raws generalizing inside raws' i with
  | nil => simp at hraw
  | cons first rest ih =>
    obtain ⟨first', rest', rfl⟩ := List.exists_cons_of_length_eq_add_one hlength
    have hhead := viewChars_ended (h 0 _ first first' rfl rfl rfl)
    simp only [viewLines, hhead]
    cases i with
    | zero =>
      obtain rfl : first = raw := by simpa using hraw
      obtain rfl : first' = raw' := by simpa using hraw'
      obtain rfl : (Ssjs.viewChars first 0 0 inside first).1 = v := by simpa [viewLines] using hv
      rfl
    | succ i =>
      refine ih (by simpa using hlength) ?_ i hv hraw hraw'
      intro j v raw raw' hv hraw hraw'
      exact h (j + 1) v raw raw' hv hraw hraw'

/-- The first script tag of a page stays where it is. -/
theorem any_occursIn_ended (hlength : raws'.length = raws.length)
    (h : ∀ (i : Nat) v raw raw', (viewLines false raws)[i]? = some v → raws[i]? = some raw →
      raws'[i]? = some raw' → Mask.Ended (.of .ssjs) v raw raw')
    (htag : raws.any scriptTag.occursIn = true) : raws'.any scriptTag.occursIn = true := by
  induction raws generalizing raws' with
  | nil => simp at htag
  | cons first rest ih =>
    obtain ⟨first', rest', rfl⟩ := List.exists_cons_of_length_eq_add_one hlength
    have hhead := h 0 _ first first' rfl rfl rfl
    rw [List.any_cons, Bool.or_eq_true] at htag ⊢
    cases hfirst : scriptTag.occursIn first with
    | true => exact .inl (occursIn_ended_of_shut hhead hfirst)
    | false =>
      have hshut : (Ssjs.viewChars first 0 0 false first).2 = false := by
        apply viewChars_shut
        intro pos stop hopens
        rw [occursIn_scriptTag.mpr ⟨pos, stop, hopens⟩] at hfirst
        cases hfirst
      have htail := htag.resolve_left (by simp [hfirst])
      refine .inr (ih (by simpa using hlength) ?_ htail)
      intro j v raw raw' hv hraw hraw'
      refine h (j + 1) v raw raw' ?_ hraw hraw'
      simp only [viewLines, hshut]
      exact hv

/-- Semicolons behind the code of lines that are script throughout are added to the script too, and
change nothing else of it. -/
theorem view_ended (hlength : raws'.length = raws.length)
    (h : ∀ (i : Nat) v raw raw', (view raws)[i]? = some v → raws[i]? = some raw →
      raws'[i]? = some raw' → Mask.Ended (.of .ssjs) v raw raw')
    (i : Nat) (v raw raw' : List Char) (hv : (view raws)[i]? = some v)
    (hraw : raws[i]? = some raw) (hraw' : raws'[i]? = some raw') :
    (view raws')[i]? = some (if raw' = raw then v else raw') := by
  cases htag : raws.any scriptTag.occursIn with
  | true =>
    have hview : view raws = viewLines false raws := by rw [view, htag, if_pos rfl]
    rw [hview] at h hv
    have htag' := any_occursIn_ended hlength h htag
    rw [view, htag', if_pos rfl]
    exact viewLines_ended hlength h i v raw raw' hv hraw hraw'
  | false =>
    have hview : view raws = raws := by rw [view, htag, if_neg Bool.false_ne_true]
    rw [hview] at h hv
    have htag' : raws'.any scriptTag.occursIn = false := by
      rw [List.any_eq_false] at htag ⊢
      intro line' hmem
      obtain ⟨j, hj⟩ := List.getElem?_of_mem hmem
      have hlt := (List.getElem?_eq_some_iff.mp hj).1
      have hline := List.getElem?_eq_getElem (l := raws) (i := j) (by omega)
      have hnone := htag _ (List.mem_of_getElem? hline)
      rw [Bool.not_eq_true] at hnone ⊢
      exact occursIn_ended (h j _ _ line' hline hline hj) hnone
    obtain rfl : raw = v := Option.some.inj (hraw.symm.trans hv)
    rw [view, htag', if_neg Bool.false_ne_true, hraw']
    split_ifs with heq
    · rw [heq]
    · rfl

end Ended

end Ssjs

end CampaignCheck

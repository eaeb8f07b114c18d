import CampaignCheck.Proofs.Ampscript.Comparisons
import CampaignCheck.Proofs.Ampscript.Conditions
import CampaignCheck.Proofs.Pattern.Ways

namespace CampaignCheck

open Text

namespace Pattern

/-- Where something leads on behind the first place of a part, something leads on at that place of
the whole text, `n` characters further. -/
def Carries (n : Nat) (g g' : Nat → Option Nat) : Prop :=
  ∀ pos, 0 < pos → (g pos).isSome → (g' (n + pos)).isSome

/-- Nothing leads on from the end of the text. -/
def StaysIn (cs : List Char) (g : Nat → Option Nat) : Prop :=
  ∀ pos, (g pos).isSome → pos < cs.length

theorem lt_length_of_sees {set : CharSet} {cs : List Char} {pos : Nat}
    (h : sees set cs pos = true) : pos < cs.length := by
  by_contra hge
  rw [sees, List.getElem?_eq_none (Nat.le_of_not_lt hge)] at h
  cases h

section Part

variable {pre part post : List Char} {g g' : Nat → Option Nat}

theorem sees_part {set : CharSet} {pos : Nat} (hpos : pos < part.length) :
    sees set (pre ++ part ++ post) (pre.length + pos) = sees set part pos := by
  rw [sees, sees, List.append_assoc, List.getElem?_append_right (Nat.le_add_right _ _),
    Nat.add_sub_cancel_left, List.getElem?_append_left hpos]

theorem carries_one {set : CharSet} (hg : Carries pre.length g g') :
    Carries pre.length ((one set).ends part.toArray g)
      ((one set).ends (pre ++ part ++ post).toArray g') := by
  intro pos hpos h
  obtain ⟨hsees, hnext⟩ := isSome_ends_one.mp h
  refine isSome_ends_one.mpr ⟨?_, hg (pos + 1) (Nat.succ_pos pos) hnext⟩
  rw [sees_part (lt_length_of_sees hsees), hsees]

theorem carries_many {set : CharSet} (hg : Carries pre.length g g') :
    Carries pre.length ((many (one set)).ends part.toArray g)
      ((many (one set)).ends (pre ++ part ++ post).toArray g') := by
  intro pos hpos h
  obtain ⟨n, hsees, hnext⟩ := isSome_ends_many.mp h
  refine isSome_ends_many.mpr ⟨n, fun j hj => ?_, ?_⟩
  · have hsee := hsees j hj
    rw [Nat.add_assoc, sees_part (lt_length_of_sees hsee), hsee]
  · rw [Nat.add_assoc]
    exact hg (pos + n) (Nat.add_pos_left hpos n) hnext

theorem carries_inOrder {sets : List CharSet} (hg : Carries pre.length g g') :
    Carries pre.length ((inOrder (sets.map one)).ends part.toArray g)
      ((inOrder (sets.map one)).ends (pre ++ part ++ post).toArray g') := by
  intro pos hpos h
  obtain ⟨hsees, hnext⟩ := isSome_ends_inOrder.mp h
  refine isSome_ends_inOrder.mpr ⟨fun j set hj => ?_, ?_⟩
  · have hsee := hsees j set hj
    rw [Nat.add_assoc, sees_part (lt_length_of_sees hsee), hsee]
  · rw [Nat.add_assoc]
    exact hg _ (Nat.add_pos_left hpos _) hnext

theorem carries_option {set : CharSet} (hg : Carries pre.length g g') :
    Carries pre.length ((alt (one set) empty).ends part.toArray g)
      ((alt (one set) empty).ends (pre ++ part ++ post).toArray g') := by
  intro pos hpos h
  rw [ends, Option.isSome_or, Bool.or_eq_true] at h ⊢
  exact h.imp (carries_one hg pos hpos) (hg pos hpos)

/-- A word edge between two characters of a part is one of the whole text. -/
theorem carries_wordEdge (hg : Carries pre.length g g') (hin : StaysIn part g) :
    Carries pre.length (wordEdge.ends part.toArray g)
      (wordEdge.ends (pre ++ part ++ post).toArray g') := by
  intro pos hpos h
  obtain ⟨q, rfl⟩ : ∃ q, pos = q + 1 := ⟨pos - 1, by omega⟩
  obtain ⟨hedge, hnext⟩ := isSome_ends_anchor.mp h
  have hlt := hin _ hnext
  refine isSome_ends_anchor.mpr ⟨?_, hg _ hpos hnext⟩
  rw [wordEdge_holds, preceded] at hedge
  rw [wordEdge_holds, ← Nat.add_assoc, preceded, sees_part (Nat.lt_of_succ_lt hlt),
    Nat.add_assoc, sees_part hlt, hedge]

theorem staysIn_inOrder {set : CharSet} {sets : List CharSet} {cs : List Char} :
    StaysIn cs ((inOrder ((set :: sets).map one)).ends cs.toArray g) := by
  intro pos h
  have hsee := (isSome_ends_inOrder.mp h).1 0 set rfl
  exact lt_length_of_sees hsee

theorem staysIn_many {set : CharSet} {cs : List Char} (hg : StaysIn cs g) :
    StaysIn cs ((many (one set)).ends cs.toArray g) := by
  intro pos h
  obtain ⟨n, -, hnext⟩ := isSome_ends_many.mp h
  exact Nat.lt_of_le_of_lt (Nat.le_add_right pos n) (hg _ hnext)

end Part

/-- Where something leads on from a place of the stretched text, something leads on in the text. -/
def Under (k : Nat → Nat) (g g' : Nat → Option Nat) : Prop :=
  ∀ i, (g' (placeOf k i)).isSome → (g i).isSome

section Under

variable {k : Nat → Nat} {cs : List Char} {set : CharSet} {g g' : Nat → Option Nat}

theorem under_one (h : Still k cs set ∨ Skips k g') (hg : Under k g g') :
    Under k ((one set).ends cs.toArray g) ((one set).ends (stretch k cs).toArray g') := by
  intro i hi
  obtain ⟨hsees, hnext⟩ := isSome_ends_one.mp hi
  rw [sees_placeOf] at hsees
  have hstay : k i = 0 := by
    rcases h with hstill | hskips
    · exact hstill.stays hsees
    · by_contra hk
      rw [hskips i 1 Nat.one_pos (Nat.pos_of_ne_zero hk)] at hnext
      cases hnext
  rw [← placeOf_succ_of_once hstay] at hnext
  exact isSome_ends_one.mpr ⟨hsees, hg (i + 1) hnext⟩

theorem under_inOrder {sets : List CharSet} (hsets : ∀ set ∈ sets, Still k cs set)
    (hg : Under k g g') : Under k ((inOrder (sets.map one)).ends cs.toArray g)
      ((inOrder (sets.map one)).ends (stretch k cs).toArray g') := by
  induction sets with
  | nil => exact hg
  | cons set sets ih =>
    have hrest := ih fun s hs => hsets s (List.mem_cons_of_mem set hs)
    have hset := hsets set List.mem_cons_self
    cases sets with
    | nil => exact under_one (.inl hset) hg
    | cons s sets => exact under_one (.inl hset) hrest

theorem under_many (h : Still k cs set ∨ Skips k g') (hg : Under k g g') :
    Under k ((many (one set)).ends cs.toArray g)
      ((many (one set)).ends (stretch k cs).toArray g') := by
  intro i hi
  obtain ⟨n, hsees, hnext⟩ := isSome_ends_many.mp hi
  obtain ⟨j, r, hr, hplace⟩ := exists_placeOf k (placeOf k i + n)
  have hle : i ≤ j := by
    by_contra hlt
    have hbefore := placeOf_lt (k := k) (Nat.not_le.mp hlt)
    omega
  have hpassed {q : Nat} (hq : i ≤ q) (hlt : placeOf k q < placeOf k i + n) :
      sees set cs q = true := by
    have hstart := placeOf_le_iff (k := k) |>.mpr hq
    have hhere := hsees (placeOf k q - placeOf k i) (by omega)
    rwa [Nat.add_sub_cancel' hstart, sees_placeOf] at hhere
  obtain rfl : r = 0 := by
    by_contra hne
    have hrepeated : 0 < k j := by omega
    rcases h with hstill | hskips
    · have hstay := hstill.stays (hpassed hle (by omega))
      omega
    · rw [hplace, hskips j r (Nat.pos_of_ne_zero hne) hr] at hnext
      cases hnext
  rw [hplace, Nat.add_zero] at hnext
  refine isSome_ends_many.mpr ⟨j - i, fun t ht => hpassed (Nat.le_add_right i t) ?_, ?_⟩
  · have hlt := placeOf_lt_iff (k := k) |>.mpr (show i + t < j by omega)
    omega
  · rw [Nat.add_sub_cancel' hle]
    exact hg j hnext

theorem under_option (h : Still k cs set) (hg : Under k g g') :
    Under k ((alt (one set) empty).ends cs.toArray g)
      ((alt (one set) empty).ends (stretch k cs).toArray g') := by
  intro i hi
  rw [ends, Option.isSome_or, Bool.or_eq_true] at hi ⊢
  exact hi.imp (under_one (.inl h) hg i) (hg i)

theorem under_wordEdge (hg : Under k g g') :
    Under k (wordEdge.ends cs.toArray g) (wordEdge.ends (stretch k cs).toArray g') := by
  intro i h
  obtain ⟨hedge, hnext⟩ := isSome_ends_anchor.mp h
  rw [wordEdge_stretch] at hedge
  exact isSome_ends_anchor.mpr ⟨hedge, hg i hnext⟩

theorem skips_many (h : Still k cs set) (hg : Skips k g') :
    Skips k ((many (one set)).ends (stretch k cs).toArray g') := by
  intro i r hr hr'
  rw [← Option.not_isSome_iff_eq_none, isSome_ends_many]
  rintro ⟨n, hsees, hnext⟩
  cases n with
  | zero =>
    rw [Nat.add_zero, hg i r hr hr'] at hnext
    cases hnext
  | succ n =>
    have hfirst := hsees 0 (Nat.succ_pos n)
    rw [Nat.add_zero, sees_stretch set hr', h i (by omega)] at hfirst
    cases hfirst

theorem skips_option (h : Still k cs set) (hg : Skips k g') :
    Skips k ((alt (one set) empty).ends (stretch k cs).toArray g') :=
  skips_alt (skips_one h g') hg

end Under

/-- Where something leads on from one of the offsets in the text, something leads on from its place
in the stretched text. -/
def Over (k : Nat → Nat) (start stop : Nat) (g g' : Nat → Option Nat) : Prop :=
  ∀ i, start ≤ i → i ≤ stop → (g i).isSome → (g' (placeOf k i)).isSome

section Over

variable {k : Nat → Nat} {cs : List Char} {start stop : Nat} {g g' : Nat → Option Nat}
  (hstays : ∀ i, start ≤ i → i ≤ stop → k i = 0)
include hstays

/-- A set without the character at the end. -/
theorem over_one {set : CharSet} (hend : sees set cs stop = false) (hg : Over k start stop g g') :
    Over k start stop ((one set).ends cs.toArray g) ((one set).ends (stretch k cs).toArray g') := by
  intro i hi hi' h
  obtain ⟨hsees, hnext⟩ := isSome_ends_one.mp h
  have hne : i ≠ stop := by
    rintro rfl
    rw [hend] at hsees
    cases hsees
  refine isSome_ends_one.mpr ⟨by rwa [sees_placeOf], ?_⟩
  rw [← placeOf_succ_of_once (hstays i hi hi')]
  exact hg (i + 1) (by omega) (by omega) hnext

theorem over_inOrder {sets : List CharSet} (hend : ∀ set ∈ sets, sees set cs stop = false)
    (hg : Over k start stop g g') : Over k start stop ((inOrder (sets.map one)).ends cs.toArray g)
      ((inOrder (sets.map one)).ends (stretch k cs).toArray g') := by
  induction sets with
  | nil => exact hg
  | cons set sets ih =>
    have hrest := ih fun s hs => hend s (List.mem_cons_of_mem set hs)
    have hset := hend set List.mem_cons_self
    cases sets with
    | nil => exact over_one hstays hset hg
    | cons s sets => exact over_one hstays hset hrest

theorem over_many {set : CharSet} (hend : sees set cs stop = false) (hg : Over k start stop g g') :
    Over k start stop ((many (one set)).ends cs.toArray g)
      ((many (one set)).ends (stretch k cs).toArray g') := by
  intro i hi hi' h
  obtain ⟨n, hsees, hnext⟩ := isSome_ends_many.mp h
  have hle : i + n ≤ stop := by
    by_contra hlt
    have hpassed := hsees (stop - i) (by omega)
    rw [Nat.add_sub_cancel' hi', hend] at hpassed
    cases hpassed
  have hplace {j : Nat} (hj : j ≤ n) : placeOf k (i + j) = placeOf k i + j :=
    placeOf_add_of_once fun t ht => hstays (i + t) (by omega) (by omega)
  refine isSome_ends_many.mpr ⟨n, fun j hj => ?_, ?_⟩
  · rw [← hplace (Nat.le_of_lt hj), sees_placeOf]
    exact hsees j hj
  · rw [← hplace (Nat.le_refl n)]
    exact hg (i + n) (by omega) hle hnext

theorem over_option {set : CharSet} (hend : sees set cs stop = false)
    (hg : Over k start stop g g') : Over k start stop ((alt (one set) empty).ends cs.toArray g)
      ((alt (one set) empty).ends (stretch k cs).toArray g') := by
  intro i hi hi' h
  rw [ends, Option.isSome_or, Bool.or_eq_true] at h ⊢
  exact h.imp (over_one hstays hend hg i hi hi') (hg i hi hi')

omit hstays in
theorem over_wordEdge (hg : Over k start stop g g') :
    Over k start stop (wordEdge.ends cs.toArray g)
      (wordEdge.ends (stretch k cs).toArray g') := by
  intro i hi hi' h
  obtain ⟨hedge, hnext⟩ := isSome_ends_anchor.mp h
  exact isSome_ends_anchor.mpr ⟨by rwa [wordEdge_stretch], hg i hi hi' hnext⟩

omit hstays in
/-- The character at the end, with nothing behind it. -/
theorem over_last (set : CharSet) : Over k start stop ((one set).ends cs.toArray some)
    ((one set).ends (stretch k cs).toArray some) := by
  intro i _ _ h
  obtain ⟨hsees, -⟩ := isSome_ends_one.mp h
  exact isSome_ends_one.mpr ⟨by rwa [sees_placeOf], rfl⟩

end Over

/-- The pattern passes over no character `c`. -/
def avoids (c : Char) : Pattern → Bool
  | one set => !set.mem c
  | seq p q | alt p q => p.avoids c && q.avoids c
  | repeated p _ _ _ | capture _ p => p.avoids c
  | _ => true

/-- Between the start and the place where what comes after leads on there is no such character. -/
theorem exists_of_avoids {cs : List Char} {c : Char} {p : Pattern} (hp : Simple p)
    (hc : p.avoids c = true) {g : Nat → Option Nat} {pos stop : Nat}
    (h : p.ends cs.toArray g pos = some stop) :
    ∃ q, pos ≤ q ∧ g q = some stop ∧ ∀ j, pos ≤ j → j < q → cs[j]? ≠ some c := by
  have hnone {g : Nat → Option Nat} {pos : Nat} (h : g pos = some stop) :
      ∃ q, pos ≤ q ∧ g q = some stop ∧ ∀ j, pos ≤ j → j < q → cs[j]? ≠ some c :=
    ⟨pos, Nat.le_refl _, h, fun j hj hj' => absurd hj' (Nat.not_lt.mpr hj)⟩
  have hother {set : CharSet} (hset : set.mem c = false) {j : Nat} (hj : sees set cs j = true) :
      cs[j]? ≠ some c := by
    intro he
    simp [sees, he, hset] at hj
  induction hp generalizing g pos with
  | empty => exact hnone h
  | one set =>
    rw [ends_one] at h
    split_ifs at h with hsees
    refine ⟨pos + 1, Nat.le_succ _, h, fun j hj hj' => ?_⟩
    obtain rfl : j = pos := by omega
    exact hother (by simpa [avoids] using hc) hsees
  | anchor a =>
    rw [ends] at h
    split_ifs at h
    exact hnone h
  | seq hp hq ihp ihq =>
    rw [avoids, Bool.and_eq_true] at hc
    obtain ⟨m, hm, hrest, hfirst⟩ := ihp hc.1 h
    obtain ⟨q, hq, hg, hsecond⟩ := ihq hc.2 hrest
    refine ⟨q, Nat.le_trans hm hq, hg, fun j hj hj' => ?_⟩
    rcases Nat.lt_or_ge j m with hlt | hge
    · exact hfirst j hj hlt
    · exact hsecond j hge hj'
  | @alt p q hp hq ihp ihq =>
    rw [avoids, Bool.and_eq_true] at hc
    rw [ends] at h
    cases hfirst : p.ends cs.toArray g pos with
    | some r =>
      rw [hfirst] at h
      exact ihp hc.1 (hfirst.trans h)
    | none =>
      rw [hfirst] at h
      exact ihq hc.2 h
  | many set =>
    rw [many, ends, countOf_eq] at h
    obtain ⟨m, hm, hstop⟩ := exists_of_backOff h
    rw [le_length_takeWhile_iff] at hm
    simp only [List.getElem?_drop] at hm
    refine ⟨pos + m, Nat.le_add_right pos m, hstop, fun j hj hj' => ?_⟩
    have hsees := hm (j - pos) (by omega)
    rw [Nat.add_sub_cancel' hj] at hsees
    exact hother (by simpa [many, avoids] using hc) hsees
  | capture n hp ih => exact ih hc h
  | ahead holds hp ih =>
    rw [ends] at h
    split_ifs at h
    exact hnone h
  | behind holds width hp ih =>
    rw [ends] at h
    split_ifs at h <;> exact hnone h

end Pattern

namespace Ampscript

open Pattern

def quote : Pattern := alt (one (.chars "\"'")) empty

/-- The start tag up to the equals sign and the blanks behind it. -/
def tagHead : Pattern :=
  one (.char '<') ++ inOrder ((letters "script").map one) ++ wordEdge ++
    many (one (.not (.char '>'))) ++ inOrder ((letters "language").map one) ++ blanks ++
    one (.char '=') ++ blanks

/-- The start tag with its optional quotation marks written as choices. -/
def tagPattern : Pattern :=
  tagHead ++ quote ++ inOrder ((letters "ampscript").map one) ++ quote ++
    many (one (.not (.char '>'))) ++ one (.char '>')

theorem scriptOpen_eq : scriptOpen =
    seq (seq (seq (seq (seq tagHead (opt (one (.chars "\"'"))))
      (inOrder ((letters "ampscript").map one))) (opt (one (.chars "\"'"))))
      (many (one (.not (.char '>'))))) (one (.char '>')) := rfl

theorem simple_tagHead : Simple tagHead := by
  unfold tagHead
  repeat' constructor

theorem spelled_scriptOpen : Spelled scriptOpen tagPattern := by
  have hname : Simple (inOrder ((letters "ampscript").map one)) := by
    repeat' constructor
  rw [scriptOpen_eq]
  exact .seq (.seq (.seq (.seq (.seq (.simple simple_tagHead) (.opt _)) (.simple hname)) (.opt _))
    (.simple (.many _))) (.simple (.one _))

/-- A start tag in a part of a text is one in the text. -/
theorem isSome_hit?_part {pre part post : List Char} {pos : Nat}
    (h : (tagPattern.hit? part pos).isSome) :
    (tagPattern.hit? (pre ++ part ++ post) (pre.length + pos)).isSome := by
  have hend : Carries pre.length some some := fun _ _ _ => rfl
  obtain ⟨hbracket, hrest⟩ := isSome_ends_one.mp h
  refine isSome_ends_one.mpr ⟨?_, ?_⟩
  · rw [sees_part (lt_length_of_sees hbracket), hbracket]
  refine carries_inOrder ?_ (pos + 1) (Nat.succ_pos pos) hrest
  refine carries_wordEdge ?_ (staysIn_many staysIn_inOrder)
  exact carries_many (carries_inOrder (carries_many (carries_one (carries_many (carries_option
    (carries_inOrder (carries_option (carries_many (carries_one hend)))))))))

/-- Without a start tag in the text there is none in any part of it. -/
theorem matchAt?_scriptOpen_eq_none {cs part : List Char} (h : scriptOpen.occursIn cs = false)
    (hpart : part <:+: cs) (i : Nat) : scriptOpen.matchAt? part i = none := by
  obtain ⟨pre, post, rfl⟩ := hpart
  by_contra hsome
  rw [← ne_eq, ← Option.isSome_iff_ne_none, ← Option.isSome_map,
    spelled_scriptOpen.map_stop_matchAt?, Option.isSome_map,
    isSome_matchAt? spelled_scriptOpen.to_simple] at hsome
  have hoccurs : tagPattern.occursIn (pre ++ part ++ post) = true := by
    refine (occursIn_iff spelled_scriptOpen.to_simple).mpr
      ⟨pre.length + i, ?_, isSome_hit?_part hsome.2⟩
    have hle := hsome.1
    simp only [List.length_append]
    omega
  rw [← spelled_scriptOpen.occursIn_eq, h] at hoccurs
  cases hoccurs

/-- A start tag ends with the first closing bracket. -/
theorem hit?_tagPattern {cs : List Char} {i stop : Nat} (h : tagPattern.hit? cs i = some stop) :
    ∃ last, stop = last + 1 ∧ i ≤ last ∧ cs[last]? = some '>' ∧
      ∀ j, i ≤ j → j < last → cs[j]? ≠ some '>' := by
  cases spelled_scriptOpen.to_simple with
  | seq hp _ =>
    obtain ⟨last, hle, hend, hbefore⟩ := exists_of_avoids (c := '>') hp (by decide +kernel) h
    rw [ends_one] at hend
    split_ifs at hend with hsees
    exact ⟨last, (Option.some.inj hend).symm, hle, (sees_char _ _ _).mp hsees, hbefore⟩

theorem map_stop_scriptOpen (cs : List Char) (i : Nat) :
    (scriptOpen.matchAt? cs i).map (·.stop) =
      if i ≤ cs.length then tagPattern.hit? cs i else none := by
  rw [matchAt?]
  split_ifs
  · exact spelled_scriptOpen.map_stop_tryAt cs i
  · rfl

theorem lt_stop_of_scriptOpen {cs : List Char} {i : Nat} {m : Match}
    (h : scriptOpen.matchAt? cs i = some m) : i < m.stop := by
  have hstop := map_stop_scriptOpen cs i
  rw [h, Option.map_some] at hstop
  split_ifs at hstop
  obtain ⟨last, hlast, hle, -⟩ := hit?_tagPattern hstop.symm
  omega

section Stretch

variable {k : Nat → Nat} {cs : List Char} (hk : Elastic k cs)
include hk

theorem under_tag :
    Under k (tagPattern.hit? cs) (tagPattern.hit? (stretch k cs)) := by
  have hletters (word : String) (hword : word.toList.all Char.isAlpha = true) :
      ∀ set ∈ letters word, Still k cs set := fun set hset =>
    still_of_pliant hk.pliant (rigid_letters word hword set hset)
  have hblank : Still k cs .blank := still_of_elastic hk (by decide)
  have hquote : Still k cs (.chars "\"'") := still_of_elastic hk (by decide)
  have hopen : Still k cs (.char '<') := still_of_elastic hk (by decide)
  have hclose : Still k cs (.char '>') := still_of_elastic hk (by decide)
  have hscript := hletters "script" (by decide)
  have hlanguage := hletters "language" (by decide)
  have hname := hletters "ampscript" (by decide)
  have hend : Under k ((many (one (.not (.char '>'))) ++ one (.char '>')).ends cs.toArray some)
      ((many (one (.not (.char '>'))) ++ one (.char '>')).ends (stretch k cs).toArray some) :=
    under_many (.inr (skips_one hclose some)) (under_one (.inl hclose) fun _ _ => rfl)
  have hvalue := under_inOrder hname (under_option hquote hend)
  have hsecond := under_many (.inl hblank) (under_option hquote hvalue)
  have hskip (g' : Nat → Option Nat) :=
    skips_many hblank (skips_option hquote (skips_inOrder hname (by decide) g'))
  refine under_one (.inl hopen) (under_inOrder hscript (under_wordEdge ?_))
  refine under_many (.inr (skips_inOrder hlanguage (by decide) _)) (under_inOrder hlanguage ?_)
  exact under_many (.inl hblank) (under_one (.inr (hskip _)) hsecond)

omit hk in
/-- A tag in which nothing is repeated stays one. -/
theorem over_tag {start stop : Nat} (hclose : cs[stop]? = some '>')
    (hstays : ∀ i, start ≤ i → i ≤ stop → k i = 0) :
    Over k start stop (tagPattern.hit? cs) (tagPattern.hit? (stretch k cs)) := by
  have hother {set : CharSet} (hset : set.mem '>' = false) : sees set cs stop = false := by
    simp [sees, hclose, hset]
  have hletters (word : String) (hword : word.toList.all Char.isAlpha = true) :
      ∀ set ∈ letters word, sees set cs stop = false :=
    fun set hset => hother (not_mem_letters hword (by decide) set hset)
  have hquote : sees (.chars "\"'") cs stop = false := hother (by decide)
  have hblank : sees .blank cs stop = false := hother (by decide)
  have hbody : sees (.not (.char '>')) cs stop = false := hother (by decide)
  have hsign : sees (.char '=') cs stop = false := hother (by decide)
  have hend := over_many hstays hbody (@over_last k cs start stop (.char '>'))
  have hvalue := over_option hstays hquote
    (over_inOrder hstays (hletters "ampscript" (by decide)) (over_option hstays hquote hend))
  have hlanguage := over_many hstays hblank
    (over_one hstays hsign (over_many hstays hblank hvalue))
  refine over_one hstays (hother (by decide))
    (over_inOrder hstays (hletters "script" (by decide)) (over_wordEdge ?_))
  exact over_many hstays hbody
    (over_inOrder hstays (hletters "language" (by decide)) hlanguage)

/-- Tags move with their brackets where those that there are have nothing repeated in them. -/
theorem hit?_tagPattern_stretch {i : Nat}
    (hstays : ∀ stop, tagPattern.hit? cs i = some stop → ∀ j, i ≤ j → j < stop → k j = 0) :
    tagPattern.hit? (stretch k cs) (placeOf k i) = (tagPattern.hit? cs i).map (placeOf k) := by
  cases hhit : tagPattern.hit? cs i with
  | none =>
    rw [Option.map_none, ← Option.not_isSome_iff_eq_none]
    intro hsome
    have hunder := under_tag hk i hsome
    rw [hhit] at hunder
    cases hunder
  | some stop =>
    obtain ⟨last, rfl, hle, hclose, hbefore⟩ := hit?_tagPattern hhit
    have hquiet (j : Nat) (hj : i ≤ j) (hj' : j ≤ last) : k j = 0 :=
      hstays _ hhit j hj (Nat.lt_succ_of_le hj')
    have hover := over_tag hclose hquiet i (Nat.le_refl i) hle (by rw [hhit]; rfl)
    obtain ⟨stop', hstop'⟩ := Option.isSome_iff_exists.mp hover
    obtain ⟨last', rfl, hle', hclose', hbefore'⟩ := hit?_tagPattern hstop'
    obtain ⟨j, r, hr, rfl⟩ := exists_placeOf k last'
    rw [getElem?_stretch hr] at hclose'
    obtain rfl : r = 0 := by
      have hstay := hk.pliant.stays hclose' (by decide) (by decide)
      omega
    obtain hlt | rfl | hlt := Nat.lt_trichotomy j last
    · exact absurd hclose' (hbefore j (placeOf_le_iff.mp hle') hlt)
    · rw [hstop', Option.map_some, Nat.add_zero,
        placeOf_succ_of_once (hquiet j hle (Nat.le_refl j))]
    · refine absurd ?_ (hbefore' (placeOf k last) (placeOf_le_iff.mpr hle) ?_)
      · rw [getElem?_placeOf, hclose]
      · exact placeOf_lt_iff.mpr hlt

theorem matchAt?_scriptOpen_stretch {i : Nat}
    (hstays : ∀ m, scriptOpen.matchAt? cs i = some m → ∀ j, i ≤ j → j < m.stop → k j = 0) :
    (scriptOpen.matchAt? (stretch k cs) (placeOf k i)).map (·.stop) =
      (scriptOpen.matchAt? cs i).map fun m => placeOf k m.stop := by
  have hcomp : (fun m : Match => placeOf k m.stop) = placeOf k ∘ (·.stop) := rfl
  rw [hcomp, ← Option.map_map, map_stop_scriptOpen, map_stop_scriptOpen, length_stretch]
  simp only [placeOf_le_iff]
  split_ifs with hle
  · refine hit?_tagPattern_stretch hk fun stop hstop => ?_
    have hsame := map_stop_scriptOpen cs i
    rw [if_pos hle, hstop] at hsame
    obtain ⟨m, hm, rfl⟩ := Option.map_eq_some_iff.mp hsame
    exact hstays m hm
  · rfl

/-- Repeating equals signs brings no start tag into a text. -/
theorem occursIn_of_stretch (h : scriptOpen.occursIn (stretch k cs) = true) :
    scriptOpen.occursIn cs = true := by
  rw [spelled_scriptOpen.occursIn_eq, occursIn_iff spelled_scriptOpen.to_simple] at h ⊢
  obtain ⟨p, hp, hsome⟩ := h
  obtain ⟨i, r, hr, rfl⟩ := exists_placeOf k p
  have hopen : Still k cs (.char '<') := still_of_elastic hk (by decide)
  have hskip : Skips k (tagPattern.hit? (stretch k cs)) := skips_one hopen _
  rcases Nat.eq_zero_or_pos r with rfl | hpos
  · rw [length_stretch] at hp
    exact ⟨i, placeOf_le_iff.mp hp, under_tag hk i hsome⟩
  · rw [hskip i r hpos hr] at hsome
    cases hsome

end Stretch

end Ampscript

end CampaignCheck

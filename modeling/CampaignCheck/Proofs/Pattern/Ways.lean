import CampaignCheck.Proofs.Pattern.Progress
import CampaignCheck.Proofs.Pattern.Stretched
import CampaignCheck.Proofs.Text.Letters

namespace CampaignCheck.Pattern

variable {cs : List Char} {g : Nat → Option Nat} {pos : Nat}

theorem isSome_ends_one {set : CharSet} : ((one set).ends cs.toArray g pos).isSome ↔
    sees set cs pos = true ∧ (g (pos + 1)).isSome := by
  rw [ends_one]
  split_ifs with h <;> simp [h]

theorem isSome_backOff_iff (n : Nat) :
    (backOff g pos n).isSome ↔ ∃ k ≤ n, (g (pos + k)).isSome := by
  induction n with
  | zero => simp [backOff]
  | succ n ih =>
    rw [backOff, Option.isSome_or, Bool.or_eq_true, ih]
    constructor
    · rintro (h | ⟨k, hk, h⟩)
      · exact ⟨n + 1, Nat.le_refl _, h⟩
      · exact ⟨k, by omega, h⟩
    · rintro ⟨k, hk, h⟩
      rcases Nat.eq_or_lt_of_le hk with rfl | hlt
      · exact .inl h
      · exact .inr ⟨k, by omega, h⟩

theorem le_length_takeWhile_iff {p : Char → Bool} (ds : List Char) (n : Nat) :
    n ≤ (ds.takeWhile p).length ↔ ∀ j < n, (ds[j]?.map p).getD false = true := by
  induction ds generalizing n with
  | nil =>
    constructor
    · intro h j hj
      simp at h
      omega
    · intro h
      by_contra hn
      have hzero := h 0 (by omega)
      simp at hzero
  | cons d ds ih =>
    cases n with
    | zero => simp
    | succ n =>
      cases hd : p d with
      | false =>
        rw [List.takeWhile_cons_of_neg (by simp [hd])]
        constructor
        · intro h
          simp at h
        · intro h
          have hzero := h 0 (by omega)
          simp [hd] at hzero
      | true =>
        rw [List.takeWhile_cons_of_pos hd, List.length_cons, Nat.succ_le_succ_iff, ih]
        constructor
        · intro h j hj
          cases j with
          | zero => simp [hd]
          | succ j => exact h j (by omega)
        · intro h j hj
          exact h (j + 1) (by omega)

theorem getElem?_length_takeWhile {p : Char → Bool} (ds : List Char) :
    (ds[(ds.takeWhile p).length]?.map p).getD false = false := by
  by_contra hnext
  have hall : ∀ j < (ds.takeWhile p).length + 1, (ds[j]?.map p).getD false = true := by
    intro j hj
    rcases Nat.eq_or_lt_of_le (Nat.le_of_lt_succ hj) with rfl | hlt
    · rwa [Bool.not_eq_false] at hnext
    · exact (le_length_takeWhile_iff ds _).mp (Nat.le_refl _) j hlt
  exact Nat.not_succ_le_self _ ((le_length_takeWhile_iff ds _).mpr hall)

theorem isSome_ends_many {set : CharSet} : ((many (one set)).ends cs.toArray g pos).isSome ↔
    ∃ n, (∀ j < n, sees set cs (pos + j) = true) ∧ (g (pos + n)).isSome := by
  have hcount (n : Nat) : n ≤ ((cs.drop pos).takeWhile set.mem).length ↔
      ∀ j < n, sees set cs (pos + j) = true := by
    rw [le_length_takeWhile_iff]
    simp only [List.getElem?_drop, sees]
  rw [many, ends, countOf_eq, isSome_backOff_iff]
  simp only [hcount]

theorem isSome_ends_inOrder {sets : List CharSet} :
    ((inOrder (sets.map one)).ends cs.toArray g pos).isSome ↔
      (∀ j set, sets[j]? = some set → sees set cs (pos + j) = true) ∧
        (g (pos + sets.length)).isSome := by
  have hshift (pos j : Nat) : pos + 1 + j = pos + (j + 1) := by omega
  induction sets generalizing pos with
  | nil => simp [inOrder, ends]
  | cons first sets ih =>
    have hstep : ((inOrder ((first :: sets).map one)).ends cs.toArray g pos).isSome ↔
        sees first cs pos = true ∧
          ((inOrder (sets.map one)).ends cs.toArray g (pos + 1)).isSome := by
      cases sets with
      | nil => exact isSome_ends_one
      | cons second sets => exact isSome_ends_one
    have hnext := @ih (pos + 1)
    rw [hshift pos sets.length] at hnext
    rw [hstep, List.length_cons]
    refine (and_congr_right fun _ => hnext).trans ?_
    constructor
    · rintro ⟨hfirst, hrest, hg⟩
      refine ⟨?_, hg⟩
      intro j set hj
      cases j with
      | zero =>
        obtain rfl : first = set := by simpa using hj
        exact hfirst
      | succ j =>
        rw [← hshift]
        exact hrest j set hj
    · rintro ⟨hall, hg⟩
      refine ⟨hall 0 first rfl, ?_, hg⟩
      intro j set hj
      rw [hshift]
      exact hall (j + 1) set hj

theorem isSome_ends_anchor {a : Anchor} : ((anchor a).ends cs.toArray g pos).isSome ↔
    a.holds cs.toArray pos = true ∧ (g pos).isSome := by
  rw [ends]
  split_ifs with h <;> simp [h]

theorem isSome_hit?_lit {d : List Char} :
    ((inOrder ((d.map CharSet.char).map one)).hit? cs pos).isSome ↔ d <+: cs.drop pos := by
  rw [hit?, isSome_ends_inOrder, List.prefix_iff_getElem?]
  simp only [List.getElem?_drop, Option.isSome_some, and_true]
  constructor
  · intro h j hj
    have hset : (d.map CharSet.char)[j]? = some (.char d[j]) := by
      rw [List.getElem?_map, List.getElem?_eq_getElem hj]
      rfl
    exact (sees_char _ _ _).mp (h j _ hset)
  · intro h j set hset
    rw [List.getElem?_map] at hset
    obtain ⟨a, ha, rfl⟩ := Option.map_eq_some_iff.mp hset
    obtain ⟨hj, rfl⟩ := List.getElem?_eq_some_iff.mp ha
    exact (sees_char _ _ _).mpr (h j hj)

theorem isSome_hit?_alt {p q : Pattern} :
    ((alt p q).hit? cs pos).isSome ↔ (p.hit? cs pos).isSome ∨ (q.hit? cs pos).isSome := by
  rw [hit?, ends, Option.isSome_or, Bool.or_eq_true]
  rfl

theorem isSome_matchAt? {p : Pattern} (hp : Simple p) :
    (p.matchAt? cs pos).isSome ↔ pos ≤ cs.length ∧ (p.hit? cs pos).isSome := by
  rw [matchAt?, ← map_stop_tryAt hp]
  split_ifs with h <;> simp [h]

theorem occursIn_iff {p : Pattern} (hp : Simple p) :
    p.occursIn cs = true ↔ ∃ pos ≤ cs.length, (p.hit? cs pos).isSome := by
  rw [occursIn, Option.isSome_iff_exists, exists_find?_iff hp]
  simp only [Option.isSome_iff_exists]

theorem sees_drop (set : CharSet) (cs : List Char) (i j : Nat) :
    sees set (cs.drop i) j = sees set cs (i + j) := by
  rw [sees, sees, List.getElem?_drop]

theorem sees_take {set : CharSet} {cs : List Char} {n j : Nat} (h : j < n) :
    sees set (cs.take n) j = sees set cs j := by
  rw [sees, sees, List.getElem?_take_of_lt h]

theorem isWord_of_sees {a : Char} (ha : a.isAlpha = true) {cs : List Char} {i : Nat}
    (h : sees (.anyCase a) cs i = true) : sees .word cs i = true := by
  unfold sees at h ⊢
  cases hc : cs[i]? with
  | none => simp [hc] at h
  | some c =>
    rw [hc] at h
    exact Text.isWord_of_sameLetter ha h

/-- What counts as one letter does not count as the other if no form of it does. -/
theorem sees_of_apart {a b : Char} (ha : a.isAlpha = true)
    (hforms : (Text.letterForms a).all (fun c => !Text.sameLetter b c) = true) {i : Nat}
    (h : sees (.anyCase a) cs i = true) : sees (.anyCase b) cs i = false := by
  unfold sees at h ⊢
  cases hc : cs[i]? with
  | none => rfl
  | some c =>
    rw [hc] at h
    have hform := List.all_eq_true.mp hforms c (Text.mem_letterForms ha h)
    simpa [CharSet.mem] using hform

theorem wordEdge_holds (cs : List Char) (pos : Nat) :
    Anchor.holds cs.toArray pos .wordEdge = (preceded .word cs pos != sees .word cs pos) := by
  have hat (pos : Nat) : Anchor.wordAt Text.isWord cs.toArray pos = sees .word cs pos := by
    simp only [Anchor.wordAt, sees, List.getElem?_toArray]
    cases cs[pos]? <;> rfl
  rw [Anchor.holds, Anchor.isEdge, hat]
  cases pos with
  | zero => rfl
  | succ pos => rw [Anchor.wordBefore, hat, preceded]

/-- The second pattern is the first with every optional character written as a choice. -/
inductive Spelled : Pattern → Pattern → Prop
  | simple {p : Pattern} (hp : Simple p) : Spelled p p
  | opt (set : CharSet) : Spelled (opt (one set)) (alt (one set) empty)
  | seq {p p' q q' : Pattern} (hp : Spelled p p') (hq : Spelled q q') :
      Spelled (seq p q) (seq p' q')

variable {p p' : Pattern}

theorem Spelled.to_simple (h : Spelled p p') : Simple p' := by
  induction h with
  | simple hp => exact hp
  | opt set => exact .alt (.one set) .empty
  | seq hp hq ihp ihq => exact .seq ihp ihq

theorem Spelled.opening_eq (h : Spelled p p') : p.opening = p'.opening := by
  induction h with
  | simple hp => rfl
  | opt set => rfl
  | seq hp hq ihp ihq => rw [opening, opening, ihp, ihq]

theorem Spelled.firstChar?_eq (h : Spelled p p') (rest : List Pattern) :
    firstChar? (p :: rest) = firstChar? (p' :: rest) := by
  rw [firstChar?, firstChar?, h.opening_eq]

theorem endOf_run_opt {text : Array Char} {looped : Bool} {rest : List Pattern} {s : Cursor}
    {k : Goal} {g : Nat → Option Nat} (hk : ∀ t, endOf (k t) = g t.pos)
    (hg : Needs text (firstChar? rest) g) (set : CharSet) :
    endOf ((opt (one set)).run text looped rest s k) =
      (alt (one set) empty).ends text g s.pos := by
  have hback (n : Nat) (s' : Cursor) :
      endOf (giveBack text looped (firstChar? rest) s.pos n s' k) = backOff g s.pos n :=
    endOf_giveBack hk hg s.pos n s'
  cases hc : text[s.pos]? with
  | none =>
    have hroom : text.size - s.pos = 0 := by
      have hsize := Array.getElem?_eq_none_iff.mp hc
      omega
    simp [opt, run, repeatedSet, hroom, countOf, ends, hc, hback, backOff]
  | some c =>
    have hroom : min (text.size - s.pos) 1 = 1 := by
      have hsize := (Array.getElem?_eq_some_iff.mp hc).1
      omega
    cases hmem : set.mem c <;>
      simp [opt, run, repeatedSet, hroom, countOf, ends, hc, hmem, hback, backOff]

/-- The matcher ends where the ways of the spelled pattern lead. -/
theorem Spelled.endOf_run (h : Spelled p p') {text : Array Char} (looped : Bool)
    (rest : List Pattern) (s : Cursor) {k : Goal} {g : Nat → Option Nat}
    (hk : ∀ t, endOf (k t) = g t.pos) (hg : Needs text (firstChar? rest) g) :
    endOf (p.run text looped rest s k) = p'.ends text g s.pos := by
  induction h generalizing rest s k g with
  | simple hp => exact Pattern.endOf_run hp looped rest s hk hg
  | opt set => exact endOf_run_opt hk hg set
  | @seq p p' q q' hp hq ihp ihq =>
    rw [run, ends]
    refine ihp (q :: rest) s (fun t => ihq rest t hk hg) ?_
    rw [hq.firstChar?_eq]
    exact needs_firstChar? hq.to_simple hg

theorem Spelled.map_stop_tryAt (h : Spelled p p') (cs : List Char) (pos : Nat) :
    (p.tryAt cs.toArray pos false).map (·.stop) = p'.hit? cs pos := by
  have hend : endOf (p.run cs.toArray false [] ⟨pos, pos, #[]⟩ fun t =>
      if false && t.pos == pos then .error t else .ok t) = p'.ends cs.toArray some pos :=
    h.endOf_run false [] _ (fun _ => rfl) (needs_none some)
  unfold tryAt hit?
  rw [← hend]
  simp only
  split
  · next t ht => rw [ht]; rfl
  · next t ht => rw [ht]; rfl

theorem Spelled.map_stop_matchAt? (h : Spelled p p') (cs : List Char) (pos : Nat) :
    (p.matchAt? cs pos).map (·.stop) = (p'.matchAt? cs pos).map (·.stop) := by
  unfold matchAt?
  split_ifs
  · rw [h.map_stop_tryAt, Pattern.map_stop_tryAt h.to_simple]
  · rfl

theorem Spelled.isSome_tryFrom (h : Spelled p p') (cs : List Char) (n pos : Nat) :
    (p.tryFrom cs.toArray n pos false).isSome = (p'.tryFrom cs.toArray n pos false).isSome := by
  have hat (pos : Nat) : (p.tryAt cs.toArray pos false).isSome =
      (p'.tryAt cs.toArray pos false).isSome := by
    rw [← Option.isSome_map, h.map_stop_tryAt, ← Pattern.map_stop_tryAt h.to_simple,
      Option.isSome_map]
  induction n generalizing pos with
  | zero => exact hat pos
  | succ n ih =>
    have hhere := hat pos
    rw [tryFrom, tryFrom]
    cases hp : p.tryAt cs.toArray pos false <;> cases hp' : p'.tryAt cs.toArray pos false <;>
      simp_all

theorem Spelled.occursIn_eq (h : Spelled p p') (cs : List Char) :
    p.occursIn cs = p'.occursIn cs := by
  simp only [occursIn, find?, findFrom?, Nat.zero_le, if_true]
  exact h.isSome_tryFrom cs _ 0

/-- Where a match that starts at an offset may stop, as far as the characters of the pattern, its
repetitions of characters and its conditions on places tell. What it looks at ahead is left out, and
of other parts it is only said that they go forward. -/
def Spans (cs : List Char) : Pattern → Nat → Nat → Prop
  | empty, start, stop => stop = start
  | one set, start, stop => sees set cs start = true ∧ stop = start + 1
  | anchor a, start, stop => a.holds cs.toArray start = true ∧ stop = start
  | seq p q, start, stop => ∃ mid, p.Spans cs start mid ∧ q.Spans cs mid stop
  | repeated (one set) _ none .most, start, stop =>
    ∃ n, (∀ k < n, sees set cs (start + k) = true) ∧ stop = start + n
  | ahead _ _, start, stop => stop = start
  | _, start, stop => start ≤ stop

variable {cs : List Char}

theorem run_many_spans {set : CharSet} {least : Nat} {looped : Bool} {rest : List Pattern}
    {s r : Cursor} {k : Goal}
    (h : (repeated (one set) least none .most).run cs.toArray looped rest s k = .ok r) :
    ∃ t : Cursor, (repeated (one set) least none .most).Spans cs s.pos t.pos ∧ k t = .ok r := by
  simp only [run, repeatedSet, Option.getD_none, Nat.min_self, reduceCtorEq, if_false] at h
  split_ifs at h with hroom hcount
  all_goals
    obtain ⟨t, hleast, hmost, hk⟩ := giveBack_eq_ok h
    refine ⟨t, ⟨t.pos - s.pos, ?_, by omega⟩, hk⟩
    have hlength := countOf_eq set cs s.pos
    have hall := (le_length_takeWhile_iff (cs.drop s.pos) _).mp (Nat.le_of_eq hlength)
    intro i hi
    have hsees := hall i (by omega)
    rwa [List.getElem?_drop] at hsees

theorem run_forward {p : Pattern} (hp : p.isPossessive = false) {looped : Bool}
    {rest : List Pattern} {s r : Cursor} {k : Goal}
    (h : p.run cs.toArray looped rest s k = .ok r) :
    ∃ t : Cursor, s.pos ≤ t.pos ∧ k t = .ok r := by
  obtain ⟨t, ht, hk⟩ := run_advances cs.toArray p hp looped rest s k r h
  exact ⟨t, Nat.le_of_add_right_le ht, hk⟩

/-- Where matching succeeds, the pattern has spanned the characters up to what comes after. -/
theorem run_spans {p : Pattern} (hp : p.isPossessive = false) {looped : Bool}
    {rest : List Pattern} {s r : Cursor} {k : Goal}
    (h : p.run cs.toArray looped rest s k = .ok r) :
    ∃ t : Cursor, p.Spans cs s.pos t.pos ∧ k t = .ok r := by
  induction p generalizing rest s k with
  | empty => exact ⟨s, rfl, h⟩
  | one set =>
    rw [run] at h
    split at h
    · next c hc =>
      split_ifs at h with hmem
      have hsees : sees set cs s.pos = true := by
        rw [List.getElem?_toArray] at hc
        simp [sees, hc, hmem]
      exact ⟨_, ⟨hsees, rfl⟩, h⟩
    · cases h
  | anchor a =>
    rw [run] at h
    split_ifs at h with ha
    exact ⟨s, ⟨ha, rfl⟩, h⟩
  | seq p q ihp ihq =>
    have hpq : p.isPossessive = false ∧ q.isPossessive = false := by simpa [isPossessive] using hp
    rw [run] at h
    obtain ⟨t, ht, hk⟩ := ihp hpq.1 h
    obtain ⟨u, hu, hk⟩ := ihq hpq.2 hk
    exact ⟨u, ⟨t.pos, ht, hu⟩, hk⟩
  | ahead holds p ih =>
    rw [run] at h
    unfold condition at h
    split at h
    all_goals
      split_ifs at h
      refine ⟨_, ?_, h⟩
      rfl
  | repeated p least limit greed ih =>
    cases p with
    | one set =>
      cases limit with
      | none =>
        cases greed with
        | most => exact run_many_spans h
        | _ => exact run_forward hp h
      | some limit => exact run_forward hp h
    | _ => exact run_forward hp h
  | _ => exact run_forward hp h

/-- A match spans what the pattern says. -/
theorem Finds.spans {p : Pattern} {m : Match} (hf : p.Finds cs m) (hp : p.isPossessive = false) :
    p.Spans cs m.start m.stop := by
  obtain ⟨s, r, k, hstart, hr, hstop⟩ := hf.exists_run
  obtain ⟨t, ht, hk⟩ := run_spans hp hr
  rwa [hstart, hstop t hk] at ht

theorem spans_inOrder {sets : List CharSet} {start stop : Nat}
    (h : (inOrder (sets.map one)).Spans cs start stop) :
    stop = start + sets.length ∧ ∀ k set, sets[k]? = some set → sees set cs (start + k) = true := by
  induction sets generalizing start with
  | nil => exact ⟨h, by simp⟩
  | cons first sets ih =>
    obtain ⟨hfirst, hrest⟩ : sees first cs start = true ∧
        (inOrder (sets.map one)).Spans cs (start + 1) stop := by
      cases sets with
      | nil => exact h
      | cons second sets =>
        obtain ⟨_, ⟨hfirst, rfl⟩, hrest⟩ := h
        exact ⟨hfirst, hrest⟩
    obtain ⟨hstop, hall⟩ := ih hrest
    refine ⟨by rw [hstop, List.length_cons]; omega, ?_⟩
    intro k set hk
    cases k with
    | zero =>
      obtain rfl : first = set := by simpa using hk
      exact hfirst
    | succ k =>
      have hshift : start + (k + 1) = start + 1 + k := by omega
      rw [hshift]
      exact hall k set hk

end CampaignCheck.Pattern

import CampaignCheck.Lexical.Delimiters
import CampaignCheck.Proofs.Lexical.Outline
import Mathlib.Data.List.Nodup
import Mathlib.Data.List.Permutation

namespace CampaignCheck

def Imbalance.place (i : Imbalance) : Text.Position := ⟨i.line, i.column⟩

namespace Delimiters

/-- A character of a source and its place. -/
structure Site where
  char : Char
  place : Text.Position
deriving DecidableEq

/-- The characters of masked lines, in order. -/
def sites (ls : List Line) : List Site :=
  ls.flatMap fun l => l.masked.zipIdx.map fun c => ⟨c.1, ⟨l.number, c.2⟩⟩

def delimiters (cs : List Char) (ls : List Line) : List Site :=
  (sites ls).filter fun d => cs.contains d.char

/-- The text that names the pairs. -/
def written (ps : List Pair) : List Char := ps.flatMap fun p => [p.opener, p.closer]

/-- Every opener is closed by its own closer, and what is opened later is closed first. -/
inductive Nested (ps : List Pair) : List Char → Prop
  | nil : Nested ps []
  | wrap {p : Pair} {u : List Char} : p ∈ ps → Nested ps u → Nested ps (p.opener :: u ++ [p.closer])
  | append {u v : List Char} : Nested ps u → Nested ps v → Nested ps (u ++ v)

section Pairs

variable {ps : List Pair}

theorem mem_written {c : Char} : c ∈ written ps ↔ ∃ p ∈ ps, c = p.opener ∨ c = p.closer := by
  simp [written]

theorem addPair_of_not_mem {p : Pair} (h : p.opener ∉ written ps) : addPair p ps = ps ++ [p] := by
  induction ps with
  | nil => rfl
  | cons q qs ih =>
    have hq : p.opener ≠ q.opener ∧ p.opener ∉ written qs := by
      simp [written] at h ⊢
      tauto
    rw [addPair, if_neg (Ne.symm hq.1), ih hq.2]
    rfl

theorem addPairs_of_nodup (ps : List Pair) (cs : List Char) (h : (written ps ++ cs).Nodup)
    (he : 2 ∣ cs.length) : ∃ qs, addPairs ps cs = some qs ∧ written qs = written ps ++ cs := by
  fun_induction addPairs ps cs with
  | case1 ps => exact ⟨ps, rfl, by simp⟩
  | case2 ps c => simp at he
  | case3 ps a c cs ih =>
    have ha : a ∉ written ps := by
      intro hm
      exact List.disjoint_of_nodup_append h hm (by simp)
    have hw : written (ps ++ [⟨a, c⟩]) ++ cs = written ps ++ a :: c :: cs := by simp [written]
    rw [addPair_of_not_mem ha] at ih ⊢
    obtain ⟨qs, hqs, hwritten⟩ := ih (by rwa [hw]) (by simpa [Nat.dvd_add_left] using he)
    exact ⟨qs, hqs, by rw [hwritten, hw]⟩

/-- A text of an even number of distinct characters names the pairs that it is written from. -/
theorem pairs?_of_nodup {cs : List Char} (h : cs.Nodup) (he : 2 ∣ cs.length) :
    ∃ ps, pairs? cs = some ps ∧ written ps = cs :=
  addPairs_of_nodup [] cs h he

theorem opens_iff {c : Char} : opens ps c = true ↔ ∃ p ∈ ps, c = p.opener := by
  simp only [opens, List.any_eq_true, beq_iff_eq, eq_comm (a := c)]

theorem openerOf?_eq_some {c o : Char} (h : openerOf? ps c = some o) :
    ∃ p ∈ ps, p.opener = o ∧ p.closer = c := by
  obtain ⟨p, hp, rfl⟩ := Option.map_eq_some_iff.mp h
  have hm := List.mem_of_find?_eq_some hp
  have hc := List.find?_some hp
  exact ⟨p, List.mem_reverse.mp hm, rfl, by simpa using hc⟩

theorem openerOf?_isSome_iff {c : Char} :
    (openerOf? ps c).isSome = true ↔ ∃ p ∈ ps, c = p.closer := by
  simp [openerOf?, eq_comm (a := c)]

theorem eq_of_closer (h : (written ps).Nodup) {p q : Pair} (hp : p ∈ ps) (hq : q ∈ ps)
    (he : p.closer = q.closer) : p = q := by
  induction ps with
  | nil => cases hp
  | cons a ps ih =>
    have hn : a.closer ∉ written ps ∧ (written ps).Nodup := by
      simp [written] at h ⊢
      tauto
    have hw {r : Pair} (hr : r ∈ ps) : r.closer ∈ written ps := mem_written.mpr ⟨r, hr, .inr rfl⟩
    rcases List.mem_cons.mp hp with rfl | hp' <;> rcases List.mem_cons.mp hq with rfl | hq'
    · rfl
    · exact absurd (he ▸ hw hq') hn.1
    · exact absurd (he ▸ hw hp') hn.1
    · exact ih hn.2 hp' hq'

theorem openerOf?_closer (h : (written ps).Nodup) {p : Pair} (hp : p ∈ ps) :
    openerOf? ps p.closer = some p.opener := by
  obtain ⟨o, ho⟩ := Option.isSome_iff_exists.mp (openerOf?_isSome_iff.mpr ⟨p, hp, rfl⟩)
  obtain ⟨q, hq, rfl, hc⟩ := openerOf?_eq_some ho
  rw [ho, eq_of_closer h hq hp hc]

theorem opens_closer (h : (written ps).Nodup) {p : Pair} (hp : p ∈ ps) :
    opens ps p.closer = false := by
  rw [Bool.eq_false_iff]
  intro ho
  obtain ⟨q, hq, he⟩ := opens_iff.mp ho
  induction ps with
  | nil => cases hp
  | cons a ps ih =>
    have hn : a.opener ≠ a.closer ∧ a.opener ∉ written ps ∧ a.closer ∉ written ps ∧
        (written ps).Nodup := by
      simp [written] at h ⊢
      tauto
    have hw {r : Pair} (hr : r ∈ ps) : r.opener ∈ written ps ∧ r.closer ∈ written ps :=
      ⟨mem_written.mpr ⟨r, hr, .inl rfl⟩, mem_written.mpr ⟨r, hr, .inr rfl⟩⟩
    rcases List.mem_cons.mp hp with rfl | hp' <;> rcases List.mem_cons.mp hq with rfl | hq'
    · exact hn.1 he.symm
    · exact hn.2.2.1 (he ▸ (hw hq').1)
    · exact hn.2.1 (he ▸ (hw hp').2)
    · exact ih hn.2.2.2 hp' (opens_iff.mpr ⟨q, hq', he⟩) hq'

end Pairs

/-- The characters of a source as brackets. -/
def pairing (ps : List Pair) : Brackets Site where
  opens d := opens ps d.char
  closes d := (openerOf? ps d.char).isSome
  ends c o := openerOf? ps c.char == some o.char

theorem isBracket_eq (ps : List Pair) (d : Site) :
    (pairing ps).isBracket d = (written ps).contains d.char := by
  rw [Bool.eq_iff_iff]
  simp only [Brackets.isBracket, pairing, Bool.or_eq_true, opens_iff, openerOf?_isSome_iff,
    List.contains_iff_mem, mem_written]
  grind

def Site.imbalance (kind : ImbalanceKind) (d : Site) : Imbalance :=
  ⟨d.place.line, d.place.column, d.char, kind⟩

def Opened.site (o : Opened) : Site := ⟨o.char, ⟨o.line, o.column⟩⟩

/-- The delimiters left alone by a reading, as imbalances. -/
def alone (unclosed stray : List Site) : List Imbalance :=
  unclosed.map (·.imbalance .unclosed) ++ stray.map (·.imbalance .unexpected)

/-- The state is that of a reading of the delimiters. -/
structure State.Follows (s : State) (r : Reading Site) : Prop where
  stack : s.stack.map Opened.site = r.stack
  found : s.found.Perm (alone r.unclosed r.stray)

theorem splitAt?_eq_none {c : Char} {stack : List Opened} (h : splitAt? c stack = none) :
    ∀ o ∈ stack, o.char ≠ c := by
  induction stack with
  | nil => simp
  | cons o os ih =>
    rw [splitAt?] at h
    split_ifs at h with ho
    have hos := ih (Option.map_eq_none_iff.mp h)
    exact List.forall_mem_cons.mpr ⟨ho, hos⟩

theorem splitAt?_spec {c : Char} {stack inner outer : List Opened}
    (h : splitAt? c stack = some (inner, outer)) :
    ∃ o, o.char = c ∧ (∀ i ∈ inner, i.char ≠ c) ∧ stack = inner ++ o :: outer := by
  induction stack generalizing inner with
  | nil => cases h
  | cons o os ih =>
    rw [splitAt?] at h
    split_ifs at h with ho
    · cases h
      exact ⟨o, ho, by simp, rfl⟩
    · obtain ⟨⟨a, b⟩, hab, he⟩ := Option.map_eq_some_iff.mp h
      cases he
      obtain ⟨p, hp, hinner, rfl⟩ := ih hab
      exact ⟨p, hp, List.forall_mem_cons.mpr ⟨ho, hinner⟩, rfl⟩

theorem map_unclosed (os : List Opened) :
    os.map Opened.unclosed = (os.map Opened.site).map (·.imbalance .unclosed) := by
  rw [List.map_map]
  rfl

theorem alone_append_stray (unclosed stray : List Site) (d : Site) :
    alone unclosed (stray ++ [d]) = alone unclosed stray ++ [d.imbalance .unexpected] := by
  simp [alone]

theorem alone_append_unclosed (unclosed more stray : List Site) :
    (alone (unclosed ++ more) stray).Perm
      (alone unclosed stray ++ more.map (·.imbalance .unclosed)) := by
  simp only [alone, List.map_append, List.append_assoc]
  exact List.perm_append_comm.append_left _

theorem step_follows {ps : List Pair} {s : State} {r : Reading Site} (h : s.Follows r)
    (line column : Nat) (c : Char) :
    (step ps s line column c).Follows ((pairing ps).read r ⟨c, ⟨line, column⟩⟩) := by
  have hends (o : Opened) {opener : Char} (ho : openerOf? ps c = some opener) :
      (pairing ps).ends ⟨c, ⟨line, column⟩⟩ o.site = (o.char == opener) := by
    simp [pairing, ho, Opened.site, eq_comm]
  unfold step
  split_ifs with hopen
  · rw [Brackets.read_opener hopen]
    refine ⟨?_, h.found⟩
    simp only [List.map_cons, h.stack]
    rfl
  · have hclosed : (pairing ps).opens ⟨c, ⟨line, column⟩⟩ = false := Bool.eq_false_iff.mpr hopen
    cases ho : openerOf? ps c with
    | none =>
      have hother : (pairing ps).isBracket ⟨c, ⟨line, column⟩⟩ = false := by
        rw [Brackets.isBracket, hclosed]
        simp [pairing, ho]
      rw [Brackets.read_other hother]
      exact h
    | some opener =>
      have hcloses : (pairing ps).closes ⟨c, ⟨line, column⟩⟩ = true := by simp [pairing, ho]
      cases hsplit : splitAt? opener s.stack with
      | none =>
        have hnone : ∀ o ∈ r.stack, (pairing ps).ends ⟨c, ⟨line, column⟩⟩ o = false := by
          rw [← h.stack]
          intro d hd
          obtain ⟨o, hm, rfl⟩ := List.mem_map.mp hd
          simpa [hends o ho] using splitAt?_eq_none hsplit o hm
        rw [Brackets.read_stray hclosed hcloses hnone]
        simp only [hsplit]
        refine ⟨h.stack, ?_⟩
        rw [alone_append_stray]
        exact h.found.append_right _
      | some split =>
        obtain ⟨inner, outer⟩ := split
        obtain ⟨o, hchar, hinner, hstack⟩ := splitAt?_spec hsplit
        have he : (pairing ps).ends ⟨c, ⟨line, column⟩⟩ o.site = true := by
          simpa [hends o ho] using hchar
        have hi : ∀ d ∈ inner.map Opened.site,
            (pairing ps).ends ⟨c, ⟨line, column⟩⟩ d = false := by
          intro d hd
          obtain ⟨i, hm, rfl⟩ := List.mem_map.mp hd
          simpa [hends i ho] using hinner i hm
        have hs : r.stack = inner.map Opened.site ++ o.site :: outer.map Opened.site := by
          rw [← h.stack, hstack, List.map_append, List.map_cons]
        rw [Brackets.read_closer hclosed hcloses he hi hs]
        simp only [hsplit]
        refine ⟨rfl, ?_⟩
        rw [map_unclosed, List.map_reverse]
        exact (h.found.append_right _).trans (alone_append_unclosed ..).symm

theorem chars_follows {ps : List Pair} {s : State} {r : Reading Site} (h : s.Follows r)
    (line column : Nat) (cs : List Char) :
    (chars ps line column s cs).Follows
      (((cs.zipIdx column).map fun c => (⟨c.1, ⟨line, c.2⟩⟩ : Site)).foldl
        (pairing ps).read r) := by
  induction cs generalizing column s r with
  | nil => exact h
  | cons c cs ih => exact ih (step_follows h line column c) (column + 1)

/-- The imbalances are the delimiters that a reading of all characters leaves alone. -/
theorem imbalances_perm (ps : List Pair) (ls : List Line) :
    (imbalances ps ls).Perm (alone (((pairing ps).readAll (sites ls)).unclosed ++
      ((pairing ps).readAll (sites ls)).stack) ((pairing ps).readAll (sites ls)).stray) := by
  have hrun (s : State) (r : Reading Site) (h : s.Follows r) :
      (ls.foldl (fun s l => chars ps l.number 0 s l.masked) s).Follows
        ((sites ls).foldl (pairing ps).read r) := by
    induction ls generalizing s r with
    | nil => exact h
    | cons l ls ih =>
      simp only [sites, List.flatMap_cons, List.foldl_append, List.foldl_cons]
      exact ih _ _ (chars_follows h l.number 0 l.masked)
  have h := hrun ⟨[], []⟩ ⟨[], [], [], []⟩ ⟨rfl, .nil⟩
  refine (List.mergeSort_perm _ _).trans ?_
  refine .trans ?_ (alone_append_unclosed ..).symm
  refine h.found.append ?_
  rw [map_unclosed, List.map_reverse, List.map_reverse, h.stack]
  exact List.reverse_perm _

theorem nested_paired {ps : List Pair} {f : Outline Site} (hf : f.Fits (pairing ps)) :
    Nested ps (f.paired.map (·.char)) := by
  induction f with
  | empty => exact .nil
  | other f x ih => exact ih hf.1
  | unclosed f o ih => exact ih hf.1
  | stray f c ih => exact ih hf.1
  | block f o i c ihf ihi =>
    obtain ⟨hf, hi, -, -, -, he⟩ := hf
    obtain ⟨p, hp, ho, hc⟩ := openerOf?_eq_some (by simpa [pairing] using he)
    have hwrap := (ihf hf).append (.wrap hp (ihi hi))
    simpa [Outline.paired, ho, hc] using hwrap

/-- A nested word leaves nothing open and nothing alone. -/
theorem foldl_read_nested {ps : List Pair} (hps : (written ps).Nodup) {u : List Char}
    (hu : Nested ps u) (w : List Site) (hw : w.map (·.char) = u) (r : Reading Site) :
    ∃ pairs, w.foldl (pairing ps).read r = { r with pairs := pairs } := by
  induction hu generalizing w r with
  | nil => exact ⟨r.pairs, by simp [List.map_eq_nil_iff.mp hw]⟩
  | @wrap p u hp _ ih =>
    obtain ⟨v, c, rfl, hv, hc⟩ := List.map_eq_append_iff.mp hw
    obtain ⟨o, v, rfl, ho, hv⟩ := List.map_eq_cons_iff.mp hv
    obtain ⟨c, t, rfl, hc, ht⟩ := List.map_eq_cons_iff.mp hc
    rw [List.map_eq_nil_iff.mp ht]
    have hopens : (pairing ps).opens o = true := opens_iff.mpr ⟨p, hp, ho⟩
    have hclosed : (pairing ps).opens c = false := by
      have h := opens_closer hps hp
      rwa [← hc] at h
    have hcloser : openerOf? ps c.char = some o.char := by rw [hc, ho, openerOf?_closer hps hp]
    have hcloses : (pairing ps).closes c = true := by simp [pairing, hcloser]
    have hends : (pairing ps).ends c o = true := by simp [pairing, hcloser]
    obtain ⟨pairs, hrun⟩ := ih v hv ((pairing ps).read r o)
    have hinner : ∀ i ∈ ([] : List Site), (pairing ps).ends c i = false := by simp
    have hclose := Brackets.read_closer hclosed hcloses hends hinner
      (r := ⟨o :: r.stack, pairs, r.unclosed, r.stray⟩) rfl
    have hopen : (o :: v).foldl (pairing ps).read r =
        ⟨o :: r.stack, pairs, r.unclosed, r.stray⟩ := by
      rw [List.foldl_cons, hrun, Brackets.read_opener hopens]
    refine ⟨pairs ++ [(o, c)], ?_⟩
    rw [List.foldl_append, hopen, List.foldl_cons, List.foldl_nil, hclose, List.reverse_nil,
      List.append_nil]
  | append _ _ ihu ihv =>
    obtain ⟨a, b, rfl, ha, hb⟩ := List.map_eq_append_iff.mp hw
    obtain ⟨pairs, hrun⟩ := ihu a ha r
    rw [List.foldl_append, hrun]
    exact ihv b hb _

theorem nodup_columns (cs : List Char) : (cs.zipIdx.map (·.2)).Nodup := by
  rw [List.zipIdx_map_snd]
  exact List.nodup_range'

theorem nodup_sites_place {ls : List Line} (h : (ls.map (·.number)).Nodup) :
    ((sites ls).map (·.place)).Nodup := by
  rw [sites, List.map_flatMap]
  refine List.nodup_flatMap.mpr ⟨?_, ?_⟩
  · intro l _
    have hmap : ((l.masked.zipIdx.map fun c => (⟨c.1, ⟨l.number, c.2⟩⟩ : Site)).map (·.place)) =
        (l.masked.zipIdx.map (·.2)).map fun i => (⟨l.number, i⟩ : Text.Position) := by
      rw [List.map_map, List.map_map]
      rfl
    rw [hmap]
    exact (nodup_columns l.masked).map fun i j hij => by simpa using hij
  · refine (List.pairwise_map.mp h).imp fun hne => ?_
    intro p hp hq
    simp only [List.map_map, List.mem_map, Function.comp_apply] at hp hq
    obtain ⟨a, -, rfl⟩ := hp
    obtain ⟨b, -, hb⟩ := hq
    exact hne (congrArg Text.Position.line hb).symm

/-- A character of numbered lines stands at its place. -/
theorem getElem?_of_mem_sites {ls : List Line} (h : ls.map (·.number) = List.range' 1 ls.length)
    {d : Site} (hd : d ∈ sites ls) :
    1 ≤ d.place.line ∧ ∃ l, ls[d.place.line - 1]? = some l ∧
      l.masked[d.place.column]? = some d.char := by
  obtain ⟨l, hl, hd⟩ := List.mem_flatMap.mp hd
  obtain ⟨⟨c, i⟩, hc, rfl⟩ := List.mem_map.mp hd
  obtain ⟨k, hk⟩ := List.mem_iff_getElem?.mp hl
  have hlt : k < ls.length := (List.getElem?_eq_some_iff.mp hk).1
  have hnumber : l.number = k + 1 := by
    have he : (ls.map (·.number))[k]? = some l.number := by simp [hk]
    rw [h, List.getElem?_range' hlt, Option.some.injEq] at he
    omega
  refine ⟨by simp [hnumber], l, by simpa [hnumber] using hk, ?_⟩
  simpa [List.mk_mem_zipIdx_iff_getElem?] using hc

def Earlier (p q : Text.Position) : Prop :=
  p.line < q.line ∨ p.line = q.line ∧ p.column < q.column

theorem mergeSort_before_sorted (found : List Imbalance) :
    (found.mergeSort before).Pairwise fun i j => before i j = true := by
  apply List.pairwise_mergeSort
  · intro a b c hab hbc
    simp only [before, Bool.or_eq_true, Bool.and_eq_true, decide_eq_true_eq, beq_iff_eq] at *
    omega
  · intro a b
    simp only [before, Bool.or_eq_true, Bool.and_eq_true, decide_eq_true_eq, beq_iff_eq]
    omega

theorem imbalances_sorted (ps : List Pair) (ls : List Line) :
    (imbalances ps ls).Pairwise fun i j => before i j = true :=
  mergeSort_before_sorted _

theorem exists_outline (ps : List Pair) (ls : List Line) :
    ∃ f : Outline Site, f.word = sites ls ∧ f.Fits (pairing ps) ∧
      (imbalances ps ls).Perm (alone f.unclosedOnes f.strayOnes) := by
  obtain ⟨f, hf⟩ := Outline.exists_of_readAll (pairing ps) (sites ls)
  refine ⟨f, hf.word, hf.fits, (imbalances_perm ps ls).trans ?_⟩
  rw [← hf.stray]
  exact (hf.unclosed.symm.map _).append_right _

theorem map_place_alone (unclosed stray : List Site) :
    (alone unclosed stray).map Imbalance.place = (unclosed ++ stray).map (·.place) := by
  simp [alone, Function.comp_def, Imbalance.place, Site.imbalance]

section Outlined

variable {ps : List Pair} {ls : List Line} {f : Outline Site}

theorem nodup_outline_place (hf : f.Fits (pairing ps)) (hw : f.word = sites ls)
    (h : (ls.map (·.number)).Nodup) :
    ((f.paired ++ (f.unclosedOnes ++ f.strayOnes)).map (·.place)).Nodup := by
  have hall := nodup_sites_place h
  rw [← hw] at hall
  rw [← ((Outline.brackets_perm hf).map _).nodup_iff]
  exact (List.filter_sublist.map _).nodup hall

theorem nodup_imbalances_place (ps : List Pair) (h : (ls.map (·.number)).Nodup) :
    ((imbalances ps ls).map Imbalance.place).Nodup := by
  obtain ⟨f, hw, hf, hi⟩ := exists_outline ps ls
  have hn := nodup_outline_place hf hw h
  rw [List.map_append] at hn
  rw [(hi.map _).nodup_iff, map_place_alone]
  exact (List.sublist_append_right _ _).nodup hn

theorem imbalances_earlier (h : (ls.map (·.number)).Nodup) :
    ((imbalances ps ls).map Imbalance.place).Pairwise Earlier := by
  have hn := List.pairwise_map.mp (nodup_imbalances_place ps h)
  refine List.pairwise_map.mpr ((imbalances_sorted ps ls).imp₂ ?_ hn)
  intro i j hb hne
  simp only [before, Bool.or_eq_true, Bool.and_eq_true, decide_eq_true_eq, beq_iff_eq] at hb
  have hplace : ¬ (i.line = j.line ∧ i.column = j.column) := by
    rintro ⟨hl, hc⟩
    exact hne (by simp [Imbalance.place, hl, hc])
  simp only [Earlier, Imbalance.place]
  omega

/-- Sorting what is found gives the imbalances, whatever order it is found in. -/
theorem mergeSort_eq_imbalances {found : List Imbalance} (h : (ls.map (·.number)).Nodup)
    (hfound : found.Perm (imbalances ps ls)) : found.mergeSort before = imbalances ps ls := by
  have hn := nodup_imbalances_place ps h
  refine ((List.mergeSort_perm _ _).trans hfound).eq_of_pairwise ?_ (mergeSort_before_sorted found)
    (imbalances_sorted ps ls)
  intro i j hi hj hij hji
  have hplace : i.place = j.place := by
    simp only [before, Bool.or_eq_true, Bool.and_eq_true, decide_eq_true_eq, beq_iff_eq] at hij hji
    simp only [Imbalance.place, Text.Position.mk.injEq]
    omega
  exact List.inj_on_of_nodup_map hn (hfound.mem_iff.mp ((List.mem_mergeSort).mp hi)) hj hplace

theorem filter_delimiters_eq_paired (hf : f.Fits (pairing ps)) (hw : f.word = sites ls)
    (hi : (imbalances ps ls).Perm (alone f.unclosedOnes f.strayOnes))
    (h : (ls.map (·.number)).Nodup) :
    ((delimiters (written ps) ls).filter fun d =>
      decide (d.place ∉ (imbalances ps ls).map Imbalance.place)) = f.paired := by
  have hn := nodup_outline_place hf hw h
  rw [List.map_append, List.nodup_append'] at hn
  have hreported (d : Site) : d.place ∈ (imbalances ps ls).map Imbalance.place ↔
      d.place ∈ (f.unclosedOnes ++ f.strayOnes).map (·.place) := by
    rw [(hi.map _).mem_iff, map_place_alone]
  have hbracket : ∀ d ∈ f.paired, (pairing ps).isBracket d = true := by
    intro d hd
    have hm := (Outline.brackets_perm hf).mem_iff.mpr (List.mem_append_left _ hd)
    exact (List.mem_filter.mp hm).2
  rw [delimiters, List.filter_filter, ← hw]
  have hdrop : ∀ d ∈ f.unclosedOnes ++ f.strayOnes,
      (decide (d.place ∉ (imbalances ps ls).map Imbalance.place) &&
        (written ps).contains d.char) = false := by
    intro d hd
    have hm := (hreported d).mpr (List.mem_map_of_mem hd)
    simp [hm]
  rw [List.forall_mem_append] at hdrop
  refine Outline.filter_word_eq_paired hf ?_ hdrop.1 hdrop.2 ?_
  · intro d hd
    rw [← isBracket_eq, hd, Bool.and_false]
  · intro d hd
    have hm : d.place ∉ (imbalances ps ls).map Imbalance.place := by
      rw [hreported]
      exact hn.2.2 (List.mem_map_of_mem hd)
    rw [← isBracket_eq, hbracket d hd]
    simp [hm]

end Outlined

/-- The kind of an imbalance tells what its delimiter does, and the delimiter stands in the
source. -/
theorem of_mem_imbalances {ps : List Pair} (hps : (written ps).Nodup) {ls : List Line}
    {i : Imbalance} (hi : i ∈ imbalances ps ls) :
    (⟨i.char, i.place⟩ : Site) ∈ sites ls ∧
      (i.kind = .unclosed ↔ ∃ p ∈ ps, i.char = p.opener) ∧
      (i.kind = .unexpected ↔ ∃ p ∈ ps, i.char = p.closer) := by
  obtain ⟨f, hw, hf, hperm⟩ := exists_outline ps ls
  have hcloser {c : Char} (hc : ∃ p ∈ ps, c = p.closer) : opens ps c = false := by
    obtain ⟨p, hp, rfl⟩ := hc
    exact opens_closer hps hp
  rcases List.mem_append.mp (hperm.mem_iff.mp hi) with hi | hi
  · obtain ⟨d, hd, rfl⟩ := List.mem_map.mp hi
    obtain ⟨hmem, hopens⟩ := Outline.of_mem_unclosedOnes hf hd
    have ho : opens ps d.char = true := hopens
    refine ⟨hw ▸ hmem, by simp [Site.imbalance, ← opens_iff, ho], ?_⟩
    simp only [Site.imbalance, reduceCtorEq, false_iff]
    intro hc
    rw [hcloser hc] at ho
    cases ho
  · obtain ⟨d, hd, rfl⟩ := List.mem_map.mp hi
    obtain ⟨hmem, hc⟩ := Outline.of_mem_strayOnes hf hd
    simp only [pairing] at hc
    refine ⟨hw ▸ hmem, by simp [Site.imbalance, ← opens_iff, hc.1], ?_⟩
    simpa [Site.imbalance] using openerOf?_isSome_iff.mp hc.2

theorem imbalances_eq_nil_of_nested {ps : List Pair} (hps : (written ps).Nodup) {ls : List Line}
    (h : Nested ps ((delimiters (written ps) ls).map (·.char))) : imbalances ps ls = [] := by
  have hfilter : delimiters (written ps) ls = (sites ls).filter (pairing ps).isBracket :=
    List.filter_congr fun d _ => (isBracket_eq ps d).symm
  obtain ⟨pairs, hrun⟩ := foldl_read_nested hps h _ rfl ⟨[], [], [], []⟩
  rw [hfilter, Brackets.foldl_read_filter] at hrun
  have hperm := imbalances_perm ps ls
  rw [Brackets.readAll, hrun] at hperm
  exact hperm.eq_nil

/-- Balance is exact. For a text that names pairs of delimiters by distinct characters, and numbered
lines: there is no imbalance exactly when the delimiters form a nested word, those that are left
when the reported ones are taken out always do, and imbalances come in the order of the source, each
at its character, unclosed if that is an opener and unexpected if it is a closer. -/
theorem delimiter_balance_exact {cs : List Char} (hcs : cs.Nodup) (heven : 2 ∣ cs.length)
    {ls : List Line} (hls : ls.map (·.number) = List.range' 1 ls.length) :
    ∃ ps, pairs? cs = some ps ∧ written ps = cs ∧
      (imbalances ps ls = [] ↔ Nested ps ((delimiters cs ls).map (·.char))) ∧
      Nested ps (((delimiters cs ls).filter fun d =>
        decide (d.place ∉ (imbalances ps ls).map Imbalance.place)).map (·.char)) ∧
      ((imbalances ps ls).map Imbalance.place).Pairwise Earlier ∧
      ∀ i ∈ imbalances ps ls,
        1 ≤ i.line ∧ (∃ l, ls[i.line - 1]? = some l ∧ l.masked[i.column]? = some i.char) ∧
        (i.kind = .unclosed ↔ ∃ p ∈ ps, i.char = p.opener) ∧
        (i.kind = .unexpected ↔ ∃ p ∈ ps, i.char = p.closer) := by
  obtain ⟨ps, hps, rfl⟩ := pairs?_of_nodup hcs heven
  have hnumbers : (ls.map (·.number)).Nodup := by
    rw [hls]
    exact List.nodup_range'
  obtain ⟨f, hw, hf, hi⟩ := exists_outline ps ls
  have hleft := nested_paired hf
  rw [← filter_delimiters_eq_paired hf hw hi hnumbers] at hleft
  refine ⟨ps, hps, rfl, ⟨?_, imbalances_eq_nil_of_nested hcs⟩, hleft,
    imbalances_earlier hnumbers, ?_⟩
  · intro hnil
    simpa [hnil] using hleft
  · intro i hmem
    obtain ⟨hsite, hkind⟩ := of_mem_imbalances hcs hmem
    obtain ⟨hline, hchar⟩ := getElem?_of_mem_sites hls hsite
    exact ⟨hline, hchar, hkind⟩

theorem delimiter_balance_crossing :
    let cs := ['(', ')', '[', ']']
    let ls : List Line := [⟨1, ['(', '['], ['(', '[']⟩, ⟨2, [')', ']'], [')', ']']⟩]
    cs.Nodup ∧ 2 ∣ cs.length ∧ ls.map (·.number) = List.range' 1 ls.length ∧
      ∃ ps, pairs? cs = some ps ∧
        imbalances ps ls = [⟨1, 1, '[', .unclosed⟩, ⟨2, 1, ']', .unexpected⟩] ∧
        Nested ps (((delimiters cs ls).filter fun d =>
          decide (d.place ∉ (imbalances ps ls).map Imbalance.place)).map (·.char)) := by
  intro cs ls
  have hcs : cs.Nodup := by decide
  have heven : 2 ∣ cs.length := by decide
  have hls : ls.map (·.number) = List.range' 1 ls.length := by decide
  obtain ⟨ps, hps, -, -, hleft, -, -⟩ := delimiter_balance_exact hcs heven hls
  refine ⟨hcs, heven, hls, ps, hps, ?_, hleft⟩
  cases hps
  cbv

end Delimiters

end CampaignCheck

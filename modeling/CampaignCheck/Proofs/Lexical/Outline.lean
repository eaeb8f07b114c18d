import Mathlib.Data.List.Forall2
import Mathlib.Data.List.Perm.Basic
import Mathlib.Data.List.TakeWhile

namespace CampaignCheck

/-- How symbols act as brackets: which open, which close, and which opener a closer may end. -/
structure Brackets (α : Type) where
  opens : α → Bool
  closes : α → Bool
  ends : α → α → Bool

/-- Open brackets, innermost first; the pairs made, and the brackets left alone. -/
structure Reading (α : Type) where
  stack : List α
  pairs : List (α × α)
  unclosed : List α
  stray : List α

def Reading.map {α β : Type} (φ : α → β) (r : Reading α) : Reading β :=
  ⟨r.stack.map φ, r.pairs.map (Prod.map φ φ), r.unclosed.map φ, r.stray.map φ⟩

/-- A word with its pairs of brackets and the brackets left alone, from left to right. -/
inductive Outline (α : Type) where
  | empty
  | other (before : Outline α) (x : α)
  | unclosed (before : Outline α) (o : α)
  | stray (before : Outline α) (c : α)
  | block (before : Outline α) (o : α) (inner : Outline α) (c : α)

variable {α β : Type}

theorem filter_or_perm {p q : α → Bool} (h : ∀ a, q a = true → p a = false)
    (l : List α) : (l.filter p ++ l.filter q).Perm (l.filter fun a => p a || q a) := by
  have hl := List.filter_append_perm p (l.filter fun a => p a || q a)
  rw [List.filter_filter, List.filter_filter] at hl
  have hp : (l.filter fun a => p a && (p a || q a)) = l.filter p :=
    List.filter_congr fun a _ => by cases p a <;> rfl
  have hq : (l.filter fun a => !p a && (p a || q a)) = l.filter q :=
    List.filter_congr fun a _ => by
      have ha := h a
      cases hq : q a <;> cases hp : p a <;> simp_all
  rwa [hp, hq] at hl

namespace Brackets

def read (b : Brackets α) (r : Reading α) (x : α) : Reading α :=
  if b.opens x then { r with stack := x :: r.stack }
  else if b.closes x then
    match r.stack.dropWhile fun o => !b.ends x o with
    | [] => { r with stray := r.stray ++ [x] }
    | o :: outer =>
      ⟨outer, r.pairs ++ [(o, x)],
        r.unclosed ++ (r.stack.takeWhile fun o => !b.ends x o).reverse, r.stray⟩
  else r

def readAll (b : Brackets α) (w : List α) : Reading α := w.foldl b.read ⟨[], [], [], []⟩

def isBracket (b : Brackets α) (x : α) : Bool := b.opens x || b.closes x

theorem read_opener {b : Brackets α} {x : α} (hx : b.opens x = true) (r : Reading α) :
    b.read r x = { r with stack := x :: r.stack } := by
  simp [read, hx]

theorem read_other {b : Brackets α} {x : α} (hx : b.isBracket x = false) (r : Reading α) :
    b.read r x = r := by
  have h : b.opens x = false ∧ b.closes x = false := by simpa [isBracket] using hx
  simp [read, h.1, h.2]

theorem read_stray {b : Brackets α} {x : α} (ho : b.opens x = false) (hc : b.closes x = true)
    {r : Reading α} (h : ∀ o ∈ r.stack, b.ends x o = false) :
    b.read r x = { r with stray := r.stray ++ [x] } := by
  have hd : (r.stack.dropWhile fun o => !b.ends x o) = [] :=
    List.dropWhile_eq_nil_iff.mpr fun o hm => by simp [h o hm]
  simp [read, ho, hc, hd]

theorem read_closer {b : Brackets α} {x o : α} (ho : b.opens x = false) (hc : b.closes x = true)
    (he : b.ends x o = true) {inner outer : List α} (h : ∀ i ∈ inner, b.ends x i = false)
    {r : Reading α} (hs : r.stack = inner ++ o :: outer) :
    b.read r x = ⟨outer, r.pairs ++ [(o, x)], r.unclosed ++ inner.reverse, r.stray⟩ := by
  have hp : ∀ i ∈ inner, (!b.ends x i) = true := fun i hi => by simp [h i hi]
  have hd : (r.stack.dropWhile fun o => !b.ends x o) = o :: outer := by
    rw [hs, List.dropWhile_append_of_pos hp, List.dropWhile_cons_of_neg (by simp [he])]
  have ht : (r.stack.takeWhile fun o => !b.ends x o) = inner := by
    rw [hs, List.takeWhile_append_of_pos hp, List.takeWhile_cons_of_neg (by simp [he]),
      List.append_nil]
  simp [read, ho, hc, hd, ht]

theorem read_cases (b : Brackets α) (r : Reading α) (x : α) :
    (b.opens x = true ∧ b.read r x = { r with stack := x :: r.stack }) ∨
    (b.isBracket x = false ∧ b.read r x = r) ∨
    (b.opens x = false ∧ b.closes x = true ∧ (∀ o ∈ r.stack, b.ends x o = false) ∧
      b.read r x = { r with stray := r.stray ++ [x] }) ∨
    ∃ inner o outer, b.opens x = false ∧ b.closes x = true ∧ b.ends x o = true ∧
      (∀ i ∈ inner, b.ends x i = false) ∧ r.stack = inner ++ o :: outer ∧
      b.read r x = ⟨outer, r.pairs ++ [(o, x)], r.unclosed ++ inner.reverse, r.stray⟩ := by
  cases ho : b.opens x with
  | true => exact .inl ⟨rfl, read_opener ho r⟩
  | false =>
    cases hc : b.closes x with
    | false =>
      have hx : b.isBracket x = false := by simp [isBracket, ho, hc]
      exact .inr (.inl ⟨hx, read_other hx r⟩)
    | true =>
      refine .inr (.inr ?_)
      have hinner : ∀ i ∈ r.stack.takeWhile (fun o => !b.ends x o), b.ends x i = false :=
        fun i hi => by simpa using List.mem_takeWhile_imp hi
      have hsplit := List.takeWhile_append_dropWhile (p := fun o => !b.ends x o) (l := r.stack)
      cases hd : r.stack.dropWhile fun o => !b.ends x o with
      | nil =>
        rw [hd, List.append_nil] at hsplit
        rw [hsplit] at hinner
        exact .inl ⟨rfl, rfl, hinner, read_stray ho hc hinner⟩
      | cons o outer =>
        have he : b.ends x o = true := by
          have h := List.head_dropWhile_not (l := r.stack) (fun o => !b.ends x o) (by simp [hd])
          simpa [hd] using h
        rw [hd] at hsplit
        exact .inr ⟨_, o, outer, rfl, rfl, he, hinner, hsplit.symm,
          read_closer ho hc he hinner hsplit.symm⟩

/-- Symbols that are no brackets do not matter. -/
theorem foldl_read_filter (b : Brackets α) (w : List α) (r : Reading α) :
    (w.filter b.isBracket).foldl b.read r = w.foldl b.read r := by
  induction w generalizing r with
  | nil => rfl
  | cons x w ih =>
    cases hx : b.isBracket x with
    | true => rw [List.filter_cons_of_pos hx, List.foldl_cons, List.foldl_cons, ih]
    | false => rw [List.filter_cons_of_neg (by simp [hx]), List.foldl_cons, read_other hx, ih]

/-- Other names do not matter, if those of the symbols read act in the same way. -/
theorem foldl_read_map {b : Brackets α} {c : Brackets β} {φ : α → β} {P : α → Prop}
    (ho : ∀ x, P x → c.opens (φ x) = b.opens x) (hc : ∀ x, P x → c.closes (φ x) = b.closes x)
    (he : ∀ x o, P x → P o → b.opens x = false → b.closes x = true → b.opens o = true →
      c.ends (φ x) (φ o) = b.ends x o)
    (w : List α) (hw : ∀ x ∈ w, P x) (r : Reading α) (hr : ∀ o ∈ r.stack, P o ∧ b.opens o = true) :
    (w.map φ).foldl c.read (r.map φ) = (w.foldl b.read r).map φ := by
  -- The stack holds openers only, so what a closer ends is asked only where `he` speaks.
  induction w generalizing r with
  | nil => rfl
  | cons x w ih =>
    have hx := hw x (by simp)
    have hrest : ∀ y ∈ w, P y := fun y hy => hw y (by simp [hy])
    rw [List.map_cons, List.foldl_cons, List.foldl_cons]
    rcases b.read_cases r x with ⟨hopens, hread⟩ | ⟨hother, hread⟩ |
      ⟨hopens, hcloses, hnone, hread⟩ | ⟨inner, o, outer, hopens, hcloses, hends, hinner, hs, hread⟩
    · rw [hread, read_opener (by rw [ho x hx, hopens])]
      exact ih hrest ⟨x :: r.stack, _, _, _⟩ (List.forall_mem_cons.mpr ⟨⟨hx, hopens⟩, hr⟩)
    · have hkeep : c.isBracket (φ x) = false := by
        rw [isBracket, ho x hx, hc x hx]
        exact hother
      rw [hread, read_other hkeep]
      exact ih hrest r hr
    · have hall : ∀ y ∈ (r.map φ).stack, c.ends (φ x) y = false := by
        intro y hy
        obtain ⟨a, ha, rfl⟩ := List.mem_map.mp hy
        rw [he x a hx (hr a ha).1 hopens hcloses (hr a ha).2, hnone a ha]
      rw [hread, read_stray (by rw [ho x hx, hopens]) (by rw [hc x hx, hcloses]) hall]
      have hstep := ih hrest { r with stray := r.stray ++ [x] } hr
      simpa [Reading.map] using hstep
    · rw [hs] at hr
      have hout : ∀ a ∈ outer, P a ∧ b.opens a = true := fun a ha => hr a (by simp [ha])
      have hmap {a : α} (ha : a ∈ inner ++ o :: outer) : c.ends (φ x) (φ a) = b.ends x a :=
        he x a hx (hr a ha).1 hopens hcloses (hr a ha).2
      have hin : ∀ y ∈ inner.map φ, c.ends (φ x) y = false := by
        intro y hy
        obtain ⟨a, ha, rfl⟩ := List.mem_map.mp hy
        rw [hmap (by simp [ha]), hinner a ha]
      have hstack : (r.map φ).stack = inner.map φ ++ φ o :: outer.map φ := by
        simp [Reading.map, hs]
      rw [hread, read_closer (by rw [ho x hx, hopens]) (by rw [hc x hx, hcloses])
        (by rw [hmap (by simp), hends]) hin hstack]
      have hstep := ih hrest
        ⟨outer, r.pairs ++ [(o, x)], r.unclosed ++ inner.reverse, r.stray⟩ hout
      simpa [Reading.map] using hstep

end Brackets

namespace Outline

def word : Outline α → List α
  | empty => []
  | other f x | unclosed f x | stray f x => f.word ++ [x]
  | block f o i c => f.word ++ o :: i.word ++ [c]

def pairs : Outline α → List (α × α)
  | empty => []
  | other f _ | unclosed f _ | stray f _ => f.pairs
  | block f o i c => f.pairs ++ i.pairs ++ [(o, c)]

def unclosedOnes : Outline α → List α
  | empty => []
  | unclosed f o => f.unclosedOnes ++ [o]
  | other f _ | stray f _ => f.unclosedOnes
  | block f _ i _ => f.unclosedOnes ++ i.unclosedOnes

def strayOnes : Outline α → List α
  | empty => []
  | stray f c => f.strayOnes ++ [c]
  | other f _ | unclosed f _ => f.strayOnes
  | block f _ i _ => f.strayOnes ++ i.strayOnes

def paired : Outline α → List α
  | empty => []
  | other f _ | unclosed f _ | stray f _ => f.paired
  | block f o i c => f.paired ++ o :: i.paired ++ [c]

/-- Every symbol stands in a place of its kind, and a closer may end the opener that it is paired
with. -/
def Fits (b : Brackets α) : Outline α → Prop
  | empty => True
  | other f x => f.Fits b ∧ b.isBracket x = false
  | unclosed f o => f.Fits b ∧ b.opens o = true
  | stray f c => f.Fits b ∧ b.opens c = false ∧ b.closes c = true
  | block f o i c => f.Fits b ∧ i.Fits b ∧ b.opens o = true ∧ b.opens c = false ∧
      b.closes c = true ∧ b.ends c o = true

def append (f : Outline α) : Outline α → Outline α
  | empty => f
  | other g x => other (f.append g) x
  | unclosed g o => unclosed (f.append g) o
  | stray g c => stray (f.append g) c
  | block g o i c => block (f.append g) o i c

instance : Append (Outline α) := ⟨append⟩

theorem append_def (f g : Outline α) : f ++ g = f.append g := rfl

theorem append_assoc (f g h : Outline α) : f ++ g ++ h = f ++ (g ++ h) := by
  simp only [append_def]
  induction h with
  | empty => rfl
  | other h x ih => exact congrArg (other · x) ih
  | unclosed h o ih => exact congrArg (unclosed · o) ih
  | stray h c ih => exact congrArg (stray · c) ih
  | block h o i c ih _ => exact congrArg (block · o i c) ih

theorem word_append (f g : Outline α) : (f ++ g).word = f.word ++ g.word := by
  simp only [append_def]
  induction g <;> simp_all [append, word]

theorem pairs_append (f g : Outline α) : (f ++ g).pairs = f.pairs ++ g.pairs := by
  simp only [append_def]
  induction g <;> simp_all [append, pairs]

theorem unclosedOnes_append (f g : Outline α) :
    (f ++ g).unclosedOnes = f.unclosedOnes ++ g.unclosedOnes := by
  simp only [append_def]
  induction g <;> simp_all [append, unclosedOnes]

theorem strayOnes_append (f g : Outline α) : (f ++ g).strayOnes = f.strayOnes ++ g.strayOnes := by
  simp only [append_def]
  induction g <;> simp_all [append, strayOnes]

theorem fits_append {b : Brackets α} {f g : Outline α} :
    (f ++ g).Fits b ↔ f.Fits b ∧ g.Fits b := by
  simp only [append_def]
  induction g <;> simp_all [append, Fits, and_assoc]

/-- Every opener is paired or unclosed, and in one place only. -/
theorem openers_perm {b : Brackets α} {f : Outline α} (hf : f.Fits b) :
    (f.word.filter b.opens).Perm (f.pairs.map (·.1) ++ f.unclosedOnes) := by
  classical
  rw [List.perm_iff_count]
  intro a
  induction f with
  | empty => rfl
  | other f x ih =>
    have hx : b.opens x = false ∧ b.closes x = false := by simpa [Brackets.isBracket] using hf.2
    simpa [word, pairs, unclosedOnes, hx.1] using ih hf.1
  | unclosed f o ih =>
    have h := ih hf.1
    simp [word, pairs, unclosedOnes, hf.2] at h ⊢
    omega
  | stray f c ih => simpa [word, pairs, unclosedOnes, hf.2.1] using ih hf.1
  | block f o i c ihf ihi =>
    obtain ⟨hf, hi, ho, hc, -, -⟩ := hf
    have h := ihf hf
    have k := ihi hi
    simp [word, pairs, unclosedOnes, ho, hc, List.count_cons] at h k ⊢
    omega

/-- Every closer is paired or stray, and in one place only. -/
theorem closers_perm {b : Brackets α} {f : Outline α} (hf : f.Fits b) :
    (f.word.filter fun x => !b.opens x && b.closes x).Perm (f.pairs.map (·.2) ++ f.strayOnes) := by
  classical
  rw [List.perm_iff_count]
  intro a
  induction f with
  | empty => rfl
  | other f x ih =>
    have hx : b.opens x = false ∧ b.closes x = false := by simpa [Brackets.isBracket] using hf.2
    simpa [word, pairs, strayOnes, hx.2] using ih hf.1
  | unclosed f o ih => simpa [word, pairs, strayOnes, hf.2] using ih hf.1
  | stray f c ih =>
    have h := ih hf.1
    simp [word, pairs, strayOnes, hf.2] at h ⊢
    omega
  | block f o i c ihf ihi =>
    obtain ⟨hf, hi, ho, hc, hcc, -⟩ := hf
    have h := ihf hf
    have k := ihi hi
    simp [word, pairs, strayOnes, ho, hc, hcc, List.count_cons] at h k ⊢
    omega

theorem of_mem_unclosedOnes {b : Brackets α} {f : Outline α} (hf : f.Fits b) {o : α}
    (ho : o ∈ f.unclosedOnes) : o ∈ f.word ∧ b.opens o = true :=
  List.mem_filter.mp ((openers_perm hf).mem_iff.mpr (List.mem_append_right _ ho))

theorem of_mem_strayOnes {b : Brackets α} {f : Outline α} (hf : f.Fits b) {c : α}
    (hc : c ∈ f.strayOnes) : c ∈ f.word ∧ b.opens c = false ∧ b.closes c = true := by
  have hm := (closers_perm hf).mem_iff.mpr (List.mem_append_right _ hc)
  simpa using List.mem_filter.mp hm

theorem paired_perm (f : Outline α) : f.paired.Perm (f.pairs.map (·.1) ++ f.pairs.map (·.2)) := by
  classical
  rw [List.perm_iff_count]
  intro a
  induction f with
  | empty => rfl
  | other f x ih | unclosed f x ih | stray f x ih => exact ih
  | block f o i c ihf ihi =>
    simp only [paired, pairs, List.map_append, List.map_cons, List.map_nil, List.count_append,
      List.count_cons, List.count_nil] at ihf ihi ⊢
    omega

/-- Every bracket is in a pair or alone, and in one place only. -/
theorem brackets_perm {b : Brackets α} {f : Outline α} (hf : f.Fits b) :
    (f.word.filter b.isBracket).Perm (f.paired ++ (f.unclosedOnes ++ f.strayOnes)) := by
  have hsplit : f.word.filter b.isBracket =
      f.word.filter fun x => b.opens x || (!b.opens x && b.closes x) :=
    List.filter_congr fun x _ => by cases ho : b.opens x <;> simp [Brackets.isBracket, ho]
  have hkinds := filter_or_perm (p := b.opens) (q := fun x => !b.opens x && b.closes x)
    (fun x hx => by simpa using (Bool.and_eq_true_iff.mp hx).1) f.word
  have hmove : (f.pairs.map (·.1) ++ f.unclosedOnes ++ (f.pairs.map (·.2) ++ f.strayOnes)).Perm
      (f.pairs.map (·.1) ++ f.pairs.map (·.2) ++ (f.unclosedOnes ++ f.strayOnes)) := by
    simp only [List.append_assoc]
    exact (List.perm_append_comm_assoc ..).append_left _
  rw [hsplit]
  refine hkinds.symm.trans (((openers_perm hf).append (closers_perm hf)).trans ?_)
  exact hmove.trans ((paired_perm f).symm.append_right _)

/-- The brackets in pairs are what is left when those alone are taken out. -/
theorem filter_word_eq_paired {b : Brackets α} {f : Outline α} (hf : f.Fits b) {keep : α → Bool}
    (hb : ∀ x, b.isBracket x = false → keep x = false)
    (hu : ∀ x ∈ f.unclosedOnes, keep x = false) (hs : ∀ x ∈ f.strayOnes, keep x = false)
    (hp : ∀ x ∈ f.paired, keep x = true) : f.word.filter keep = f.paired := by
  induction f with
  | empty => rfl
  | other f x ih => simpa [word, paired, hb x hf.2] using ih hf.1 hu hs hp
  | unclosed f o ih =>
    simp only [unclosedOnes, List.forall_mem_append, List.forall_mem_singleton] at hu
    simpa [word, paired, hu.2] using ih hf.1 hu.1 hs hp
  | stray f c ih =>
    simp only [strayOnes, List.forall_mem_append, List.forall_mem_singleton] at hs
    simpa [word, paired, hs.2] using ih hf.1 hu hs.1 hp
  | block f o i c ihf ihi =>
    simp only [unclosedOnes, List.forall_mem_append] at hu
    simp only [strayOnes, List.forall_mem_append] at hs
    simp only [paired, List.forall_mem_append, List.forall_mem_cons] at hp
    obtain ⟨⟨hpf, ho, hpi⟩, hc⟩ := hp
    have h := ihf hf.1 hu.1 hs.1 hpf
    have k := ihi hf.2.1 hu.2 hs.2 hpi
    simp [word, paired, ho, hc, h, k]

/-- The pairs as numbers of symbols, in the order of their closers. -/
def spans : Outline α → List (Nat × Nat)
  | empty => []
  | other f _ | unclosed f _ | stray f _ => f.spans
  | block f _ i _ =>
    f.spans ++ (i.spans.map fun s => (f.word.length + 1 + s.1, f.word.length + 1 + s.2)) ++
      [(f.word.length, f.word.length + 1 + i.word.length)]

theorem lt_of_mem_spans {f : Outline α} {s : Nat × Nat} (hs : s ∈ f.spans) :
    s.1 < s.2 ∧ s.2 < f.word.length := by
  induction f generalizing s with
  | empty => cases hs
  | other f x ih | unclosed f x ih | stray f x ih =>
    have h := ih hs
    simp only [word, List.length_append, List.length_singleton]
    omega
  | block f o i c ihf ihi =>
    simp only [spans, List.mem_append, List.mem_map, List.mem_singleton] at hs
    simp only [word, List.length_append, List.length_cons, List.length_nil]
    rcases hs with (hs | ⟨t, ht, rfl⟩) | rfl
    · have h := ihf hs
      omega
    · have h := ihi ht
      simp only
      omega
    · simp only
      omega

def StandsAt (w : List α) (p : α × α) (s : Nat × Nat) : Prop :=
  w[s.1]? = some p.1 ∧ w[s.2]? = some p.2

theorem StandsAt.append {w : List α} {p : α × α} {s : Nat × Nat} (h : StandsAt w p s)
    (v : List α) : StandsAt (w ++ v) p s := by
  have hgrow {i : Nat} {a : α} (ha : w[i]? = some a) : (w ++ v)[i]? = some a := by
    rw [List.getElem?_append_left (List.getElem?_eq_some_iff.mp ha).1]
    exact ha
  exact ⟨hgrow h.1, hgrow h.2⟩

theorem StandsAt.shift {w : List α} {p : α × α} {s : Nat × Nat} (h : StandsAt w p s) (u : List α)
    (o : α) : StandsAt (u ++ o :: w) p (u.length + 1 + s.1, u.length + 1 + s.2) := by
  have hshift {i : Nat} {a : α} (ha : w[i]? = some a) :
      (u ++ o :: w)[u.length + 1 + i]? = some a := by
    rw [List.getElem?_append_right (by omega)]
    have hi : u.length + 1 + i - u.length = i + 1 := by omega
    simpa [hi] using ha
  exact ⟨hshift h.1, hshift h.2⟩

theorem spans_standsAt (f : Outline α) : List.Forall₂ (StandsAt f.word) f.pairs f.spans := by
  induction f with
  | empty => exact .nil
  | other f x ih | unclosed f x ih | stray f x ih => exact ih.imp fun _ _ h => h.append [x]
  | block f o i c ihf ihi =>
    have hblock : StandsAt (f.word ++ o :: i.word ++ [c]) (o, c)
        (f.word.length, f.word.length + 1 + i.word.length) := by
      constructor
      · simp
      · rw [List.getElem?_append_right (by simp; omega)]
        have hi : f.word.length + 1 + i.word.length - (f.word ++ o :: i.word).length = 0 := by
          simp
          omega
        rw [hi]
        rfl
    refine List.rel_append (List.rel_append ?_ ?_) (.cons hblock .nil)
    · refine ihf.imp fun _ _ h => ?_
      rw [word, List.append_assoc]
      exact h.append _
    · refine List.forall₂_map_right_iff.mpr (ihi.imp fun _ _ h => ?_)
      exact (h.shift f.word o).append [c]

/-- Pairs never cross: of two, the one that ends first lies before the other or inside it. -/
theorem spans_apart (f : Outline α) :
    f.spans.Pairwise fun s t => s.2 < t.1 ∨ t.1 < s.1 ∧ s.2 < t.2 := by
  induction f with
  | empty => exact .nil
  | other f x ih | unclosed f x ih | stray f x ih => exact ih
  | block f o i c ihf ihi =>
    rw [spans, List.append_assoc, List.pairwise_append]
    refine ⟨ihf, ?_, ?_⟩
    · rw [List.pairwise_append]
      refine ⟨?_, List.pairwise_singleton _ _, ?_⟩
      · refine List.pairwise_map.mpr (ihi.imp fun h => ?_)
        simp only
        omega
      · intro s hs t ht
        obtain ⟨k, hk, rfl⟩ := List.mem_map.mp hs
        have h := lt_of_mem_spans hk
        rw [List.mem_singleton.mp ht]
        simp only
        omega
    · intro s hs t ht
      have h := lt_of_mem_spans hs
      rcases List.mem_append.mp ht with ht | ht
      · obtain ⟨k, hk, rfl⟩ := List.mem_map.mp ht
        simp only
        omega
      · rw [List.mem_singleton.mp ht]
        simp only
        omega

/-- The symbols of the stack stand unclosed in the outline, none of them inside a pair. -/
inductive Spine : List α → Outline α → Prop
  | base (f : Outline α) : Spine [] f
  | level {stack : List α} {f : Outline α} (o : α) (g : Outline α) :
      Spine stack f → Spine (o :: stack) (f.unclosed o ++ g)

theorem Spine.append {stack : List α} {f : Outline α} (h : Spine stack f) (g : Outline α) :
    Spine stack (f ++ g) := by
  cases h with
  | base f => exact .base _
  | level o i h =>
    rw [append_assoc]
    exact .level o (i ++ g) h

theorem Spine.tail {stack : List α} {o : α} {f : Outline α} (h : Spine (o :: stack) f) :
    Spine stack f := by
  cases h with
  | @level _ g _ i h => exact (h.append (.unclosed .empty o)).append i

/-- What stands before and behind an open bracket. -/
theorem Spine.split {inner outer : List α} {o : α} {f : Outline α}
    (h : Spine (inner ++ o :: outer) f) : ∃ g i, Spine outer g ∧ f = g.unclosed o ++ i := by
  induction inner generalizing f with
  | nil =>
    cases h with
    | level o i h => exact ⟨_, i, h, rfl⟩
  | cons a inner ih =>
    cases h with
    | level a j h =>
      obtain ⟨g, i, hg, rfl⟩ := ih h
      exact ⟨g, i.unclosed a ++ j, hg, by rw [← append_assoc]; rfl⟩

/-- The outline is that of a word that has been read so far. -/
structure Of (b : Brackets α) (r : Reading α) (w : List α) (f : Outline α) : Prop where
  word : f.word = w
  fits : f.Fits b
  spine : Spine r.stack f
  pairs : f.pairs = r.pairs
  unclosed : f.unclosedOnes.Perm (r.unclosed ++ r.stack)
  stray : f.strayOnes = r.stray

theorem Of.read {b : Brackets α} {r : Reading α} {w : List α} {f : Outline α} (h : Of b r w f)
    (x : α) : ∃ g, Of b (b.read r x) (w ++ [x]) g := by
  have hspine (g : Outline α) : Spine r.stack (f ++ g) := h.spine.append g
  rcases b.read_cases r x with ⟨ho, hr⟩ | ⟨hb, hr⟩ | ⟨ho, hc, -, hr⟩ |
    ⟨inner, o, outer, ho, hc, he, -, hs, hr⟩
  · rw [hr]
    refine ⟨f.unclosed x, ?_, ⟨h.fits, ho⟩, .level x .empty h.spine, h.pairs, ?_, h.stray⟩
    · simp only [Outline.word, h.word]
    · have hp : (x :: (r.unclosed ++ r.stack)).Perm (r.unclosed ++ x :: r.stack) :=
        List.perm_middle.symm
      exact (List.perm_append_singleton x _).trans ((h.unclosed.cons x).trans hp)
  · rw [hr]
    refine ⟨f.other x, ?_, ⟨h.fits, hb⟩, hspine (.other .empty x), h.pairs, h.unclosed, h.stray⟩
    simp only [Outline.word, h.word]
  · rw [hr]
    refine ⟨f.stray x, ?_, ⟨h.fits, ho, hc⟩, hspine (.stray .empty x), h.pairs, h.unclosed, ?_⟩
    · simp only [Outline.word, h.word]
    · simp only [strayOnes, h.stray]
  · have hsplit := h.spine
    rw [hs] at hsplit
    obtain ⟨g, i, hg, rfl⟩ := hsplit.split
    obtain ⟨⟨hfg, hoo⟩, hfi⟩ := fits_append.mp h.fits
    rw [hr]
    refine ⟨g.block o i x, ?_, ⟨hfg, hfi, hoo, ho, hc, he⟩, hg.append (.block .empty o i x), ?_, ?_,
      ?_⟩
    · simp only [← h.word, word_append, Outline.word]
      simp
    · simp only [← h.pairs, pairs_append, Outline.pairs]
    · -- The paired opener leaves both sides; the ones opened after it stay unclosed.
      have hu := h.unclosed
      rw [hs, unclosedOnes_append] at hu
      have hl : (o :: (g.unclosedOnes ++ i.unclosedOnes)).Perm
          ((g.unclosed o).unclosedOnes ++ i.unclosedOnes) := by
        simpa [unclosedOnes] using List.perm_middle.symm
      have hm : (r.unclosed ++ (inner ++ o :: outer)).Perm
          (o :: (r.unclosed ++ inner.reverse ++ outer)) := by
        rw [← List.append_assoc]
        have hr := (List.reverse_perm inner).symm.append_left r.unclosed
        exact List.perm_middle.trans ((hr.append_right outer).cons o)
      exact (hl.trans (hu.trans hm)).cons_inv
    · simp only [← h.stray, strayOnes_append, Outline.strayOnes]

/-- The innermost open bracket may be given up at any time. -/
theorem Of.abandon {b : Brackets α} {r : Reading α} {w : List α} {f : Outline α} (h : Of b r w f)
    {o : α} {outer : List α} (hs : r.stack = o :: outer) :
    Of b ⟨outer, r.pairs, r.unclosed ++ [o], r.stray⟩ w f := by
  have hspine := h.spine
  have hunclosed := h.unclosed
  rw [hs] at hspine hunclosed
  refine ⟨h.word, h.fits, hspine.tail, h.pairs, ?_, h.stray⟩
  simpa using hunclosed

/-- Every word that is read has an outline. -/
theorem exists_of_readAll (b : Brackets α) (w : List α) : ∃ f, Of b (b.readAll w) w f := by
  have hrun (v : List α) (u : List α) (r : Reading α) (f : Outline α) (h : Of b r u f) :
      ∃ g, Of b (v.foldl b.read r) (u ++ v) g := by
    induction v generalizing u r f with
    | nil => exact ⟨f, by simpa using h⟩
    | cons x v ih =>
      obtain ⟨g, hg⟩ := h.read x
      obtain ⟨k, hk⟩ := ih _ _ g hg
      exact ⟨k, by simpa using hk⟩
  exact hrun w [] ⟨[], [], [], []⟩ .empty ⟨rfl, trivial, .base _, rfl, .nil, rfl⟩

end Outline

end CampaignCheck

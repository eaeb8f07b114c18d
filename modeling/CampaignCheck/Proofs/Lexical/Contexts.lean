import CampaignCheck.Proofs.Lexical.Remask

namespace CampaignCheck.Mask

open Text

section Lines

variable {x : Lexicon}

def inside (x : Lexicon) (c : Context) (line : List Char) : List Char :=
  (chars x 1 0 ⟨0, c⟩ line).1

def after (x : Lexicon) (c : Context) (line : List Char) : Context :=
  (endLine x (chars x 1 0 ⟨0, c⟩ line).2.context).2

def before (x : Lexicon) (ls : List (List Char)) (i : Nat) : Context :=
  (ls.take i).foldl (after x) .code

theorem after_of {c : Context} (hc : c.Of x) (line : List Char) : (after x c line).Of x :=
  endLine_of (chars_of 1 0 (s := ⟨0, c⟩) line hc)

theorem endLine_like {c d : Context} (h : c.Like d) : (endLine x c).2.Like (endLine x d).2 := by
  cases h with
  | code => exact .code
  | comment => exact .comment
  | literal quote p q =>
    simp only [endLine]
    split_ifs
    · exact .literal quote p q
    · exact .code

variable (hx : x.SkipsBlanks) (he : x.IgnoresPliant)
include hx he

theorem chars_like (number number' : Nat) {c d : Context} (hc : c.Of x) (h : c.Like d)
    (line : List Char) :
    (chars x number' 0 ⟨0, d⟩ line).1 = (chars x number 0 ⟨0, c⟩ line).1 ∧
      (chars x number 0 ⟨0, c⟩ line).2.context.Like
        (chars x number' 0 ⟨0, d⟩ line).2.context := by
  simpa [stretch_zero] using
    chars_stretch hx he number number' 0 0 (Elastic.zero line).pliant (s := ⟨0, c⟩) hc (.of_like h)

theorem inside_like {c d : Context} (hc : c.Of x) (h : c.Like d) (line : List Char) :
    inside x d line = inside x c line :=
  (chars_like hx he 1 1 hc h line).1

theorem inside_stretch {c : Context} (hc : c.Of x) {k : Nat → Nat} {line : List Char}
    (h : Pliant k line) : inside x c (stretch k line) = stretch k (inside x c line) :=
  (chars_stretch hx he 1 1 0 0 h (s := ⟨0, c⟩) hc (.of_like (.refl c))).1

theorem after_stretch {c d : Context} (hc : c.Of x) (hlike : c.Like d) {k : Nat → Nat}
    {line : List Char} (h : Pliant k line) :
    (after x c line).Like (after x d (stretch k line)) :=
  endLine_like (chars_stretch hx he 1 1 0 0 h (s := ⟨0, c⟩) hc (.of_like hlike)).2

theorem linesFrom_getElem? (number : Nat) {c d : Context} (hc : c.Of x) (h : c.Like d)
    (ls : List (List Char)) (i : Nat) :
    (linesFrom x number d ls).1[i]? =
      ls[i]?.map fun raw => ⟨number + i, raw, inside x ((ls.take i).foldl (after x) c) raw⟩ := by
  induction ls generalizing number c d i with
  | nil => cases d <;> simp [linesFrom]
  | cons raw rest ih =>
    obtain ⟨hmasked, hlike⟩ := chars_like hx he 1 number hc h raw
    rw [linesFrom_cons]
    cases i with
    | zero => simp [inside, hmasked]
    | succ i =>
      have hrest := ih (number + 1) (after_of hc raw) (endLine_like hlike) i
      simpa [Nat.add_right_comm, Nat.add_assoc] using hrest

end Lines

theorem of_before (x : Lexicon) (ls : List (List Char)) (i : Nat) : (before x ls i).Of x := by
  have hfold (ls : List (List Char)) {c : Context} (hc : c.Of x) : (ls.foldl (after x) c).Of x := by
    induction ls generalizing c with
    | nil => exact hc
    | cons raw rest ih => exact ih (after_of hc raw)
  exact hfold (ls.take i) trivial

/-- Each line is masked from the context that the lines before it leave. -/
theorem lines_getElem? (d : Dialect) (code : List Char) (i : Nat) :
    (MaskedSource.ofCode d code).lines[i]? = (lines code)[i]?.map fun raw =>
      ⟨i + 1, raw, inside (.of d) (before (.of d) (lines code) i) raw⟩ := by
  have hline := linesFrom_getElem? (Lexicon.of_skipsBlanks d) (Lexicon.of_ignoresPliant d) 1
    (c := .code) trivial .code (lines code) i
  rwa [Nat.add_comm 1 i] at hline

theorem exists_of_mem_lines {d : Dialect} {code : List Char} {l : Line}
    (h : l ∈ (MaskedSource.ofCode d code).lines) : ∃ i raw, (lines code)[i]? = some raw ∧
      l = ⟨i + 1, raw, inside (.of d) (before (.of d) (lines code) i) raw⟩ := by
  obtain ⟨i, hi⟩ := List.getElem?_of_mem h
  rw [lines_getElem?] at hi
  obtain ⟨raw, hraw, rfl⟩ := Option.map_eq_some_iff.mp hi
  exact ⟨i, raw, hraw, rfl⟩

/-- The lines leave the same context, whatever the context before them. -/
def EndsLike (x : Lexicon) (line line' : List Char) : Prop :=
  ∀ c d : Context, c.Of x → c.Like d → (after x c line).Like (after x d line')

theorem EndsLike.of_stretch (d : Dialect) {k : Nat → Nat} {line : List Char} (h : Pliant k line) :
    EndsLike (.of d) line (stretch k line) := fun _ _ hc hlike =>
  after_stretch (Lexicon.of_skipsBlanks d) (Lexicon.of_ignoresPliant d) hc hlike h

theorem EndsLike.refl (d : Dialect) (line : List Char) : EndsLike (.of d) line line := by
  simpa [stretch_zero] using EndsLike.of_stretch d (Elastic.zero line).pliant

theorem EndsLike.symm {x : Lexicon} {line line' : List Char} (h : EndsLike x line line') :
    EndsLike x line' line := fun _ _ hc hlike => (h _ _ (hlike.of hc) hlike.symm).symm

theorem EndsLike.trans {x : Lexicon} {line line' line'' : List Char} (h : EndsLike x line line')
    (h' : EndsLike x line' line'') : EndsLike x line line'' := fun c _ hc hlike =>
  (h c c hc (.refl c)).trans (h' _ _ hc hlike)

theorem before_like {x : Lexicon} {ls ls' : List (List Char)} (h : List.Forall₂ (EndsLike x) ls ls')
    (i : Nat) : (before x ls i).Like (before x ls' i) := by
  have hfold {ls ls' : List (List Char)} (h : List.Forall₂ (EndsLike x) ls ls') {c d : Context}
      (hc : c.Of x) (hlike : c.Like d) : (ls.foldl (after x) c).Like (ls'.foldl (after x) d) := by
    induction h generalizing c d with
    | nil => exact hlike
    | @cons raw raw' rest rest' hraw _ ih =>
      exact ih (after_of hc raw) (hraw c d hc hlike)
  exact hfold (List.forall₂_take i h) trivial .code

/-- Lines that are stretched each in its own way have the masked forms stretched alike. -/
theorem inside_stretched (d : Dialect) {ks : Nat → Nat → Nat} {ls : List (List Char)}
    (h : ∀ i l, ls[i]? = some l → Pliant (ks i) l) {i : Nat} {l : List Char}
    (hl : ls[i]? = some l) :
    inside (.of d) (before (.of d) (ls.mapIdx fun i l => stretch (ks i) l) i) (stretch (ks i) l) =
      stretch (ks i) (inside (.of d) (before (.of d) ls i) l) := by
  have hends : List.Forall₂ (EndsLike (.of d)) ls (ls.mapIdx fun i l => stretch (ks i) l) := by
    refine List.forall₂_iff_get.mpr ⟨by rw [List.length_mapIdx], fun j hj hj' => ?_⟩
    simp only [List.get_eq_getElem, List.getElem_mapIdx]
    exact EndsLike.of_stretch d (h j _ (List.getElem?_eq_getElem hj))
  have hx := Lexicon.of_skipsBlanks d
  have he := Lexicon.of_ignoresPliant d
  have hc := of_before (.of d) ls i
  rw [inside_like hx he hc (before_like hends i), inside_stretch hx he hc (h i l hl)]

section Signs

variable {x : Lexicon}

/-- Blanks to come in code are the rest of the line or the end of a comment. -/
def Trails (s : State) (cs : List Char) : Prop :=
  s.context = .code → s.blanks = 0 ∨ s.blanks = cs.length ∨ s.blanks = 1 ∧ cs.head? = some '/'

variable (hx : x.SkipsBlanks) (hend : ∀ m ∈ x.blockComment, m.2 = ['*', '/'])
include hx hend

theorem step_trails (here : Position) {s : State} {c : Char} {cs : List Char}
    (hs : s.context.Of x) (ht : Trails s (c :: cs)) : Trails (step x here s c cs).2 cs := by
  obtain ⟨blanks, context⟩ := s
  cases blanks with
  | succ n =>
    intro hcode
    rcases ht hcode with h | h | h
    · simp at h
    · exact .inr (.inl (Nat.succ.inj h))
    · exact .inl (Nat.succ.inj h.1)
  | zero =>
    cases context with
    | comment =>
      obtain ⟨⟨start, stop⟩, hb⟩ := Option.isSome_iff_exists.mp hs
      obtain rfl : stop = ['*', '/'] := hend _ hb
      simp only [step, hb, inComment]
      split_ifs with hstops
      · intro _
        refine .inr (.inr ⟨rfl, ?_⟩)
        cases cs with
        | nil => simp [List.isPrefixOf] at hstops
        | cons d cs =>
          simp only [List.isPrefixOf, Bool.and_true, Bool.and_eq_true, beq_iff_eq] at hstops
          rw [← hstops.2]
          rfl
      · intro hcode
        cases hcode
    | literal quote opened =>
      simp only [step]
      split_ifs
      · intro hcode
        cases hcode
      · exact fun _ => .inl rfl
      · intro hcode
        cases hcode
    | code =>
      have hcode : Trails (inCode x here c cs).2 cs := by
        unfold inCode
        split_ifs
        · exact fun _ => .inr (.inl rfl)
        · exact fun _ => .inl rfl
        · exact fun _ => .inl rfl
      rw [step_code hx]
      unfold outside
      split
      · split_ifs
        · intro hcomment
          cases hcomment
        · exact hcode
      · exact hcode

/-- A character before a place of plain code is kept, or ends a comment. -/
theorem step_into_code (here : Position) {s : State} {c d : Char} {cs : List Char}
    (hs : s.context.Of x) (ht : Trails s (c :: d :: cs))
    (h : (step x here s c (d :: cs)).2 = ⟨0, .code⟩) :
    (step x here s c (d :: cs)).1 = c ∨ c = '/' := by
  obtain ⟨blanks, context⟩ := s
  cases blanks with
  | succ n =>
    obtain ⟨rfl, rfl⟩ : n = 0 ∧ context = .code := by simpa [step] using h
    rcases ht rfl with h | h | h
    · simp at h
    · simp at h
    · exact .inr (by simpa using h.2)
  | zero =>
    cases context with
    | comment =>
      obtain ⟨⟨start, stop⟩, hb⟩ := Option.isSome_iff_exists.mp hs
      obtain rfl : stop = ['*', '/'] := hend _ hb
      simp only [step, hb, inComment, blankMarker] at h
      split_ifs at h <;> simp at h
    | literal quote opened =>
      simp only [step] at h ⊢
      split_ifs at h ⊢
      · simp at h
      · exact .inl rfl
      · simp at h
    | code =>
      rw [step_code hx] at h ⊢
      have hcode (h : (inCode x here c (d :: cs)).2 = ⟨0, .code⟩) :
          (inCode x here c (d :: cs)).1 = c := by
        unfold inCode at h ⊢
        split_ifs at h ⊢
        · simp at h
        · rfl
        · rfl
      unfold outside at h ⊢
      obtain hb | ⟨m, hb⟩ := Option.eq_none_or_eq_some x.blockComment
      · simp only [hb] at h ⊢
        exact .inl (hcode h)
      · simp only [hb] at h ⊢
        split_ifs at h ⊢
        · simp [blankMarker] at h
        · exact .inl (hcode h)

omit hend in
/-- An equals sign is kept in code only. -/
theorem step_kept (he : x.IgnoresPliant) (here : Position) {s : State} {c : Char} {rest : List Char}
    (hs : s.context.Of x) (h : (step x here s c rest).1 = '=') : c = '=' ∧ s = ⟨0, .code⟩ := by
  obtain rfl : '=' = c := by
    rcases step_fst x here s c rest with hc | hc
    · exact h.symm.trans hc
    · rw [hc] at h
      cases h
  refine ⟨rfl, ?_⟩
  obtain ⟨blanks, context⟩ := s
  cases blanks with
  | succ n => simp [step] at h
  | zero =>
    rw [step_pliant hx he here hs (.inl rfl)] at h
    by_cases hcode : context = .code
    · rw [hcode]
    · simp [hcode] at h

theorem chars_before_kept (he : x.IgnoresPliant) (number column : Nat) {s : State} {cs : List Char}
    (hs : s.context.Of x) (ht : Trails s cs) {p : Nat}
    (h : (chars x number column s cs).1[p + 1]? = some '=') :
    (chars x number column s cs).1[p]? = cs[p]? ∨ cs[p]? = some '/' := by
  induction cs generalizing column s p with
  | nil => simp [chars] at h
  | cons c cs ih =>
    have hs' := step_of ⟨number, column⟩ c cs hs
    cases p with
    | succ p => exact ih (column + 1) hs' (step_trails hx hend ⟨number, column⟩ hs ht) h
    | zero =>
      cases cs with
      | nil => simp [chars] at h
      | cons d cs =>
        have hkept := step_kept hx he ⟨number, column + 1⟩ hs' (by simpa [chars] using h)
        have hbefore := step_into_code hx hend ⟨number, column⟩ hs ht hkept.2
        simpa [chars] using hbefore

omit hend in
theorem chars_after_kept (he : x.IgnoresPliant) (number column : Nat) {s : State} {cs : List Char}
    (hs : s.context.Of x) {p : Nat} (h : (chars x number column s cs).1[p]? = some '=')
    (hnext : cs[p + 1]? = some '=') : (chars x number column s cs).1[p + 1]? = some '=' := by
  induction cs generalizing column s p with
  | nil => simp [chars] at h
  | cons c cs ih =>
    cases p with
    | succ p => exact ih (column + 1) (step_of ⟨number, column⟩ c cs hs) h hnext
    | zero =>
      obtain ⟨rfl, rfl⟩ := step_kept hx he ⟨number, column⟩ hs (by simpa [chars] using h)
      cases cs with
      | nil => simp at hnext
      | cons d cs =>
        obtain rfl : d = '=' := by simpa using hnext
        have hcode : Context.code.Of x := trivial
        simp [chars, step_pliant hx he _ hcode (.inl rfl)]

/-- Beside an equals sign that masking keeps, the end of a comment apart, the character before is
kept, and another equals sign behind it. -/
theorem inside_beside_kept (he : x.IgnoresPliant) {c : Context} (hc : c.Of x) (raw : List Char)
    (p : Nat) :
    ((inside x c raw)[p + 1]? = some '=' →
      (inside x c raw)[p]? = raw[p]? ∨ raw[p]? = some '/') ∧
    ((inside x c raw)[p]? = some '=' → raw[p + 1]? = some '=' →
      (inside x c raw)[p + 1]? = some '=') :=
  ⟨chars_before_kept hx hend he 1 0 (s := ⟨0, c⟩) hc fun _ => .inl rfl,
    chars_after_kept hx he 1 0 (s := ⟨0, c⟩) hc⟩

end Signs

theorem inside_shows (x : Lexicon) (c : Context) (raw : List Char) : Shows (inside x c raw) raw :=
  chars_shows x 1 0 _ raw

theorem pliant_inside {k : Nat → Nat} {line : List Char} (h : Pliant k line) (x : Lexicon)
    (c : Context) : Pliant k (inside x c line) := (inside_shows x c line).pliant h

theorem equals_of_inside {x : Lexicon} {c : Context} {raw : List Char} {i : Nat}
    (h : (inside x c raw)[i]? = some '=') : raw[i]? = some '=' :=
  (inside_shows x c raw).getElem?_of_ne (by decide) h

end CampaignCheck.Mask

import CampaignCheck.Proofs.Lexical.Outline
import CampaignCheck.Proofs.Placement.Basic

namespace CampaignCheck

/-- The frame without the mark of a loop. -/
def Frame.plain (f : Frame) : Frame := { f with isLoop := false }

namespace Blocks

/-- A structural token of a source. -/
structure Occurrence where
  line : Nat
  lexeme : Lexeme

/-- The structural tokens of masked lines, in order. -/
def occurrences (g : BlockGrammar) (ls : List Line) : List Occurrence :=
  ls.flatMap fun l => (lexemes g l.masked).map fun x => ⟨l.number, x⟩

/-- The frame that an opener opens, without the mark of a loop. -/
def Occurrence.frame (o : Occurrence) : Frame :=
  ⟨false, o.lexeme.token.family, o.lexeme.token.counted, o.line, o.lexeme.start, o.lexeme.text⟩

def Occurrence.strayCloser (o : Occurrence) : StrayCloser := ⟨o.line, o.lexeme.start, o.lexeme.text⟩

/-- The frame is one that the closer may end. -/
def fits (t : BlockToken) (f : Frame) : Bool :=
  decide (f.family = t.family) && (t.partner.map fun w => Text.upper f.token == w.toList).getD true

def pairing : Brackets Occurrence where
  opens o := decide (o.lexeme.token.action = .opens) || decide (o.lexeme.token.action = .opensLoop)
  closes o := decide (o.lexeme.token.action = .closes)
  ends c o := fits c.lexeme.token o.frame

/-- The frame that a closer ends: the one between those inside it and those outside. -/
def ended? (t : BlockToken) (stack : List Frame) : Option Frame :=
  match splitAt? t stack with
  | some (inner, _) => stack[inner.length]?
  | none => none

def closing (line : Nat) (s : State) (l : Lexeme) : List (Frame × Occurrence) :=
  if l.token.action = .closes then
    (ended? l.token s.stack).toList.map fun f => (f, ⟨line, l⟩)
  else []

def closingsIn (line : Nat) : State → List Lexeme → List (Frame × Occurrence)
  | _, [] => []
  | s, l :: ls => closing line s l ++ closingsIn line (token line s l).1 ls

def beforeTokens (g : BlockGrammar) (s : State) (l : Line) : State :=
  let s := openBodyless g s l (lexemes g l.masked)
  s.reach (depthOf s.stack).nesting

/-- The frames closed by tokens in a scan from a state on, each with its closer. -/
def closingsFrom (g : BlockGrammar) : State → List Line → List (Frame × Occurrence)
  | _, [] => []
  | s, l :: ls =>
    closingsIn l.number (beforeTokens g s l) (lexemes g l.masked) ++ closingsFrom g (line g s l) ls

/-- The frames closed by tokens in a scan, each with its closer. -/
def closings (g : BlockGrammar) (ls : List Line) : List (Frame × Occurrence) :=
  closingsFrom g initial ls

/-- The stack without loops that have no body of their own. -/
def solid (stack : List Frame) : List Frame :=
  stack.filter fun f => decide (f.family ≠ .bodyless)

theorem splitAt?_eq_none {t : BlockToken} {stack : List Frame} (h : splitAt? t stack = none) :
    ∀ f ∈ stack, fits t f = false := by
  induction stack with
  | nil => simp
  | cons f fs ih =>
    rw [splitAt?] at h
    split_ifs at h with hf
    have hfs := ih (Option.map_eq_none_iff.mp h)
    exact List.forall_mem_cons.mpr ⟨Bool.eq_false_iff.mpr hf, hfs⟩

theorem splitAt?_spec {t : BlockToken} {stack inner outer : List Frame}
    (h : splitAt? t stack = some (inner, outer)) :
    ∃ f, fits t f = true ∧ (∀ i ∈ inner, fits t i = false) ∧ stack = inner ++ f :: outer := by
  induction stack generalizing inner with
  | nil => cases h
  | cons f fs ih =>
    rw [splitAt?] at h
    split_ifs at h with hf
    · cases h
      exact ⟨f, hf, by simp, rfl⟩
    · obtain ⟨⟨a, b⟩, hab, he⟩ := Option.map_eq_some_iff.mp h
      cases he
      obtain ⟨k, hk, hinner, rfl⟩ := ih hab
      exact ⟨k, hk, List.forall_mem_cons.mpr ⟨Bool.eq_false_iff.mpr hf, hinner⟩, rfl⟩

theorem family_of_fits {t : BlockToken} {f : Frame} (h : fits t f = true) :
    f.family = t.family ∧ ∀ w ∈ t.partner, Text.upper f.token = w.toList := by
  simp only [fits, Bool.and_eq_true, decide_eq_true_eq] at h
  refine ⟨h.1, fun w hw => ?_⟩
  have hp := h.2
  rw [Option.mem_def.mp hw] at hp
  simpa using hp

/-- The state is that of a reading of the tokens, loops without a body of their own apart. -/
structure State.Follows (s : State) (r : Reading Occurrence) : Prop where
  stack : (solid s.stack).map Frame.plain = r.stack.map Occurrence.frame
  unclosed : s.map.unclosed.map Frame.plain = r.unclosed.map Occurrence.frame
  stray : s.map.stray = r.stray.map Occurrence.strayCloser

theorem token_opener (line : Nat) (s : State) {l : Lexeme}
    (h : pairing.opens ⟨line, l⟩ = true) :
    ∃ loop, (token line s l).1.stack =
        ⟨loop, l.token.family, l.token.counted, line, l.start, l.text⟩ :: s.stack ∧
      (token line s l).1.map.unclosed = s.map.unclosed ∧
      (token line s l).1.map.stray = s.map.stray := by
  simp only [pairing, Bool.or_eq_true, decide_eq_true_eq] at h
  rcases h with h | h
  · refine ⟨s.announced && l.token.takesHeader, ?_⟩
    simp only [token, h]
    split_ifs <;> exact ⟨rfl, rfl, rfl⟩
  · refine ⟨true, ?_⟩
    simp only [token, h]
    exact ⟨rfl, rfl, rfl⟩

theorem token_stray (line : Nat) (s : State) {l : Lexeme} (h : l.token.action = .closes)
    (hsplit : splitAt? l.token s.stack = none) :
    (token line s l).1.stack = s.stack ∧ (token line s l).1.map.unclosed = s.map.unclosed ∧
      (token line s l).1.map.stray = s.map.stray ++ [⟨line, l.start, l.text⟩] := by
  simp [token, h, hsplit]

theorem token_closer (line : Nat) (s : State) {l : Lexeme} (h : l.token.action = .closes)
    {inner outer : List Frame} (hsplit : splitAt? l.token s.stack = some (inner, outer)) :
    (token line s l).1.stack = outer ∧
      (token line s l).1.map.unclosed = s.map.unclosed ++ solid inner.reverse ∧
      (token line s l).1.map.stray = s.map.stray := by
  simp [token, h, hsplit, State.addUnclosed, solid]

theorem solid_append (a b : List Frame) : solid (a ++ b) = solid a ++ solid b :=
  List.filter_append ..

theorem solid_cons {f : Frame} (hf : f.family ≠ .bodyless) (fs : List Frame) :
    solid (f :: fs) = f :: solid fs :=
  List.filter_cons_of_pos (by simpa using hf)

def asClosings (ps : List (Occurrence × Occurrence)) : List (Frame × Occurrence) :=
  ps.map fun p => (p.1.frame, p.2)

def plainClosings (cs : List (Frame × Occurrence)) : List (Frame × Occurrence) :=
  cs.map fun c => (c.1.plain, c.2)

theorem asClosings_append (ps : List (Occurrence × Occurrence)) (p : Occurrence × Occurrence) :
    asClosings (ps ++ [p]) = asClosings ps ++ [(p.1.frame, p.2)] := List.map_append

theorem opener_follows {line : Nat} {l : Lexeme} (hl : l.token.family ≠ .bodyless)
    (ho : pairing.opens ⟨line, l⟩ = true) {s : State} {r : Reading Occurrence} (h : s.Follows r) :
    (token line s l).1.Follows { r with stack := ⟨line, l⟩ :: r.stack } := by
  obtain ⟨loop, hstack, hunclosed, hstray⟩ := token_opener line s ho
  refine ⟨?_, hunclosed ▸ h.unclosed, hstray.trans h.stray⟩
  rw [hstack, solid_cons (by exact hl), List.map_cons, h.stack]
  rfl

theorem fits_frame_of_mem {t : BlockToken} {fs : List Frame} {os : List Occurrence}
    (hmap : (solid fs).map Frame.plain = os.map Occurrence.frame)
    (h : ∀ f ∈ fs, fits t f = false) : ∀ o ∈ os, fits t o.frame = false := by
  intro o ho
  have hm := List.mem_map_of_mem (f := Occurrence.frame) ho
  rw [← hmap] at hm
  obtain ⟨f, hf, he⟩ := List.mem_map.mp hm
  rw [← he]
  exact h f (List.mem_of_mem_filter hf)

theorem closer_follows {line : Nat} {l : Lexeme} (hl : l.token.family ≠ .bodyless)
    (hc : l.token.action = .closes) {s : State} {r : Reading Occurrence} (h : s.Follows r) :
    (token line s l).1.Follows (pairing.read r ⟨line, l⟩) ∧
      asClosings (pairing.read r ⟨line, l⟩).pairs =
        asClosings r.pairs ++ plainClosings (closing line s l) := by
  have hopens : pairing.opens ⟨line, l⟩ = false := by simp [pairing, hc]
  have hcloses : pairing.closes ⟨line, l⟩ = true := by simp [pairing, hc]
  cases hsplit : splitAt? l.token s.stack with
  | none =>
    have hnone : ∀ o ∈ r.stack, pairing.ends ⟨line, l⟩ o = false :=
      fits_frame_of_mem h.stack (splitAt?_eq_none hsplit)
    obtain ⟨hstack, hunclosed, hstray⟩ := token_stray line s hc hsplit
    rw [Brackets.read_stray hopens hcloses hnone]
    refine ⟨⟨hstack ▸ h.stack, hunclosed ▸ h.unclosed, ?_⟩, ?_⟩
    · rw [hstray, h.stray, List.map_append]
      rfl
    · simp [closing, hc, ended?, hsplit, plainClosings]
  | some split =>
    obtain ⟨inner, outer⟩ := split
    obtain ⟨f, hf, hinner, hs⟩ := splitAt?_spec hsplit
    have hsolid : f.family ≠ .bodyless := (family_of_fits hf).1 ▸ hl
    -- The closed frame is no bodyless loop, so it is the frame of an opener that has been read.
    have hmap := h.stack
    rw [hs, solid_append, solid_cons hsolid, List.map_append, List.map_cons] at hmap
    obtain ⟨ri, rest, hr, hri, hrest⟩ := List.map_eq_append_iff.mp hmap.symm
    obtain ⟨o, ro, rfl, ho, hro⟩ := List.map_eq_cons_iff.mp hrest
    have hends : pairing.ends ⟨line, l⟩ o = true := by
      have hplain : fits l.token f.plain = true := hf
      rwa [← ho] at hplain
    have hskip : ∀ i ∈ ri, pairing.ends ⟨line, l⟩ i = false := fits_frame_of_mem hri.symm hinner
    obtain ⟨hstack, hunclosed, hstray⟩ := token_closer line s hc hsplit
    rw [Brackets.read_closer hopens hcloses hends hskip hr]
    refine ⟨⟨hstack ▸ hro.symm, ?_, hstray.trans h.stray⟩, ?_⟩
    · rw [hunclosed, List.map_append, List.map_append, h.unclosed, List.map_reverse, hri, solid,
        List.filter_reverse, List.map_reverse]
      rfl
    · have hended : ended? l.token s.stack = some f := by
        rw [ended?, hsplit]
        simp [hs]
      rw [asClosings_append, ho]
      simp [closing, hc, hended, plainClosings]

theorem token_follows {line : Nat} {l : Lexeme} (hl : l.token.family ≠ .bodyless) {s : State}
    {r : Reading Occurrence} (h : s.Follows r) :
    (token line s l).1.Follows (pairing.read r ⟨line, l⟩) ∧
      asClosings (pairing.read r ⟨line, l⟩).pairs =
        asClosings r.pairs ++ plainClosings (closing line s l) := by
  cases ha : l.token.action with
  | announcesLoop =>
    have hother : pairing.isBracket ⟨line, l⟩ = false := by
      simp [Brackets.isBracket, pairing, ha]
    rw [Brackets.read_other hother]
    refine ⟨?_, by simp [closing, ha, plainClosings]⟩
    simp only [token, ha]
    exact ⟨h.stack, h.unclosed, h.stray⟩
  | opens | opensLoop =>
    have ho : pairing.opens ⟨line, l⟩ = true := by simp [pairing, ha]
    rw [Brackets.read_opener ho]
    exact ⟨opener_follows hl ho h, by simp [closing, ha, plainClosings]⟩
  | closes => exact closer_follows hl ha h

theorem tokens_follows {line : Nat} {xs : List Lexeme}
    (hx : ∀ x ∈ xs, x.token.family ≠ .bodyless) {s : State} {r : Reading Occurrence}
    (h : s.Follows r) :
    (tokens line s xs).1.Follows ((xs.map fun x => (⟨line, x⟩ : Occurrence)).foldl pairing.read r) ∧
      asClosings ((xs.map fun x => (⟨line, x⟩ : Occurrence)).foldl pairing.read r).pairs =
        asClosings r.pairs ++ plainClosings (closingsIn line s xs) := by
  induction xs generalizing s r with
  | nil => exact ⟨h, by simp [closingsIn, plainClosings]⟩
  | cons x xs ih =>
    obtain ⟨hstep, hclosing⟩ := token_follows (hx x (by simp)) h
    obtain ⟨hrest, hclosings⟩ := ih (fun y hy => hx y (by simp [hy])) hstep
    refine ⟨hrest, ?_⟩
    rw [List.map_cons, List.foldl_cons, hclosings, hclosing, List.append_assoc, closingsIn,
      plainClosings, plainClosings, plainClosings, List.map_append]

theorem beforeTokens_follows (g : BlockGrammar) (l : Line) {s : State} {r : Reading Occurrence}
    (h : s.Follows r) : (beforeTokens g s l).Follows r := by
  unfold beforeTokens openBodyless
  simp only
  split_ifs
  -- The frame that is pushed here is no part of the solid stack.
  · exact ⟨h.stack, h.unclosed, h.stray⟩
  · exact ⟨h.stack, h.unclosed, h.stray⟩

theorem endLine_follows (g : BlockGrammar) (l : Line) {s : State} {r : Reading Occurrence}
    (h : s.Follows r) : (endLine g s l).Follows r := by
  have hdrop : (solid (solid s.stack)).map Frame.plain = r.stack.map Occurrence.frame := by
    rw [solid, solid, List.filter_filter]
    simpa [solid] using h.stack
  unfold endLine
  simp only
  split_ifs
  · exact ⟨hdrop, h.unclosed, h.stray⟩
  · exact ⟨hdrop, h.unclosed, h.stray⟩
  · exact ⟨h.stack, h.unclosed, h.stray⟩
  · exact h

theorem token_of_mem_lexemesOf {t : BlockToken} {cs : List Char} {x : Lexeme}
    (hx : x ∈ lexemesOf t cs) : x.token = t := by
  obtain ⟨m, -, rfl⟩ := List.mem_map.mp hx
  rfl

theorem token_mem_of_mem_lexemes {g : BlockGrammar} {cs : List Char} {x : Lexeme}
    (h : x ∈ lexemes g cs) : x.token ∈ g.tokens := by
  have hx := firstAtStart_subset _ (List.mem_mergeSort.mp h)
  obtain ⟨t, ht, hm⟩ := List.mem_flatMap.mp hx
  rw [token_of_mem_lexemesOf hm]
  exact ht

theorem line_follows {g : BlockGrammar} (hg : ∀ t ∈ g.tokens, t.family ≠ .bodyless) (l : Line)
    {s : State} {r : Reading Occurrence} (h : s.Follows r) :
    let xs := (lexemes g l.masked).map fun x => (⟨l.number, x⟩ : Occurrence)
    (line g s l).Follows (xs.foldl pairing.read r) ∧
      asClosings (xs.foldl pairing.read r).pairs = asClosings r.pairs ++
        plainClosings (closingsIn l.number (beforeTokens g s l) (lexemes g l.masked)) := by
  have hx : ∀ x ∈ lexemes g l.masked, x.token.family ≠ .bodyless :=
    fun x hx => hg x.token (token_mem_of_mem_lexemes hx)
  obtain ⟨htokens, hclosings⟩ := tokens_follows hx (beforeTokens_follows g l h)
  exact ⟨endLine_follows g l ⟨htokens.stack, htokens.unclosed, htokens.stray⟩, hclosings⟩

theorem lines_follows {g : BlockGrammar} (hg : ∀ t ∈ g.tokens, t.family ≠ .bodyless)
    (ls : List Line) {s : State} {r : Reading Occurrence} (h : s.Follows r) :
    (ls.foldl (line g) s).Follows ((occurrences g ls).foldl pairing.read r) ∧
      asClosings ((occurrences g ls).foldl pairing.read r).pairs =
        asClosings r.pairs ++ plainClosings (closingsFrom g s ls) := by
  induction ls generalizing s r with
  | nil => exact ⟨h, by simp [occurrences, closingsFrom, plainClosings]⟩
  | cons l ls ih =>
    obtain ⟨hline, hclosing⟩ := line_follows hg l h
    obtain ⟨hrest, hclosings⟩ := ih hline
    simp only [occurrences, List.flatMap_cons, List.foldl_append, List.foldl_cons] at *
    refine ⟨hrest, ?_⟩
    rw [hclosings, hclosing, List.append_assoc, closingsFrom, plainClosings, plainClosings,
      plainClosings, List.map_append]

/-- A scan follows the reading of all tokens to the end. -/
theorem scan_follows {g : BlockGrammar} (hg : ∀ t ∈ g.tokens, t.family ≠ .bodyless)
    (ls : List Line) :
    (scan g ls).unclosed.map Frame.plain =
        ((pairing.readAll (occurrences g ls)).unclosed ++
          (pairing.readAll (occurrences g ls)).stack.reverse).map Occurrence.frame ∧
      (scan g ls).stray =
        (pairing.readAll (occurrences g ls)).stray.map Occurrence.strayCloser ∧
      plainClosings (closings g ls) = asClosings (pairing.readAll (occurrences g ls)).pairs := by
  have hinitial : initial.Follows ⟨[], [], [], []⟩ := ⟨rfl, rfl, rfl⟩
  obtain ⟨h, hclosings⟩ := lines_follows hg ls hinitial
  refine ⟨?_, h.stray, hclosings.symm⟩
  have hstack := h.stack
  simp only [scan, State.addUnclosed, List.map_append, List.filter_reverse, List.map_reverse,
    h.unclosed]
  rw [solid] at hstack
  rw [hstack]
  rfl

theorem of_ne_bodyless (d : Dialect) : ∀ t ∈ (BlockGrammar.of d).tokens, t.family ≠ .bodyless := by
  cases d <;> simp [BlockGrammar.of, BlockGrammar.script, BlockGrammar.css, BlockGrammar.ampscript,
    BlockGrammar.sql, BlockGrammar.announce, BlockGrammar.opener, BlockGrammar.closer]

theorem family_of_mem_occurrences {d : Dialect} {ls : List Line} {o : Occurrence}
    (ho : o ∈ occurrences (.of d) ls) : o.frame.family ≠ .bodyless := by
  obtain ⟨l, -, hm⟩ := List.mem_flatMap.mp ho
  obtain ⟨x, hx, rfl⟩ := List.mem_map.mp hm
  exact of_ne_bodyless d x.token (token_mem_of_mem_lexemes hx)

theorem filter_closes (w : List Occurrence) :
    (w.filter fun o => !pairing.opens o && pairing.closes o) = w.filter pairing.closes := by
  refine List.filter_congr fun o _ => ?_
  cases ha : o.lexeme.token.action <;> simp [pairing, ha]

theorem mem_word_of_opener {f : Outline Occurrence} (hf : f.Fits pairing) {o : Occurrence}
    (ho : o ∈ f.pairs.map (·.1) ++ f.unclosedOnes) : o ∈ f.word :=
  List.mem_of_mem_filter ((Outline.openers_perm hf).mem_iff.mpr ho)

theorem ends_of_mem_pairs {f : Outline Occurrence} (hf : f.Fits pairing)
    {p : Occurrence × Occurrence} (hp : p ∈ f.pairs) : pairing.ends p.2 p.1 = true := by
  induction f with
  | empty => cases hp
  | other f x ih | unclosed f x ih | stray f x ih => exact ih hf.1 hp
  | block f o i c ihf ihi =>
    obtain ⟨hf, hi, -, -, -, he⟩ := hf
    simp only [Outline.pairs, List.mem_append, List.mem_singleton] at hp
    rcases hp with (hp | hp) | rfl
    · exact ihf hf hp
    · exact ihi hi hp
    · exact he

/-- Blocks lose and invent nothing. The tokens of a source have an outline: its pairs are the frames
that closers end in the scan, of the same family and with the word that the closer asks for; its
other openers are the unclosed frames and its other closers the stray ones. Every opener and every
closer stands in one of these places, once. Pairs never cross, and no loop without a body of its own
is closed by a token or reported. -/
theorem blocks_conserved (d : Dialect) (ls : List Line) :
    let w := occurrences (.of d) ls
    let m := BlockMap.of d ls
    ∃ f : Outline Occurrence, f.word = w ∧
      ((closings (.of d) ls).map fun c => (c.1.plain, c.2)) =
        (f.pairs.map fun p => (p.1.frame, p.2)) ∧
      (m.unclosed.map Frame.plain).Perm (f.unclosedOnes.map Occurrence.frame) ∧
      m.stray = f.strayOnes.map Occurrence.strayCloser ∧
      (w.filter pairing.opens).Perm (f.pairs.map (·.1) ++ f.unclosedOnes) ∧
      (w.filter pairing.closes).Perm (f.pairs.map (·.2) ++ f.strayOnes) ∧
      (∀ p ∈ f.pairs, p.1.lexeme.token.family = p.2.lexeme.token.family ∧
        ∀ word ∈ p.2.lexeme.token.partner, Text.upper p.1.lexeme.text = word.toList) ∧
      (∃ spans : List (Nat × Nat),
        List.Forall₂ (fun p s => w[s.1]? = some p.1 ∧ w[s.2]? = some p.2) f.pairs spans ∧
        (∀ s ∈ spans, s.1 < s.2) ∧
        spans.Pairwise fun s t => s.2 < t.1 ∨ t.1 < s.1 ∧ s.2 < t.2) ∧
      (∀ u ∈ m.unclosed, u.family ≠ .bodyless) ∧
      (∀ c ∈ closings (.of d) ls, c.1.family ≠ .bodyless) ∧
      (w.countP pairing.opens : Int) - w.countP pairing.closes =
        m.unclosed.length - m.stray.length := by
  intro w m
  obtain ⟨f, hf⟩ := Outline.exists_of_readAll pairing w
  obtain ⟨hunclosed, hstray, hclosings⟩ := scan_follows (of_ne_bodyless d) ls
  have hleft : (m.unclosed.map Frame.plain).Perm (f.unclosedOnes.map Occurrence.frame) := by
    have hperm := (hf.unclosed.trans ((List.reverse_perm _).symm.append_left _)).symm
    exact hunclosed ▸ hperm.map _
  have hopeners := Outline.openers_perm hf.fits
  have hclosers := Outline.closers_perm hf.fits
  rw [filter_closes] at hclosers
  rw [hf.word] at hopeners hclosers
  have hpairs : ((closings (.of d) ls).map fun c => (c.1.plain, c.2)) =
      f.pairs.map fun p => (p.1.frame, p.2) := by
    rw [hf.pairs]
    exact hclosings
  have hstrays : m.stray = f.strayOnes.map Occurrence.strayCloser := by
    rw [hf.stray]
    exact hstray
  have hsolid {o : Occurrence} (ho : o ∈ f.pairs.map (·.1) ++ f.unclosedOnes) :
      o.frame.family ≠ .bodyless := by
    have hm := mem_word_of_opener hf.fits ho
    rw [hf.word] at hm
    exact family_of_mem_occurrences hm
  refine ⟨f, hf.word, hpairs, hleft, hstrays, hopeners, hclosers, ?_, ?_, ?_, ?_, ?_⟩
  · intro p hp
    exact family_of_fits (ends_of_mem_pairs hf.fits hp)
  · rw [← hf.word]
    exact ⟨f.spans, f.spans_standsAt, fun s hs => (Outline.lt_of_mem_spans hs).1, f.spans_apart⟩
  · intro u hu
    obtain ⟨o, ho, he⟩ := List.mem_map.mp (hleft.mem_iff.mp (List.mem_map_of_mem hu))
    have hfamily := hsolid (List.mem_append_right _ ho)
    rw [he] at hfamily
    exact hfamily
  · intro c hc
    have hm := List.mem_map_of_mem (f := fun c : Frame × Occurrence => (c.1.plain, c.2)) hc
    rw [hpairs] at hm
    obtain ⟨p, hp, he⟩ := List.mem_map.mp hm
    have hfamily := hsolid (List.mem_append_left _ (List.mem_map_of_mem hp))
    have hframe : p.1.frame = c.1.plain := congrArg Prod.fst he
    rw [hframe] at hfamily
    exact hfamily
  · have hu := hleft.length_eq
    have ho := hopeners.length_eq
    have hc := hclosers.length_eq
    simp only [List.length_map, List.length_append] at hu ho hc
    rw [List.countP_eq_length_filter, List.countP_eq_length_filter, ho, hc, hu, hstrays,
      List.length_map]
    omega

end Blocks

end CampaignCheck

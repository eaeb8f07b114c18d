import CampaignCheck.Proofs.Lexical.BlockPairs
import Mathlib

/-!
Levels agree. Every loop counts as nesting, so no place lies in more loops than levels; and the
greatest level is one that some line has at its start or behind a token. The greatest level is noted
at two places only, once a line starts and once a frame opens: that this is enough is part of the
invariant.
-/

namespace CampaignCheck

/-- The depths of a line: at its start and behind its tokens. -/
def LineDepths.depths (l : LineDepths) : List Depth := l.start :: l.events.map (·.2)

/-- The line has the level at its start or behind a token. A level that begins and ends at one
column is reached, though no column shows it. -/
def LineDepths.Reaches (l : LineDepths) (n : Nat) : Prop := ∃ d ∈ l.depths, d.nesting = n

namespace BlockMap

/-- The depths that are noted, in the order of the source. -/
def depths (m : BlockMap) : List Depth := m.lines.flatMap LineDepths.depths

theorem depthFrom_mem (column : Nat) (d : Depth) (events : List (Nat × Depth)) :
    depthFrom column d events ∈ d :: events.map (·.2) := by
  induction events generalizing d with
  | nil => exact List.mem_singleton_self d
  | cons e events ih =>
    rw [depthFrom]
    split_ifs
    · exact List.mem_cons_of_mem d (ih e.2)
    · exact List.mem_cons_self

/-- A depth that is asked for is one of those noted, or there is nothing around. -/
theorem depthAnywhere_mem (m : BlockMap) (line column : Int) :
    m.depthAnywhere line column = ⟨0, 0⟩ ∨ m.depthAnywhere line column ∈ m.depths := by
  unfold depthAnywhere
  split
  · rename_i l hfind
    right
    have hl : l ∈ m.lines := List.mem_reverse.mp (List.mem_of_find?_eq_some hfind)
    refine List.mem_flatMap.mpr ⟨l, hl, ?_⟩
    split_ifs
    · exact List.mem_cons_self
    · exact depthFrom_mem column.toNat l.start l.events
  · exact .inl rfl

theorem depthAnywhere_cast (m : BlockMap) (line column : Nat) :
    m.depthAnywhere line column = m.depthAt line column := by
  have hnumber (l : LineDepths) : ((l.number : Int) == line) = (l.number == line) := by
    rw [Bool.eq_iff_iff, beq_iff_eq, beq_iff_eq, Int.ofNat_inj]
  unfold depthAnywhere depthAt
  simp only [hnumber, Int.toNat_natCast, if_neg (Int.not_lt.mpr (Int.natCast_nonneg column))]

theorem reaches_iff (l : LineDepths) (n : Nat) :
    ((l.start.nesting :: l.events.map (·.2.nesting)).any (· == n)) = true ↔ l.Reaches n := by
  have hlevels : l.start.nesting :: l.events.map (·.2.nesting) = l.depths.map (·.nesting) := by
    rw [LineDepths.depths, List.map_cons, List.map_map]
    rfl
  rw [hlevels, List.any_map, List.any_eq_true]
  exact exists_congr fun d => and_congr_right fun _ => beq_iff_eq

/-- The greatest level is that of some depth noted, unless there are no levels. -/
def Attained (m : BlockMap) : Prop := m.maxNesting = 0 ∨ ∃ d ∈ m.depths, d.nesting = m.maxNesting

theorem Attained.reached {m : BlockMap} (h : m.Attained) (hpos : 0 < m.maxNesting) :
    ∃ l ∈ m.lines, l.Reaches m.maxNesting := by
  rcases h with h | ⟨d, hd, hn⟩
  · exact absurd h hpos.ne'
  · obtain ⟨l, hl, hm⟩ := List.mem_flatMap.mp hd
    exact ⟨l, hl, d, hm, hn⟩

theorem deepestLine?_eq_none {m : BlockMap} (h : m.Attained) :
    m.deepestLine? = none ↔ m.maxNesting = 0 := by
  unfold deepestLine?
  split_ifs with hzero
  · simp [hzero]
  · obtain ⟨l, hl, hreaches⟩ := h.reached (Nat.pos_of_ne_zero hzero)
    simp only [Option.map_eq_none_iff, List.find?_eq_none, hzero, iff_false]
    intro hnone
    exact hnone l hl ((reaches_iff l _).mpr hreaches)

/-- The deepest line is the first that reaches the greatest level. -/
theorem deepestLine?_eq_some {m : BlockMap} (hsorted : (m.lines.map (·.number)).Pairwise (· < ·))
    (k : Nat) :
    m.deepestLine? = some k ↔ 0 < m.maxNesting ∧
      (∃ l ∈ m.lines, l.number = k ∧ l.Reaches m.maxNesting) ∧
      ∀ l ∈ m.lines, l.number < k → ¬ l.Reaches m.maxNesting := by
  rw [List.pairwise_map] at hsorted
  unfold deepestLine?
  split_ifs with hzero
  · simp [hzero]
  simp only [Option.map_eq_some_iff, List.find?_eq_some_iff_append, reaches_iff,
    Nat.pos_of_ne_zero hzero, true_and]
  constructor
  · rintro ⟨l, ⟨hreaches, front, back, hlines, hfront⟩, rfl⟩
    refine ⟨⟨l, by simp [hlines], rfl, hreaches⟩, fun o ho hlt hreached => ?_⟩
    rw [hlines, List.pairwise_append, List.pairwise_cons] at hsorted
    rw [hlines, List.mem_append, List.mem_cons] at ho
    rcases ho with ho | rfl | ho
    · exact absurd ((reaches_iff o _).mpr hreached) (by simpa using hfront o ho)
    · exact absurd hlt (Nat.lt_irrefl _)
    · exact absurd (hsorted.2.1.1 o ho) (Nat.lt_asymm hlt)
  · rintro ⟨⟨l, hl, rfl, hreaches⟩, hbefore⟩
    obtain ⟨front, back, hlines⟩ := List.append_of_mem hl
    refine ⟨l, ⟨hreaches, front, back, hlines, fun o ho => ?_⟩, rfl⟩
    rw [hlines, List.pairwise_append] at hsorted
    have hlt : o.number < l.number := hsorted.2.2 o ho l List.mem_cons_self
    have hnot := hbefore o (by simp [hlines, ho]) hlt
    rw [Bool.not_eq_eq_eq_not, Bool.not_true, ← Bool.not_eq_true, reaches_iff]
    exact hnot

end BlockMap

namespace Blocks

theorem depthOf_loops_le {stack : List Frame}
    (h : ∀ f ∈ stack, f.isLoop = true → f.counted = true) :
    (depthOf stack).loops ≤ (depthOf stack).nesting := List.countP_mono_left h

theorem depthOf_nesting_le {inner outer : List Frame} (h : inner.Sublist outer) :
    (depthOf inner).nesting ≤ (depthOf outer).nesting := h.countP_le

/-- The depths noted so far are consistent with what is open and with the greatest level. -/
structure State.Levels (s : State) (ds : List Depth) : Prop where
  counted : ∀ f ∈ s.stack, f.isLoop = true → f.counted = true
  /-- What is open is never deeper than the greatest level: nothing is missed between two notes. -/
  here : (depthOf s.stack).nesting ≤ s.map.maxNesting
  within : ∀ d ∈ ds, d.loops ≤ d.nesting ∧ d.nesting ≤ s.map.maxNesting
  attained : s.map.maxNesting = 0 ∨ ∃ d ∈ ds, d.nesting = s.map.maxNesting
  sites : ∀ site ∈ s.map.loops, 1 ≤ site.depth ∧ site.depth ≤ s.map.maxNesting

def siteOf (f : Frame) (stack : List Frame) : List LoopSite :=
  if f.isLoop then [⟨f.line, f.column, (depthOf (f :: stack)).loops⟩] else []

/-- Closing frames keeps the levels. -/
theorem State.Levels.shrink {s t : State} {ds : List Depth} (h : s.Levels ds)
    (hstack : t.stack.Sublist s.stack) (hmax : t.map.maxNesting = s.map.maxNesting)
    (hloops : t.map.loops = s.map.loops) : t.Levels ds where
  counted f hf := h.counted f (hstack.mem hf)
  here := hmax ▸ (depthOf_nesting_le hstack).trans h.here
  within := hmax ▸ h.within
  attained := hmax ▸ h.attained
  sites := by rw [hmax, hloops]; exact h.sites

/-- So does noting the depth of what is open. -/
theorem State.Levels.note {s : State} {ds : List Depth} (h : s.Levels ds) :
    s.Levels (ds ++ [depthOf s.stack]) where
  counted := h.counted
  here := h.here
  within := by
    intro d hd
    rcases List.mem_append.mp hd with hd | hd
    · exact h.within d hd
    · obtain rfl := List.mem_singleton.mp hd
      exact ⟨depthOf_loops_le h.counted, h.here⟩
  attained := h.attained.imp_right fun ⟨d, hd, hn⟩ => ⟨d, List.mem_append_left _ hd, hn⟩
  sites := h.sites

/-- A frame opens, and the depth inside is noted. -/
theorem State.Levels.push {s t : State} {ds : List Depth} (h : s.Levels ds) {f : Frame}
    (hf : f.isLoop = true → f.counted = true) (hstack : t.stack = f :: s.stack)
    (hmax : t.map.maxNesting = max s.map.maxNesting (depthOf (f :: s.stack)).nesting)
    (hloops : t.map.loops = s.map.loops ++ siteOf f s.stack) :
    t.Levels (ds ++ [depthOf (f :: s.stack)]) := by
  have hcounted : ∀ x ∈ f :: s.stack, x.isLoop = true → x.counted = true :=
    List.forall_mem_cons.mpr ⟨hf, h.counted⟩
  have hle := depthOf_loops_le hcounted
  have hold : s.map.maxNesting ≤ t.map.maxNesting := hmax ▸ Nat.le_max_left ..
  have hnew : (depthOf (f :: s.stack)).nesting ≤ t.map.maxNesting := hmax ▸ Nat.le_max_right ..
  refine ⟨hstack ▸ hcounted, hstack ▸ hnew, ?_, ?_, ?_⟩
  · intro d hd
    rcases List.mem_append.mp hd with hd | hd
    · exact ⟨(h.within d hd).1, (h.within d hd).2.trans hold⟩
    · obtain rfl := List.mem_singleton.mp hd
      exact ⟨hle, hnew⟩
  · rcases le_total s.map.maxNesting (depthOf (f :: s.stack)).nesting with hlt | hlt
    · exact .inr ⟨_, List.mem_append_right _ (List.mem_singleton_self _),
        (hmax.trans (Nat.max_eq_right hlt)).symm⟩
    · rw [hmax, Nat.max_eq_left hlt]
      exact h.attained.imp_right fun ⟨d, hd, hn⟩ => ⟨d, List.mem_append_left _ hd, hn⟩
  · intro site hsite
    rw [hloops] at hsite
    rcases List.mem_append.mp hsite with hsite | hsite
    · exact ⟨(h.sites site hsite).1, (h.sites site hsite).2.trans hold⟩
    · rw [siteOf] at hsite
      split_ifs at hsite with hloop
      · obtain rfl := List.mem_singleton.mp hsite
        have hone : 1 ≤ (depthOf (f :: s.stack)).loops :=
          List.countP_pos_iff.mpr ⟨f, List.mem_cons_self, hloop⟩
        exact ⟨hone, hle.trans hnew⟩
      · cases hsite

def Counts (t : BlockToken) : Prop :=
  t.action = .opensLoop ∨ t.takesHeader = true → t.counted = true

/-- One token keeps the levels; the depth behind it is noted if it changes. -/
theorem token_levels {line : Nat} {x : Lexeme} (hx : Counts x.token) {s : State} {ds : List Depth}
    (h : s.Levels ds) :
    (token line s x).1.Levels (ds ++ (token line s x).2.toList.map (·.2)) := by
  cases ha : x.token.action with
  | announcesLoop =>
    simp only [token, ha, Option.toList_none, List.map_nil, List.append_nil]
    exact h.shrink (.refl _) rfl rfl
  | opens =>
    -- The frame is a loop only if the token takes the header of one.
    have hloop : (s.announced && x.token.takesHeader) = true → x.token.counted = true :=
      fun hl => hx (.inr (Bool.and_eq_true _ _ ▸ hl).2)
    simp only [token, ha, Option.toList_some, List.map_cons, List.map_nil]
    split_ifs with hl
    · exact h.push (by exact hloop) (by rw [hl]; rfl) (by rw [hl]; rfl)
        (by simp [siteOf, hl, State.reach, State.addLoop])
    · exact h.push (by exact hloop) rfl rfl (by simp [siteOf, hl, State.reach])
  | opensLoop =>
    simp only [token, ha, Option.toList_some, List.map_cons, List.map_nil]
    exact h.push (fun _ => hx (.inl ha)) rfl rfl rfl
  | closes =>
    cases hsplit : splitAt? x.token s.stack with
    | none =>
      simp only [token, ha, hsplit, Option.toList_none, List.map_nil, List.append_nil]
      exact h.shrink (.refl _) rfl rfl
    | some split =>
      obtain ⟨inner, outer⟩ := split
      obtain ⟨f, -, -, hs⟩ := splitAt?_spec hsplit
      have hsub : outer.Sublist s.stack := hs ▸ (List.sublist_cons_self f outer).trans
        (List.sublist_append_right inner (f :: outer))
      have hclosed : (token line s x).1.Levels ds := by
        refine h.shrink ?_ ?_ ?_
        · rw [(token_closer line s ha hsplit).1]
          exact hsub
        · simp [token, ha, hsplit, State.addUnclosed]
        · simp [token, ha, hsplit, State.addUnclosed]
      have hnoted := hclosed.note
      rw [(token_closer line s ha hsplit).1] at hnoted
      simpa [token, ha, hsplit] using hnoted

theorem tokens_levels {line : Nat} {xs : List Lexeme} (hxs : ∀ x ∈ xs, Counts x.token) {s : State}
    {ds : List Depth} (h : s.Levels ds) :
    (tokens line s xs).1.Levels (ds ++ (tokens line s xs).2.map (·.2)) := by
  induction xs generalizing s ds with
  | nil => simpa [tokens] using h
  | cons x xs ih =>
    have hstep : (token line s x).1.Levels (ds ++ (token line s x).2.toList.map (·.2)) :=
      token_levels (hxs x List.mem_cons_self) h
    have hrest := ih (fun y hy => hxs y (List.mem_cons_of_mem x hy)) hstep
    simpa [tokens, List.append_assoc] using hrest

/-- A loop without a body of its own opens before the depth at the start of the line is noted. -/
theorem beforeTokens_levels (g : BlockGrammar) (l : Line) {s : State} {ds : List Depth}
    (h : s.Levels ds) :
    (beforeTokens g s l).Levels (ds ++ [depthOf (beforeTokens g s l).stack]) := by
  unfold beforeTokens openBodyless
  simp only
  split_ifs with hopens
  · exact h.push (f := ⟨true, .bodyless, true, l.number, 0, []⟩) (fun _ => rfl) rfl rfl rfl
  · exact h.note.shrink (.refl _) (Nat.max_eq_left h.here) rfl

theorem endLine_levels (g : BlockGrammar) (l : Line) {s : State} {ds : List Depth}
    (h : s.Levels ds) : (endLine g s l).Levels ds := by
  unfold endLine
  simp only
  split_ifs
  · exact h.shrink List.filter_sublist rfl rfl
  · exact h.shrink List.filter_sublist rfl rfl
  · exact h.shrink (.refl _) rfl rfl
  · exact h

theorem token_lines (line : Nat) (s : State) (x : Lexeme) :
    (token line s x).1.map.lines = s.map.lines := by
  simp only [token]
  split
  · rfl
  · split_ifs <;> rfl
  · rfl
  · split <;> rfl

theorem tokens_lines (line : Nat) (s : State) (xs : List Lexeme) :
    (tokens line s xs).1.map.lines = s.map.lines := by
  induction xs generalizing s with
  | nil => rfl
  | cons x xs ih => exact (ih _).trans (token_lines line s x)

theorem beforeTokens_lines (g : BlockGrammar) (s : State) (l : Line) :
    (beforeTokens g s l).map.lines = s.map.lines := by
  unfold beforeTokens openBodyless
  simp only
  split_ifs <;> rfl

theorem endLine_lines (g : BlockGrammar) (s : State) (l : Line) :
    (endLine g s l).map.lines = s.map.lines := by
  unfold endLine
  simp only
  split_ifs <;> rfl

/-- What a line adds to the map: its depth at the start, and those behind its tokens. -/
theorem line_lines (g : BlockGrammar) (s : State) (l : Line) :
    (line g s l).map.lines = s.map.lines ++ [⟨l.number, depthOf (beforeTokens g s l).stack,
      (tokens l.number (beforeTokens g s l) (lexemes g l.masked)).2⟩] := by
  have htokens := tokens_lines l.number (beforeTokens g s l) (lexemes g l.masked)
  rw [beforeTokens_lines] at htokens
  unfold line
  simp only
  rw [endLine_lines]
  exact congrArg (· ++ _) htokens

theorem line_levels {g : BlockGrammar} (hg : ∀ t ∈ g.tokens, Counts t) (l : Line) {s : State}
    (h : s.Levels s.map.depths) : (line g s l).Levels (line g s l).map.depths := by
  have hx : ∀ x ∈ lexemes g l.masked, Counts x.token :=
    fun x hx => hg x.token (token_mem_of_mem_lexemes hx)
  have hdepths : (line g s l).map.depths = s.map.depths ++ [depthOf (beforeTokens g s l).stack] ++
      (tokens l.number (beforeTokens g s l) (lexemes g l.masked)).2.map (·.2) := by
    simp [BlockMap.depths, line_lines, LineDepths.depths]
  rw [hdepths]
  have htokens : (tokens l.number (beforeTokens g s l) (lexemes g l.masked)).1.Levels _ :=
    tokens_levels hx (beforeTokens_levels g l h)
  exact endLine_levels g l (htokens.shrink (.refl _) rfl rfl)

theorem lines_levels {g : BlockGrammar} (hg : ∀ t ∈ g.tokens, Counts t) (ls : List Line) {s : State}
    (h : s.Levels s.map.depths) :
    (ls.foldl (line g) s).Levels (ls.foldl (line g) s).map.depths := by
  induction ls generalizing s with
  | nil => exact h
  | cons l ls ih => exact ih (line_levels hg l h)

theorem lines_numbers (g : BlockGrammar) (ls : List Line) (s : State) :
    (ls.foldl (line g) s).map.lines.map (·.number) =
      s.map.lines.map (·.number) ++ ls.map (·.number) := by
  induction ls generalizing s with
  | nil => simp
  | cons l ls ih =>
    rw [List.foldl_cons, ih, line_lines]
    simp

/-- In every dialect the tokens that open loops count as nesting. -/
theorem of_counts (d : Dialect) : ∀ t ∈ (BlockGrammar.of d).tokens, Counts t := by
  cases d <;> simp [Counts, BlockGrammar.of, BlockGrammar.script, BlockGrammar.css,
    BlockGrammar.ampscript, BlockGrammar.sql, BlockGrammar.announce, BlockGrammar.opener,
    BlockGrammar.closer]

theorem initial_levels : initial.Levels initial.map.depths where
  counted := by simp [initial]
  here := Nat.le_refl 0
  within := by simp [initial, BlockMap.depths]
  attained := .inl rfl
  sites := by simp [initial]

/-- Levels agree. At every place, inside the source or not, there are at most as many loops as
levels, and at most as many levels as the greatest one; every loop lies in at least one loop, which
is itself, and no deeper than the greatest level. A greatest level above none is one that some line
reaches, at its start or behind a token, and the deepest line is the first that does. -/
theorem levels_consistent (d : Dialect) {ls : List Line}
    (hls : ls.map (·.number) = List.range' 1 ls.length) :
    let m := BlockMap.of d ls
    m.lines.map (·.number) = List.range' 1 ls.length ∧
    (∀ line column : Int,
      0 ≤ (m.depthAnywhere line column).loops ∧
      (m.depthAnywhere line column).loops ≤ (m.depthAnywhere line column).nesting ∧
      (m.depthAnywhere line column).nesting ≤ m.maxNesting) ∧
    (∀ line column : Nat,
      (m.depthAnywhere line column).nesting = m.nestingAt line column ∧
      (m.depthAnywhere line column).loops = m.loopsAt line column) ∧
    (∀ site ∈ m.loops, 1 ≤ site.depth ∧ site.depth ≤ m.maxNesting) ∧
    (0 < m.maxNesting → ∃ l ∈ m.lines, l.Reaches m.maxNesting) ∧
    (m.deepestLine? = none ↔ m.maxNesting = 0) ∧
    ∀ k, m.deepestLine? = some k ↔ 0 < m.maxNesting ∧
      (∃ l ∈ m.lines, l.number = k ∧ l.Reaches m.maxNesting) ∧
      ∀ l ∈ m.lines, l.number < k → ¬ l.Reaches m.maxNesting := by
  intro m
  -- Frames that stay open to the end are reported, which changes neither lines nor levels.
  have hlevels : (ls.foldl (line (.of d)) initial).Levels m.depths :=
    lines_levels (of_counts d) ls initial_levels
  have hnumbers : m.lines.map (·.number) = List.range' 1 ls.length :=
    (lines_numbers (.of d) ls initial).trans hls
  have hsorted : (m.lines.map (·.number)).Pairwise (· < ·) :=
    hnumbers ▸ List.pairwise_lt_range'
  have hattained : m.Attained := hlevels.attained
  refine ⟨hnumbers, fun line column => ⟨Nat.zero_le _, ?_⟩, fun line column => ?_, hlevels.sites,
    hattained.reached, BlockMap.deepestLine?_eq_none hattained,
    BlockMap.deepestLine?_eq_some hsorted⟩
  · rcases m.depthAnywhere_mem line column with hnone | hmem
    · rw [hnone]
      exact ⟨Nat.le_refl 0, Nat.zero_le _⟩
    · exact hlevels.within _ hmem
  · rw [m.depthAnywhere_cast]
    exact ⟨rfl, rfl⟩

/-- A block in a loop, and in it a loop without a body of its own: three levels, with the deepest on
the second line, where nothing opens that is written. -/
theorem levels_consistent_loops :
    let d := Dialect.javascript
    let ls : List Line := [
      ⟨1, "for (;;) \x7b \x7b do".toList, "for (;;) \x7b \x7b do".toList⟩,
      ⟨2, "f();".toList, "f();".toList⟩]
    let m := BlockMap.of d ls
    ls.map (·.number) = List.range' 1 ls.length ∧
      m.maxNesting = 3 ∧ m.loops = [⟨1, 9, 1⟩, ⟨2, 0, 2⟩] ∧ m.deepestLine? = some 2 ∧
      ∀ line column : Int, (m.depthAnywhere line column).nesting ≤ 3 := by
  intro d ls m
  have hls : ls.map (·.number) = List.range' 1 ls.length := by decide
  have hm : BlockMap.of d ls = ⟨[⟨1, ⟨0, 0⟩, [(10, ⟨1, 1⟩), (12, ⟨2, 1⟩)]⟩, ⟨2, ⟨3, 2⟩, []⟩], 3,
      [⟨1, 9, 1⟩, ⟨2, 0, 2⟩],
      [⟨true, .brace, true, 1, 9, ['{']⟩, ⟨false, .brace, true, 1, 11, ['{']⟩], []⟩ := by cbv
  have hmax : m.maxNesting = 3 := congrArg (·.maxNesting) hm
  obtain ⟨-, hplaces, -⟩ := levels_consistent d hls
  refine ⟨hls, hmax, congrArg (·.loops) hm, congrArg (·.deepestLine?) hm, fun line column => ?_⟩
  exact hmax ▸ (hplaces line column).2.2

end Blocks

end CampaignCheck

import CampaignCheck.Metrics.Measure
import CampaignCheck.Proofs.Lexical.Nesting
import CampaignCheck.Proofs.Lexical.Views
import CampaignCheck.Proofs.Text.Letters
import CampaignCheck.Proofs.Text.Positions

namespace CampaignCheck

namespace Text

theorem allBlank_of_mem_lines {cs line : List Char} (h : allBlank cs = true)
    (hline : line ∈ lines cs) : allBlank line = true := by
  obtain ⟨piece, hpiece, rfl⟩ := List.mem_map.mp hline
  have hpart : piece <:+: cs := by
    have hinfix := infix_unlines hpiece
    rwa [unlines_cut] at hinfix
  refine List.all_eq_true.mpr fun c hc => List.all_eq_true.mp h c ?_
  exact hpart.subset ((dropEndWhile_initial _ _).subset hc)

/-- A view of blank lines is blank. -/
theorem allBlank_of_shows {views sources : List (List Char)} (h : List.Forall₂ Shows views sources)
    (hblank : ∀ l ∈ sources, allBlank l = true) : ∀ l ∈ views, allBlank l = true := by
  induction h with
  | nil => simp
  | @cons view source views sources hd _ ih =>
    obtain ⟨hfirst, hrest⟩ := List.forall_mem_cons.mp hblank
    refine List.forall_mem_cons.mpr ⟨List.all_eq_true.mpr fun c hc => ?_, ih hrest⟩
    rcases hd.mem hc with hmem | rfl
    · exact List.all_eq_true.mp hfirst c hmem
    · rfl

end Text

namespace Blocks

open Text Pattern

/-- The set has a single character that shows, or the forms of a letter. -/
def isVisible : CharSet → Bool
  | .char c => !isBlank c
  | .anyCase c => c.isAlpha
  | _ => false

theorem not_blank_of_isVisible {set : CharSet} (hset : isVisible set = true) {c : Char}
    (hc : set.mem c = true) : isBlank c = false := by
  cases set with
  | char a =>
    obtain rfl : a = c := by simpa [CharSet.mem] using hc
    simpa [isVisible] using hset
  | anyCase a =>
    by_contra hblank
    have hword := isWord_of_sameLetter hset hc
    rw [isWord_of_isBlank (Bool.not_eq_false _ ▸ hblank)] at hword
    cases hword
  | _ => cases hset

theorem headSet?_isVisible (d : Dialect) :
    ∀ t ∈ (BlockGrammar.of d).tokens, ∃ set, t.pattern.headSet? = some set ∧ isVisible set := by
  have hall : ((BlockGrammar.of d).tokens.all fun t =>
      t.pattern.headSet?.any isVisible) = true := by
    cases d <;> decide
  intro t ht
  exact (Option.any_eq_true _ _).mp (List.all_eq_true.mp hall t ht)

theorem lexemes_of_blank (d : Dialect) {cs : List Char} (h : allBlank cs = true) :
    lexemes (.of d) cs = [] := by
  have hnone : (BlockGrammar.of d).tokens.flatMap (fun t => lexemesOf t cs) = [] := by
    rw [List.flatMap_eq_nil_iff]
    intro t ht
    obtain ⟨set, hset, hvisible⟩ := headSet?_isVisible d t ht
    rw [lexemesOf, List.map_eq_nil_iff, List.eq_nil_iff_forall_not_mem]
    intro m hm
    obtain ⟨c, hc, hmem⟩ := (finds_of_mem_findAll hm).head hset
    have hblank : isBlank c = true := List.all_eq_true.mp h c (List.mem_of_getElem? hc)
    rw [not_blank_of_isVisible hvisible hmem] at hblank
    cases hblank
  rw [lexemes, hnone, firstAtStart, List.mergeSort_nil]

/-- Nothing has been opened, announced or noted. -/
structure State.Idle (s : State) : Prop where
  stack : s.stack = []
  announced : s.announced = false
  loops : s.map.loops = []
  level : s.map.maxNesting = 0

theorem line_idle (d : Dialect) {s : State} (h : s.Idle) {l : Line} (hl : l.isBlank = true) :
    (line (.of d) s l).Idle := by
  have hlexemes : lexemes (.of d) l.masked = [] := lexemes_of_blank d hl
  have hopen : openBodyless (.of d) s l [] = s := by simp [openBodyless, h.announced]
  constructor <;>
    simp [line, hlexemes, hopen, tokens, endLine, State.reach, depthOf, h.stack, h.announced,
      h.loops, h.level, hl]

theorem lines_idle (d : Dialect) {s : State} (h : s.Idle) {ls : List Line}
    (hls : ∀ l ∈ ls, l.isBlank = true) : (ls.foldl (line (.of d)) s).Idle := by
  induction ls generalizing s with
  | nil => exact h
  | cons l ls ih =>
    obtain ⟨hl, hrest⟩ := List.forall_mem_cons.mp hls
    exact ih (line_idle d h hl) hrest

theorem initial_idle : initial.Idle := ⟨rfl, rfl, rfl, rfl⟩

end Blocks

theorem BlockMap.of_levels (d : Dialect) (ls : List Line) :
    (ls.foldl (Blocks.line (.of d)) Blocks.initial).Levels (BlockMap.of d ls).depths :=
  Blocks.lines_levels (Blocks.of_counts d) ls Blocks.initial_levels

theorem BlockMap.nestingAt_le (d : Dialect) (ls : List Line) (line column : Nat) :
    (BlockMap.of d ls).nestingAt line column ≤ (BlockMap.of d ls).maxNesting := by
  have hmem := (BlockMap.of d ls).depthAnywhere_mem line column
  rw [depthAnywhere_cast] at hmem
  rw [nestingAt]
  rcases hmem with hnone | hmem
  · rw [hnone]
    exact Nat.zero_le _
  · exact ((of_levels d ls).within _ hmem).2

theorem BlockMap.loops_depth (d : Dialect) (ls : List Line) :
    ∀ site ∈ (BlockMap.of d ls).loops,
      1 ≤ site.depth ∧ site.depth ≤ (BlockMap.of d ls).maxNesting :=
  (of_levels d ls).sites

namespace Metrics

theorem sumOf_bounds {α : Type} {f : α → Nat} {least most : Nat} {as : List α}
    (h : ∀ a ∈ as, least ≤ f a ∧ f a ≤ most) :
    as.length * least ≤ sumOf f as ∧ sumOf f as ≤ as.length * most := by
  induction as with
  | nil => simp [sumOf]
  | cons a as ih =>
    obtain ⟨hleast, hmost⟩ := h a List.mem_cons_self
    obtain ⟨hless, hmore⟩ := ih fun b hb => h b (List.mem_cons_of_mem a hb)
    rw [sumOf, List.length_cons, Nat.succ_mul, Nat.succ_mul]
    omega

/-- The figures of decisions that lie at most so deep. -/
structure Bounded (deepest : Nat) (c : Complexity) : Prop where
  path : 1 ≤ c.cyclomatic
  least : c.cyclomatic - 1 ≤ c.cognitive
  most : c.cognitive ≤ (c.cyclomatic - 1) * (1 + deepest)

theorem addLine_bounded (p : Profile) {blocks : BlockMap} {deepest : Nat}
    (hdeep : ∀ line column, blocks.nestingAt line column ≤ deepest) {c : Complexity}
    (h : Bounded deepest c) (l : Line) : Bounded deepest (addLine p blocks c l) := by
  obtain ⟨k, hk⟩ := Nat.exists_eq_add_of_le h.path
  have hweight : ∀ m ∈ decisionsIn p l, 1 ≤ 1 + blocks.nestingAt l.number m.start ∧
      1 + blocks.nestingAt l.number m.start ≤ 1 + deepest :=
    fun m _ => ⟨Nat.le_add_right 1 _, Nat.add_le_add_left (hdeep l.number m.start) 1⟩
  obtain ⟨hleast, hmost⟩ := sumOf_bounds hweight
  have hoperators : countIn p.operators l ≤ countIn p.operators l * (1 + deepest) :=
    Nat.le_mul_of_pos_right _ ((Nat.add_comm 1 deepest ▸ Nat.succ_pos deepest))
  have hbefore := h.least
  have hbefore' := h.most
  rw [hk, Nat.add_sub_cancel_left] at hbefore hbefore'
  have hcount : (addLine p blocks c l).cyclomatic - 1 =
      k + (decisionsIn p l).length + countIn p.operators l := by
    simp only [addLine, hk]
    omega
  refine ⟨?_, ?_, ?_⟩
  · simp only [addLine]
    omega
  · rw [hcount]
    simp only [addLine]
    omega
  · rw [hcount, Nat.add_mul, Nat.add_mul]
    simp only [addLine]
    omega

theorem foldl_bounded (p : Profile) {blocks : BlockMap} {deepest : Nat}
    (hdeep : ∀ line column, blocks.nestingAt line column ≤ deepest) {c : Complexity}
    (h : Bounded deepest c) (ls : List Line) :
    Bounded deepest (ls.foldl (addLine p blocks) c) := by
  induction ls generalizing c with
  | nil => exact h
  | cons l ls ih => exact ih (addLine_bounded p hdeep h l)

theorem foldl_frame (p : Profile) (blocks : BlockMap) (c : Complexity) (ls : List Line) :
    (ls.foldl (addLine p blocks) c).nesting = c.nesting ∧
      (ls.foldl (addLine p blocks) c).lines = c.lines := by
  induction ls generalizing c with
  | nil => exact ⟨rfl, rfl⟩
  | cons l ls ih => exact ih (addLine p blocks c l)

/-- The figures of some lines, with the levels of their blocks. -/
theorem complexityOf_bounded (d : Dialect) (ls : List Line) (lines : Nat) :
    let blocks := BlockMap.of d ls
    let c := complexityOf (Profile.of d) blocks ls lines
    Bounded blocks.maxNesting c ∧ c.nesting = blocks.maxNesting ∧ c.lines = lines :=
  ⟨foldl_bounded (Profile.of d) (BlockMap.nestingAt_le d ls)
      ⟨Nat.le_refl 1, Nat.zero_le _, Nat.zero_le _⟩ ls,
    foldl_frame (Profile.of d) (BlockMap.of d ls) _ ls⟩

/-- The masked lines that the figures of a source are taken from. -/
def viewed (d : Dialect) (code : List Char) : List Line :=
  (MaskedSource.ofLines (.of d) ((Profile.of d).view (Text.lines code))).lines

theorem view_shows (d : Dialect) (ls : List (List Char)) :
    List.Forall₂ Text.Shows ((Profile.of d).view ls) ls := by
  cases d with
  | ampscript => exact Ampscript.regions_shows ls
  | ssjs => exact Ssjs.view_shows ls
  | _ => exact Text.shows_lines_refl ls

theorem viewed_blank (d : Dialect) {code : List Char} (h : Text.allBlank code = true) :
    ∀ l ∈ viewed d code, l.isBlank = true := by
  have hviews := Text.allBlank_of_shows (view_shows d (Text.lines code))
    fun l hl => Text.allBlank_of_mem_lines h hl
  have hmasked := Text.allBlank_of_shows
    (Mask.linesFrom_shows (.of d) 1 .code ((Profile.of d).view (Text.lines code))) hviews
  exact fun l hl => hmasked l.masked (List.mem_map_of_mem hl)

/-- A blank source has no blocks and no loops. -/
theorem blocks_of_blank (d : Dialect) {code : List Char} (h : Text.allBlank code = true) :
    (BlockMap.of d (viewed d code)).maxNesting = 0 ∧
      (BlockMap.of d (viewed d code)).loops = [] := by
  have hidle : ((viewed d code).foldl (Blocks.line (.of d)) Blocks.initial).Idle :=
    Blocks.lines_idle d Blocks.initial_idle (viewed_blank d h)
  exact ⟨hidle.level, hidle.loops⟩

theorem codeLines_le (d : Dialect) (code : List Char) :
    codeLines d code ≤ (Text.lines code).length := by
  have hraws := congrArg List.length (Mask.linesFrom_raws (.of d) 1 .code (Text.lines code))
  rw [List.length_map] at hraws
  exact (List.length_filter_le _ _).trans hraws.le

/-- The figures of every source bound each other. There is one path at least; each further one
counts once, and at most once more for each level there is; each loop counts once at least, and at
most once for each level; and no more lines have code than there are. The levels and loops are those
of the blocks of the view that is measured. -/
theorem figures_bounded (d : Dialect) (code : List Char) :
    let m := Metrics.of d code
    let c := m.complexity
    let blocks := BlockMap.of d (viewed d code)
    1 ≤ c.cyclomatic ∧
    c.cyclomatic - 1 ≤ c.cognitive ∧ c.cognitive ≤ (c.cyclomatic - 1) * (1 + c.nesting) ∧
    c.lines ≤ (Text.lines code).length ∧
    c.nesting = blocks.maxNesting ∧
    blocks.loops.length ≤ m.loops ∧ m.loops ≤ blocks.loops.length * c.nesting := by
  intro m c blocks
  by_cases hblank : Text.allBlank code = true
  · obtain ⟨hlevel, hloops⟩ : blocks.maxNesting = 0 ∧ blocks.loops = [] := blocks_of_blank d hblank
    have hm : m = {} := if_pos hblank
    have hc : c = {} := congrArg Metrics.complexity hm
    simp [hm, hc, hlevel, hloops]
  · have hm : m = measure d code := if_neg hblank
    have hc : c = complexityOf (Profile.of d) blocks (viewed d code) (codeLines d code) :=
      congrArg Metrics.complexity hm
    have hloops : m.loops = sumOf (·.depth) blocks.loops := congrArg Metrics.loops hm
    obtain ⟨hbounded, hnesting, hlines⟩ :
        Bounded blocks.maxNesting c ∧ c.nesting = blocks.maxNesting ∧
          c.lines = codeLines d code := by
      rw [hc]
      exact complexityOf_bounded d (viewed d code) (codeLines d code)
    have hsites := sumOf_bounds (BlockMap.loops_depth d (viewed d code))
    rw [Nat.mul_one] at hsites
    rw [hnesting, hlines, hloops]
    exact ⟨hbounded.path, hbounded.least, hbounded.most, codeLines_le d code, rfl, hsites⟩

end Metrics

end CampaignCheck

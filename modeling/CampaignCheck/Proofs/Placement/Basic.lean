import CampaignCheck.Finding
import CampaignCheck.Lexical.Blocks
import CampaignCheck.Lexical.Delimiters
import CampaignCheck.Proofs.Lexical.Views
import CampaignCheck.Proofs.Text.Positions
import CampaignCheck.Text.Lines
import CampaignCheck.Validator.Checks

namespace CampaignCheck

open Text

/-- The finding points at a line, and at most right behind its last character. -/
def Finding.PointsInto (f : Finding) (ls : List (List Char)) : Prop :=
  1 ≤ f.line ∧ ∃ l, ls[f.line - 1]? = some l ∧ ∀ c ∈ f.column, c ≤ l.length

theorem report_pointsInto {line column : Nat} {ls : List (List Char)}
    (h : Position.Within ⟨line, column⟩ ls) (rule message : String) (category : Category)
    (severity : Severity) (hint : String) :
    (Finding.report line (some column) rule message category severity hint).PointsInto ls := by
  obtain ⟨hline, l, hl, hcol⟩ := h
  have hmax : max 1 line = line := Nat.max_eq_right hline
  refine ⟨Nat.le_max_left 1 line, l, ?_, ?_⟩
  · simpa [Finding.report, hmax] using hl
  · intro c hc
    cases hc
    exact hcol

theorem report_line_pointsInto {line column : Nat} {ls : List (List Char)}
    (h : Position.Within ⟨line, column⟩ ls) (rule message : String) (category : Category)
    (severity : Severity) (hint : String) :
    (Finding.report line none rule message category severity hint).PointsInto ls := by
  obtain ⟨hfirst, l, hl, -⟩ := report_pointsInto h rule message category severity hint
  exact ⟨hfirst, l, hl, by simp [Finding.report]⟩

namespace Line

/-- The line is the one of its number among the lines of a source, and no column of it moved. -/
structure Of (ls : List (List Char)) (l : Line) : Prop where
  pos : 1 ≤ l.number
  raw : ls[l.number - 1]? = some l.raw
  masked : l.masked.length = l.raw.length

variable {ls : List (List Char)} {l : Line}

theorem Of.within (h : l.Of ls) {column : Nat} (hc : column ≤ l.masked.length) :
    Position.Within ⟨l.number, column⟩ ls :=
  ⟨h.pos, l.raw, h.raw, by rw [← h.masked]; exact hc⟩

theorem Of.within_raw (h : l.Of ls) {column : Nat} (hc : column ≤ l.raw.length) :
    Position.Within ⟨l.number, column⟩ ls :=
  ⟨h.pos, l.raw, h.raw, hc⟩

/-- A match in the masked line starts in the line. -/
theorem Of.start (h : l.Of ls) {p : Pattern} {m : Match} (hm : p.Finds l.masked m) :
    Position.Within ⟨l.number, m.start⟩ ls := h.within hm.1

/-- A group of a match in the masked line starts in the line. -/
theorem Of.startOf (h : l.Of ls) {p : Pattern} {m : Match} (hm : p.Finds l.masked m) (n : Nat) :
    Position.Within ⟨l.number, m.startOf n⟩ ls := h.within (hm.startOf_le n)

end Line

/-- Lines numbered from one beside the lines of a source, with masked texts of the same lengths. -/
theorem of_mem_zipWith {ls : List Line} {raws : List (List Char)} {l : Line}
    (hn : ls.map (·.number) = List.range' 1 ls.length)
    (hm : ls.map (·.masked.length) = raws.map List.length)
    (h : l ∈ List.zipWith (fun (l : Line) raw => { l with raw := raw }) ls raws) : l.Of raws := by
  obtain ⟨i, hi⟩ := List.mem_iff_getElem?.mp h
  rw [List.getElem?_zipWith_eq_some] at hi
  obtain ⟨k, raw, hk, hraw, rfl⟩ := hi
  have hnumber : k.number = 1 + i := by
    have hlt : i < ls.length := (List.getElem?_eq_some_iff.mp hk).1
    have he : (ls.map (·.number))[i]? = some k.number := by simp [hk]
    rw [hn] at he
    simp only [List.getElem?_range' hlt, Option.some.injEq] at he
    omega
  refine ⟨by simp only; omega, ?_, ?_⟩
  · simpa [hnumber] using hraw
  · have he : (ls.map (·.masked.length))[i]? = some k.masked.length := by simp [hk]
    rw [hm, List.getElem?_map, hraw] at he
    simpa using he.symm

/-- The lines of a masked view, put beside the lines of the source. -/
theorem of_mem_masked (x : Lexicon) {views raws : List (List Char)}
    (hv : List.Forall₂ Shows views raws) {l : Line}
    (h : l ∈ List.zipWith (fun (l : Line) raw => { l with raw := raw })
      (MaskedSource.ofLines x views).lines raws) : l.Of raws := by
  have hs := Mask.linesFrom_shows x 1 .code views
  have hlen : (MaskedSource.ofLines x views).lines.length = views.length := by
    have hl := List.Forall₂.length_eq hs
    simpa [MaskedSource.ofLines] using hl
  refine of_mem_zipWith ?_ ?_ h
  · rw [hlen]
    exact Mask.linesFrom_numbers x 1 .code views
  · have he := lengths_of_shows hs
    rw [List.map_map] at he
    exact he.trans (lengths_of_shows hv)

theorem zipWith_raw_self (ls : List Line) :
    List.zipWith (fun (l : Line) raw => { l with raw := raw }) ls (ls.map (·.raw)) = ls := by
  induction ls with
  | nil => rfl
  | cons l ls ih => rw [List.map_cons, List.zipWith_cons_cons, ih]

/-- The lines of a masked source are those of the source. -/
theorem of_mem_ofCode {d : Dialect} {code : List Char} {l : Line}
    (h : l ∈ (MaskedSource.ofCode d code).lines) : l.Of (lines code) := by
  have hraw : (MaskedSource.ofCode d code).lines.map (·.raw) = lines code :=
    Mask.linesFrom_raws _ 1 .code _
  rw [← zipWith_raw_self (MaskedSource.ofCode d code).lines, hraw] at h
  exact of_mem_masked _ (shows_lines_refl _) h

/-- Every offset into the masked text of a source has its place in the source. -/
theorem positionAt_masked_within (d : Dialect) (code : List Char) (offset : Nat) :
    (positionAt (MaskedSource.ofCode d code).text offset).Within (lines code) := by
  have hs : List.Forall₂ Shows ((MaskedSource.ofCode d code).lines.map (·.masked)) (lines code) :=
    Mask.linesFrom_shows _ 1 .code _
  have hne : (MaskedSource.ofCode d code).lines.map (·.masked) ≠ [] := by
    intro h
    rw [h] at hs
    exact lines_ne_nil code (List.forall₂_nil_left_iff.mp hs)
  have hfeed : ∀ l ∈ (MaskedSource.ofCode d code).lines.map (·.masked), '\n' ∉ l := by
    intro l hl
    obtain ⟨i, hi⟩ := List.mem_iff_getElem?.mp hl
    have hlt : i < (lines code).length := by
      rw [← List.Forall₂.length_eq hs]
      exact (List.getElem?_eq_some_iff.mp hi).1
    have hshow : Shows l (lines code)[i] := by
      have hget := hs.get (List.getElem?_eq_some_iff.mp hi).1 hlt
      simpa [(List.getElem?_eq_some_iff.mp hi).2] using hget
    intro hn
    rcases hshow.mem hn with h | h
    · exact not_mem_of_mem_lines (List.getElem_mem hlt) h
    · exact absurd h (by decide)
  exact (positionAt_unlines_within hne hfeed offset).congr (lengths_of_shows hs)

/-- Every finding of a check of single lines points into the lines that it checks. -/
def PointsIntoLines (check : Line → List Finding) : Prop :=
  ∀ ls l, l.Of ls → ∀ f ∈ check l, f.PointsInto ls

/-- A check that reports the first match of a pattern in the masked line. -/
theorem first_pointsInto {p : Pattern} {rule message : String} {category : Category}
    {severity : Severity} {hint : String} :
    PointsIntoLines fun l => (p.find? l.masked).toList.map fun m =>
      .report l.number (some m.start) rule message category severity hint := by
  intro ls l hl f hf
  obtain ⟨m, hm, rfl⟩ := List.mem_map.mp hf
  exact report_pointsInto (hl.start (Pattern.finds_of_find? (Option.mem_toList.mp hm))) ..

theorem perLine_pointsInto {checks : List (Line → List Finding)} {ls : List (List Char)}
    {lines : List Line} (hc : ∀ c ∈ checks, PointsIntoLines c) (hl : ∀ l ∈ lines, l.Of ls) :
    ∀ f ∈ Checks.perLine checks lines, f.PointsInto ls := by
  intro f hf
  simp only [Checks.perLine, Checks.run, List.mem_flatMap, List.mem_map] at hf
  obtain ⟨l, hl', -, ⟨check, hcheck, rfl⟩, hf⟩ := hf
  exact hc check hcheck ls l (hl l hl') f hf

namespace Mask

/-- An open literal started in the lines. -/
def Context.Within (ls : List (List Char)) : Context → Prop
  | .literal _ opened => opened.Within ls
  | _ => True

theorem step_within {ls : List (List Char)} (x : Lexicon) {here : Position} {s : State} (c : Char)
    (rest : List Char) (hh : here.Within ls) (hs : s.context.Within ls) :
    (step x here s c rest).2.context.Within ls := by
  have hcode : (inCode x here c rest).2.context.Within ls := by
    unfold inCode
    split_ifs
    · trivial
    · exact hh
    · trivial
  have hcomment (stop : List Char) : (inComment stop c rest).2.context.Within ls := by
    unfold inComment blankMarker
    split_ifs <;> trivial
  have hout : (outside x here c rest).2.context.Within ls := by
    unfold outside blankMarker
    split
    · split_ifs
      · trivial
      · exact hcode
    · exact hcode
  unfold step
  split
  · exact hs
  · split
    · exact hcomment _
    · exact hout
  · next quote opened _ hq =>
    rw [hq] at hs
    split_ifs
    · exact hs
    · trivial
    · exact hs
  · split
    · exact hcomment _
    · exact hout

theorem chars_within {ls : List (List Char)} (x : Lexicon) {number column : Nat} {s : State}
    (cs : List Char) (hh : Position.Within ⟨number, column + cs.length⟩ ls)
    (hs : s.context.Within ls) : (chars x number column s cs).2.context.Within ls := by
  induction cs generalizing column s with
  | nil => exact hs
  | cons c cs ih =>
    have here : Position.Within ⟨number, column⟩ ls := hh.shrink (Nat.le_add_right _ _)
    exact ih hh.next (step_within x c cs here hs)

theorem endLine_within {ls : List (List Char)} (x : Lexicon) {context : Context}
    (h : context.Within ls) :
    (∀ p ∈ (endLine x context).1, p.Within ls) ∧ (endLine x context).2.Within ls := by
  cases context with
  | literal quote opened =>
    simp only [endLine]
    split_ifs
    · exact ⟨by simp, h⟩
    · refine ⟨?_, trivial⟩
      intro p hp
      rw [List.mem_singleton.mp hp]
      exact h
  | _ => exact ⟨by simp [endLine], trivial⟩

/-- Literals that never end start in the lines. The lines read before are those of `done`. -/
theorem linesFrom_within (x : Lexicon) (done ls : List (List Char)) {context : Context}
    (h : context.Within (done ++ ls)) :
    ∀ p ∈ (linesFrom x (done.length + 1) context ls).2, p.Within (done ++ ls) := by
  induction ls generalizing done context with
  | nil =>
    intro p hp
    cases context with
    | literal quote opened =>
      have he : p = opened := by simpa [linesFrom] using hp
      rw [he]
      exact h
    | _ => simp [linesFrom] at hp
  | cons raw rest ih =>
    have here := Position.within_here done rest (Nat.le_of_eq (Nat.zero_add raw.length))
    have hend := endLine_within x (chars_within x (s := ⟨0, context⟩) raw here h)
    intro p hp
    rw [linesFrom_cons] at hp
    rcases List.mem_append.mp hp with hp | hp
    · exact hend.1 p hp
    · rw [List.append_cons] at hend ⊢
      exact ih (done ++ [raw]) hend.2 p (by simpa using hp)

end Mask

/-- Literals of a view that never end start in the lines of the source. -/
theorem unclosed_within (x : Lexicon) {views raws : List (List Char)}
    (hv : List.Forall₂ Shows views raws) :
    ∀ p ∈ (MaskedSource.ofLines x views).unclosed, p.Within raws := by
  intro p hp
  have hcode : Mask.Context.code.Within ([] ++ views) := trivial
  exact (Mask.linesFrom_within x [] views hcode p hp).congr (lengths_of_shows hv)

namespace Delimiters

/-- What is open and what has been found lies in the lines. -/
def State.Within (ls : List (List Char)) (s : State) : Prop :=
  (∀ o ∈ s.stack, Position.Within ⟨o.line, o.column⟩ ls) ∧
  ∀ i ∈ s.found, Position.Within ⟨i.line, i.column⟩ ls

theorem splitAt?_eq_some {c : Char} {stack inner outer : List Opened}
    (h : splitAt? c stack = some (inner, outer)) : inner ⊆ stack ∧ outer ⊆ stack := by
  induction stack generalizing inner outer with
  | nil => cases h
  | cons o os ih =>
    rw [splitAt?] at h
    split_ifs at h
    · cases h
      exact ⟨by simp, List.subset_cons_self o os⟩
    · obtain ⟨⟨a, b⟩, hab, he⟩ := Option.map_eq_some_iff.mp h
      cases he
      obtain ⟨ha, hb⟩ := ih hab
      exact ⟨List.cons_subset_cons o ha, fun _ hx => List.mem_cons_of_mem o (hb hx)⟩

theorem step_within {ls : List (List Char)} (ps : List Pair) {s : State} {line column : Nat}
    (c : Char) (hh : Position.Within ⟨line, column⟩ ls) (hs : s.Within ls) :
    (step ps s line column c).Within ls := by
  unfold step
  split_ifs
  · refine ⟨?_, hs.2⟩
    intro o ho
    rcases List.mem_cons.mp ho with rfl | ho
    · exact hh
    · exact hs.1 o ho
  · split
    · exact hs
    · split
      · refine ⟨hs.1, ?_⟩
        intro i hi
        rcases List.mem_append.mp hi with hi | hi
        · exact hs.2 i hi
        · rw [List.mem_singleton.mp hi]
          exact hh
      · next inner outer hsplit =>
        obtain ⟨hin, hout⟩ := splitAt?_eq_some hsplit
        refine ⟨fun o ho => hs.1 o (hout ho), ?_⟩
        intro i hi
        rcases List.mem_append.mp hi with hi | hi
        · exact hs.2 i hi
        · obtain ⟨o, ho, rfl⟩ := List.mem_map.mp hi
          exact hs.1 o (hin (List.mem_reverse.mp ho))

theorem chars_within {ls : List (List Char)} (ps : List Pair) {s : State} {line column : Nat}
    (cs : List Char) (hh : Position.Within ⟨line, column + cs.length⟩ ls) (hs : s.Within ls) :
    (chars ps line column s cs).Within ls := by
  induction cs generalizing column s with
  | nil => exact hs
  | cons c cs ih =>
    have here : Position.Within ⟨line, column⟩ ls := hh.shrink (Nat.le_add_right _ _)
    exact ih hh.next (step_within ps c here hs)

/-- Delimiters without a partner lie in the lines. -/
theorem imbalances_within {ls : List (List Char)} (ps : List Pair) {lines : List Line}
    (hl : ∀ l ∈ lines, l.Of ls) :
    ∀ i ∈ imbalances ps lines, Position.Within ⟨i.line, i.column⟩ ls := by
  have hfold (s : State) (hs : s.Within ls) :
      (lines.foldl (fun s l => chars ps l.number 0 s l.masked) s).Within ls := by
    induction lines generalizing s with
    | nil => exact hs
    | cons l rest ih =>
      have hline := hl l (by simp)
      apply ih (fun k hk => hl k (by simp [hk]))
      exact chars_within ps l.masked (hline.within (by simp)) hs
  have h := hfold ⟨[], []⟩ ⟨by simp, by simp⟩
  intro i hi
  rcases List.mem_append.mp (List.mem_mergeSort.mp hi) with hi | hi
  · exact h.2 i hi
  · obtain ⟨o, ho, rfl⟩ := List.mem_map.mp hi
    exact h.1 o (List.mem_reverse.mp ho)

end Delimiters

namespace Blocks

theorem firstAtStart_subset (ls : List Lexeme) : firstAtStart ls ⊆ ls := by
  induction ls with
  | nil => simp [firstAtStart]
  | cons l ls ih =>
    apply List.cons_subset_cons l
    exact fun x hx => ih (List.mem_of_mem_filter hx)

/-- A structural token starts in its line. -/
theorem start_le_of_mem_lexemes {g : BlockGrammar} {cs : List Char} {x : Lexeme}
    (h : x ∈ lexemes g cs) : x.start ≤ cs.length := by
  have hx := firstAtStart_subset _ (List.mem_mergeSort.mp h)
  obtain ⟨t, -, ht⟩ := List.mem_flatMap.mp hx
  obtain ⟨m, hm, rfl⟩ := List.mem_map.mp ht
  exact (Pattern.finds_of_mem_findAll hm).1

theorem splitAt?_eq_some {t : BlockToken} {stack inner outer : List Frame}
    (h : splitAt? t stack = some (inner, outer)) : inner ⊆ stack ∧ outer ⊆ stack := by
  induction stack generalizing inner outer with
  | nil => cases h
  | cons f fs ih =>
    rw [splitAt?] at h
    split_ifs at h
    · cases h
      exact ⟨by simp, List.subset_cons_self f fs⟩
    · obtain ⟨⟨a, b⟩, hab, he⟩ := Option.map_eq_some_iff.mp h
      cases he
      obtain ⟨ha, hb⟩ := ih hab
      exact ⟨List.cons_subset_cons f ha, fun _ hx => List.mem_cons_of_mem f (hb hx)⟩

/-- What is open and what has been found lies in the lines. -/
structure State.Within (ls : List (List Char)) (s : State) : Prop where
  stack : ∀ f ∈ s.stack, Position.Within ⟨f.line, f.column⟩ ls
  unclosed : ∀ f ∈ s.map.unclosed, Position.Within ⟨f.line, f.column⟩ ls
  stray : ∀ c ∈ s.map.stray, Position.Within ⟨c.line, c.column⟩ ls

section

variable {ls : List (List Char)} {s : State}

theorem push_within {f : Frame} (hs : s.Within ls) (hf : Position.Within ⟨f.line, f.column⟩ ls) :
    ∀ g ∈ f :: s.stack, Position.Within ⟨g.line, g.column⟩ ls := by
  intro g hg
  rcases List.mem_cons.mp hg with rfl | hg
  · exact hf
  · exact hs.stack g hg

theorem addUnclosed_within (hs : s.Within ls) (fs : List Frame)
    (hf : ∀ f ∈ fs, Position.Within ⟨f.line, f.column⟩ ls) : (s.addUnclosed fs).Within ls := by
  refine ⟨hs.stack, ?_, hs.stray⟩
  intro f hmem
  rcases List.mem_append.mp hmem with h | h
  · exact hs.unclosed f h
  · exact hf f (List.mem_of_mem_filter h)

theorem token_within {line : Nat} {l : Lexeme} (hl : Position.Within ⟨line, l.start⟩ ls)
    (hs : s.Within ls) : (token line s l).1.Within ls := by
  unfold token
  simp only
  split
  · exact ⟨hs.stack, hs.unclosed, hs.stray⟩
  -- A frame that opens starts where its token does; noting a loop touches no frame.
  · split_ifs <;> exact ⟨push_within hs hl, hs.unclosed, hs.stray⟩
  · exact ⟨push_within hs hl, hs.unclosed, hs.stray⟩
  · split
    · refine ⟨hs.stack, hs.unclosed, ?_⟩
      intro c hc
      rcases List.mem_append.mp hc with hc | hc
      · exact hs.stray c hc
      · rw [List.mem_singleton.mp hc]
        exact hl
    · next inner outer hsplit =>
      obtain ⟨hin, hout⟩ := splitAt?_eq_some hsplit
      have hadd := addUnclosed_within hs inner.reverse
        (fun f hf => hs.stack f (hin (List.mem_reverse.mp hf)))
      exact ⟨fun f hf => hs.stack f (hout hf), hadd.unclosed, hadd.stray⟩

theorem tokens_within {line : Nat} {xs : List Lexeme}
    (hx : ∀ x ∈ xs, Position.Within ⟨line, x.start⟩ ls) (hs : s.Within ls) :
    (tokens line s xs).1.Within ls := by
  induction xs generalizing s with
  | nil => exact hs
  | cons x xs ih =>
    exact ih (fun y hy => hx y (by simp [hy])) (token_within (hx x (by simp)) hs)

theorem openBodyless_within (g : BlockGrammar) {l : Line} (hl : l.Of ls) (xs : List Lexeme)
    (hs : s.Within ls) : (openBodyless g s l xs).Within ls := by
  unfold openBodyless
  simp only
  split_ifs
  · exact ⟨push_within hs (hl.within (Nat.zero_le _)), hs.unclosed, hs.stray⟩
  · exact hs

theorem endLine_within (g : BlockGrammar) (l : Line) (hs : s.Within ls) :
    (endLine g s l).Within ls := by
  have hdrop : ∀ f ∈ s.stack.filter (fun f => decide (f.family ≠ .bodyless)),
      Position.Within ⟨f.line, f.column⟩ ls :=
    fun f hf => hs.stack f (List.mem_of_mem_filter hf)
  unfold endLine
  simp only
  split_ifs
  · exact ⟨hdrop, hs.unclosed, hs.stray⟩
  · exact ⟨hdrop, hs.unclosed, hs.stray⟩
  · exact ⟨hs.stack, hs.unclosed, hs.stray⟩
  · exact hs

theorem line_within (g : BlockGrammar) {l : Line} (hl : l.Of ls) (hs : s.Within ls) :
    (line g s l).Within ls := by
  have hopen := openBodyless_within g hl (lexemes g l.masked) hs
  have hstarts : ∀ x ∈ lexemes g l.masked, Position.Within ⟨l.number, x.start⟩ ls :=
    fun x hx => hl.within (start_le_of_mem_lexemes hx)
  have htokens := tokens_within (s := (openBodyless g s l (lexemes g l.masked)).reach
    (depthOf (openBodyless g s l (lexemes g l.masked)).stack).nesting) hstarts
    ⟨hopen.stack, hopen.unclosed, hopen.stray⟩
  exact endLine_within g l ⟨htokens.stack, htokens.unclosed, htokens.stray⟩

theorem lines_within (g : BlockGrammar) {lines : List Line} (hl : ∀ l ∈ lines, l.Of ls)
    (hs : s.Within ls) : (lines.foldl (line g) s).Within ls := by
  induction lines generalizing s with
  | nil => exact hs
  | cons l rest ih => exact ih (fun k hk => hl k (by simp [hk])) (line_within g (hl l (by simp)) hs)

end

end Blocks

/-- Blocks without a partner lie in the lines. -/
theorem blockMap_within {ls : List (List Char)} (d : Dialect) {lines : List Line}
    (hl : ∀ l ∈ lines, l.Of ls) :
    (∀ f ∈ (BlockMap.of d lines).unclosed, Position.Within ⟨f.line, f.column⟩ ls) ∧
      ∀ c ∈ (BlockMap.of d lines).stray, Position.Within ⟨c.line, c.column⟩ ls := by
  have h := Blocks.lines_within (.of d) hl (s := Blocks.initial) ⟨by simp [Blocks.initial],
    by simp [Blocks.initial], by simp [Blocks.initial]⟩
  have hend := Blocks.addUnclosed_within h _ fun f hf => h.stack f (List.mem_reverse.mp hf)
  exact ⟨hend.unclosed, hend.stray⟩

namespace Text

theorem mem_addSite {name n : List Char} {site p : Position} {ps : List Position}
    {groups : List (List Char × List Position)} (h : (n, ps) ∈ addSite name site groups)
    (hp : p ∈ ps) : p = site ∨ ∃ qs, (n, qs) ∈ groups ∧ p ∈ qs := by
  induction groups with
  | nil =>
    cases List.mem_singleton.mp h
    exact .inl (List.mem_singleton.mp hp)
  | cons g rest ih =>
    obtain ⟨m, sites⟩ := g
    rw [addSite] at h
    split_ifs at h
    · rcases List.mem_cons.mp h with h | h
      · cases h
        rcases List.mem_append.mp hp with hp | hp
        · exact .inr ⟨sites, by simp, hp⟩
        · exact .inl (List.mem_singleton.mp hp)
      · exact .inr ⟨ps, by simp [h], hp⟩
    · rcases List.mem_cons.mp h with h | h
      · cases h
        exact .inr ⟨ps, by simp, hp⟩
      · rcases ih h with h | ⟨qs, hq, hp⟩
        · exact .inl h
        · exact .inr ⟨qs, by simp [hq], hp⟩

/-- Grouped occurrences are occurrences. -/
theorem mem_of_mem_groupSites {occurrences : List (List Char × Position)} {n : List Char}
    {ps : List Position} {p : Position} (h : (n, ps) ∈ groupSites occurrences) (hp : p ∈ ps) :
    ∃ o ∈ occurrences, o.2 = p := by
  have hfold (os : List (List Char × Position)) (groups : List (List Char × List Position))
      (h : (n, ps) ∈ os.foldl (fun groups o => addSite o.1 o.2 groups) groups) :
      (∃ o ∈ os, o.2 = p) ∨ ∃ m qs, (m, qs) ∈ groups ∧ p ∈ qs := by
    induction os generalizing groups with
    | nil => exact .inr ⟨n, ps, h, hp⟩
    | cons o os ih =>
      rcases ih (addSite o.1 o.2 groups) h with ⟨o', ho, he⟩ | ⟨m, qs, hm, hq⟩
      · exact .inl ⟨o', by simp [ho], he⟩
      · rcases mem_addSite hm hq with he | ⟨rs, hr, hp⟩
        · exact .inl ⟨o, by simp, he.symm⟩
        · exact .inr ⟨m, rs, hr, hp⟩
  rcases hfold occurrences [] h with h | ⟨m, qs, hm, -⟩
  · exact h
  · cases hm

end Text

end CampaignCheck

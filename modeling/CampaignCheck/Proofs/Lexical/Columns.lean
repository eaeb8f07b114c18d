import CampaignCheck.Proofs.Lexical.Braces
import CampaignCheck.Proofs.Lexical.Nesting
import CampaignCheck.Proofs.Pattern.Ways

namespace CampaignCheck

namespace Blocks

open Pattern

/-- The signs that open or close a block. -/
def signs : List Char := ['(', ')', '{', '}']

/-- A token that opens or closes may start here: a sign does, or a word, though none with an S. Of
the words in tokens only SELECT has one, and it stands behind a parenthesis. -/
def Begins (cs : List Char) (i : Nat) : Prop :=
  (∃ c ∈ signs, cs[i]? = some c) ∨
    sees .word cs i = true ∧ preceded .word cs i = false ∧ sees (.anyCase 'S') cs i = false

theorem signs_apart : ∀ c ∈ signs, Text.isWord c = false ∧ Text.isBlank c = false := by
  have hall : (signs.all fun c => !Text.isWord c && !Text.isBlank c) = true := by decide
  simpa using hall

variable {cs : List Char} {i start stop : Nat}

theorem not_begins_of_blank (h : sees .blank cs i = true) : ¬ Begins cs i := by
  obtain ⟨c, hc, hblank⟩ : ∃ c, cs[i]? = some c ∧ Text.isBlank c = true := by
    simpa [sees, CharSet.mem, Option.getD_eq_iff] using h
  rintro (⟨d, hd, hsign⟩ | ⟨hword, -⟩)
  · obtain rfl : c = d := Option.some.inj (hc.symm.trans hsign)
    rw [(signs_apart c hd).2] at hblank
    cases hblank
  · have hcode : Text.isWord c = true := by simpa [sees, hc, CharSet.mem] using hword
    rw [Text.isWord_of_isBlank hblank] at hcode
    cases hcode

/-- Within a word, and where one starts with an S, no token begins. -/
theorem not_begins_of_word (h : sees .word cs i = true)
    (hp : preceded .word cs i = true ∨ sees (.anyCase 'S') cs i = true) : ¬ Begins cs i := by
  rintro (⟨c, hc, hsign⟩ | ⟨-, hedge, hother⟩)
  · rw [sees, hsign] at h
    exact absurd h (by simp [CharSet.mem, (signs_apart c hc).1])
  · rcases hp with hp | hp
    · rw [hp] at hedge
      cases hedge
    · rw [hp] at hother
      cases hother

/-- The span is that of a token: one may start with it, and none within. -/
def Whole (cs : List Char) (start stop : Nat) : Prop :=
  start ≤ stop ∧ Begins cs start ∧ ∀ i, start < i → i < stop → ¬ Begins cs i

theorem whole_sign (c : Char) (hc : c ∈ signs) (h : (one (.char c)).Spans cs start stop) :
    Whole cs start stop := by
  obtain ⟨hsees, rfl⟩ := h
  exact ⟨Nat.le_succ start, .inl ⟨c, hc, (sees_char c cs start).mp hsees⟩, fun i hi hi' => by omega⟩

theorem spans_caseless {word : String} (h : (caseless word).Spans cs start stop) :
    stop = start + word.toList.length ∧
      ∀ k a, word.toList[k]? = some a → sees (.anyCase a) cs (start + k) = true := by
  have hletters : caseless word = inOrder ((word.toList.map CharSet.anyCase).map one) := by
    rw [caseless, List.map_map]
    rfl
  rw [hletters] at h
  obtain ⟨hstop, hall⟩ := spans_inOrder h
  refine ⟨by rw [hstop, List.length_map], fun k a hk => hall k _ ?_⟩
  rw [List.getElem?_map, hk]
  rfl

/-- Behind the first letter of a word no token begins. -/
theorem not_begins_of_caseless {word : String} (hword : ∀ a ∈ word.toList, a.isAlpha = true)
    (h : (caseless word).Spans cs start stop) :
    ∀ i, start < i → i < stop → ¬ Begins cs i := by
  obtain ⟨hstop, hall⟩ := spans_caseless h
  have hletter (k : Nat) (hk : k < word.toList.length) : sees .word cs (start + k) = true :=
    isWord_of_sees (hword _ (List.getElem_mem hk)) (hall k _ (List.getElem?_eq_getElem hk))
  intro i hi hi'
  obtain ⟨k, rfl⟩ : ∃ k, i = start + (k + 1) := ⟨i - start - 1, by omega⟩
  exact not_begins_of_word (hletter (k + 1) (by omega)) (.inl (hletter k (by omega)))

/-- A word of letters, the first of which is no S in any of its forms. -/
def isOpening (word : String) : Bool :=
  word.toList.all Char.isAlpha && word.toList.head?.any fun first =>
    (Text.letterForms first).all fun c => !Text.sameLetter 'S' c

/-- The words in tokens that open or close, SELECT apart. -/
def words : List String := ["FOR", "IF", "NEXT", "ENDIF", "BEGIN", "CASE", "END"]

theorem opening_words : ∀ word ∈ words, isOpening word = true := by decide +kernel

theorem whole_word (word : String) (hword : word ∈ words)
    (h : (wholeWordCaseless word).Spans cs start stop) : Whole cs start stop := by
  obtain ⟨halpha, hhead⟩ := Bool.and_eq_true_iff.mp (opening_words word hword)
  rw [List.all_eq_true] at halpha
  obtain ⟨first, hfirst, hapart⟩ := (Option.any_eq_true _ _).mp hhead
  obtain ⟨_, ⟨_, ⟨hedge, rfl⟩, hletters⟩, -, rfl⟩ := h
  obtain ⟨hstop, hall⟩ := spans_caseless hletters
  have hsees := hall 0 first (List.head?_eq_getElem?.symm.trans hfirst)
  rw [Nat.add_zero] at hsees
  have hletter := halpha first (List.mem_of_mem_head? hfirst)
  have hcode := isWord_of_sees hletter hsees
  rw [wordEdge_holds, hcode] at hedge
  exact ⟨by omega, .inr ⟨hcode, by simpa using hedge, sees_of_apart hletter hapart hsees⟩,
    not_begins_of_caseless halpha hletters⟩

theorem whole_subquery
    (h : (lit "(" ++ blanks ++ caseless "SELECT" ++ wordEdge).Spans cs start stop) :
    Whole cs start stop := by
  obtain ⟨_, ⟨_, ⟨_, ⟨hopen, rfl⟩, n, hblank, rfl⟩, hletters⟩, -, rfl⟩ := h
  obtain ⟨hstop, hall⟩ := spans_caseless hletters
  refine ⟨by omega, .inl ⟨'(', by decide, (sees_char '(' cs start).mp hopen⟩, ?_⟩
  intro i hi hi'
  rcases Nat.lt_trichotomy i (start + 1 + n) with hbefore | rfl | hbehind
  · have hsees := hblank (i - (start + 1)) (by omega)
    rw [Nat.add_sub_cancel' hi] at hsees
    exact not_begins_of_blank hsees
  · have hfirst : sees (.anyCase 'S') cs (start + 1 + n) = true := hall 0 'S' rfl
    exact not_begins_of_word (isWord_of_sees rfl hfirst) (.inr hfirst)
  · exact not_begins_of_caseless (List.all_eq_true.mp rfl) hletters i hbehind hi'

/-- Every token that opens or closes is whole where it is found. -/
theorem whole_of_spans (d : Dialect) : ∀ t ∈ (BlockGrammar.of d).tokens,
    t.action ≠ .announcesLoop → ∀ cs start stop, t.pattern.Spans cs start stop →
      Whole cs start stop := by
  intro t ht haction cs start stop h
  cases d with
  | html => simp [BlockGrammar.of] at ht
  | css =>
    simp only [BlockGrammar.of, BlockGrammar.css, List.mem_cons, List.not_mem_nil, or_false] at ht
    rcases ht with rfl | rfl
    · exact whole_sign '{' (by decide) h
    · exact whole_sign '}' (by decide) h
  | ssjs | javascript =>
    simp only [BlockGrammar.of, BlockGrammar.script, List.mem_cons, List.not_mem_nil, or_false]
      at ht
    rcases ht with rfl | rfl | rfl | rfl | rfl | rfl
    · exact absurd rfl haction
    · exact absurd rfl haction
    · exact absurd rfl haction
    · exact absurd rfl haction
    · exact whole_sign '{' (by decide) h
    · exact whole_sign '}' (by decide) h
  | ampscript =>
    simp only [BlockGrammar.of, BlockGrammar.ampscript, List.mem_cons, List.not_mem_nil, or_false]
      at ht
    rcases ht with rfl | rfl | rfl | rfl
    · exact whole_word "FOR" (by decide) h
    · exact whole_word "IF" (by decide) h
    · exact whole_word "NEXT" (by decide) h
    · exact whole_word "ENDIF" (by decide) h
  | sql =>
    simp only [BlockGrammar.of, BlockGrammar.sql, List.mem_cons, List.not_mem_nil, or_false] at ht
    rcases ht with rfl | rfl | rfl | rfl | rfl | rfl | rfl
    · exact absurd rfl haction
    · obtain ⟨_, hword, rfl⟩ := h
      exact whole_word "BEGIN" (by decide) hword
    · exact whole_word "CASE" (by decide) h
    · exact whole_word "END" (by decide) h
    · exact whole_subquery h
    · exact whole_sign '(' (by decide) h
    · exact whole_sign ')' (by decide) h

theorem of_not_possessive (d : Dialect) :
    ∀ t ∈ (BlockGrammar.of d).tokens, t.pattern.isPossessive = false := by
  cases d <;> decide +kernel

theorem whole_of_mem_lexemes {d : Dialect} {x : Lexeme} (hx : x ∈ lexemes (.of d) cs)
    (hbrace : isBrace x = true) : Whole cs x.start x.stop := by
  have htoken := token_mem_of_mem_lexemes hx
  have hfirst := firstAtStart_subset _ (List.mem_mergeSort.mp hx)
  obtain ⟨t, -, hof⟩ := List.mem_flatMap.mp hfirst
  obtain ⟨m, hm, rfl⟩ := List.mem_map.mp hof
  have hspans := (finds_of_mem_findAll hm).spans (of_not_possessive d t htoken)
  exact whole_of_spans d t htoken (of_decide_eq_true hbrace) cs m.start m.stop hspans

theorem firstAtStart_starts (xs : List Lexeme) :
    (firstAtStart xs).Pairwise fun x y => x.start ≠ y.start := by
  induction xs with
  | nil => exact .nil
  | cons x xs ih =>
    refine List.pairwise_cons.mpr ⟨fun y hy => ?_, ih.filter _⟩
    exact (bne_iff_ne.mp (List.mem_filter.mp hy).2).symm

theorem lexemes_starts (g : BlockGrammar) (cs : List Char) :
    (lexemes g cs).Pairwise fun x y => x.start < y.start := by
  have hne : (lexemes g cs).Pairwise fun x y => x.start ≠ y.start :=
    (List.mergeSort_perm _ _).symm.pairwise (firstAtStart_starts _) fun h => h.symm
  exact (lexemes_sorted g cs).imp₂ (fun _ _ => Nat.lt_of_le_of_ne) hne

/-- Where the depth changes with a token that opens or closes: behind the one, before the other. -/
def Lexeme.turn (x : Lexeme) : Nat := if x.token.action = .closes then x.start else x.stop

/-- The depth changes at one token after the other. -/
theorem turns_sorted (d : Dialect) (cs : List Char) :
    (((lexemes (.of d) cs).filter isBrace).map Lexeme.turn).Pairwise (· ≤ ·) := by
  refine List.pairwise_map.mpr (((lexemes_starts (.of d) cs).filter isBrace).imp_of_mem ?_)
  intro x y hx hy hlt
  obtain ⟨hx, hxbrace⟩ := List.mem_filter.mp hx
  obtain ⟨hy, hybrace⟩ := List.mem_filter.mp hy
  obtain ⟨hxle, -, hwithin⟩ := whole_of_mem_lexemes hx hxbrace
  obtain ⟨hyle, hbegins, -⟩ := whole_of_mem_lexemes hy hybrace
  have hbehind : x.stop ≤ y.start := by
    by_contra hinside
    exact hwithin y.start hlt (Nat.lt_of_not_le hinside) hbegins
  have hturn : x.turn ≤ x.stop := by
    unfold Lexeme.turn
    split_ifs <;> omega
  have hturn' : y.start ≤ y.turn := by
    unfold Lexeme.turn
    split_ifs <;> omega
  exact (hturn.trans hbehind).trans hturn'

theorem token_columns (line : Nat) (s : State) (x : Lexeme) :
    ((token line s x).2.toList.map (·.1)).Sublist (([x].filter isBrace).map Lexeme.turn) := by
  cases ha : x.token.action with
  | announcesLoop => simp [token, ha]
  | opens => simp [token, ha, isBrace, Lexeme.turn]
  | opensLoop => simp [token, ha, isBrace, Lexeme.turn]
  | closes =>
    -- A closer without a partner changes nothing.
    cases hsplit : splitAt? x.token s.stack with
    | none => simp [token, ha, hsplit]
    | some split => simp [token, ha, hsplit, isBrace, Lexeme.turn]

theorem tokens_columns (line : Nat) (s : State) (xs : List Lexeme) :
    ((tokens line s xs).2.map (·.1)).Sublist ((xs.filter isBrace).map Lexeme.turn) := by
  induction xs generalizing s with
  | nil => exact .refl _
  | cons x xs ih =>
    have hfilter : (x :: xs).filter isBrace = [x].filter isBrace ++ xs.filter isBrace :=
      List.filter_append (p := isBrace) [x] xs
    rw [tokens, List.map_append, hfilter, List.map_append]
    exact (token_columns line s x).append (ih _)

theorem lines_columns (d : Dialect) (ls : List Line) {s : State}
    (h : ∀ l ∈ s.map.lines, (l.events.map (·.1)).Pairwise (· ≤ ·)) :
    ∀ l ∈ (ls.foldl (line (.of d)) s).map.lines, (l.events.map (·.1)).Pairwise (· ≤ ·) := by
  induction ls generalizing s with
  | nil => exact h
  | cons l ls ih =>
    refine ih fun k hk => ?_
    rw [line_lines, List.mem_append, List.mem_singleton] at hk
    rcases hk with hk | rfl
    · exact h k hk
    · exact (turns_sorted d l.masked).sublist (tokens_columns _ _ _)

end Blocks

/-- The depth that the last event at or before a column has noted, or else that at the start. -/
def LineDepths.before (l : LineDepths) (column : Int) : Depth :=
  ((l.events.filter fun e => decide ((e.1 : Int) ≤ column)).getLast?.map (·.2)).getD l.start

namespace BlockMap

/-- Where events come in the order of their columns, the walk that stops at the first one behind a
column has come to the last one that is not. -/
theorem depthFrom_eq {events : List (Nat × Depth)} (h : (events.map (·.1)).Pairwise (· ≤ ·))
    (column : Nat) (d : Depth) : depthFrom column d events =
      ((events.filter fun e => decide (e.1 ≤ column)).getLast?.map (·.2)).getD d := by
  induction events generalizing d with
  | nil => rfl
  | cons e events ih =>
    obtain ⟨hfirst, hrest⟩ := List.pairwise_cons.mp h
    rw [depthFrom]
    split_ifs with hcolumn
    · rw [ih hrest, List.filter_cons_of_pos (by simpa using hcolumn), List.getLast?_cons]
      cases (events.filter fun e => decide (e.1 ≤ column)).getLast? <;> rfl
    · have hnone : (e :: events).filter (fun e => decide (e.1 ≤ column)) = [] := by
        refine List.filter_eq_nil_iff.mpr fun k hk => ?_
        rcases List.mem_cons.mp hk with rfl | hk
        · simpa using hcolumn
        · have hle : e.1 ≤ k.1 := hfirst k.1 (List.mem_map_of_mem hk)
          simp only [decide_eq_true_eq]
          omega
      rw [hnone]
      rfl

theorem depthAnywhere_eq {m : BlockMap} {front back : List LineDepths} {l : LineDepths}
    (hlines : m.lines = front ++ l :: back) (hlast : ∀ k ∈ back, k.number ≠ l.number)
    (hsorted : (l.events.map (·.1)).Pairwise (· ≤ ·)) (column : Int) :
    m.depthAnywhere l.number column = l.before column := by
  have hfind : (m.lines.reverse.find? fun k => (k.number : Int) == l.number) = some l := by
    rw [hlines, List.reverse_append, List.reverse_cons, List.append_assoc, List.find?_append]
    have hback : (back.reverse.find? fun k => (k.number : Int) == l.number) = none := by
      refine List.find?_eq_none.mpr fun k hk => ?_
      simpa using hlast k (List.mem_reverse.mp hk)
    simp [hback]
  unfold depthAnywhere LineDepths.before
  rw [hfind]
  simp only
  split_ifs with hcolumn
  · have hnone : (l.events.filter fun e => decide ((e.1 : Int) ≤ column)) = [] := by
      refine List.filter_eq_nil_iff.mpr fun e _ => ?_
      simp only [decide_eq_true_eq]
      omega
    rw [hnone]
    rfl
  · obtain ⟨n, rfl⟩ := Int.eq_ofNat_of_zero_le (Int.not_lt.mp hcolumn)
    simp only [Int.toNat_natCast, Int.ofNat_le]
    exact depthFrom_eq hsorted n l.start

end BlockMap

namespace Blocks

/-- Depths are found by column. Events are noted in the order of their columns, whatever the lines,
so for every column that is asked for the depth is the one that the last event at or before it has
noted, or that of the start of the line; of several lines of one number the last one counts, and
nothing is around a line that does not exist. -/
theorem depths_by_column (d : Dialect) (ls : List Line) :
    let m := BlockMap.of d ls
    m.lines.map (·.number) = ls.map (·.number) ∧
    (∀ l ∈ m.lines, (l.events.map (·.1)).Pairwise (· ≤ ·)) ∧
    (∀ front l back, m.lines = front ++ l :: back → (∀ k ∈ back, k.number ≠ l.number) →
      ∀ column : Int, m.depthAnywhere l.number column = l.before column) ∧
    (∀ number : Int, (∀ l ∈ m.lines, (l.number : Int) ≠ number) →
      ∀ column : Int, m.depthAnywhere number column = ⟨0, 0⟩) ∧
    ∀ number column : Nat, m.depthAt number column = m.depthAnywhere number column := by
  intro m
  have hsorted : ∀ l ∈ m.lines, (l.events.map (·.1)).Pairwise (· ≤ ·) :=
    lines_columns d ls (by simp [initial])
  refine ⟨lines_numbers (.of d) ls initial, hsorted, ?_, ?_, ?_⟩
  · intro front l back hlines hlast
    exact BlockMap.depthAnywhere_eq hlines hlast (hsorted l (by simp [hlines]))
  · intro number hnumber column
    have hnone : (m.lines.reverse.find? fun l => (l.number : Int) == number) = none :=
      List.find?_eq_none.mpr fun l hl => by simpa using hnumber l (List.mem_reverse.mp hl)
    rw [BlockMap.depthAnywhere, hnone]
  · intro number column
    exact (m.depthAnywhere_cast number column).symm

/-- Where a block closes as soon as it opens, both events stand at one column, and the last
counts. -/
example :
    let m := BlockMap.of .css [⟨1, "a\x7b\x7d".toList, "a\x7b\x7d".toList⟩]
    m.lines = [⟨1, ⟨0, 0⟩, [(2, ⟨1, 0⟩), (2, ⟨0, 0⟩)]⟩] ∧ m.depthAnywhere 1 2 = ⟨0, 0⟩ := by
  cbv

end Blocks

end CampaignCheck

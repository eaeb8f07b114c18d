import CampaignCheck.Proofs.Pattern.Groups
import CampaignCheck.Proofs.Pattern.Scans
import CampaignCheck.Proofs.Text.Letters
import CampaignCheck.Proofs.Text.Slices
import CampaignCheck.Sql.Statement

namespace CampaignCheck.Sql

open Text Pattern

def Statement.stop (s : Statement) : Nat := s.start + s.text.length

def Statement.Covers (s : Statement) (i : Nat) : Prop := s.start ≤ i ∧ i < s.stop

/-- A line of a text, without its line end. -/
structure LineAt (cs : List Char) (start stop : Nat) : Prop where
  first : start = 0 ∨ cs[start - 1]? = some '\n'
  last : stop = cs.length ∨ cs[stop]? = some '\n'
  whole : '\n' ∉ slice cs start stop

/-- A line with nothing but the word GO, in any case, and blanks. -/
structure GoLine (cs : List Char) (start stop : Nat) : Prop where
  line : LineAt cs start stop
  word : upper (trim (slice cs start stop)) = "GO".toList

section Between

variable {cs : List Char}

theorem mem_statementIn {a b : Nat} {s : Statement} : s ∈ statementIn cs a b ↔
    allBlank (slice cs a b) = false ∧ s = ⟨a, slice cs a b⟩ := by
  simp only [statementIn]
  split_ifs with hblank <;> simp [hblank]

theorem stop_slice {a b : Nat} (hab : a ≤ b) (hb : b ≤ cs.length) :
    Statement.stop ⟨a, slice cs a b⟩ = b := by
  rw [Statement.stop, length_slice, Nat.min_eq_left hb, Nat.add_sub_cancel' hab]

/-- The statement stands in the text, and no match reaches into it. -/
structure Statement.Stands (cs : List Char) (ms : List Match) (s : Statement) : Prop where
  stop_le : s.stop ≤ cs.length
  text : slice cs s.start s.stop = s.text
  visible : allBlank s.text = false
  apart : ∀ m ∈ ms, s.stop ≤ m.start ∨ m.stop ≤ s.start

theorem statementIn_stands {a b : Nat} (hab : a ≤ b) (hb : b ≤ cs.length) {ms : List Match}
    (hms : ∀ m ∈ ms, b ≤ m.start) :
    ∀ s ∈ statementIn cs a b, s.start = a ∧ s.stop = b ∧ s.Stands cs ms := by
  intro s hs
  obtain ⟨hvisible, rfl⟩ := mem_statementIn.mp hs
  have hstop := stop_slice hab hb
  refine ⟨rfl, hstop, by rwa [hstop], by rw [hstop], hvisible, fun m hm => .inl ?_⟩
  rw [hstop]
  exact hms m hm

theorem statementsFrom_stands {pos : Nat} {ms : List Match} (h : Spaced cs.length pos ms) :
    ∀ s ∈ statementsFrom cs pos ms, pos ≤ s.start ∧ s.Stands cs ms := by
  induction h with
  | nil hle =>
    have hnone : ∀ m ∈ ([] : List Match), cs.length ≤ m.start := by simp
    intro s hs
    obtain ⟨hstart, -, hstands⟩ := statementIn_stands hle (Nat.le_refl _) hnone s hs
    exact ⟨Nat.le_of_eq hstart.symm, hstands⟩
  | @cons pos m ms hstart hstop h ih =>
    have hnext := h.start_le
    have hlater : ∀ m' ∈ m :: ms, m.start ≤ m'.start := by
      refine List.forall_mem_cons.mpr ⟨Nat.le_refl _, fun m' hm' => ?_⟩
      exact Nat.le_trans (Nat.le_of_lt hstop) (hnext m' hm')
    have hend : m.start ≤ cs.length := Nat.le_trans (Nat.le_of_lt hstop) h.le
    intro s hs
    rcases List.mem_append.mp hs with hs | hs
    · obtain ⟨hs, -, hstands⟩ := statementIn_stands hstart hend hlater s hs
      exact ⟨Nat.le_of_eq hs.symm, hstands⟩
    · obtain ⟨hle, hstands⟩ := ih s hs
      refine ⟨by omega, ?_⟩
      exact { hstands with apart := List.forall_mem_cons.mpr ⟨.inr hle, hstands.apart⟩ }

theorem statementsFrom_pairwise {pos : Nat} {ms : List Match} (h : Spaced cs.length pos ms) :
    (statementsFrom cs pos ms).Pairwise fun s t => s.stop ≤ t.start := by
  induction h with
  | @nil pos hle =>
    rw [statementsFrom, statementIn]
    split_ifs <;> simp
  | @cons pos m ms hstart hstop h ih =>
    rw [statementsFrom]
    refine List.pairwise_append.mpr ⟨?_, ih, fun s hs t ht => ?_⟩
    · rw [statementIn]
      split_ifs <;> simp
    · have hend : m.start ≤ cs.length := Nat.le_trans (Nat.le_of_lt hstop) h.le
      have hnone : ∀ m' ∈ ([] : List Match), m.start ≤ m'.start := by simp
      obtain ⟨-, hs, -⟩ := statementIn_stands hstart hend hnone s hs
      have ht := (statementsFrom_stands h t ht).1
      omega

/-- What stands in no statement and in no match is blank. -/
theorem isBlank_of_outside {pos : Nat} {ms : List Match} (h : Spaced cs.length pos ms) {i : Nat}
    {c : Char} (hi : pos ≤ i) (hc : cs[i]? = some c)
    (hstatements : ∀ s ∈ statementsFrom cs pos ms, ¬ s.Covers i)
    (hms : ∀ m ∈ ms, ¬(m.start ≤ i ∧ i < m.stop)) : isBlank c = true := by
  have hstretch {a b : Nat} (ha : a ≤ i) (hb : i < b) (hle : b ≤ cs.length)
      (hout : ∀ s ∈ statementIn cs a b, ¬ s.Covers i) : isBlank c = true := by
    cases hblank : allBlank (slice cs a b) with
    | true => exact List.all_eq_true.mp hblank c (mem_slice.mpr ⟨i, ha, hb, hc⟩)
    | false =>
      refine absurd ⟨ha, ?_⟩ (hout _ (mem_statementIn.mpr ⟨hblank, rfl⟩))
      rwa [stop_slice (Nat.le_trans ha (Nat.le_of_lt hb)) hle]
  have hlt : i < cs.length := (List.getElem?_eq_some_iff.mp hc).1
  induction h with
  | nil hle => exact hstretch hi hlt (Nat.le_refl _) hstatements
  | @cons pos m ms hstart hstop h ih =>
    have hm := hms m List.mem_cons_self
    rcases Nat.lt_or_ge i m.start with hbefore | hbehind
    · exact hstretch hi hbefore (Nat.le_trans (Nat.le_of_lt hstop) h.le)
        fun s hs => hstatements s (List.mem_append_left _ hs)
    · exact ih (by omega) (fun s hs => hstatements s (List.mem_append_right _ hs))
        (fun m' hm' => hms m' (List.mem_cons_of_mem _ hm'))

end Between

theorem regular_separator : Regular 0 separator 0 :=
  .alt (.one 0 _) (.seq (.seq (.seq (.seq (.anchor 0 _) (.many 0 0 _)) (.seq (.one 0 _) (.one 0 _)))
    (.many 0 0 _)) (.anchor 0 _))

theorem neverEmpty_separator : NeverEmpty separator :=
  neverEmpty_of_leastWidth (by rfl) (by decide)

/-- The text from an offset on starts with the word GO among blanks, from a line start to a line
end. -/
structure StartsWithGo (cs : List Char) (pos stop : Nat) (front word back rest : List Char) :
    Prop where
  split : cs.drop pos = front ++ (word ++ (back ++ rest))
  stop_eq : stop = pos + (front ++ word ++ back).length
  lineStart : pos = 0 ∨ cs[pos - 1]? = some '\n'
  lineEnd : stop = cs.length ∨ cs[stop]? = some '\n'
  front : allBlank front = true
  back : allBlank back = true
  letters : ∃ g ∈ ['G', 'g'], ∃ o ∈ ['O', 'o'], word = [g, o]

theorem mem_of_sameLetter {g o : Char} (hg : sameLetter 'G' g = true)
    (ho : sameLetter 'O' o = true) : g ∈ ['G', 'g'] ∧ o ∈ ['O', 'o'] := by
  have hgs : ((letterForms 'G').all fun c => ['G', 'g'].contains c) = true := by decide +kernel
  have hos : ((letterForms 'O').all fun c => ['O', 'o'].contains c) = true := by decide +kernel
  have hgs' := List.all_eq_true.mp hgs g (mem_letterForms (by decide) hg)
  have hos' := List.all_eq_true.mp hos o (mem_letterForms (by decide) ho)
  exact ⟨List.contains_iff_mem.mp hgs', List.contains_iff_mem.mp hos'⟩

/-- In whatever case the two letters are, they make the word, and neither is blank. -/
theorem upper_go {g o : Char} (hg : g ∈ ['G', 'g']) (ho : o ∈ ['O', 'o']) :
    upper [g, o] = "GO".toList ∧ ∀ c ∈ [g, o], c ≠ '\n' ∧ isBlank c = false := by
  have hall : (['G', 'g'].all fun g => ['O', 'o'].all fun o => upper [g, o] == "GO".toList &&
      [g, o].all fun c => c != '\n' && !isBlank c) = true := by
    decide +kernel
  have hboth := List.all_eq_true.mp (List.all_eq_true.mp hall g hg) o ho
  simpa only [Bool.and_eq_true, beq_iff_eq, List.all_eq_true, bne_iff_ne, ne_eq,
    Bool.not_eq_true'] using hboth

variable {cs : List Char}

theorem tryAt_separator {pos : Nat} {m : Match}
    (h : separator.tryAt cs.toArray pos false = some m) :
    cs[pos]? = some ';' ∧ m.stop = pos + 1 ∨
      ∃ front word back rest, StartsWithGo cs pos m.stop front word back rest := by
  rw [tryAt_eq_leads regular_separator] at h
  obtain ⟨r, hr, rfl⟩ := Option.map_eq_some_iff.mp h
  rcases Option.or_eq_some_iff.mp hr with hsemicolon | ⟨-, hgo⟩
  · left
    replace hsemicolon : (one (.char ';')).leads cs.toArray done (cs.drop pos) pos #[] = some r :=
      hsemicolon
    obtain ⟨c, ds, hdrop, hc, hg⟩ := leads_one_eq_some hsemicolon
    obtain rfl : ';' = c := by simpa [CharSet.mem] using hc
    cases hg
    exact ⟨by rw [← List.head?_drop, hdrop]; rfl, rfl⟩
  · right
    replace hgo : (anchor .lineStart).leads cs.toArray (blanks.leads cs.toArray
      ((seq (one (.anyCase 'G')) (one (.anyCase 'O'))).leads cs.toArray (blanks.leads cs.toArray
        ((anchor .lineEnd).leads cs.toArray done)))) (cs.drop pos) pos #[] = some r := hgo
    rw [leads_anchor] at hgo
    split_ifs at hgo with hstart
    obtain ⟨front, ds, hdrop, -, hfront, hgo⟩ := leads_many_eq_some hgo
    rw [leads_seq] at hgo
    obtain ⟨g, ds, rfl, hg, hgo⟩ := leads_one_eq_some hgo
    obtain ⟨o, ds, rfl, ho, hgo⟩ := leads_one_eq_some hgo
    obtain ⟨back, rest, rfl, -, hback, hgo⟩ := leads_many_eq_some hgo
    rw [leads_anchor] at hgo
    split_ifs at hgo with hend
    cases hgo
    obtain ⟨hg, ho⟩ := mem_of_sameLetter hg ho
    refine ⟨front, [g, o], back, rest, hdrop, ?_, ?_, ?_, List.all_eq_true.mpr hfront,
      List.all_eq_true.mpr hback, g, hg, o, ho, rfl⟩
    · simp only [List.length_append, List.length_cons, List.length_nil]
      omega
    · simpa [Anchor.holds] using hstart
    · simpa [Anchor.holds] using hend

theorem exists_first_line (cs : List Char) :
    ∃ line below, cs = line ++ below ∧ '\n' ∉ line ∧ (below = [] ∨ below.head? = some '\n') := by
  refine ⟨cs.takeWhile (· != '\n'), cs.dropWhile (· != '\n'),
    List.takeWhile_append_dropWhile.symm, fun h => ?_, ?_⟩
  · simpa using List.mem_takeWhile_imp h
  · cases hbelow : cs.dropWhile (· != '\n') with
    | nil => exact .inl rfl
    | cons c ds =>
      have hc := List.head?_dropWhile_not (· != '\n') cs
      rw [hbelow] at hc
      right
      simpa using hc

theorem exists_last_line (cs : List Char) :
    ∃ above line, cs = above ++ line ∧ '\n' ∉ line ∧
      (above = [] ∨ above.getLast? = some '\n') := by
  obtain ⟨line, above, hsplit, hline, habove⟩ := exists_first_line cs.reverse
  refine ⟨above.reverse, line.reverse, ?_, by simpa using hline, by simpa using habove⟩
  rw [← List.reverse_append, ← hsplit, List.reverse_reverse]

/-- Between a line start, perhaps with whole lines behind it, and a line end, perhaps with whole
lines before it, stands one line. -/
theorem lineAt_of_drop {pos : Nat} {above line below rest : List Char}
    (hsplit : cs.drop pos = above ++ (line ++ (below ++ rest))) (hline : '\n' ∉ line)
    (hstart : pos = 0 ∨ cs[pos - 1]? = some '\n') (habove : above = [] ∨ above.getLast? = some '\n')
    (hend : pos + (above ++ line ++ below).length = cs.length ∨
      cs[pos + (above ++ line ++ below).length]? = some '\n')
    (hbelow : below = [] ∨ below.head? = some '\n') :
    LineAt cs (pos + above.length) (pos + (above ++ line).length) := by
  refine ⟨?_, ?_, by rwa [slice_of_drop hsplit]⟩
  · rcases habove with rfl | hlast
    · exact hstart
    · right
      have hne : above ≠ [] := fun hnil => by simp [hnil] at hlast
      have hpos := List.length_pos_of_ne_nil hne
      have hshift : pos + above.length - 1 = pos + (above.length - 1) := by omega
      rw [hshift, ← List.getElem?_drop, hsplit, List.getElem?_append_left (by omega),
        ← List.getLast?_eq_getElem?]
      exact hlast
  · rcases hbelow with rfl | hhead
    · simpa using hend
    · right
      rw [← List.append_assoc] at hsplit
      rw [← List.head?_drop, drop_of_drop hsplit, List.head?_append, hhead]
      rfl

theorem within_of_visible {above line below rest : List Char} (habove : allBlank above = true)
    (hbelow : allBlank below = true) {j : Nat} {c : Char} (hj : j < (above ++ line ++ below).length)
    (hc : (above ++ (line ++ (below ++ rest)))[j]? = some c) (hvisible : isBlank c = false) :
    above.length ≤ j ∧ j < (above ++ line).length := by
  simp only [List.length_append] at hj ⊢
  refine ⟨?_, ?_⟩
  · by_contra hlt
    rw [List.getElem?_append_left (by omega)] at hc
    exact not_mem_of_visible habove hvisible (List.mem_of_getElem? hc)
  · by_contra hge
    rw [List.getElem?_append_right (by omega), List.getElem?_append_right (by omega),
      List.getElem?_append_left (by omega)] at hc
    exact not_mem_of_visible hbelow hvisible (List.mem_of_getElem? hc)

/-- The word GO stands alone on a line, and what is not blank from where the text starts with it is
on that line. -/
theorem StartsWithGo.goLine {pos stop : Nat} {front word back rest : List Char}
    (h : StartsWithGo cs pos stop front word back rest) :
    ∃ a b, GoLine cs a b ∧ ∀ i c, pos ≤ i → i < stop → cs[i]? = some c → isBlank c = false →
      a ≤ i ∧ i < b := by
  obtain ⟨above, before, rfl, hbefore, habove⟩ := exists_last_line front
  obtain ⟨behind, below, rfl, hbehind, hbelow⟩ := exists_first_line back
  obtain ⟨hsplit, rfl, hstart, hend, hfront, hback, g, hg, o, ho, rfl⟩ := h
  simp only [allBlank, List.all_append, Bool.and_eq_true] at hfront hback
  have hword := upper_go hg ho
  generalize hletters : [g, o] = word at hsplit hend hword ⊢
  have hlines : cs.drop pos = above ++ ((before ++ (word ++ behind)) ++ (below ++ rest)) := by
    rw [hsplit]
    simp only [List.append_assoc]
  have hline : '\n' ∉ before ++ (word ++ behind) := by
    simp only [List.mem_append, not_or]
    exact ⟨hbefore, fun hmem => (hword.2 _ hmem).1 rfl, hbehind⟩
  have hlength : above ++ before ++ word ++ (behind ++ below) =
      above ++ (before ++ (word ++ behind)) ++ below := by
    simp only [List.append_assoc]
  rw [hlength] at hend ⊢
  refine ⟨_, _, ⟨lineAt_of_drop hlines hline hstart habove hend hbelow, ?_⟩, ?_⟩
  · rw [slice_of_drop hlines, trim_between hfront.2 hback.1]
    · exact hword.1
    · exact fun c hc => (hword.2 c (List.mem_of_head? hc)).2
    · exact fun c hc => (hword.2 c (List.mem_of_getLast? hc)).2
  · intro i c hi hi' hc hvisible
    obtain ⟨j, rfl⟩ := Nat.exists_eq_add_of_le hi
    rw [← List.getElem?_drop, hlines] at hc
    have hwithin := within_of_visible hfront.1 hback.2 (by omega) hc hvisible
    omega

theorem tryAt_separator_of_semicolon {i : Nat} (h : cs[i]? = some ';') :
    separator.tryAt cs.toArray i false ≠ none := by
  have hdrop : cs.drop i = ';' :: cs.drop (i + 1) := by
    obtain ⟨hlt, hc⟩ := List.getElem?_eq_some_iff.mp h
    rw [List.drop_eq_getElem_cons hlt, hc]
  rw [tryAt_eq_leads regular_separator, hdrop]
  exact fun hnone => nomatch hnone

/-- Statements lose nothing. They follow each other, each is a visible stretch of the text without a
semicolon, and whatever stands in none of them is blank or belongs to a separator: it is a semicolon
or stands on a line with the word GO alone. -/
theorem statements_lossless (cs : List Char) :
    ((statements cs).Pairwise fun s t => s.start < t.start ∧ s.stop ≤ t.start) ∧
    (∀ s ∈ statements cs, s.stop ≤ cs.length ∧ slice cs s.start s.stop = s.text ∧
      allBlank s.text = false ∧ ';' ∉ s.text) ∧
    ∀ i c, cs[i]? = some c → (∀ s ∈ statements cs, ¬ s.Covers i) →
      isBlank c = true ∨ ∃ m ∈ separator.findAll cs, (m.start ≤ i ∧ i < m.stop) ∧
        (c = ';' ∧ m.stop = m.start + 1 ∨ ∃ a b, GoLine cs a b ∧ a ≤ i ∧ i < b) := by
  have hscans := scans_findAll neverEmpty_separator cs
  have hspaced := hscans.spaced (Nat.zero_le _)
  have hstands (s : Statement) (hs : s ∈ statements cs) : s.Stands cs (separator.findAll cs) :=
    (statementsFrom_stands hspaced s hs).2
  refine ⟨?_, fun s hs => ?_, fun i c hc hout => ?_⟩
  · refine (statementsFrom_pairwise hspaced).imp_of_mem fun {s t} hs _ hle => ⟨?_, hle⟩
    have hne : s.text ≠ [] := by
      intro hnil
      have hvisible := (hstands s hs).visible
      rw [hnil] at hvisible
      cases hvisible
    exact Nat.lt_of_lt_of_le (Nat.lt_add_of_pos_right (List.length_pos_of_ne_nil hne)) hle
  · obtain ⟨hstop, htext, hvisible, hapart⟩ := hstands s hs
    refine ⟨hstop, htext, hvisible, fun hmem => ?_⟩
    rw [← htext] at hmem
    obtain ⟨i, hstart, hlt, hc⟩ := mem_slice.mp hmem
    -- A semicolon that no match covers would have been one.
    refine tryAt_separator_of_semicolon hc (hscans.passed (Nat.zero_le i) (fun m hm hin => ?_)
      (List.getElem?_eq_some_iff.mp hc).1)
    have hm := hapart m hm
    omega
  · cases hblank : isBlank c with
    | true => exact .inl rfl
    | false =>
      right
      by_contra hnone
      have hms : ∀ m ∈ separator.findAll cs, ¬(m.start ≤ i ∧ i < m.stop) := by
        intro m hm hin
        refine hnone ⟨m, hm, hin, ?_⟩
        rcases tryAt_separator (hscans.hits m hm).1 with ⟨hsemicolon, hstop⟩ | ⟨f, w, b, r, hgo⟩
        · obtain rfl : m.start = i := by omega
          exact .inl ⟨Option.some.inj (hc.symm.trans hsemicolon), hstop⟩
        · obtain ⟨a, b, hline, hon⟩ := hgo.goLine
          exact .inr ⟨a, b, hline, hon i c hin.1 hin.2 hc hblank⟩
      have hyes := isBlank_of_outside hspaced (Nat.zero_le i) hc hout hms
      rw [hblank] at hyes
      cases hyes

end CampaignCheck.Sql

import CampaignCheck.Proofs.Lexical.Contexts
import CampaignCheck.Proofs.Text.Positions
import CampaignCheck.Proofs.Text.Slices

/-!
Semicolons in masked lines. A semicolon neither starts nor ends a comment or a literal, and markers
of comments are at most two characters long. So one that is put right behind a kept character, where
masking goes on with code, is kept, and nothing else of the masked form changes.
-/

namespace CampaignCheck

open Text

/-- A line with a semicolon behind the first `p` characters. -/
def Text.withSemicolon (p : Nat) (line : List Char) : List Char :=
  line.take p ++ [';'] ++ line.drop p

theorem Text.withSemicolon_succ (p : Nat) (c : Char) (cs : List Char) :
    withSemicolon (p + 1) (c :: cs) = c :: withSemicolon p cs := rfl

theorem Text.withSemicolon_zero (cs : List Char) : withSemicolon 0 cs = ';' :: cs := rfl

/-- The lexicon gives a semicolon no meaning, and has short markers and visible quotes. -/
structure Lexicon.IgnoresSemicolons (x : Lexicon) : Prop where
  block : ∀ m ∈ x.blockComment, (m.1.length ≤ 2 ∧ ';' ∉ m.1) ∧ m.2.length ≤ 2 ∧ ';' ∉ m.2
  line : ∀ m ∈ x.lineComment, m.length ≤ 2 ∧ ';' ∉ m
  quotes : ∀ q ∈ x.quotes, q ≠ ';' ∧ q ≠ '\\' ∧ isBlank q = false

theorem Lexicon.ssjs_ignoresSemicolons : (Lexicon.of .ssjs).IgnoresSemicolons := by
  constructor <;> simp [Lexicon.of]
  decide

theorem Lexicon.css_ignoresSemicolons : (Lexicon.of .css).IgnoresSemicolons := by
  constructor <;> simp [Lexicon.of]
  decide

theorem Text.isPrefixOf_of_length_le {m : List Char} (hm : m.length ≤ 2) (c d : Char)
    (r r' : List Char) : m.isPrefixOf (c :: d :: r') = m.isPrefixOf (c :: d :: r) := by
  match m, hm with
  | [], _ => simp
  | [a], _ => simp [List.isPrefixOf]
  | [a, b], _ => simp [List.isPrefixOf]

theorem Text.isPrefixOf_of_semicolon {m : List Char} (hm : m.length ≤ 2) (hsign : ';' ∉ m)
    {c : Char} {r : List Char} (h : m.isPrefixOf (c :: r) = false) :
    m.isPrefixOf (c :: ';' :: r) = false := by
  match m, hm with
  | [], _ => simp at h
  | [a], _ => simpa [List.isPrefixOf] using h
  | [a, b], _ =>
    have hb : b ≠ ';' := by
      rintro rfl
      simp at hsign
    simp [List.isPrefixOf, hb]

theorem Text.blank_behind (cs : List Char) :
    ∀ c ∈ cs.drop (trimRight cs).length, isBlank c = true := by
  intro c hc
  obtain ⟨i, hi⟩ := List.getElem?_of_mem hc
  rw [List.getElem?_drop] at hi
  by_contra hvisible
  have hlt := lt_length_dropEndWhile hi (Bool.eq_false_iff.mpr hvisible)
  rw [trimRight] at hlt
  omega

namespace Mask

def Context.IsLiteral : Context → Prop
  | .literal _ _ => True
  | _ => False

/-- What is known before the character with an index. -/
def stateAt (x : Lexicon) (number : Nat) : Nat → State → List Char → Nat → State
  | _, s, _, 0 => s
  | _, s, [], _ + 1 => s
  | column, s, c :: rest, p + 1 =>
    stateAt x number (column + 1) (step x ⟨number, column⟩ s c rest).2 rest p

/-- The number of characters of a line up to its last character of code, the line masked on its
own. -/
def codeLength (x : Lexicon) (line : List Char) : Nat := (trimRight (alone x line)).length

section Gaps

variable {x : Lexicon} (hx : x.SkipsBlanks)

theorem chars_blanked (x : Lexicon) (number column : Nat) (c : Context) (cs : List Char) :
    chars x number column ⟨cs.length, c⟩ cs = (List.replicate cs.length ' ', ⟨0, c⟩) := by
  induction cs generalizing column with
  | nil => rfl
  | cons d cs ih => simp only [List.length_cons, chars, step, ih, List.replicate_succ]

include hx

/-- A character that is kept and visible is one of code or the quote that ends a literal. -/
theorem step_visible (here : Position) {s : State} {c : Char} {rest : List Char}
    (hs : s.context.Of x) (h : isBlank (step x here s c rest).1 = false) :
    (s = ⟨0, .code⟩ ∧ Plain x (c :: rest)) ∨ ∃ opened, s = ⟨0, .literal c opened⟩ ∧
      (x.escapes && c == '\\' && !rest.isEmpty) = false := by
  rcases step_cases hx here c rest hs with ⟨hblank, -⟩ | hkept | hkept
  · rw [hblank] at h
    cases h
  · exact .inl hkept
  · exact .inr hkept

omit hx in
theorem step_quote (here opened : Position) {c : Char} {rest : List Char}
    (h : (x.escapes && c == '\\' && !rest.isEmpty) = false) :
    step x here ⟨0, .literal c opened⟩ c rest = (c, ⟨0, .code⟩) := by
  simp only [step, h]
  simp

variable (he : x.IgnoresSemicolons)
include he

theorem plain_semicolon (cs : List Char) : Plain x (';' :: cs) := by
  have hstart (m : List Char) (hne : m ≠ []) (hm : ';' ∉ m) : m.isPrefixOf (';' :: cs) = false := by
    cases m with
    | nil => exact absurd rfl hne
    | cons a m =>
      have ha : ';' ≠ a ∧ ';' ∉ m := by simpa using hm
      simp [List.isPrefixOf, Ne.symm ha.1]
  constructor
  · intro m hm
    exact hstart m.1 (hx.block m hm).1 (he.block m hm).1.2
  · cases hm : x.lineComment with
    | none => rfl
    | some m =>
      by_cases hne : m = []
      · simp [starts, hne]
      · simp [starts, hstart m hne (he.line m hm).2]

theorem step_semicolon (here : Position) (rest : List Char) :
    step x here ⟨0, .code⟩ ';' rest = (';', ⟨0, .code⟩) := by
  have hquote : ';' ∉ x.quotes := fun h => (he.quotes ';' h).1 rfl
  rw [step_plain hx here (plain_semicolon hx he rest)]
  simp [hquote]

omit hx in
theorem Plain.before_semicolon {c : Char} {rest : List Char} (h : Plain x (c :: rest)) :
    Plain x (c :: ';' :: rest) := by
  constructor
  · intro m hm
    have hshort := (he.block m hm).1
    exact isPrefixOf_of_semicolon hshort.1 hshort.2 (h.block m hm)
  · have hline := h.line
    cases hm : x.lineComment with
    | none => rfl
    | some m =>
      have hshort := he.line m hm
      simp only [starts, hm, Bool.and_eq_false_iff] at hline ⊢
      exact hline.imp_right (isPrefixOf_of_semicolon hshort.1 hshort.2)

/-- The last visible character is read alike with a semicolon behind it. -/
theorem step_before_semicolon (here : Position) {s : State} {c : Char} {rest : List Char}
    (hs : s.context.Of x) (h : isBlank (step x here s c rest).1 = false) :
    step x here s c (';' :: rest) = step x here s c rest := by
  rcases step_visible hx here hs h with ⟨rfl, hplain⟩ | ⟨opened, rfl, hescape⟩
  · rw [step_plain hx here hplain, step_plain hx here (hplain.before_semicolon he)]
  · have hbackslash : c ≠ '\\' := (he.quotes c hs).2.1
    rw [step_quote here opened hescape, step_quote here opened (by simp [hbackslash])]

omit hx in
/-- Two characters are read ahead at most, but for a comment that goes to the end of the line. -/
theorem step_ahead (here : Position) (s : State) (c d : Char) (r r' : List Char) :
    step x here s c (d :: r') = step x here s c (d :: r) ∨
      (step x here s c (d :: r)).2 = ⟨(d :: r).length, .code⟩ := by
  have hcode : inCode x here c (d :: r') = inCode x here c (d :: r) ∨
      (inCode x here c (d :: r)).2 = ⟨(d :: r).length, .code⟩ := by
    have hstarts : starts x.lineComment (c :: d :: r') = starts x.lineComment (c :: d :: r) := by
      cases hm : x.lineComment with
      | none => rfl
      | some m => simp only [starts, isPrefixOf_of_length_le (he.line m hm).1 c d r r']
    unfold inCode
    rw [hstarts]
    split_ifs
    · exact .inr rfl
    · exact .inl rfl
    · exact .inl rfl
  have hout : outside x here c (d :: r') = outside x here c (d :: r) ∨
      (outside x here c (d :: r)).2 = ⟨(d :: r).length, .code⟩ := by
    unfold outside
    cases hm : x.blockComment with
    | none => exact hcode
    | some m =>
      simp only [isPrefixOf_of_length_le (he.block m hm).1.1 c d r r']
      split_ifs
      · exact .inl rfl
      · exact hcode
  have hcomment (stop : List Char) (hstop : stop.length ≤ 2) :
      inComment stop c (d :: r') = inComment stop c (d :: r) := by
    unfold inComment
    rw [isPrefixOf_of_length_le hstop c d r r']
  unfold step
  split
  · exact .inl rfl
  · split
    · next hm => exact .inl (hcomment _ (he.block _ hm).2.1)
    · exact hout
  · exact .inl rfl
  · split
    · next hm => exact .inl (hcomment _ (he.block _ hm).2.1)
    · exact hout

/-- Right behind a visible character that leaves code, a semicolon is kept and changes nothing. -/
theorem chars_withSemicolon (hequals : x.IgnoresPliant) (number column : Nat) {s : State}
    {cs : List Char} {p : Nat} {c : Char} (hs : s.context.Of x)
    (hc : (chars x number column s cs).1[p]? = some c) (hvisible : isBlank c = false)
    (hcode : stateAt x number column s cs (p + 1) = ⟨0, .code⟩) :
    (chars x number column s (withSemicolon (p + 1) cs)).1 =
        withSemicolon (p + 1) (chars x number column s cs).1 ∧
      (chars x number column s cs).2.context.Like
        (chars x number column s (withSemicolon (p + 1) cs)).2.context := by
  induction cs generalizing p column s with
  | nil => simp [chars] at hc
  | cons d cs ih =>
    have hs' := step_of ⟨number, column⟩ d cs hs
    cases p with
    | zero =>
      obtain rfl : (step x ⟨number, column⟩ s d cs).1 = c := by simpa [chars] using hc
      have hstate : (step x ⟨number, column⟩ s d cs).2 = ⟨0, .code⟩ := by
        simpa [stateAt] using hcode
      have hsame := step_before_semicolon hx he ⟨number, column⟩ hs hvisible
      have hmove := chars_stretch hx hequals number number (column + 1) (column + 1 + 1)
        (Elastic.zero cs).pliant (s := ⟨0, .code⟩) trivial (.of_like .code)
      rw [stretch_zero] at hmove
      simp only [withSemicolon_succ, withSemicolon_zero, chars, hsame, hstate,
        step_semicolon hx he]
      refine ⟨?_, hmove.2⟩
      rw [hmove.1]
      simp [stretch_zero]
    | succ p =>
      cases cs with
      | nil => simp [chars] at hc
      | cons e cs =>
        have hrest : (chars x number (column + 1) (step x ⟨number, column⟩ s d (e :: cs)).2
            (e :: cs)).1[p]? = some c := by simpa [chars] using hc
        rcases step_ahead he ⟨number, column⟩ s d e cs (withSemicolon p cs) with hahead | hcomment
        · obtain ⟨hmasked, hlike⟩ := ih (column + 1) hs' hrest (by simpa [stateAt] using hcode)
          have hrun : chars x number column s (d :: e :: withSemicolon p cs) =
              ((step x ⟨number, column⟩ s d (e :: cs)).1 ::
                (chars x number (column + 1) (step x ⟨number, column⟩ s d (e :: cs)).2
                  (e :: withSemicolon p cs)).1,
                (chars x number (column + 1) (step x ⟨number, column⟩ s d (e :: cs)).2
                  (e :: withSemicolon p cs)).2) := by
            rw [chars, hahead]
          rw [withSemicolon_succ, withSemicolon_succ, hrun]
          exact ⟨congrArg (List.cons _) hmasked, hlike⟩
        · -- A comment to the end of the line leaves nothing visible.
          rw [hcomment, chars_blanked, List.getElem?_replicate] at hrest
          split_ifs at hrest
          obtain rfl : ' ' = c := by simpa using hrest
          cases hvisible

omit he in
/-- Behind a visible character masking goes on with code or in a literal. -/
theorem stateAt_visible (number column : Nat) {s : State} {cs : List Char} {p : Nat} {c : Char}
    (hs : s.context.Of x) (hc : (chars x number column s cs).1[p]? = some c)
    (hvisible : isBlank c = false) :
    stateAt x number column s cs (p + 1) = ⟨0, .code⟩ ∨
      ∃ q o, stateAt x number column s cs (p + 1) = ⟨0, .literal q o⟩ := by
  induction cs generalizing p column s with
  | nil => simp [chars] at hc
  | cons d cs ih =>
    cases p with
    | zero =>
      obtain rfl : (step x ⟨number, column⟩ s d cs).1 = c := by simpa [chars] using hc
      simp only [stateAt]
      rcases step_visible hx ⟨number, column⟩ hs hvisible with ⟨rfl, hplain⟩ | ⟨o, rfl, hescape⟩
      · rw [step_plain hx ⟨number, column⟩ hplain]
        simp only
        split_ifs
        · exact .inr ⟨_, _, rfl⟩
        · exact .inl rfl
      · rw [step_quote ⟨number, column⟩ o hescape]
        exact .inl rfl
    | succ p =>
      have hrest : (chars x number (column + 1) (step x ⟨number, column⟩ s d cs).2 cs).1[p]? =
          some c := by simpa [chars] using hc
      exact ih (column + 1) (step_of ⟨number, column⟩ d cs hs) hrest

omit hx he in
theorem Context.isLiteral_seen (c : Context) : c.seen.IsLiteral ↔ c.IsLiteral := by
  cases c <;> rfl

/-- Where nothing visible is left, no literal is opened or closed. -/
theorem isLiteral_of_blank (number column : Nat) {s : State} {cs : List Char}
    (hs : s.context.Of x) (h : ∀ c ∈ (chars x number column s cs).1, isBlank c = true) :
    (chars x number column s cs).2.context.IsLiteral ↔ s.context.IsLiteral := by
  induction cs generalizing column s with
  | nil => rfl
  | cons c cs ih =>
    simp only [chars, List.mem_cons, forall_eq_or_imp] at h
    obtain ⟨hfirst, hrest⟩ := h
    have hnext : (step x ⟨number, column⟩ s c cs).2.context.IsLiteral ↔ s.context.IsLiteral := by
      rcases step_cases hx ⟨number, column⟩ c cs hs with
        ⟨-, hseen⟩ | ⟨rfl, hplain⟩ | ⟨opened, rfl, hescape⟩
      · rw [← Context.isLiteral_seen, hseen, Context.isLiteral_seen]
      · rw [step_plain hx ⟨number, column⟩ hplain] at hfirst ⊢
        have hquote : c ∉ x.quotes := by
          intro hmem
          have hvisible := (he.quotes c hmem).2.2
          simp only [hfirst] at hvisible
          cases hvisible
        simp [hquote]
      · rw [step_quote ⟨number, column⟩ opened hescape] at hfirst
        have hvisible := (he.quotes c hs).2.2
        simp only [hfirst] at hvisible
        cases hvisible
    rw [chars]
    exact (ih (column + 1) (step_of ⟨number, column⟩ c cs hs) hrest).trans hnext

omit hx he in
theorem stateAt_of (number column : Nat) {s : State} (cs : List Char) (p : Nat)
    (hs : s.context.Of x) : (stateAt x number column s cs p).context.Of x := by
  induction p generalizing column s cs with
  | zero => exact hs
  | succ p ih =>
    cases cs with
    | nil => exact hs
    | cons c cs => exact ih (column + 1) cs (step_of ⟨number, column⟩ c cs hs)

omit hx he in
theorem chars_drop (number column : Nat) (s : State) (cs : List Char) (p : Nat) :
    (chars x number column s cs).1.drop p =
        (chars x number (column + p) (stateAt x number column s cs p) (cs.drop p)).1 ∧
      (chars x number column s cs).2 =
        (chars x number (column + p) (stateAt x number column s cs p) (cs.drop p)).2 := by
  induction p generalizing column s cs with
  | zero => simp [stateAt]
  | succ p ih =>
    cases cs with
    | nil => simp [chars, stateAt]
    | cons c cs =>
      have hcolumn : column + (p + 1) = column + 1 + p := by omega
      rw [hcolumn]
      exact ih (column + 1) _ cs

end Gaps

section Ends

variable {x : Lexicon} {line : List Char}

theorem codeLength_le (x : Lexicon) (line : List Char) : codeLength x line ≤ line.length := by
  have hle := length_dropEndWhile_le isBlank (alone x line)
  rwa [alone, (chars_shows x 1 0 _ line).length_eq] at hle

theorem visible_of_codeLength {n : Nat} (h : codeLength x line = n + 1) :
    ∃ c, (alone x line)[n]? = some c ∧ isBlank c = false :=
  visible_last h

/-- In a line that starts in code, masking is in code behind the last character of code unless a
literal is open at the end of the line. -/
theorem stateAt_codeLength_iff (hx : x.SkipsBlanks) (he : x.IgnoresSemicolons)
    (hpos : 0 < codeLength x line) :
    stateAt x 1 0 ⟨0, .code⟩ line (codeLength x line) = ⟨0, .code⟩ ↔
      ¬ (chars x 1 0 ⟨0, .code⟩ line).2.context.IsLiteral := by
  obtain ⟨n, hn⟩ := Nat.exists_eq_add_of_lt hpos
  rw [Nat.zero_add] at hn
  obtain ⟨c, hc, hvisible⟩ := visible_of_codeLength hn
  have hcode : Context.code.Of x := trivial
  have hreach := stateAt_visible hx 1 0 (s := ⟨0, .code⟩) hcode hc hvisible
  obtain ⟨hdrop, hend⟩ := chars_drop (x := x) 1 0 ⟨0, .code⟩ line (n + 1)
  have hblank : ∀ c ∈ (alone x line).drop (n + 1), isBlank c = true := hn ▸ blank_behind _
  rw [alone, hdrop] at hblank
  have hsame := fun hs => isLiteral_of_blank hx he 1 (0 + (n + 1)) hs hblank
  rw [hn, hend]
  rcases hreach with hstate | ⟨q, o, hstate⟩
  · rw [hstate] at hsame ⊢
    have hnot := (hsame trivial).not.mpr (by simp [Context.IsLiteral])
    exact ⟨fun _ => hnot, fun _ => rfl⟩
  · have hof := stateAt_of 1 0 line (n + 1) (s := ⟨0, .code⟩) hcode
    rw [hstate] at hsame hof ⊢
    have hliteral := (hsame hof).mpr trivial
    refine ⟨?_, fun hnot => absurd hliteral hnot⟩
    intro h
    cases h

/-- A line with code, in which no literal is open at the end. -/
structure EndsInCode (x : Lexicon) (line : List Char) : Prop where
  pos : 0 < codeLength x line
  noLiteral : ¬ (chars x 1 0 ⟨0, .code⟩ line).2.context.IsLiteral

/-- The line stays, or gets a semicolon behind its code where it is shown as it is. -/
def Ended (x : Lexicon) (shown raw raw' : List Char) : Prop :=
  raw' = raw ∨ shown = raw ∧ EndsInCode x raw ∧ raw' = withSemicolon (codeLength x raw) raw

variable (hx : x.SkipsBlanks) (he : x.IgnoresSemicolons) (h : EndsInCode x line)
include hx he h

/-- A semicolon behind the last character of code is masked as it is written. -/
theorem EndsInCode.withSemicolon (hequals : x.IgnoresPliant) :
    inside x .code (withSemicolon (codeLength x line) line) =
        Text.withSemicolon (codeLength x line) (inside x .code line) ∧
      (after x .code line).Like (after x .code (Text.withSemicolon (codeLength x line) line)) := by
  obtain ⟨n, hn⟩ := Nat.exists_eq_add_of_lt h.pos
  rw [Nat.zero_add] at hn
  obtain ⟨c, hc, hvisible⟩ := visible_of_codeLength hn
  have hstate := (stateAt_codeLength_iff hx he h.pos).mpr h.noLiteral
  rw [hn] at hstate ⊢
  obtain ⟨hmasked, hlike⟩ := chars_withSemicolon hx he hequals 1 0 (s := ⟨0, .code⟩) trivial hc
    hvisible hstate
  exact ⟨hmasked, endLine_like hlike⟩

/-- What follows the code of a line is blank, or starts a comment. -/
theorem EndsInCode.next {c : Char} {rest : List Char}
    (hdrop : line.drop (codeLength x line) = c :: rest) :
    isBlank c = true ∨ ¬ Plain x (c :: rest) := by
  by_cases hplain : Plain x (c :: rest)
  · have hstate := (stateAt_codeLength_iff hx he h.pos).mpr h.noLiteral
    obtain ⟨hmasked, -⟩ := chars_drop (x := x) 1 0 ⟨0, .code⟩ line (codeLength x line)
    rw [hstate, hdrop, chars, step_plain hx _ hplain] at hmasked
    have hblank := blank_behind (alone x line) c
    rw [alone] at hblank
    refine .inl (hblank ?_)
    change c ∈ (chars x 1 0 ⟨0, .code⟩ line).1.drop (codeLength x line)
    rw [hmasked]
    exact List.mem_cons_self
  · exact .inr hplain

end Ends

end Mask

end CampaignCheck

import CampaignCheck.Proofs.Lexical.Views
import CampaignCheck.Proofs.Text.Stretch

namespace CampaignCheck

open Text

/-- Every marker of a comment has characters, and a blank neither starts a comment nor is a
quote. -/
structure Lexicon.SkipsBlanks (x : Lexicon) : Prop where
  block : ∀ m ∈ x.blockComment, m.1 ≠ [] ∧ m.2 ≠ [] ∧ ' ' ∉ m.1
  line : ∀ m ∈ x.lineComment, ' ' ∉ m
  quotes : ' ' ∉ x.quotes

theorem Lexicon.of_skipsBlanks (d : Dialect) : (Lexicon.of d).SkipsBlanks := by
  cases d <;> constructor <;> simp [Lexicon.of]

/-- A marker without blanks that starts in a view starts in the source. -/
theorem Text.Shows.isPrefixOf {view source marker : List Char} (h : Shows view source)
    (hm : ' ' ∉ marker) (hp : marker.isPrefixOf view = true) : marker.isPrefixOf source = true := by
  induction marker generalizing view source with
  | nil => simp
  | cons a marker ih =>
    cases h with
    | nil => simp at hp
    | @cons d c view source hd hs =>
      have ha : ' ' ≠ a ∧ ' ' ∉ marker := by simpa using hm
      simp only [List.isPrefixOf, Bool.and_eq_true, beq_iff_eq] at hp ⊢
      refine ⟨?_, ih hs ha.2 hp.2⟩
      rcases hd with rfl | rfl
      · exact hp.1
      · exact absurd hp.1.symm ha.1

/-- The lexicon gives equals signs and blanks no meaning. -/
structure Lexicon.IgnoresPliant (x : Lexicon) : Prop where
  block : ∀ m ∈ x.blockComment, Stiff m.1 ∧ Stiff m.2
  line : ∀ m ∈ x.lineComment, Stiff m
  quotes : Stiff x.quotes

theorem Lexicon.of_ignoresPliant (d : Dialect) : (Lexicon.of d).IgnoresPliant := by
  cases d <;> constructor <;> simp [Lexicon.of, Stiff]

namespace Mask

/-- The context at the same place of the masked text, which has no comments. -/
def Context.seen : Context → Context
  | .comment => .code
  | c => c

def Context.Of (x : Lexicon) : Context → Prop
  | .code => True
  | .comment => x.blockComment.isSome
  | .literal quote _ => quote ∈ x.quotes

/-- No comment starts with the characters. -/
structure Plain (x : Lexicon) (cs : List Char) : Prop where
  block : ∀ m ∈ x.blockComment, m.1.isPrefixOf cs = false
  line : starts x.lineComment cs = false

theorem Plain.of_shows {x : Lexicon} (hx : x.SkipsBlanks) {view source : List Char}
    (h : Plain x source) (hs : Text.Shows view source) : Plain x view := by
  constructor
  · intro m hm
    have hsource := h.block m hm
    by_contra hview
    have hp := hs.isPrefixOf (hx.block m hm).2.2 (by simpa using hview)
    rw [hsource] at hp
    cases hp
  · have hline := h.line
    cases hm : x.lineComment with
    | none => rfl
    | some m =>
      simp only [starts, hm, Bool.and_eq_false_iff] at hline ⊢
      refine hline.imp_right fun hsource => ?_
      by_contra hview
      have hp := hs.isPrefixOf (hx.line m hm) (by simpa using hview)
      rw [hsource] at hp
      cases hp

theorem plain_blank {x : Lexicon} (hx : x.SkipsBlanks) (cs : List Char) : Plain x (' ' :: cs) := by
  have hstart (m : List Char) (hne : m ≠ []) (hm : ' ' ∉ m) : m.isPrefixOf (' ' :: cs) = false := by
    cases m with
    | nil => exact absurd rfl hne
    | cons a m =>
      have ha : ' ' ≠ a ∧ ' ' ∉ m := by simpa using hm
      simp [List.isPrefixOf, Ne.symm ha.1]
  constructor
  · intro m hm
    obtain ⟨hne, -, hblank⟩ := hx.block m hm
    exact hstart m.1 hne hblank
  · cases hm : x.lineComment with
    | none => rfl
    | some m =>
      by_cases hne : m = []
      · simp [starts, hne]
      · simp [starts, hstart m hne (hx.line m hm)]

theorem step_code {x : Lexicon} (hx : x.SkipsBlanks) (here : Text.Position) (c : Char)
    (rest : List Char) : step x here ⟨0, .code⟩ c rest = outside x here c rest := by
  simp only [step]
  split
  · next stop hb => exact absurd rfl (hx.block _ hb).1
  · rfl

/-- A character of code where no comment starts is kept, and opens a literal if it is a quote. -/
theorem step_plain {x : Lexicon} (hx : x.SkipsBlanks) (here : Text.Position) {c : Char}
    {rest : List Char} (h : Plain x (c :: rest)) :
    step x here ⟨0, .code⟩ c rest =
      (c, ⟨0, if x.quotes.contains c then .literal c here else .code⟩) := by
  have hcode : inCode x here c rest =
      (c, ⟨0, if x.quotes.contains c then .literal c here else .code⟩) := by
    unfold inCode
    rw [h.line]
    split_ifs <;> simp_all
  have hout : outside x here c rest = inCode x here c rest := by
    unfold outside
    split
    · next start stop hb =>
      have hs := h.block (start, stop) hb
      simp [hs]
    · rfl
  rw [step_code hx, hout, hcode]

/-- A character of code that starts a comment is blanked, and so is what follows. -/
theorem step_comment {x : Lexicon} (hx : x.SkipsBlanks) (here : Text.Position) {c : Char}
    {rest : List Char} (h : ¬ Plain x (c :: rest)) :
    (step x here ⟨0, .code⟩ c rest).1 = ' ' ∧
      (step x here ⟨0, .code⟩ c rest).2.context.seen = .code := by
  have hcode (hb : ∀ m ∈ x.blockComment, m.1.isPrefixOf (c :: rest) = false) :
      (inCode x here c rest).1 = ' ' ∧ (inCode x here c rest).2.context.seen = .code := by
    have hline : starts x.lineComment (c :: rest) = true := by
      by_contra hn
      exact h ⟨hb, by simpa using hn⟩
    simp [inCode, hline, Context.seen]
  rw [step_code hx]
  unfold outside
  split
  · next start stop hb =>
    split_ifs with hs
    · exact ⟨rfl, rfl⟩
    · refine hcode fun m hm => ?_
      cases hb.symm.trans hm
      exact Bool.eq_false_iff.mpr hs
  · next hb => exact hcode fun m hm => by cases hb.symm.trans hm

theorem step_literal_blank {x : Lexicon} (here opened : Text.Position) {quote : Char}
    (hq : quote ≠ ' ') (rest : List Char) :
    step x here ⟨0, .literal quote opened⟩ ' ' rest = (' ', ⟨0, .literal quote opened⟩) := by
  simp [step, Ne.symm hq]

/-- What a step can do: blank the character and stay in the same context of the masked text, keep a
character of code, or keep the quote that ends a literal. -/
theorem step_cases {x : Lexicon} (hx : x.SkipsBlanks) (here : Text.Position) {s : State} (c : Char)
    (rest : List Char) (hs : s.context.Of x) :
    ((step x here s c rest).1 = ' ' ∧ (step x here s c rest).2.context.seen = s.context.seen) ∨
    (s = ⟨0, .code⟩ ∧ Plain x (c :: rest)) ∨
    ∃ opened, s = ⟨0, .literal c opened⟩ ∧ (x.escapes && c == '\\' && !rest.isEmpty) = false := by
  obtain ⟨blanks, context⟩ := s
  cases blanks with
  | succ n => exact .inl ⟨rfl, rfl⟩
  | zero =>
    cases context with
    | comment =>
      obtain ⟨⟨start, stop⟩, hb⟩ := Option.isSome_iff_exists.mp hs
      obtain ⟨-, hne, -⟩ := hx.block _ hb
      obtain ⟨d, stop, rfl⟩ := List.exists_cons_of_ne_nil hne
      simp only [step, hb, inComment, blankMarker]
      refine .inl ?_
      split_ifs <;> exact ⟨rfl, rfl⟩
    | literal quote opened =>
      simp only [step]
      split_ifs with hescape hquote
      · exact .inl ⟨rfl, rfl⟩
      · have he : c = quote := by simpa using hquote
        subst he
        exact .inr (.inr ⟨opened, rfl, by simpa using hescape⟩)
      · exact .inl ⟨rfl, rfl⟩
    | code =>
      by_cases hplain : Plain x (c :: rest)
      · exact .inr (.inl ⟨rfl, hplain⟩)
      · exact .inl (step_comment hx here hplain)

theorem step_of {x : Lexicon} (here : Text.Position) {s : State} (c : Char) (rest : List Char)
    (hs : s.context.Of x) : (step x here s c rest).2.context.Of x := by
  have hcode : (inCode x here c rest).2.context.Of x := by
    unfold inCode
    split_ifs with _ hq
    · trivial
    · simpa [Context.Of] using hq
    · trivial
  have hout : (outside x here c rest).2.context.Of x := by
    unfold outside blankMarker
    split
    · next hb =>
      split_ifs
      · simp [Context.Of, hb]
      · exact hcode
    · exact hcode
  have hcomment (stop : List Char) (hb : x.blockComment.isSome) :
      (inComment stop c rest).2.context.Of x := by
    unfold inComment blankMarker
    split_ifs
    · trivial
    · exact hb
  unfold step
  split
  · exact hs
  · split
    · next hb => exact hcomment _ (by simp [hb])
    · exact hout
  · next quote opened _ hq =>
    rw [hq] at hs
    split_ifs
    · exact hs
    · trivial
    · exact hs
  · split
    · next hb => exact hcomment _ (by simp [hb])
    · exact hout

/-- A second masking does to a character of the masked text what the first did to the one of the
source. -/
theorem step_again {x : Lexicon} (hx : x.SkipsBlanks) (here : Text.Position) {s : State} (c : Char)
    {rest view : List Char} (hs : s.context.Of x) (hv : Text.Shows view rest) :
    step x here ⟨0, s.context.seen⟩ (step x here s c rest).1 view =
      ((step x here s c rest).1, ⟨0, (step x here s c rest).2.context.seen⟩) := by
  rcases step_cases hx here c rest hs with ⟨hblank, hseen⟩ | ⟨rfl, hplain⟩ | ⟨opened, rfl, hescape⟩
  · rw [hblank, hseen]
    have hcode : step x here ⟨0, .code⟩ ' ' view = (' ', ⟨0, .code⟩) := by
      rw [step_plain hx here (plain_blank hx view)]
      simp [hx.quotes]
    cases hc : s.context with
    | code => exact hcode
    | comment => exact hcode
    | literal quote opened =>
      rw [hc] at hs
      have hq : quote ≠ ' ' := by
        rintro rfl
        exact hx.quotes hs
      exact step_literal_blank here opened hq view
  · have hview : Plain x (c :: view) := hplain.of_shows hx (.cons (.inl rfl) hv)
    rw [step_plain hx here hplain]
    simp only [Context.seen]
    rw [step_plain hx here hview]
    split_ifs <;> rfl
  · have he : view.isEmpty = rest.isEmpty := by
      rw [Bool.eq_iff_iff, List.isEmpty_iff_length_eq_zero, List.isEmpty_iff_length_eq_zero,
        hv.length_eq]
    simp [step, Context.seen, hescape, he]

theorem chars_again {x : Lexicon} (hx : x.SkipsBlanks) (number column : Nat) {s : State}
    (cs : List Char) (hs : s.context.Of x) :
    chars x number column ⟨0, s.context.seen⟩ (chars x number column s cs).1 =
      ((chars x number column s cs).1, ⟨0, (chars x number column s cs).2.context.seen⟩) := by
  induction cs generalizing column s with
  | nil => rfl
  | cons c cs ih =>
    have hstep := step_again hx ⟨number, column⟩ c hs
      (chars_shows x number (column + 1) (step x ⟨number, column⟩ s c cs).2 cs)
    have hrest := ih (column + 1) (step_of ⟨number, column⟩ c cs hs)
    simp only [chars, hstep, hrest]

theorem chars_of {x : Lexicon} (number column : Nat) {s : State} (cs : List Char)
    (hs : s.context.Of x) : (chars x number column s cs).2.context.Of x := by
  induction cs generalizing column s with
  | nil => exact hs
  | cons c cs ih => exact ih (column + 1) (step_of ⟨number, column⟩ c cs hs)

theorem endLine_seen (x : Lexicon) (context : Context) :
    endLine x context.seen = ((endLine x context).1, (endLine x context).2.seen) := by
  cases context with
  | literal quote opened =>
    simp only [endLine, Context.seen]
    split_ifs <;> rfl
  | _ => rfl

theorem endLine_of {x : Lexicon} {context : Context} (h : context.Of x) :
    (endLine x context).2.Of x := by
  cases context with
  | literal quote opened =>
    simp only [endLine]
    split_ifs
    · exact h
    · trivial
  | _ => exact h

theorem linesFrom_again {x : Lexicon} (hx : x.SkipsBlanks) (number : Nat) {context : Context}
    (ls : List (List Char)) (hc : context.Of x) :
    let once := linesFrom x number context ls
    let again := linesFrom x number context.seen (once.1.map (·.masked))
    again.1.map (·.masked) = once.1.map (·.masked) ∧ again.2 = once.2 := by
  induction ls generalizing number context with
  | nil => cases context <;> exact ⟨rfl, rfl⟩
  | cons raw rest ih =>
    have hchars := chars_again hx number 0 (s := ⟨0, context⟩) raw hc
    have hof := endLine_of (chars_of number 0 (s := ⟨0, context⟩) raw hc)
    obtain ⟨hmasked, hunclosed⟩ := ih (number + 1) hof
    simp only [linesFrom_cons, List.map_cons, hchars, endLine_seen]
    rw [hmasked, hunclosed]
    exact ⟨rfl, rfl⟩

/-- The same context, but for the place where a literal starts. -/
inductive Context.Like : Context → Context → Prop
  | code : Like .code .code
  | comment : Like .comment .comment
  | literal (quote : Char) (p q : Position) : Like (.literal quote p) (.literal quote q)

theorem Context.Like.refl (c : Context) : c.Like c := by
  cases c with
  | code => exact .code
  | comment => exact .comment
  | literal quote p => exact .literal quote p p

theorem Context.Like.symm {c d : Context} (h : c.Like d) : d.Like c := by
  cases h with
  | code => exact .code
  | comment => exact .comment
  | literal quote p q => exact .literal quote q p

theorem Context.Like.trans {c d e : Context} (h : c.Like d) (h' : d.Like e) : c.Like e := by
  cases h with
  | code => exact h'
  | comment => exact h'
  | literal quote p q =>
    cases h' with
    | literal _ _ r => exact .literal quote p r

theorem Context.Like.of {x : Lexicon} {c d : Context} (h : c.Like d) (hc : c.Of x) : d.Of x := by
  cases h with
  | code => trivial
  | comment => exact hc
  | literal quote p q => exact hc

/-- What the states before the same character of a text and of a stretched one have in common. -/
inductive Keeps (k : Nat → Nat) (cs : List Char) : State → State → Prop
  /-- The rest of the line is a comment. -/
  | line : Keeps k cs ⟨cs.length, .code⟩ ⟨(stretch k cs).length, .code⟩
  /-- The rest of a marker, if any, is not stretched. -/
  | marker {blanks : Nat} {c d : Context} (h : c.Like d) (hm : ∀ i < blanks, k i = 0) :
      Keeps k cs ⟨blanks, c⟩ ⟨blanks, d⟩
  /-- The next character is escaped. -/
  | escaped (quote : Char) (p q : Position) :
      Keeps k cs ⟨1, .literal quote p⟩ ⟨1, .literal quote q⟩

theorem Keeps.of_like {k : Nat → Nat} {cs : List Char} {c d : Context} (h : c.Like d) :
    Keeps k cs ⟨0, c⟩ ⟨0, d⟩ := .marker h (by simp)

section Step

variable {x : Lexicon} (hx : x.SkipsBlanks) (he : x.IgnoresPliant)
include hx he

theorem step_pliant (here : Position) {c : Context} (hc : c.Of x) {a : Char}
    (ha : a = '=' ∨ a = ' ') (rest : List Char) :
    step x here ⟨0, c⟩ a rest = (if c = .code then a else ' ', ⟨0, c⟩) := by
  have hstarts (m : List Char) (hne : m ≠ []) (hm : Stiff m) :
      m.isPrefixOf (a :: rest) = false := by
    obtain ⟨b, m, rfl⟩ := List.exists_cons_of_ne_nil hne
    simp [List.isPrefixOf, hm.ne ha]
  have hquotes : a ∉ x.quotes := by
    rcases ha with rfl | rfl
    · exact he.quotes.1
    · exact he.quotes.2
  cases c with
  | code =>
    have hplain : Plain x (a :: rest) := by
      constructor
      · exact fun m hm => hstarts m.1 (hx.block m hm).1 (he.block m hm).1
      · cases hl : x.lineComment with
        | none => rfl
        | some m =>
          by_cases hne : m = []
          · simp [starts, hne]
          · simp [starts, hstarts m hne (he.line m hl)]
    rw [step_plain hx here hplain]
    simp [hquotes]
  | comment =>
    obtain ⟨⟨start, stop⟩, hb⟩ := Option.isSome_iff_exists.mp hc
    obtain ⟨-, hne, -⟩ := hx.block _ hb
    have hstop := hstarts stop hne (he.block _ hb).2
    obtain ⟨d, stop, rfl⟩ := List.exists_cons_of_ne_nil hne
    simp [step, hb, inComment, hstop]
  | literal quote opened =>
    have hquote : a ≠ quote := by
      rintro rfl
      exact hquotes hc
    have hescape : (a == '\\') = false := by
      rcases ha with rfl | rfl <;> decide
    simp [step, hquote, hescape]

theorem chars_pliant (number column : Nat) {c : Context} (hc : c.Of x) {a : Char}
    (ha : a = '=' ∨ a = ' ') (m : Nat) (rest : List Char) :
    chars x number column ⟨0, c⟩ (List.replicate m a ++ rest) =
      (List.replicate m (if c = .code then a else ' ') ++
        (chars x number (column + m) ⟨0, c⟩ rest).1,
        (chars x number (column + m) ⟨0, c⟩ rest).2) := by
  induction m generalizing column with
  | zero => rfl
  | succ m ih =>
    have hcolumn : column + 1 + m = column + (m + 1) := by omega
    simp only [List.replicate_succ, List.cons_append, chars, step_pliant hx he _ hc ha, ih, hcolumn]

/-- A character that is not repeated does the same in the text and in the stretched text. -/
theorem step_keeps {k : Nat → Nat} {c : Char} {cs : List Char} (h : Pliant k (c :: cs))
    (hc : k 0 = 0) (here here' : Position) {s s' : State} (hs : s.context.Of x)
    (hk : Keeps k (c :: cs) s s') :
    let rest := stretch (fun i => k (i + 1)) cs
    (step x here' s' c rest).1 = (step x here s c cs).1 ∧
      Keeps (fun i => k (i + 1)) cs (step x here s c cs).2 (step x here' s' c rest).2 := by
  intro rest
  have hstarts (m : List Char) (hm : Stiff m) :
      m.isPrefixOf (c :: rest) = m.isPrefixOf (c :: cs) := by
    have hsame := isPrefixOf_stretch hm h
    rwa [stretch_cons_of_once hc] at hsame
  have hline : starts x.lineComment (c :: rest) = starts x.lineComment (c :: cs) := by
    cases hl : x.lineComment with
    | none => rfl
    | some m => simp only [starts, hstarts m (he.line m hl)]
  have hempty : rest.isEmpty = cs.isEmpty := by
    rw [Bool.eq_iff_iff, List.isEmpty_iff, List.isEmpty_iff, stretch_eq_nil]
  -- What follows the first character of a marker is the rest of the marker.
  have hrest {m : List Char} (hm : Stiff m) (hp : m.isPrefixOf (c :: cs) = true) :
      ∀ i < m.length - 1, k (i + 1) = 0 :=
    fun i hi => h.once_of_isPrefixOf hm hp (i + 1) (by omega)
  cases hk with
  | line =>
    rw [stretch_cons_of_once hc]
    exact ⟨rfl, .line⟩
  | escaped quote p q => exact ⟨rfl, .of_like (.literal quote p q)⟩
  | @marker blanks d d' hlike hm =>
    cases blanks with
    | succ n => exact ⟨rfl, .marker hlike fun i hi => hm (i + 1) (by omega)⟩
    | zero =>
      cases hlike with
      | code =>
        have hcode : (inCode x here' c rest).1 = (inCode x here c cs).1 ∧
            Keeps (fun i => k (i + 1)) cs (inCode x here c cs).2 (inCode x here' c rest).2 := by
          unfold inCode
          rw [hline]
          split_ifs
          · exact ⟨rfl, .line⟩
          · exact ⟨rfl, .of_like (.literal c here here')⟩
          · exact ⟨rfl, .of_like .code⟩
        rw [step_code hx, step_code hx]
        unfold outside
        cases hb : x.blockComment with
        | none => exact hcode
        | some m =>
          obtain ⟨start, stop⟩ := m
          have hstart := (he.block _ hb).1
          simp only [hstarts start hstart]
          split_ifs with hopens
          · exact ⟨rfl, .marker .comment (hrest hstart hopens)⟩
          · exact hcode
      | comment =>
        obtain ⟨⟨start, stop⟩, hb⟩ := Option.isSome_iff_exists.mp hs
        have hstop := (he.block _ hb).2
        obtain ⟨a, stop, rfl⟩ := List.exists_cons_of_ne_nil (hx.block _ hb).2.1
        simp only [step, hb, inComment, hstarts _ hstop]
        split_ifs with hends
        · exact ⟨trivial, .marker .code (hrest hstop hends)⟩
        · exact ⟨trivial, .of_like .comment⟩
      | literal quote p q =>
        simp only [step, hempty]
        split_ifs
        · exact ⟨rfl, .escaped quote p q⟩
        · exact ⟨rfl, .of_like .code⟩
        · exact ⟨rfl, .of_like (.literal quote p q)⟩

end Step

theorem chars_blanks (x : Lexicon) (number column m b : Nat) (c : Context) (d : Char)
    (rest : List Char) :
    chars x number column ⟨m + b, c⟩ (List.replicate m d ++ rest) =
      (List.replicate m ' ' ++ (chars x number (column + m) ⟨b, c⟩ rest).1,
        (chars x number (column + m) ⟨b, c⟩ rest).2) := by
  induction m generalizing column with
  | zero => simp
  | succ m ih =>
    have hcolumn : column + 1 + m = column + (m + 1) := by omega
    have hblanks : m + 1 + b = m + b + 1 := by omega
    simp only [List.replicate_succ, List.cons_append, chars, hblanks, step, ih, hcolumn]

/-- The masked form of a stretched text is the masked form, stretched alike; both end in the same
context. -/
theorem chars_stretch {x : Lexicon} (hx : x.SkipsBlanks) (he : x.IgnoresPliant)
    (number number' column column' : Nat) {k : Nat → Nat} {cs : List Char} (h : Pliant k cs)
    {s s' : State} (hs : s.context.Of x) (hk : Keeps k cs s s') :
    (chars x number' column' s' (stretch k cs)).1 =
        stretch k (chars x number column s cs).1 ∧
      (chars x number column s cs).2.context.Like
        (chars x number' column' s' (stretch k cs)).2.context := by
  induction cs generalizing k column column' s s' with
  | nil =>
    refine ⟨rfl, ?_⟩
    cases hk with
    | line => exact .code
    | marker h _ => exact h
    | escaped quote p q => exact .literal quote p q
  | cons c cs ih =>
    by_cases hc : k 0 = 0
    · obtain ⟨hsame, hkeeps⟩ :=
        step_keeps hx he h hc ⟨number, column⟩ ⟨number', column'⟩ hs hk
      obtain ⟨hrest, hlike⟩ := ih (column + 1) (column' + 1) h.tail
        (step_of ⟨number, column⟩ c cs hs) hkeeps
      rw [stretch_cons_of_once hc]
      simp only [chars, hsame, hrest]
      refine ⟨?_, hlike⟩
      rw [stretch_cons_of_once hc]
    · have ha : c = '=' ∨ c = ' ' := by simpa using h 0 (Nat.pos_of_ne_zero hc)
      -- The state before the characters leads to the state behind them with as many of them.
      cases hk with
      | line =>
        have hlen : (stretch k (c :: cs)).length =
            k 0 + 1 + (stretch (fun i => k (i + 1)) cs).length := by
          rw [stretch, List.length_append, List.length_replicate]
        obtain ⟨hrest, hlike⟩ := ih (column + 1) (column' + (k 0 + 1)) h.tail
          (s := ⟨cs.length, .code⟩) trivial .line
        rw [hlen, stretch, chars_blanks]
        refine ⟨?_, hlike⟩
        rw [hrest]
        rfl
      | escaped quote p q =>
        have hq : (Context.literal quote q).Of x := hs
        obtain ⟨hrest, hlike⟩ := ih (column + 1) (column' + 1 + k 0) h.tail
          (s := ⟨0, .literal quote p⟩) hs (.of_like (.literal quote p q))
        have hmore := chars_pliant hx he number' (column' + 1) hq ha (k 0)
          (stretch (fun i => k (i + 1)) cs)
        rw [hrest] at hmore
        rw [stretch, List.replicate_succ, List.cons_append]
        simp only [chars, step, hmore]
        exact ⟨rfl, hlike⟩
      | @marker blanks d d' hlike hm =>
        obtain rfl : blanks = 0 := by
          by_contra hne
          exact hc (hm 0 (Nat.pos_of_ne_zero hne))
        have hsign : (if d = .code then c else ' ') = if d' = .code then c else ' ' := by
          cases hlike <;> simp
        obtain ⟨hrest, hlike'⟩ := ih (column + 1) (column' + (k 0 + 1)) h.tail hs (.of_like hlike)
        have hmore := chars_pliant hx he number' column' (hlike.of hs) ha (k 0 + 1)
          (stretch (fun i => k (i + 1)) cs)
        rw [hrest, ← hsign] at hmore
        rw [stretch, hmore]
        simp only [chars, step_pliant hx he _ hs ha]
        exact ⟨rfl, hlike'⟩

end Mask

/-- Masking the masked lines of a source again changes no line, and finds the same literals that
never end. -/
theorem masking_idempotent (d : Dialect) (code : List Char) :
    let once := MaskedSource.ofCode d code
    let again := MaskedSource.ofLines (.of d) (once.lines.map (·.masked))
    again.lines.map (·.masked) = once.lines.map (·.masked) ∧ again.unclosed = once.unclosed := by
  have hcode : Mask.Context.code.Of (.of d) := trivial
  exact Mask.linesFrom_again (Lexicon.of_skipsBlanks d) 1 (Text.lines code) hcode

end CampaignCheck

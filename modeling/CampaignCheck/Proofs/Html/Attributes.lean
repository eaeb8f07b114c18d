import CampaignCheck.Proofs.Pattern.Groups
import CampaignCheck.Proofs.Pattern.Scans
import CampaignCheck.Html.Vocabulary
import Mathlib.Data.List.TakeWhile

namespace CampaignCheck

theorem Text.takeWhile_append {p : Char → Bool} {as bs : List Char} (has : ∀ c ∈ as, p c = true)
    (hbs : ∀ c ∈ bs.head?, p c = false) :
    (as ++ bs).takeWhile p = as ∧ (as ++ bs).dropWhile p = bs := by
  have hbehind : bs.takeWhile p = [] ∧ bs.dropWhile p = bs := by
    cases bs with
    | nil => exact ⟨rfl, rfl⟩
    | cons b bs =>
      have hb := hbs b rfl
      simp [hb]
  rw [List.takeWhile_append_of_pos has, List.dropWhile_append_of_pos has, hbehind.1, hbehind.2,
    List.append_nil]
  exact ⟨rfl, rfl⟩

theorem Text.of_mem_head?_dropWhile {p : Char → Bool} {cs : List Char} :
    ∀ c ∈ (cs.dropWhile p).head?, p c = false := by
  intro c hc
  have hnot := List.head?_dropWhile_not p cs
  rw [Option.mem_def.mp hc] at hnot
  simpa using hnot

namespace Html

open Pattern

def nameSet : CharSet := .not (.union [.blank, .chars "=/>\"'"])

def valueSet : CharSet := .not (.union [.blank, .chars "\"'>"])

def isQuote (c : Char) : Bool := c == '"' || c == '\''

theorem nameSet_mem (c : Char) : nameSet.mem c =
    !(Text.isBlank c || ('=' == c || ('/' == c || ('>' == c || ('"' == c || '\'' == c))))) := rfl

theorem valueSet_mem (c : Char) :
    valueSet.mem c = !(Text.isBlank c || ('"' == c || ('\'' == c || '>' == c))) := rfl

theorem valueSet_of_isBlank {c : Char} (h : Text.isBlank c = true) : valueSet.mem c = false := by
  rw [valueSet_mem, h]
  rfl

theorem not_blank_of_valueSet {c : Char} (h : valueSet.mem c = true) : Text.isBlank c = false := by
  by_contra hblank
  rw [valueSet_of_isBlank (Bool.not_eq_false _ ▸ hblank)] at h
  cases h

/-- A value that is followed by the rest. -/
inductive IsValue : List Char → List Char → Prop
  | quoted {q : Char} {inner rest : List Char} (hq : isQuote q = true) (hinner : q ∉ inner) :
      IsValue (q :: (inner ++ [q])) rest
  | plain {v rest : List Char} (hne : v ≠ []) (hv : ∀ c ∈ v, valueSet.mem c = true)
      (hrest : ∀ c ∈ rest.head?, valueSet.mem c = false) : IsValue v rest

def readValue : List Char → Option (List Char)
  | [] => none
  | c :: cs =>
    if isQuote c then if c ∈ cs then some (c :: (cs.takeWhile (· != c) ++ [c])) else none
    else if valueSet.mem c then some ((c :: cs).takeWhile valueSet.mem)
    else none

theorem exists_of_mem {c : Char} {cs : List Char} (h : c ∈ cs) :
    ∃ rest, cs = cs.takeWhile (· != c) ++ c :: rest ∧ c ∉ cs.takeWhile (· != c) := by
  have hnot : c ∉ cs.takeWhile (· != c) := by
    intro hmem
    have hne := List.mem_takeWhile_imp hmem
    simp at hne
  have hsplit := List.takeWhile_append_dropWhile (p := (· != c)) (l := cs)
  cases hrest : cs.dropWhile (· != c) with
  | nil =>
    rw [hrest, List.append_nil] at hsplit
    rw [hsplit] at hnot
    exact absurd h hnot
  | cons d rest =>
    have hmem : d ∈ (cs.dropWhile (· != c)).head? := by rw [hrest]; rfl
    have hd := Text.of_mem_head?_dropWhile d hmem
    obtain rfl : d = c := by simpa using hd
    rw [hrest] at hsplit
    exact ⟨rest, hsplit.symm, hnot⟩

theorem valueSet_quote {c : Char} (h : isQuote c = true) : valueSet.mem c = false := by
  simp only [isQuote, Bool.or_eq_true, beq_iff_eq] at h
  rcases h with rfl | rfl <;> rfl

theorem readValue_iff {cs v : List Char} :
    readValue cs = some v ↔ ∃ rest, cs = v ++ rest ∧ IsValue v rest := by
  constructor
  · intro h
    cases cs with
    | nil => cases h
    | cons c cs =>
      rw [readValue] at h
      split_ifs at h with hq hmem hv
      · obtain rfl := Option.some.inj h
        obtain ⟨rest, hrest, hnot⟩ := exists_of_mem hmem
        refine ⟨rest, ?_, .quoted hq hnot⟩
        rw [List.cons_append, List.append_assoc, List.singleton_append, ← hrest]
      · obtain rfl := Option.some.inj h
        refine ⟨(c :: cs).dropWhile valueSet.mem, List.takeWhile_append_dropWhile.symm,
          .plain ?_ (fun d hd => List.mem_takeWhile_imp hd) Text.of_mem_head?_dropWhile⟩
        simp [hv]
  · rintro ⟨rest, rfl, hvalue⟩
    cases hvalue with
    | @quoted q inner _ hq hinner =>
      have hstop : ∀ c ∈ inner, (c != q) = true := by
        intro c hc
        exact bne_iff_ne.mpr fun heq => hinner (heq ▸ hc)
      have hquote : ∀ c ∈ (q :: rest).head?, (c != q) = false := by simp
      have htake := (Text.takeWhile_append hstop hquote).1
      rw [List.cons_append, readValue, if_pos hq, List.append_assoc, List.singleton_append,
        if_pos (by simp), htake]
    | plain hne hv hrest =>
      obtain ⟨c, v, rfl⟩ := List.exists_cons_of_ne_nil hne
      have hc := hv c List.mem_cons_self
      have hq : ¬isQuote c = true := by
        intro hq
        rw [valueSet_quote hq] at hc
        cases hc
      rw [List.cons_append, readValue, if_neg hq, if_pos hc, ← List.cons_append,
        (Text.takeWhile_append hv hrest).1]

theorem readValue_of_isBlank {c : Char} (hc : Text.isBlank c = true) (cs : List Char) :
    readValue (c :: cs) = none := by
  have hq : ¬isQuote c = true := by
    intro hq
    simp only [isQuote, Bool.or_eq_true, beq_iff_eq] at hq
    rcases hq with rfl | rfl <;> cases hc
  have hv : ¬valueSet.mem c = true := by
    rw [valueSet_mem, hc]
    exact Bool.false_ne_true
  rw [readValue, if_neg hq, if_neg hv]

/-- The equals sign before a value, with the blanks around it. -/
inductive IsGap : List Char → Prop
  | intro {before behind : List Char} (hbefore : ∀ c ∈ before, Text.isBlank c = true)
      (hbehind : ∀ c ∈ behind, Text.isBlank c = true) : IsGap (before ++ '=' :: behind)

def readAssigned (cs : List Char) : Option (List Char × List Char) :=
  match cs.dropWhile Text.isBlank with
  | '=' :: rest => (readValue (rest.dropWhile Text.isBlank)).map fun v =>
      (cs.takeWhile Text.isBlank ++ '=' :: rest.takeWhile Text.isBlank, v)
  | _ => none

theorem readAssigned_gap {gap cs : List Char} (hgap : IsGap gap)
    (hcs : ∀ c ∈ cs.head?, Text.isBlank c = false) :
    readAssigned (gap ++ cs) = (readValue cs).map fun v => (gap, v) := by
  obtain ⟨hbefore, hbehind⟩ := hgap
  rename_i before behind
  have hequals : ∀ c ∈ ('=' :: (behind ++ cs)).head?, Text.isBlank c = false := by simp; rfl
  have hfirst := Text.takeWhile_append hbefore hequals
  have hsecond := Text.takeWhile_append hbehind hcs
  rw [readAssigned, List.append_assoc, List.cons_append, hfirst.2, hfirst.1]
  simp only [hsecond]

theorem readAssigned_blank {before cs : List Char} (hbefore : ∀ c ∈ before, Text.isBlank c = true)
    (hcs : ∀ c ∈ cs.head?, Text.isBlank c = false ∧ c ≠ '=') :
    readAssigned (before ++ cs) = none := by
  have hspan := Text.takeWhile_append hbefore fun c hc => (hcs c hc).1
  rw [readAssigned, hspan.2]
  split
  · next rest => exact absurd rfl (hcs '=' rfl).2
  · rfl

theorem readAssigned_iff {cs gap v : List Char} : readAssigned cs = some (gap, v) ↔
    ∃ rest, cs = gap ++ (v ++ rest) ∧ IsGap gap ∧ IsValue v rest := by
  constructor
  · intro h
    rw [readAssigned] at h
    split at h
    · next rest hrest =>
      obtain ⟨w, hw, heq⟩ := Option.map_eq_some_iff.mp h
      obtain ⟨rfl, rfl⟩ := Prod.mk.inj heq
      obtain ⟨tail, htail, hvalue⟩ := readValue_iff.mp hw
      refine ⟨tail, ?_, .intro (fun c hc => List.mem_takeWhile_imp hc)
        (fun c hc => List.mem_takeWhile_imp hc), hvalue⟩
      rw [← htail, List.append_assoc, List.cons_append, List.takeWhile_append_dropWhile, ← hrest,
        List.takeWhile_append_dropWhile]
    · cases h
  · rintro ⟨rest, rfl, hgap, hvalue⟩
    have hread : readValue (v ++ rest) = some v := readValue_iff.mpr ⟨rest, rfl, hvalue⟩
    have hhead : ∀ c ∈ (v ++ rest).head?, Text.isBlank c = false := by
      intro c hc
      by_contra hblank
      obtain ⟨ds, hds⟩ := List.head?_eq_some_iff.mp hc
      rw [hds, readValue_of_isBlank (Bool.not_eq_false _ ▸ hblank)] at hread
      cases hread
    rw [readAssigned_gap hgap hhead, hread]
    rfl

/-- A text goes on with an equals sign, or with something else that no blanks are before. -/
theorem readAssigned_cases (cs : List Char) :
    (∃ gap ds, cs = gap ++ ds ∧ IsGap gap ∧ ∀ c ∈ ds.head?, Text.isBlank c = false) ∨
      ∃ before ds, cs = before ++ ds ∧ (∀ c ∈ before, Text.isBlank c = true) ∧
        ∀ c ∈ ds.head?, Text.isBlank c = false ∧ c ≠ '=' := by
  have hsplit := List.takeWhile_append_dropWhile (p := Text.isBlank) (l := cs)
  have hbefore : ∀ c ∈ cs.takeWhile Text.isBlank, Text.isBlank c = true :=
    fun c hc => List.mem_takeWhile_imp hc
  by_cases hequals : (cs.dropWhile Text.isBlank).head? = some '='
  · obtain ⟨rest, hrest⟩ := List.head?_eq_some_iff.mp hequals
    refine .inl ⟨cs.takeWhile Text.isBlank ++ '=' :: rest.takeWhile Text.isBlank,
      rest.dropWhile Text.isBlank, ?_, .intro hbefore fun c hc => List.mem_takeWhile_imp hc,
      Text.of_mem_head?_dropWhile⟩
    rw [List.append_assoc, List.cons_append, List.takeWhile_append_dropWhile, ← hrest, hsplit]
  · refine .inr ⟨_, _, hsplit.symm, hbefore, fun c hc => ⟨Text.of_mem_head?_dropWhile c hc, ?_⟩⟩
    rintro rfl
    exact hequals hc

/-- An attribute as it is written: its name, and its value with what joins the two. -/
structure Written where
  name : List Char
  assigned : Option (List Char × List Char)

namespace Written

def tail (a : Written) : List Char := (a.assigned.map fun p => p.1 ++ p.2).getD []

def text (a : Written) : List Char := a.name ++ a.tail

/-- The attribute is what a text starts with that goes on with the rest. -/
structure Fits (a : Written) (rest : List Char) : Prop where
  name_ne : a.name ≠ []
  name : ∀ c ∈ a.name, nameSet.mem c = true
  ends : ∀ c ∈ (a.tail ++ rest).head?, nameSet.mem c = false
  assigned : readAssigned (a.tail ++ rest) = a.assigned

/-- The marks of a match that starts at an offset. -/
def marks (a : Written) (pos : Nat) : Marks :=
  match a.assigned with
  | none => #[some pos, some (pos + a.name.length)]
  | some (gap, v) => #[some pos, some (pos + a.name.length),
      some (pos + a.name.length + gap.length), some (pos + a.name.length + gap.length + v.length)]

def found (a : Written) (pos : Nat) : Match := ⟨pos, pos + a.text.length, a.marks pos⟩

end Written

def readAttribute (cs : List Char) : Option Written :=
  if cs.takeWhile nameSet.mem = [] then none
  else some ⟨cs.takeWhile nameSet.mem, readAssigned (cs.dropWhile nameSet.mem)⟩

theorem readAttribute_iff {cs : List Char} {a : Written} :
    readAttribute cs = some a ↔ ∃ rest, cs = a.text ++ rest ∧ a.Fits rest := by
  constructor
  · intro h
    rw [readAttribute] at h
    split_ifs at h with hne
    obtain rfl := Option.some.inj h
    have hname : ∀ c ∈ cs.takeWhile nameSet.mem, nameSet.mem c = true :=
      fun c hc => List.mem_takeWhile_imp hc
    have hsplit := List.takeWhile_append_dropWhile (p := nameSet.mem) (l := cs)
    have hhead : ∀ c ∈ (cs.dropWhile nameSet.mem).head?, nameSet.mem c = false :=
      Text.of_mem_head?_dropWhile
    cases hassigned : readAssigned (cs.dropWhile nameSet.mem) with
    | none =>
      refine ⟨cs.dropWhile nameSet.mem, ?_, hne, hname, hhead, hassigned⟩
      rw [Written.text, Written.tail, Option.map_none, Option.getD_none, List.append_nil, hsplit]
    | some p =>
      obtain ⟨rest, hrest, -⟩ := readAssigned_iff.mp hassigned
      have htail : (p.1 ++ p.2) ++ rest = cs.dropWhile nameSet.mem := by
        rw [List.append_assoc]
        exact hrest.symm
      refine ⟨rest, ?_, hne, hname, ?_, ?_⟩
      · rw [Written.text, Written.tail, Option.map_some, Option.getD_some, List.append_assoc, htail,
          hsplit]
      · rw [Written.tail, Option.map_some, Option.getD_some, htail]
        exact hhead
      · rw [Written.tail, Option.map_some, Option.getD_some, htail]
        exact hassigned
  · rintro ⟨rest, rfl, hne, hname, hends, hassigned⟩
    have hspan := Text.takeWhile_append hname hends
    rw [Written.text, List.append_assoc, readAttribute, hspan.1, hspan.2, if_neg hne, hassigned]

def valueForm : Pattern :=
  oneOf [lit "\"" ++ many (one (.not (.char '"'))) ++ lit "\"",
    lit "'" ++ many (one (.not (.char '\''))) ++ lit "'", many1 (one valueSet)]

theorem attributeForm_eq : attributeForm =
    seq (capture 1 (many1 (one nameSet)))
      (opt (seq (seq (seq blanks (lit "=")) blanks) (capture 2 valueForm))) := rfl

theorem regular_valueForm (b : Nat) : Regular b valueForm b :=
  .alt (.seq (.seq (.one _ _) (.many _ _ _)) (.one _ _))
    (.alt (.seq (.seq (.one _ _) (.many _ _ _)) (.one _ _)) (.many _ _ _))

theorem regular_attributeForm : Regular 0 attributeForm 4 := by
  have hname : Regular 0 (capture 1 (many1 (one nameSet))) 2 :=
    .capture Nat.one_pos (Nat.le_refl _) (.many _ _ _)
  have hgap : Regular 2 (seq (seq blanks (lit "=")) blanks) 2 :=
    .seq (.seq (.many _ _ _) (.one _ _)) (.many _ _ _)
  have hvalue : Regular 2 (capture 2 valueForm) 4 :=
    .capture Nat.two_pos (Nat.le_refl _) (regular_valueForm 3)
  rw [attributeForm_eq]
  exact .seq hname (.opt (by decide) (.seq hgap hvalue))

section Reading

variable {text : Array Char} {g : Sequel} {marks : Marks}

theorem leads_blanks (hg : ∀ c cs pos, Text.isBlank c = true → g (c :: cs) pos marks = none)
    (cs : List Char) (pos : Nat) : blanks.leads text g cs pos marks =
      g (cs.dropWhile Text.isBlank) (pos + (cs.takeWhile Text.isBlank).length) marks :=
  @most_of_rigid g marks .blank hg cs pos

theorem leads_char_self (q : Char) (cs : List Char) (pos : Nat) :
    (one (.char q)).leads text g (q :: cs) pos marks = g cs (pos + 1) marks := by
  rw [leads_one]
  simp [fits, CharSet.mem]

theorem leads_char_other {q : Char} {cs : List Char} (h : cs.head? ≠ some q) (pos : Nat) :
    (one (.char q)).leads text g cs pos marks = none := by
  cases cs with
  | nil => rfl
  | cons c cs =>
    have hc : (q == c) = false := beq_false_of_ne fun he => h (by rw [he]; rfl)
    rw [leads_one]
    simp [fits, CharSet.mem, hc]

theorem leads_unquoted {q : Char} {inner rest : List Char} (hinner : q ∉ inner)
    (hrest : ∀ c ∈ rest.head?, c = q) (pos : Nat) :
    (many (one (.not (.char q)))).leads text ((one (.char q)).leads text g) (inner ++ rest) pos
        marks = (one (.char q)).leads text g rest (pos + inner.length) marks := by
  have hset : (CharSet.not (.char q)).mem = fun c => c != q := by
    funext c
    rw [CharSet.mem, CharSet.mem, bne, Bool.beq_comm]
  have hkeep : ∀ c ∈ inner, (c != q) = true :=
    fun c hc => bne_iff_ne.mpr fun he => hinner (he ▸ hc)
  have hstop : ∀ c ∈ rest.head?, (c != q) = false :=
    fun c hc => by rw [hrest c hc, bne_self_eq_false]
  have hspan := Text.takeWhile_append hkeep hstop
  rw [many, leads_most, exactly, most_of_rigid, hset, hspan.1, hspan.2]
  intro c cs pos hc
  rw [hset, bne_iff_ne] at hc
  exact leads_char_other (by simpa using hc) pos

def quotedForm (q : Char) : Pattern :=
  seq (seq (one (.char q)) (many (one (.not (.char q))))) (one (.char q))

theorem leads_quotedForm {q : Char} {inner : List Char} (hinner : q ∉ inner) (rest : List Char)
    (pos : Nat) : (quotedForm q).leads text g (q :: (inner ++ q :: rest)) pos marks =
      g rest (pos + (inner.length + 2)) marks := by
  have hshift : pos + 1 + inner.length + 1 = pos + (inner.length + 2) := by omega
  rw [quotedForm, leads_seq, leads_seq, leads_char_self, leads_unquoted hinner (by simp),
    leads_char_self, hshift]

theorem leads_quotedForm_open {q : Char} {cs : List Char} (hcs : q ∉ cs) (pos : Nat) :
    (quotedForm q).leads text g (q :: cs) pos marks = none := by
  have hnone : (many (one (.not (.char q)))).leads text ((one (.char q)).leads text g) (cs ++ [])
      (pos + 1) marks = none := leads_unquoted hcs (by simp) (pos + 1)
  rw [List.append_nil] at hnone
  rw [quotedForm, leads_seq, leads_seq, leads_char_self, hnone]

theorem leads_quotedForm_other {q : Char} {cs : List Char} (h : cs.head? ≠ some q) (pos : Nat) :
    (quotedForm q).leads text g cs pos marks = none := by
  rw [quotedForm, leads_seq, leads_seq, leads_char_other h]

theorem valueForm_eq :
    valueForm = alt (quotedForm '"') (alt (quotedForm '\'') (many1 (one valueSet))) := rfl

theorem leads_many1 {set : CharSet} (hg : ∀ cs pos, (g cs pos marks).isSome) (cs : List Char)
    (pos : Nat) : (many1 (one set)).leads text g cs pos marks =
      if cs.takeWhile set.mem = [] then none
      else g (cs.dropWhile set.mem) (pos + (cs.takeWhile set.mem).length) marks := by
  cases cs with
  | nil => rfl
  | cons c cs =>
    rw [many1, leads_most, exactly, exactly]
    cases hc : set.mem c with
    | false => simp [hc]
    | true =>
      have hshift : pos + 1 + (cs.takeWhile set.mem).length =
          pos + ((c :: cs).takeWhile set.mem).length := by
        rw [List.takeWhile_cons_of_pos hc, List.length_cons]
        omega
      rw [most_of_isSome (hg _ _), hshift, List.takeWhile_cons_of_pos hc,
        List.dropWhile_cons_of_pos hc]
      rfl

theorem leads_valueForm (hg : ∀ cs pos, (g cs pos marks).isSome) {v rest : List Char}
    (hv : IsValue v rest) (pos : Nat) :
    valueForm.leads text g (v ++ rest) pos marks = g rest (pos + v.length) marks := by
  have hor (r : Option (Nat × Marks)) (pos : Nat) : (g rest pos marks).or r = g rest pos marks := by
    obtain ⟨x, hx⟩ := Option.isSome_iff_exists.mp (hg rest pos)
    rw [hx]
    rfl
  rw [valueForm_eq, leads_alt, leads_alt]
  cases hv with
  | @quoted q inner _ hq hinner =>
    have hlength : (q :: (inner ++ [q])).length = inner.length + 2 := by simp
    rw [List.cons_append, List.append_assoc, List.singleton_append, hlength]
    simp only [isQuote, Bool.or_eq_true, beq_iff_eq] at hq
    rcases hq with rfl | rfl
    · rw [leads_quotedForm hinner, hor]
    · rw [leads_quotedForm_other (by simp), leads_quotedForm hinner, Option.none_or, hor]
  | plain hne hv hrest =>
    obtain ⟨c, v, rfl⟩ := List.exists_cons_of_ne_nil hne
    have hc := hv c List.mem_cons_self
    have hquote : c ≠ '"' ∧ c ≠ '\'' := by
      constructor
      · rintro rfl
        cases hc
      · rintro rfl
        cases hc
    have hspan := Text.takeWhile_append hv hrest
    rw [List.cons_append, leads_quotedForm_other (by simpa using hquote.1),
      leads_quotedForm_other (by simpa using hquote.2), leads_many1 hg, ← List.cons_append,
      hspan.1, hspan.2, if_neg hne, Option.none_or, Option.none_or]

theorem leads_valueForm_none (hg : ∀ cs pos, (g cs pos marks).isSome) {cs : List Char}
    (h : readValue cs = none) (pos : Nat) : valueForm.leads text g cs pos marks = none := by
  rw [valueForm_eq, leads_alt, leads_alt]
  cases cs with
  | nil => rfl
  | cons c cs =>
    rw [readValue] at h
    split_ifs at h with hq hmem hv
    · rw [leads_many1 hg, if_pos (by simp [valueSet_quote hq])]
      simp only [isQuote, Bool.or_eq_true, beq_iff_eq] at hq
      rcases hq with rfl | rfl
      · rw [leads_quotedForm_open hmem, leads_quotedForm_other (by simp)]
        rfl
      · rw [leads_quotedForm_open hmem, leads_quotedForm_other (by simp)]
        rfl
    · have hquote : c ≠ '"' ∧ c ≠ '\'' := by
        rw [isQuote, Bool.or_eq_true, not_or] at hq
        exact ⟨by simpa using hq.1, by simpa using hq.2⟩
      rw [leads_quotedForm_other (by simpa using hquote.1),
        leads_quotedForm_other (by simpa using hquote.2), leads_many1 hg, if_pos (by simp [hv])]
      rfl

def assignedForm : Pattern := seq (seq (seq blanks (lit "=")) blanks) (capture 2 valueForm)

theorem leads_captured (hm : marks.size = 2) (cs : List Char) (pos : Nat) :
    (capture 2 valueForm).leads text done cs pos marks = (readValue cs).map fun v =>
      (pos + v.length, (marks.push (some pos)).push (some (pos + v.length))) := by
  rw [leads_capture]
  cases hv : readValue cs with
  | none => exact leads_valueForm_none (fun _ _ => rfl) hv pos
  | some v =>
    obtain ⟨rest, rfl, hvalue⟩ := readValue_iff.mp hv
    rw [leads_valueForm (fun _ _ => rfl) hvalue, Option.map_some, ← marked_pair hm]
    rfl

/-- What is found behind a name. -/
theorem leads_assignedForm (hm : marks.size = 2) (cs : List Char) (pos : Nat) :
    assignedForm.leads text done cs pos marks = (readAssigned cs).map fun p =>
      (pos + (p.1.length + p.2.length), (marks.push (some (pos + p.1.length))).push
        (some (pos + (p.1.length + p.2.length)))) := by
  have hbehind (cs : List Char) (pos : Nat) :
      blanks.leads text ((capture 2 valueForm).leads text done) cs pos marks =
        (capture 2 valueForm).leads text done (cs.dropWhile Text.isBlank)
          (pos + (cs.takeWhile Text.isBlank).length) marks :=
    leads_blanks (fun c cs pos hc => by
      rw [leads_captured hm, readValue_of_isBlank hc, Option.map_none]) cs pos
  have hbefore : blanks.leads text ((one (.char '=')).leads text (blanks.leads text
      ((capture 2 valueForm).leads text done))) cs pos marks =
        (one (.char '=')).leads text (blanks.leads text ((capture 2 valueForm).leads text done))
          (cs.dropWhile Text.isBlank) (pos + (cs.takeWhile Text.isBlank).length) marks :=
    leads_blanks (fun c cs pos hc => leads_char_other (by rintro ⟨⟩; cases hc) pos) cs pos
  rw [assignedForm, leads_seq, leads_seq, leads_seq, show lit "=" = one (.char '=') from rfl,
    hbefore, readAssigned]
  split
  · next rest hrest =>
    rw [hrest, leads_char_self, hbehind, leads_captured hm, Option.map_map]
    congr 1
    funext v
    simp [Nat.add_assoc, Nat.add_comm 1]
  · next hother =>
    refine leads_char_other (fun hhead => ?_) _
    obtain ⟨rest, hrest⟩ := List.head?_eq_some_iff.mp hhead
    exact hother rest hrest

end Reading

theorem attributeForm_eq_assigned :
    attributeForm = seq (capture 1 (many1 (one nameSet))) (opt assignedForm) := rfl

/-- The pattern of an attribute finds what is written. -/
theorem tryAt_attributeForm (cs : List Char) (pos : Nat) :
    attributeForm.tryAt cs.toArray pos false = (readAttribute (cs.drop pos)).map (·.found pos) := by
  have hsize : (#[] : Marks).size = 0 := rfl
  have hmarks (stop : Nat) : marked (marked #[] 0 pos) 1 stop = #[some pos, some stop] :=
    marked_pair hsize pos stop
  have hbehind (ds : List Char) (stop : Nat) :
      (opt assignedForm).leads cs.toArray done ds stop #[some pos, some stop] =
        ((readAssigned ds).map fun p => (stop + (p.1.length + p.2.length),
          #[some pos, some stop, some (stop + p.1.length),
            some (stop + (p.1.length + p.2.length))])).or
              (some (stop, #[some pos, some stop])) := by
    rw [assignedForm, leads_opt]
    exact congrArg (Option.or · _) (leads_assignedForm rfl ds stop)
  rw [tryAt_eq_leads regular_attributeForm, attributeForm_eq_assigned, leads_seq, leads_capture,
    leads_many1, readAttribute]
  · split_ifs with hne
    · rfl
    · rw [hmarks, hbehind]
      cases readAssigned ((cs.drop pos).dropWhile nameSet.mem) with
      | none => simp [Written.found, Written.text, Written.tail, Written.marks]
      | some p => simp [Written.found, Written.text, Written.tail, Written.marks, Nat.add_assoc]
  · intro ds stop
    rw [hmarks, hbehind, Option.isSome_or]
    exact Bool.or_true _

theorem neverEmpty_attributeForm : NeverEmpty attributeForm :=
  neverEmpty_of_leastWidth (by rfl) (by decide)

end Html

end CampaignCheck

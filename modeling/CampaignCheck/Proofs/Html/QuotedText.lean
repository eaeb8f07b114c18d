import CampaignCheck.Proofs.Html.RawElements

namespace CampaignCheck.Html

open Pattern Text

/-- What is read ends with this character. -/
def EndsWith (x : Char) (r : List Char → Option Nat) : Prop :=
  ∀ cs n, r cs = some n → ∃ k, n = k + 1 ∧ cs[k]? = some x

section EndsWith

variable {x : Char} {r : List Char → Option Nat} (h : EndsWith x r)
include h

theorem EndsWith.shift {cs : List Char} {a m : Nat} (hm : r (cs.drop a) = some m) :
    ∃ k, a + m = k + 1 ∧ cs[k]? = some x := by
  obtain ⟨k, rfl, hx⟩ := h _ _ hm
  rw [List.getElem?_drop] at hx
  exact ⟨a + k, rfl, hx⟩

theorem EndsWith.firstAt : EndsWith x (Pattern.firstAt r) := by
  intro cs
  induction cs with
  | nil => exact h []
  | cons c cs ih =>
    intro n hn
    rw [Pattern.firstAt, Option.or_eq_some_iff] at hn
    rcases hn with hn | ⟨-, hn⟩
    · exact h _ _ hn
    · obtain ⟨m, hm, rfl⟩ := Option.map_eq_some_iff.mp hn
      obtain ⟨k, rfl, hx⟩ := ih m hm
      exact ⟨k + 1, rfl, hx⟩

theorem EndsWith.readPast : EndsWith x (readPast r) := by
  intro cs
  induction cs with
  | nil => simp [Html.readPast]
  | cons c cs ih =>
    intro n hn
    obtain ⟨m, hm, rfl⟩ := Option.map_eq_some_iff.mp hn
    have hrest : ∃ k, m = k + 1 ∧ cs[k]? = some x := by
      split_ifs at hm
      · exact h cs m hm
      · exact ih m hm
    obtain ⟨k, rfl, hx⟩ := hrest
    exact ⟨k + 1, Nat.add_comm 1 _, hx⟩

end EndsWith

theorem EndsWith.or {x : Char} {r r' : List Char → Option Nat} (h : EndsWith x r)
    (h' : EndsWith x r') : EndsWith x fun cs => (r cs).or (r' cs) := by
  intro cs n hn
  rcases Option.or_eq_some_iff.mp hn with hfirst | ⟨-, hsecond⟩
  · exact h cs n hfirst
  · exact h' cs n hsecond

theorem getElem?_of_literal {d cs : List Char} (h : fits (literal d) cs = true) {i : Nat}
    (hi : i < d.length) : cs[i]? = some d[i] := by
  obtain ⟨c, hc, hp⟩ := getElem?_of_fits h (i := i) (p := fun b => d[i] == b)
    (by simp [literal, hi])
  obtain rfl : d[i] = c := by simpa using hp
  exact hc

theorem endsWith_enclosed {a d : List Char} {x : Char} : EndsWith x (enclosed a (d ++ [x])) := by
  intro cs n h
  obtain ⟨-, hle, hfits⟩ := of_enclosed h
  have hx := getElem?_of_literal hfits (i := d.length) (by simp)
  rw [List.getElem?_drop, List.getElem_concat_length rfl] at hx
  rw [List.length_append, List.length_singleton] at hx hle
  exact ⟨n - (d.length + 1) + d.length, by omega, hx⟩

theorem endsWith_readComment : EndsWith '>' readComment := endsWith_enclosed (d := ['-', '-'])

theorem endsWith_readTemplate : EndsWith '%' readTemplate :=
  (endsWith_enclosed (d := [']', '%'])).or (endsWith_enclosed (d := ['=', '%']))

theorem endsWith_readClose : EndsWith '>' readClose := by
  intro cs
  induction cs with
  | nil => simp [readClose]
  | cons c cs ih =>
    intro n hn
    rw [readClose] at hn
    split_ifs at hn with hblank hangle
    · obtain ⟨m, hm, rfl⟩ := Option.map_eq_some_iff.mp hn
      obtain ⟨k, rfl, hx⟩ := ih m hm
      exact ⟨k + 1, Nat.add_comm 1 _, hx⟩
    · subst hangle
      exact ⟨0, (Option.some.inj hn).symm, rfl⟩

theorem endsWith_readNamed (letters : List Char) : EndsWith '>' (readNamed letters) := by
  have hend (name : List Char) : EndsWith '>' (readEndTag name) := by
    intro cs n h
    rw [readEndTag] at h
    split_ifs at h
    obtain ⟨m, hm, rfl⟩ := Option.map_eq_some_iff.mp h
    exact endsWith_readClose.shift hm
  intro cs n h
  rw [readNamed] at h
  split_ifs at h
  obtain ⟨m, hm, rfl⟩ := Option.map_eq_some_iff.mp h
  exact (hend _).firstAt.readPast.shift hm

theorem endsWith_readRaw : EndsWith '>' readRaw := (endsWith_readNamed _).or (endsWith_readNamed _)

theorem hidden_of_not_blank {hides : Nat → Bool} {cs : List Char} {i : Nat} {c : Char}
    (h : (hide hides cs)[i]? = some c) (hc : isBlank c = false) :
    hides i = false ∧ cs[i]? = some c := by
  rw [getElem?_hide] at h
  obtain ⟨d, hd, rfl⟩ := Option.map_eq_some_iff.mp h
  cases hh : hides i with
  | false =>
    exact ⟨rfl, hd⟩
  | true =>
    rw [hh, if_pos rfl] at hc
    split_ifs at hc with hline
    · rw [hline] at hc
      cases hc
    · cases hc

/-- The characters of a text that are no blanks stand in the other text as well. -/
def Remains (cs' cs : List Char) : Prop :=
  ∀ (i : Nat) (c : Char), cs'[i]? = some c → isBlank c = false → cs[i]? = some c

theorem Remains.refl (cs : List Char) : Remains cs cs := fun _ _ hc _ => hc

theorem Remains.blanked {p : Pattern} (hp : NeverEmpty p) {cs' cs : List Char}
    (h : Remains cs' cs) : Remains (blanked p cs') cs := by
  intro i c hc hblank
  rw [blanked_eq_hide hp] at hc
  exact h i c (hidden_of_not_blank hc hblank).2 hblank

theorem remains_template (code : List Char) : Remains (blanked templateScript code) code :=
  (Remains.refl code).blanked reads_templateScript.neverEmpty

theorem remains_markup (code : List Char) : Remains (markup code) code :=
  (remains_template code).blanked reads_comment.neverEmpty

theorem remains_tagText (code : List Char) : Remains (tagText code) code :=
  (remains_markup code).blanked reads_rawElement.neverEmpty

theorem covers_of_crosses {ms : List Match} {i : Nat} (h : crosses ms i = true) :
    covers ms i = true ∧ covers ms (i + 1) = true := by
  obtain ⟨m, hm, hin⟩ := List.any_eq_true.mp h
  simp only [decide_eq_true_eq] at hin
  refine ⟨List.any_eq_true.mpr ⟨m, hm, ?_⟩, List.any_eq_true.mpr ⟨m, hm, ?_⟩⟩ <;>
    simp only [decide_eq_true_eq] <;> omega

/-- A character that is not blanked stands neither in a region nor behind one that goes on. -/
theorem not_crosses_of_visible {p : Pattern} (hp : NeverEmpty p) {cs : List Char} {i j : Nat}
    {c : Char} (hc : (blanked p cs)[i]? = some c) (hblank : isBlank c = false)
    (hj : j = i ∨ j + 1 = i) : crosses (p.findAll cs) j = false ∧ cs[i]? = some c := by
  rw [blanked_eq_hide hp] at hc
  obtain ⟨hcovers, hc⟩ := hidden_of_not_blank hc hblank
  refine ⟨?_, hc⟩
  by_contra hcrosses
  have hboth := covers_of_crosses (Bool.not_eq_false _ ▸ hcrosses)
  rcases hj with rfl | rfl
  · rw [hcovers] at hboth
    cases hboth.1
  · rw [hcovers] at hboth
    cases hboth.2

/-- A region that hides the equals sign before a value goes on into the value. -/
theorem sign_visible {p : Pattern} {r : List Char → Option Nat} (hp : Reads p r) {x : Char}
    (hends : EndsWith x r) (hx : x ≠ '=' ∧ isBlank x = false) {cs code : List Char}
    (hremains : Remains cs code) {e n : Nat} (he : e ≤ n) (hcs : cs[e]? = some '=')
    (hgap : ∀ i, e ≤ i → i ≤ n → ∃ c, code[i]? = some c ∧ (c = '=' ∨ isBlank c = true))
    (hseen : crosses (p.findAll cs) n = false) : (blanked p cs)[e]? = some '=' := by
  have hcovers : covers (p.findAll cs) e = false := by
    by_contra hcovers
    obtain ⟨m, hm, hin⟩ := List.any_eq_true.mp (Bool.not_eq_false _ ▸ hcovers)
    have hout := List.any_eq_false.mp hseen m hm
    simp only [decide_eq_true_eq] at hin hout
    obtain ⟨k, hk, hlast⟩ := hends _ _ (hp.of_mem hm)
    rw [List.getElem?_drop] at hlast
    -- the region would end with what stands before the value
    obtain ⟨c, hc, hkind⟩ := hgap (m.start + k) (by omega) (by omega)
    rw [hremains _ _ hlast hx.2] at hc
    obtain rfl := Option.some.inj hc
    rcases hkind with hkind | hkind
    · exact hx.1 hkind
    · rw [hx.2] at hkind
      cases hkind
  rw [blanked_eq_hide hp.neverEmpty, getElem?_hide, hcs, hcovers]
  rfl

/-- Template script or a comment covers the offset and goes on behind it. -/
def hidden (code : List Char) (i : Nat) : Bool :=
  crosses (templateScript.findAll code) i ||
    crosses (comment.findAll (blanked templateScript code)) i

/-- What is not seen in the text of the tags covers the offset and goes on behind it. -/
def concealed (code : List Char) (i : Nat) : Bool :=
  hidden code i || crosses (rawElement.findAll (markup code)) i

theorem not_concealed_of_visible {code : List Char} {i j : Nat} {c : Char}
    (hc : (tagText code)[i]? = some c) (hblank : isBlank c = false) (hj : j = i ∨ j + 1 = i) :
    concealed code j = false := by
  obtain ⟨hraw, hc⟩ := not_crosses_of_visible reads_rawElement.neverEmpty hc hblank hj
  obtain ⟨hcomment, hc⟩ := not_crosses_of_visible reads_comment.neverEmpty hc hblank hj
  obtain ⟨htemplate, -⟩ := not_crosses_of_visible reads_templateScript.neverEmpty hc hblank hj
  rw [concealed, hidden, hraw, hcomment, htemplate]
  rfl

/-- Where the offset before a value is not covered, the equals sign is left. -/
theorem Stands.sign_left {code : List Char} {v : Nat × Nat} (h : Stands code v) : ∃ e < v.1,
    (∀ i, e < i → i < v.1 → ∃ c, code[i]? = some c ∧ isBlank c = true) ∧
      (hidden code (v.1 - 1) = false → (markup code)[e]? = some '=') ∧
        (concealed code (v.1 - 1) = false → (tagText code)[e]? = some '=') := by
  obtain ⟨e, he, hsign, hgap⟩ := h.before
  have hkind : ∀ i, e ≤ i → i ≤ v.1 - 1 →
      ∃ c, code[i]? = some c ∧ (c = '=' ∨ isBlank c = true) := by
    intro i hi hi'
    rcases Nat.eq_or_lt_of_le hi with rfl | hlt
    · exact ⟨'=', hsign, .inl rfl⟩
    · obtain ⟨c, hc, hblank⟩ := hgap i hlt (by omega)
      exact ⟨c, hc, .inr hblank⟩
  have hle : e ≤ v.1 - 1 := by omega
  have hmarkup (hseen : hidden code (v.1 - 1) = false) : (markup code)[e]? = some '=' := by
    rw [hidden, Bool.or_eq_false_iff] at hseen
    exact sign_visible reads_comment endsWith_readComment (by decide) (remains_template code) hle
      (sign_visible reads_templateScript endsWith_readTemplate (by decide) (.refl code) hle hsign
        hkind hseen.1) hkind hseen.2
  refine ⟨e, he, hgap, hmarkup, fun hseen => ?_⟩
  rw [concealed, Bool.or_eq_false_iff] at hseen
  exact sign_visible reads_rawElement endsWith_readRaw (by decide) (remains_markup code) hle
    (hmarkup hseen.1) hkind hseen.2

/-- The quotes around values, and blanks where something is blanked. -/
def faded (hides : Nat → Bool) (vs : List (Nat × Nat)) (i : Nat) : List Char :=
  if hides i then erased (quotes vs i) else quotes vs i

theorem faded_of_nil {hides : Nat → Bool} {vs : List (Nat × Nat)} {i : Nat}
    (h : quotes vs i = []) : faded hides vs i = [] := by
  rw [faded, h]
  split_ifs <;> rfl

theorem faded_of_not_borders {hides : Nat → Bool} {vs : List (Nat × Nat)} {i : Nat}
    (h : ¬Borders vs i) : faded hides vs i = [] := faded_of_nil (if_neg h)

theorem faded_of_borders {hides : Nat → Bool} {vs : List (Nat × Nat)} {i : Nat}
    (h : Borders vs i) : faded hides vs i = if hides i then [' '] else ['"'] := by
  rw [faded, quotes, if_pos h]
  rfl

theorem soft_faded (hides : Nat → Bool) (vs : List (Nat × Nat)) : Soft (faded hides vs) := by
  intro i c hc
  by_cases h : Borders vs i
  · rw [faded_of_borders h] at hc
    split_ifs at hc
    · exact .inr (List.mem_singleton.mp hc)
    · exact .inl (List.mem_singleton.mp hc)
  · rw [faded_of_not_borders h] at hc
    cases hc

theorem faded_faded (hides hides' : Nat → Bool) (vs : List (Nat × Nat)) :
    (fun i => if hides' i then erased (faded hides vs i) else faded hides vs i) =
      faded (fun i => hides i || hides' i) vs := by
  funext i
  rw [faded, faded]
  by_cases h : Borders vs i
  · rw [quotes, if_pos h]
    cases hides i <;> cases hides' i <;> rfl
  · rw [quotes, if_neg h]
    cases hides i <;> cases hides' i <;> rfl

/-- No value starts or ends between these characters. -/
def Joined (c d : Char) : Prop :=
  c ≠ '=' ∧ isBlank c = false ∧ isBlank d = false ∧ valueSet.mem d = true

instance (c d : Char) : Decidable (Joined c d) :=
  inferInstanceAs (Decidable (c ≠ '=' ∧ isBlank c = false ∧ isBlank d = false ∧
    valueSet.mem d = true))

/-- No quote falls into the text at the end of template script or a comment, and where the quote
behind a value is not covered, the one before it is not. -/
structure Whole (vs : List (Nat × Nat)) (code : List Char) : Prop where
  template : ∀ m ∈ templateScript.findAll code, ∀ v ∈ vs, v.1 + 2 ≠ m.stop
  comment : ∀ m ∈ comment.findAll (blanked templateScript code), ∀ v ∈ vs, v.2 + 1 ≠ m.stop
  paired : ∀ v ∈ vs, hidden code (v.2 - 1) = false → hidden code (v.1 - 1) = false

instance (vs : List (Nat × Nat)) (code : List Char) : Decidable (Whole vs code) :=
  decidable_of_iff ((∀ m ∈ templateScript.findAll code, ∀ v ∈ vs, v.1 + 2 ≠ m.stop) ∧
      (∀ m ∈ comment.findAll (blanked templateScript code), ∀ v ∈ vs, v.2 + 1 ≠ m.stop) ∧
        ∀ v ∈ vs, hidden code (v.2 - 1) = false → hidden code (v.1 - 1) = false)
    ⟨fun h => ⟨h.1, h.2.1, h.2.2⟩, fun h => ⟨h.template, h.comment, h.paired⟩⟩

section TagText

variable {vs : List (Nat × Nat)} {code : List Char} (hstands : ∀ v ∈ vs, Stands code v)
include hstands

theorem quotes_of_joined {i : Nat} {c d : Char} (hc : code[i]? = some c)
    (hd : code[i + 1]? = some d) (h : Joined c d) : quotes vs i = [] := by
  refine if_neg ?_
  rintro ⟨v, hv, hstart | hstop⟩
  · exact (hstands v hv).start_ne hc ⟨h.1, h.2.1⟩ hstart
  · exact (hstands v hv).stop_ne hd h.2.2.2 hstop

/-- Nothing is put into a text whose characters are joined. -/
theorem quotes_of_literal {cs : List Char} (hremains : Remains cs code) {d : List Char} {pos : Nat}
    (h : fits (literal d) (cs.drop pos) = true) (hd : d.IsChain Joined) {i : Nat}
    (hi : i + 1 < d.length) : quotes vs (pos + i) = [] := by
  have hjoined := hd.getElem i hi
  have hc := getElem?_of_literal h (Nat.lt_of_succ_lt hi)
  have hc' := getElem?_of_literal h hi
  rw [List.getElem?_drop] at hc hc'
  exact quotes_of_joined hstands (hremains _ _ hc hjoined.2.1) (hremains _ _ hc' hjoined.2.2.1)
    hjoined

theorem enclosed_faded {a b cs : List Char} (ha : Hard a) (hb : Hard b) (hremains : Remains cs code)
    {pos n : Nat} (h : enclosed a b (cs.drop pos) = some n) (hopen : a.IsChain Joined)
    (hclose : ∀ i, i + 1 < b.length → quotes vs (pos + (n - b.length) + i) = [])
    (hides : Nat → Bool) :
    enclosed a b (inserted (fun j => faded hides vs (pos + j)) (cs.drop pos)) =
      some (placeOf (fun j => sizes (faded hides vs) (pos + j)) (n - 1) + 1) := by
  refine enclosed_inserted ha hb ((soft_faded hides vs).shift pos) h (fun i hi => ?_) fun i hi => ?_
  · exact faded_of_nil (quotes_of_literal hstands hremains (of_enclosed h).1 hopen hi)
  · refine faded_of_nil ?_
    rw [← Nat.add_assoc]
    exact hclose i hi

theorem template_inserted (hwhole : Whole vs code) :
    blanked templateScript (inserted (faded (fun _ => false) vs) code) = inserted
      (faded (crosses (templateScript.findAll code)) vs) (blanked templateScript code) := by
  have hsoft := soft_faded (fun _ => false) vs
  rw [blanked_inserted reads_templateScript
    (fun i hnone => firm_templateScript.stays_none (hsoft.shift i) hnone)
    (fun i c hc ds => firm_templateScript.skip c (hsoft i c hc) ds), faded_faded]
  · simp only [Bool.false_or]
  · intro m hm
    rcases Option.or_eq_some_iff.mp (reads_templateScript.of_mem hm) with hblock | ⟨hnone, houtput⟩
    · have hclose := (of_enclosed hblock).2.2
      rw [List.drop_drop] at hclose
      rw [readTemplate, enclosed_faded hstands hard_openings.2.1 hard_ends.2.1 (.refl code) hblock
        (by decide) (fun i hi => quotes_of_literal hstands (.refl code) hclose (by decide) hi),
        Option.some_or]
    · have hclose := (of_enclosed houtput).2.2
      have hle := (of_enclosed houtput).2.1
      rw [List.drop_drop] at hclose
      rw [readTemplate, (firm_enclosed hard_openings.2.1 hard_ends.2.1).stays_none
        (hsoft.shift m.start) hnone, Option.none_or]
      refine enclosed_faded hstands hard_openings.2.2 hard_ends.2.2 (.refl code) houtput
        (by decide) (fun i hi => ?_) _
      have hc (j : Nat) (hj : j < 3) := getElem?_of_literal hclose (i := j) hj
      simp only [List.getElem?_drop] at hc
      cases i with
      | zero =>
        -- a value may start behind the equals sign
        refine if_neg ?_
        rintro ⟨v, hv, hstart | hstop⟩
        · refine hwhole.template m hm v hv ?_
          simp at hle hstart
          omega
        · exact (hstands v hv).stop_ne (hc 1 (by decide)) rfl hstop
      | succ i =>
        change i + 1 + 1 < 3 at hi
        obtain rfl : i = 0 := by omega
        exact quotes_of_joined hstands (hc 1 (by decide)) (hc 2 (by decide)) (by decide)

/-- What is left of a line with quotes without template script and comments. -/
theorem markup_inserted (hwhole : Whole vs code) :
    markup (inserted (faded (fun _ => false) vs) code) =
      inserted (faded (hidden code) vs) (markup code) := by
  have hsoft := soft_faded (crosses (templateScript.findAll code)) vs
  rw [markup, template_inserted hstands hwhole, blanked_inserted reads_comment
    (fun i hnone => firm_comment.stays_none (hsoft.shift i) hnone)
    (fun i c hc ds => firm_comment.skip c (hsoft i c hc) ds), faded_faded]
  · rfl
  · intro m hm
    have hread := reads_comment.of_mem hm
    have hclose := (of_enclosed hread).2.2
    have hle := (of_enclosed hread).2.1
    have hremains := remains_template code
    rw [List.drop_drop] at hclose
    refine enclosed_faded hstands hard_openings.1 hard_ends.1 hremains hread (by decide)
      (fun i hi => ?_) _
    have hc (j : Nat) (hj : j < 3) := getElem?_of_literal hclose (i := j) hj
    simp only [List.getElem?_drop] at hc
    cases i with
    | zero =>
      exact quotes_of_joined hstands (hremains _ _ (hc 0 (by decide)) rfl)
        (hremains _ _ (hc 1 (by decide)) rfl) (by decide)
    | succ i =>
      change i + 1 + 1 < 3 at hi
      obtain rfl : i = 0 := by omega
      -- a value may end before the angle
      refine if_neg ?_
      rintro ⟨v, hv, hstart | hstop⟩
      · exact (hstands v hv).start_ne (hremains _ _ (hc 1 (by decide)) rfl) (by decide) hstart
      · refine hwhole.comment m hm v hv ?_
        simp at hle hstop
        omega

/-- The quotes and blanks that are put into the markup break no tag. -/
theorem spares_markup (hwhole : Whole vs code) :
    Spares (faded (hidden code) vs) (markup code) := by
  have hcode {i : Nat} {c : Char} := remains_markup code i c
  -- behind an angle no value starts or ends before an equals sign or a blank
  have htight {v : Nat × Nat} (hv : v ∈ vs) {i n j : Nat} (hangle : (markup code)[i]? = some '<')
      (hfirm : ∀ k < n, ∃ c, (markup code)[i + k]? = some c ∧ c ≠ '=' ∧ isBlank c = false)
      (hj : j < n) : i + j + 1 ≠ v.1 ∧ i + j + 1 ≠ v.2 := by
    have hstart {k : Nat} (hk : k < n) : i + k + 1 ≠ v.1 := by
      obtain ⟨c, hc, hkind⟩ := hfirm k hk
      exact (hstands v hv).start_ne (hcode hc hkind.2) hkind
    refine ⟨hstart hj, fun hstop => ?_⟩
    have hlt := (hstands v hv).lt
    have hout := (hstands v hv).outside (hcode hangle rfl) (.inr rfl)
    have hne := @hstart (v.1 - 1 - i) (by omega)
    omega
  refine ⟨soft_faded _ vs, fun i n h j hj => faded_of_not_borders ?_,
    fun i hi => faded_of_not_borders ?_, fun i n k hn h hblanks j hj c hc => ?_⟩
  · rintro ⟨v, hv, hborder⟩
    have hne := htight hv h.angle h.firm hj
    omega
  · rintro ⟨v, hv, hstart | hstop⟩
    · exact (hstands v hv).start_ne (hcode hi rfl) (by decide) hstart
    · have hout := (hstands v hv).outside (hcode hi rfl) (.inl rfl)
      have hlt := (hstands v hv).lt
      omega
  · by_cases hborders : Borders vs (i + n + j)
    · rw [faded_of_borders hborders] at hc
      split_ifs at hc with hhidden
      · exact List.mem_singleton.mp hc
      · -- a quote that is shown has the equals sign of its value before it
        exfalso
        obtain ⟨v, hv, hborder⟩ := hborders
        have hlt := (hstands v hv).lt
        have hseen : hidden code (v.1 - 1) = false := by
          have hsame (b : Nat) (hb : i + n + j + 1 = b) : b - 1 = i + n + j := by omega
          rcases hborder with hstart | hstop
          · rw [hsame _ hstart]
            exact Bool.eq_false_iff.mpr hhidden
          · refine hwhole.paired v hv ?_
            rw [hsame _ hstop]
            exact Bool.eq_false_iff.mpr hhidden
        obtain ⟨e, he, hgap, hmarkup, -⟩ := (hstands v hv).sign_left
        have hsign := hmarkup hseen
        have hout := (hstands v hv).outside (hcode h.angle rfl) (.inr rfl)
        rcases Nat.lt_or_ge e i with hbefore | hbehind
        · obtain ⟨c, hc, hblank⟩ := hgap i hbefore (by omega)
          rw [hcode h.angle rfl] at hc
          rw [← Option.some.inj hc] at hblank
          cases hblank
        · obtain ⟨k, rfl⟩ := Nat.exists_eq_add_of_le hbehind
          rcases Nat.lt_or_ge k n with hlt | hge
          · obtain ⟨c, hc, hne, -⟩ := h.firm k hlt
            rw [hsign] at hc
            exact hne (Option.some.inj hc).symm
          · obtain ⟨k, rfl⟩ := Nat.exists_eq_add_of_le hge
            obtain ⟨c, hc, hblank⟩ := hblanks k (by omega)
            rw [← Nat.add_assoc] at hsign
            rw [hsign] at hc
            rw [← Option.some.inj hc] at hblank
            cases hblank
    · rw [faded_of_not_borders hborders] at hc
      cases hc

/-- The text of the tags that is left of a line with quotes. -/
theorem tagText_inserted (hwhole : Whole vs code) :
    tagText (inserted (faded (fun _ => false) vs) code) =
      inserted (faded (concealed code) vs) (tagText code) := by
  have hspares := spares_markup hstands hwhole
  have hcarries := carries_readRaw hspares
  rw [tagText, markup_inserted hstands hwhole, blanked_inserted reads_rawElement, faded_faded]
  · rfl
  · intro i hi
    refine (hcarries i).trans ?_
    rw [hi]
    rfl
  · intro i c hc ds
    rcases hspares.soft i c hc with rfl | rfl <;> rfl
  · intro m hm
    have hread := reads_rawElement.of_mem hm
    obtain ⟨n, hn, hlast⟩ := endsWith_readRaw _ _ hread
    rw [List.getElem?_drop] at hlast
    refine (hcarries m.start).trans ?_
    rw [hread, hn, Option.map_some, Nat.add_sub_cancel]
    refine congrArg some ?_
    rw [spreadLength, placeOf, sizes, hspares.angle _ hlast]
    rfl

end TagText

end CampaignCheck.Html

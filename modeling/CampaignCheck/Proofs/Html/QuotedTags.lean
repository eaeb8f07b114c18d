import CampaignCheck.Proofs.Html.QuotedAttributes
import CampaignCheck.Proofs.Html.QuotedText

namespace CampaignCheck.Html

open Pattern Text

/-- What a tag says, without regard to where it stands and how its values are quoted. -/
structure Content where
  name : List Char
  closing : Bool
  selfClosing : Bool
  attributes : List (List Char × List Char)
deriving DecidableEq

def Tag.content (t : Tag) : Content :=
  ⟨t.name, t.closing, t.selfClosing, t.attributeMap.map fun p => (p.1, unquoted p.2)⟩

theorem attributeMap_congr {t t' : Tag}
    (h : List.Forall₂ (fun a a' => a'.name = a.name ∧ unquoted a'.value = unquoted a.value)
      t.attributes t'.attributes) :
    t'.attributeMap.map (fun p => (p.1, unquoted p.2)) =
      t.attributeMap.map fun p => (p.1, unquoted p.2) := by
  have hfold (seen seen' : List (List Char × Option (List Char)))
      (hseen : (seen'.map fun p => (p.1, unquoted p.2)) = seen.map fun p => (p.1, unquoted p.2)) :
      ((t'.attributes.foldl (fun seen a => if seen.any (·.1 == a.name) then seen
        else seen ++ [(a.name, a.value)]) seen').map fun p => (p.1, unquoted p.2)) =
      (t.attributes.foldl (fun seen a => if seen.any (·.1 == a.name) then seen
        else seen ++ [(a.name, a.value)]) seen).map fun p => (p.1, unquoted p.2) := by
    generalize t.attributes = as, t'.attributes = as' at h
    induction h generalizing seen seen' with
    | nil => exact hseen
    | @cons a a' as as' ha _ ih =>
      have hany : seen'.any (·.1 == a'.name) = seen.any (·.1 == a.name) := by
        have hnames := congrArg (List.any · (·.1 == a.name)) hseen
        rw [ha.1]
        simpa only [List.any_map, Function.comp_def] using hnames
      rw [List.foldl_cons, List.foldl_cons, hany]
      split_ifs
      · exact ih seen seen' hseen
      · refine ih _ _ ?_
        rw [List.map_append, List.map_append, hseen]
        simp [ha.1, ha.2]
  exact hfold [] [] rfl

theorem content_eq {t t' : Tag} (hname : t'.name = t.name) (hclosing : t'.closing = t.closing)
    (hself : t'.selfClosing = t.selfClosing)
    (h : List.Forall₂ (fun a a' => a'.name = a.name ∧ unquoted a'.value = unquoted a.value)
      t.attributes t'.attributes) : t'.content = t.content := by
  rw [Tag.content, Tag.content, hname, hclosing, hself, attributeMap_congr h]

/-- The text goes on to an angle that closes a tag. -/
def closes (cs : List Char) : Bool := (cs.dropWhile insideSet.mem).head? == some '>'

theorem closes_append {as : List Char} (h : ∀ c ∈ as, insideSet.mem c = true) (bs : List Char) :
    closes (as ++ bs) = closes bs := by
  rw [closes, List.dropWhile_append_of_pos h, closes]

theorem isSome_readBody (cs : List Char) : (readBody cs).isSome = closes cs := by
  induction cs with
  | nil => rfl
  | cons c cs ih =>
    rw [readBody]
    cases hend : readEnd (c :: cs) with
    | some slash =>
      obtain ⟨rest, hrest⟩ := readEnd_iff.mp hend
      rw [hrest]
      cases slash <;> rfl
    | none =>
      cases hc : insideSet.mem c with
      | true =>
        rw [if_pos rfl, Option.isSome_map, ih]
        have hone : ∀ d ∈ [c], insideSet.mem d = true := by simpa using hc
        exact (closes_append hone cs).symm
      | false =>
        have hne : c ≠ '>' := by
          rintro rfl
          cases hend
        rw [closes, List.dropWhile_cons_of_neg (ne_true_of_eq_false hc)]
        simp [hne]

theorem isSome_readName (closing : Bool) (c : Char) (cs : List Char) :
    (readName closing (c :: cs)).isSome = (letterSet.mem c && closes cs) := by
  have hinside : ∀ d ∈ cs.takeWhile tailSet.mem, insideSet.mem d = true :=
    fun d hd => (readEnd_of_tail (List.mem_takeWhile_imp hd) []).2
  have hsplit := closes_append hinside (cs.dropWhile tailSet.mem)
  rw [List.takeWhile_append_dropWhile] at hsplit
  rw [readName, hsplit]
  cases letterSet.mem c with
  | false => rfl
  | true => rw [if_pos rfl, Option.isSome_map, isSome_readBody, Bool.true_and]

def tagOpening (closing : Bool) : List (Char → Bool) :=
  (fun b => '<' == b) :: (literal (slashIf closing) ++ [letterSet.mem])

theorem isSome_leadingTag {cs : List Char} : (leadingTag cs).isSome ↔ ∃ closing,
    fits (tagOpening closing) cs = true ∧ closes (cs.drop (tagOpening closing).length) = true := by
  constructor
  · intro h
    obtain ⟨t, ht⟩ := Option.isSome_iff_exists.mp h
    obtain ⟨rest, rfl, hfits⟩ := leadingTag_iff.mp ht
    obtain ⟨c, name, hname, hc, htail⟩ := hfits.first
    have hinside (d : Char) (hd : d ∈ name) : insideSet.mem d = true :=
      (readEnd_of_tail (htail d hd) []).2
    have hslash (b : Bool) : ∀ d ∈ slashIf b, insideSet.mem d = true := by
      cases b
      · exact fun d hd => nomatch hd
      · simp [slashIf, insideSet_mem]
    have hcloses : closes (name ++ (t.tail ++ rest)) = true := by
      rw [Spelt.tail, List.append_assoc, List.append_assoc, closes_append hinside,
        closes_append hfits.body.inside, closes_append (hslash _)]
      rfl
    refine ⟨t.closing, ?_, ?_⟩
    · rw [Spelt.text, hname]
      cases t.closing <;> simp [tagOpening, slashIf, literal, fits, hc]
    · rw [Spelt.text, hname]
      cases t.closing <;> simpa [tagOpening, slashIf, literal] using hcloses
  · rintro ⟨closing, hfits, hcloses⟩
    cases closing with
    | false =>
      rcases cs with _ | ⟨x, _ | ⟨c, ds⟩⟩
      · cases hfits
      · simp [tagOpening, slashIf, literal, fits] at hfits
      · have hstart : '<' = x ∧ letterSet.mem c = true := by
          simpa [tagOpening, slashIf, literal, fits] using hfits
        have hne : c ≠ '/' := by
          rintro rfl
          cases hstart.2
        rw [← hstart.1, leadingTag_of_ne hne, isSome_readName, hstart.2]
        exact hcloses
    | true =>
      rcases cs with _ | ⟨x, _ | ⟨y, _ | ⟨c, ds⟩⟩⟩
      · cases hfits
      · simp [tagOpening, slashIf, literal, fits] at hfits
      · simp [tagOpening, slashIf, literal, fits] at hfits
      · have hstart : '<' = x ∧ '/' = y ∧ letterSet.mem c = true := by
          simpa [tagOpening, slashIf, literal, fits] using hfits
        rw [← hstart.1, ← hstart.2.1, leadingTag, isSome_readName, hstart.2.2]
        exact hcloses

section Soft

variable {add : Nat → List Char} (hadd : Soft add)
include hadd

theorem closes_inserted (cs : List Char) : closes (inserted add cs) = closes cs := by
  induction cs generalizing add with
  | nil => rfl
  | cons c cs ih =>
    have hinside : ∀ d ∈ add 0, insideSet.mem d = true := by
      intro d hd
      rcases hadd 0 d hd with rfl | rfl <;> rfl
    have hrest := ih fun i => hadd (i + 1)
    rw [inserted]
    cases hc : insideSet.mem c with
    | true =>
      rw [closes, closes, List.dropWhile_cons_of_pos hc, List.dropWhile_cons_of_pos hc]
      exact (closes_append hinside _).trans hrest
    | false =>
      have hc := ne_true_of_eq_false hc
      rw [closes, closes, List.dropWhile_cons_of_neg hc, List.dropWhile_cons_of_neg hc]
      rfl

/-- What is put into a text brings no tag about. -/
theorem leadingTag_inserted_eq_none {cs : List Char} (h : leadingTag cs = none) :
    leadingTag (inserted add cs) = none := by
  have hsoft (closing : Bool) : ∀ p ∈ tagOpening closing, ∀ i, ∀ c ∈ add i, p c = false := by
    have hnot : ∀ p ∈ tagOpening closing, p '"' = false ∧ p ' ' = false := by
      cases closing <;> simp only [tagOpening, slashIf, literal] <;> decide
    intro p hp i c hc
    rcases hadd i c hc with rfl | rfl
    · exact (hnot p hp).1
    · exact (hnot p hp).2
  rw [← Option.not_isSome_iff_eq_none, isSome_leadingTag] at h ⊢
  rintro ⟨closing, hfits, hcloses⟩
  obtain ⟨hfits, hnil⟩ := fits_of_inserted (hsoft closing) hfits
  have hinside : ∀ d ∈ add ((tagOpening closing).length - 1), insideSet.mem d = true := by
    intro d hd
    rcases hadd _ d hd with rfl | rfl <;> rfl
  have hlength : (tagOpening closing).length = (tagOpening closing).length - 1 + 1 := rfl
  have hle := length_of_fits hfits
  refine h ⟨closing, hfits, ?_⟩
  rw [hlength, drop_succ_inserted (by omega) fun i hi => hnil i (by omega),
    closes_append hinside, closes_inserted fun i => hadd _] at hcloses
  exact hcloses

end Soft

def Spelt.sprinkled (t : Spelt) (add : Nat → List Char) : Spelt :=
  { t with body := inserted add t.body }

theorem getLast?_inserted {add : Nat → List Char} (hadd : Soft add) {cs : List Char} {c : Char}
    (hc : c ≠ '"' ∧ c ≠ ' ') (h : (inserted add cs).getLast? = some c) : cs.getLast? = some c := by
  rcases List.eq_nil_or_concat cs with rfl | ⟨front, d, rfl⟩
  · exact h
  · rw [List.concat_eq_append, inserted_append, inserted, inserted, List.append_nil] at h
    rw [List.concat_eq_append, List.getLast?_concat]
    rcases List.eq_nil_or_concat (add (front.length + 0)) with hnil | ⟨qs, q, hqs⟩
    · rwa [hnil, List.getLast?_concat] at h
    · have hq := hadd (front.length + 0) q (by rw [hqs]; simp)
      rw [hqs, List.concat_eq_append, ← List.cons_append, ← List.append_assoc,
        List.getLast?_concat] at h
      obtain rfl := Option.some.inj h
      rcases hq with rfl | rfl
      · exact absurd rfl hc.1
      · exact absurd rfl hc.2

theorem Spelt.Fits.sprinkled {t : Spelt} (h : t.Fits) {add : Nat → List Char} (hadd : Soft add) :
    (t.sprinkled add).Fits := by
  refine ⟨h.first, ?_, ?_, ?_⟩
  · have hends := h.ends
    rw [Spelt.tail, List.head?_append] at hends ⊢
    rwa [show (t.sprinkled add).body = inserted add t.body from rfl, head?_inserted]
  · intro c hc
    rcases mem_inserted hc with hc | ⟨i, -, hc⟩
    · exact h.body.inside c hc
    · rcases hadd i c hc with rfl | rfl <;> rfl
  · intro hself hlast
    exact h.body.last hself (getLast?_inserted hadd (by decide) hlast)

theorem not_blank_of_letter {c : Char} (h : letterSet.mem c = true) : isBlank c = false := by
  have hmem : letterSet.mem c = (CharSet.between 'A' 'Z' c || CharSet.between 'a' 'z' c) := rfl
  have hrange : 65 ≤ c.toNat ∧ c.toNat ≤ 122 := by
    have hcodes : codeOf 'A' = 65 ∧ codeOf 'Z' = 90 ∧ codeOf 'a' = 97 ∧ codeOf 'z' = 122 := by
      decide
    simp only [hmem, CharSet.between, Bool.or_eq_true, Bool.and_eq_true, decide_eq_true_eq,
      hcodes] at h
    rw [toNat_eq_codeOf (by omega)]
    omega
  simp only [isBlank, Bool.or_eq_false_iff, Bool.and_eq_false_iff, decide_eq_false_iff_not,
    beq_eq_false_iff_ne]
  omega

theorem not_blank_of_tail {c : Char} (h : tailSet.mem c = true) : isBlank c = false := by
  have hmem : tailSet.mem c = (isWord c || (':' == c || '-' == c)) := rfl
  by_contra hblank
  have hyes : isBlank c = true := Bool.not_eq_false _ ▸ hblank
  rw [hmem, isWord_of_isBlank hyes, Bool.false_or, Bool.or_eq_true, beq_iff_eq, beq_iff_eq] at h
  rcases h with rfl | rfl <;> cases hyes

/-- A name and the signs around it have no blanks. -/
theorem Spelt.text_split (t : Spelt) (pos : Nat) : ∃ front back,
    t.text = front ++ (t.body ++ back) ∧ t.nameStop pos = pos + front.length ∧
      (t.found pos).stop = t.bodyStop pos + back.length ∧
      (∀ add, (t.sprinkled add).text = front ++ ((t.sprinkled add).body ++ back)) ∧
        (t.Fits → ∀ c ∈ front ++ back, isBlank c = false) := by
  refine ⟨'<' :: (slashIf t.closing ++ t.name), slashIf t.selfClosing ++ ['>'], ?_, ?_, ?_, ?_, ?_⟩
  · simp [Spelt.text, Spelt.tail]
  · simp only [Spelt.nameStop, Spelt.nameStart, List.length_cons, List.length_append]
    omega
  · simp [Spelt.found, Spelt.slashStop, Nat.add_assoc]
  · intro add
    simp [Spelt.text, Spelt.tail, Spelt.sprinkled]
  · intro h c hc
    obtain ⟨x, name, hname, hx, htail⟩ := h.first
    have hslash (b : Bool) (hc : c ∈ slashIf b) : isBlank c = false := by
      cases b
      · cases hc
      · rw [List.mem_singleton.mp hc]
        rfl
    simp only [List.cons_append, List.mem_cons, List.mem_append, hname] at hc
    rcases hc with rfl | (hc | rfl | hc) | hc | rfl | hc
    · rfl
    · exact hslash _ hc
    · exact not_blank_of_letter hx
    · exact not_blank_of_tail (htail c hc)
    · exact hslash _ hc
    · rfl
    · cases hc

/-- Putting something into a tag is putting it into its body. -/
theorem inserted_text {add : Nat → List Char} (t : Spelt) (pos : Nat)
    (hout : ∀ i, pos ≤ i → i < (t.found pos).stop → ¬(t.nameStop pos ≤ i ∧ i < t.bodyStop pos) →
      add i = []) :
    inserted (fun j => add (pos + j)) t.text =
      (t.sprinkled fun j => add (t.nameStop pos + j)).text := by
  obtain ⟨front, back, htext, hstart, hstop, hsprinkled, -⟩ := t.text_split pos
  have hend : t.bodyStop pos = t.nameStop pos + t.body.length := rfl
  have hshift (j : Nat) : pos + (front.length + j) = t.nameStop pos + j := by omega
  rw [htext, hsprinkled, inserted_append_of_nil fun j hj => hout _ (by omega) (by omega) (by omega),
    inserted_append]
  simp only [hshift]
  rw [@inserted_of_nil _ _ back]
  · rfl
  · intro j hj
    exact hout _ (by omega) (by omega) (by omega)

section Spelt

variable {cs rest : List Char} {t : Spelt} {pos : Nat} (hcs : cs.drop pos = t.text ++ rest)
include hcs

theorem getElem?_body {i : Nat} (hi : i < t.body.length) :
    cs[t.nameStop pos + i]? = t.body[i]? := by
  obtain ⟨front, back, htext, hstart, -, -⟩ := t.text_split pos
  have hdrop : cs.drop (pos + front.length) = t.body ++ (back ++ rest) :=
    Text.drop_of_drop (by rw [hcs, htext, List.append_assoc, List.append_assoc])
  rw [hstart, ← List.getElem?_drop, hdrop, List.getElem?_append_left hi]

theorem getElem?_last {i : Nat} (hi : i + 1 = (t.found pos).stop) : cs[i]? = some '>' := by
  have hlast : t.text =
      '<' :: (slashIf t.closing ++ (t.name ++ (t.body ++ slashIf t.selfClosing))) ++ ['>'] := by
    simp [Spelt.text, Spelt.tail]
  have hlength : i = pos + ('<' :: (slashIf t.closing ++ (t.name ++ (t.body ++
      slashIf t.selfClosing)))).length := by
    simp only [Spelt.found, Spelt.slashStop, Spelt.bodyStop, Spelt.nameStop, Spelt.nameStart] at hi
    simp only [List.length_cons, List.length_append]
    omega
  rw [hlength, ← List.getElem?_drop, hcs, hlast, List.append_assoc,
    List.getElem?_append_right (Nat.le_refl _), Nat.sub_self]
  rfl

end Spelt

theorem stop_found (t : Spelt) (pos : Nat) : (t.found pos).stop = pos + t.text.length := by
  simp only [Spelt.found, Spelt.slashStop, Spelt.bodyStop, Spelt.nameStop, Spelt.nameStart,
    Spelt.text, Spelt.tail, List.length_cons, List.length_append, List.length_nil]
  omega

theorem getElem?_blank {cs rest : List Char} {t : Spelt} {pos : Nat}
    (hcs : cs.drop pos = t.text ++ rest) (hfits : t.Fits) {i : Nat} (hi : pos ≤ i)
    (hi' : i < (t.found pos).stop) (hblank : ∀ c, cs[i]? = some c → isBlank c = true) :
    t.nameStop pos ≤ i ∧ i < t.bodyStop pos := by
  obtain ⟨front, back, htext, hstart, hstop, -, hfirm⟩ := t.text_split pos
  have hend : t.bodyStop pos = t.nameStop pos + t.body.length := rfl
  rw [htext, List.append_assoc, List.append_assoc] at hcs
  have hnot {c : Char} (hc : cs[i]? = some c) (hmem : c ∈ front ++ back) : False := by
    have hyes := hblank c hc
    rw [hfirm hfits c hmem] at hyes
    cases hyes
  obtain ⟨k, rfl⟩ := Nat.exists_eq_add_of_le hi
  by_contra hout
  rcases Nat.lt_or_ge k front.length with hlt | hge
  · refine hnot (c := front[k]) ?_ (List.mem_append_left _ (List.getElem_mem hlt))
    rw [← List.getElem?_drop, hcs, List.getElem?_append_left hlt, List.getElem?_eq_getElem hlt]
  · have hbehind := Text.drop_of_drop (Text.drop_of_drop hcs)
    obtain ⟨j, rfl⟩ := Nat.exists_eq_add_of_le (show front.length + t.body.length ≤ k by omega)
    have hj : j < back.length := by omega
    refine hnot (c := back[j]) ?_ (List.mem_append_right _ (List.getElem_mem hj))
    rw [← Nat.add_assoc, ← Nat.add_assoc, ← List.getElem?_drop, hbehind,
      List.getElem?_append_left hj, List.getElem?_eq_getElem hj]

/-- What quotes around a value do to the tags of a line: they frame an attribute of one, they stand
apart from all, or they are concealed and no part of a value. -/
inductive Placed (code : List Char) (v : Nat × Nat) : Prop
  | framed (hstart : concealed code (v.1 - 1) = false) (hstop : concealed code (v.2 - 1) = false)
      (h : ∃ m ∈ tagForm.findAll (tagText code), m.startOf 3 ≤ v.1 ∧
        ∃ a ∈ attributeForm.findAll (m.group (tagText code) 3),
          Frames (m.group (tagText code) 3) a (v.1 - m.startOf 3, v.2 - m.startOf 3))
  | apart (h : ∀ m ∈ tagForm.findAll (tagText code), v.2 ≤ m.start ∨ m.stop ≤ v.1)
  | concealed (hstart : concealed code (v.1 - 1) = true) (hstop : concealed code (v.2 - 1) = true)
      (h : ∀ m ∈ tagForm.findAll (tagText code),
        ∀ a ∈ attributeForm.findAll (m.group (tagText code) 3), ∀ b ∈ a.bounds? 2,
          v.2 ≤ m.startOf 3 + b.1 ∨ m.startOf 3 + b.2 ≤ v.1)

instance (code : List Char) (v : Nat × Nat) : Decidable (Placed code v) :=
  decidable_of_iff
    ((concealed code (v.1 - 1) = false ∧ concealed code (v.2 - 1) = false ∧
        ∃ m ∈ tagForm.findAll (tagText code), m.startOf 3 ≤ v.1 ∧
          ∃ a ∈ attributeForm.findAll (m.group (tagText code) 3),
            Frames (m.group (tagText code) 3) a (v.1 - m.startOf 3, v.2 - m.startOf 3)) ∨
      (∀ m ∈ tagForm.findAll (tagText code), v.2 ≤ m.start ∨ m.stop ≤ v.1) ∨
      (concealed code (v.1 - 1) = true ∧ concealed code (v.2 - 1) = true ∧
        ∀ m ∈ tagForm.findAll (tagText code),
          ∀ a ∈ attributeForm.findAll (m.group (tagText code) 3), ∀ b ∈ a.bounds? 2,
            v.2 ≤ m.startOf 3 + b.1 ∨ m.startOf 3 + b.2 ≤ v.1))
    ⟨fun h => h.elim (fun h => .framed h.1 h.2.1 h.2.2) fun h => h.elim .apart fun h =>
        .concealed h.1 h.2.1 h.2.2,
      fun h => match h with
        | .framed hstart hstop h => .inl ⟨hstart, hstop, h⟩
        | .apart h => .inr (.inl h)
        | .concealed hstart hstop h => .inr (.inr ⟨hstart, hstop, h⟩)⟩

/-- In a tag with quotes no name without value goes on with an equals sign and a quote. -/
def Closed (vs : List (Nat × Nat)) (code : List Char) : Prop :=
  ∀ m ∈ tagForm.findAll (tagText code),
    (∃ v ∈ vs, concealed code (v.1 - 1) = false ∧ m.start < v.1 ∧ v.2 < m.stop) →
      ∀ a ∈ attributeForm.findAll (m.group (tagText code) 3), a.bounds? 2 = none →
        opensQuote ((m.group (tagText code) 3).drop a.stop) = false

instance (vs : List (Nat × Nat)) (code : List Char) : Decidable (Closed vs code) :=
  inferInstanceAs (Decidable (∀ m ∈ tagForm.findAll (tagText code),
    (∃ v ∈ vs, concealed code (v.1 - 1) = false ∧ m.start < v.1 ∧ v.2 < m.stop) →
      ∀ a ∈ attributeForm.findAll (m.group (tagText code) 3), a.bounds? 2 = none →
        opensQuote ((m.group (tagText code) 3).drop a.stop) = false))

/-- The bounds in a body of what is put into quotes there. -/
def chosen (vs : List (Nat × Nat)) (code : List Char) (t : Spelt) (pos : Nat) : List (Nat × Nat) :=
  (vs.map fun v => (v.1 - t.nameStop pos, v.2 - t.nameStop pos)).filter fun b =>
    decide ((t.nameStop pos + b.1, t.nameStop pos + b.2) ∈ vs ∧
      concealed code (t.nameStop pos + b.1 - 1) = false ∧
        concealed code (t.nameStop pos + b.2 - 1) = false ∧
          ∃ a ∈ attributeForm.findAll t.body, Frames t.body a b)

section Line

variable {vs : List (Nat × Nat)} {code : List Char}

theorem mem_chosen {t : Spelt} {pos : Nat} {b : Nat × Nat} : b ∈ chosen vs code t pos ↔
    (t.nameStop pos + b.1, t.nameStop pos + b.2) ∈ vs ∧
      concealed code (t.nameStop pos + b.1 - 1) = false ∧
        concealed code (t.nameStop pos + b.2 - 1) = false ∧
          ∃ a ∈ attributeForm.findAll t.body, Frames t.body a b := by
  rw [chosen, List.mem_filter, decide_eq_true_eq, and_iff_right_iff_imp, List.mem_map]
  exact fun h => ⟨_, h.1, by simp⟩

variable (hstands : ∀ v ∈ vs, Stands code v) (hplaced : ∀ v ∈ vs, Placed code v)
include hstands hplaced

/-- What is put into a tag are quotes that frame an attribute of the tag, or blanks that are no
part of a value. -/
theorem within_tag {t : Spelt} {pos : Nat} {rest : List Char}
    (hm : t.found pos ∈ tagForm.findAll (tagText code))
    (hcs : (tagText code).drop pos = t.text ++ rest) {i : Nat}
    (hi : pos ≤ i ∧ i < (t.found pos).stop) (hborders : Borders vs i) :
    (concealed code i = false ∧
      ∃ b ∈ chosen vs code t pos, i + 1 = t.nameStop pos + b.1 ∨ i + 1 = t.nameStop pos + b.2) ∨
    (concealed code i = true ∧ ∀ a ∈ attributeForm.findAll t.body, ∀ b, a.bounds? 2 = some b →
      ¬(t.nameStop pos + b.1 ≤ i ∧ i + 1 < t.nameStop pos + b.2)) := by
  have hscan := scans_findAll neverEmpty_tagForm (tagText code)
  obtain ⟨v, hv, hvi⟩ := hborders
  have hlt := (hstands v hv).lt
  have hpred : i = v.1 - 1 ∨ i = v.2 - 1 := by omega
  obtain ⟨-, -, hbody, -⟩ := groups_found hcs
  rcases hplaced v hv with ⟨hstart, hstop, m', hm', hle, a, ha, hframes⟩ | hout |
    ⟨hstart, hstop, hout⟩
  · left
    obtain ⟨t', pos', rest', rfl, hcs', -⟩ := exists_spelt hm'
    obtain ⟨-, -, hbody', -⟩ := groups_found hcs'
    rw [startOf_found] at hle hframes
    rw [hbody'] at ha hframes
    have hname := hframes.name_lt
    have hwithin := hframes.within
    simp only at hname hwithin
    have hinside : pos' ≤ i ∧ i < (t'.found pos').stop := by
      simp only [Spelt.found, Spelt.slashStop, Spelt.bodyStop, Spelt.nameStop, Spelt.nameStart]
        at hle hname hwithin ⊢
      omega
    have hsame := hscan.only hm hm' hi hinside
    obtain rfl : pos = pos' := congrArg Match.start hsame
    have hbase := congrArg (Match.startOf · 3) hsame
    simp only [startOf_found] at hbase
    rw [hsame, hbody'] at hbody
    rw [← hbase] at hle hframes
    rw [hbody] at ha hframes
    have hfirst : t.nameStop pos + (v.1 - t.nameStop pos) = v.1 := by omega
    have hlast : t.nameStop pos + (v.2 - t.nameStop pos) = v.2 := by omega
    refine ⟨?_, (v.1 - t.nameStop pos, v.2 - t.nameStop pos), mem_chosen.mpr ?_, ?_⟩
    · rcases hpred with rfl | rfl
      · exact hstart
      · exact hstop
    · simp only [hfirst, hlast]
      exact ⟨hv, hstart, hstop, a, ha, hframes⟩
    · simp only [hfirst, hlast]
      exact hvi
  · exfalso
    have hapart := hout _ hm
    have hfirst : (t.found pos).start = pos := rfl
    -- the tag would end with what stands before the value
    have hlast : i + 1 = v.1 ∧ i + 1 = (t.found pos).stop := by omega
    have hangle := remains_tagText code _ _ (getElem?_last hcs hlast.2) rfl
    exact (hstands v hv).start_ne hangle (by decide) hlast.1
  · right
    refine ⟨?_, fun a ha b hb => ?_⟩
    · rcases hpred with rfl | rfl
      · exact hstart
      · exact hstop
    · have hapart := hout _ hm a (by rwa [hbody]) b hb
      rw [startOf_found] at hapart
      omega

omit hplaced in
/-- The equals sign before a value that is put into quotes is the one behind the name. -/
theorem sign_of_chosen {t : Spelt} {pos : Nat} {rest : List Char}
    (hcs : (tagText code).drop pos = t.text ++ rest) {a : Match}
    (ha : a ∈ attributeForm.findAll t.body) {b : Nat × Nat} (hb : b ∈ chosen vs code t pos)
    (hframes : Frames t.body a b) : ∃ e, a.start + (a.group t.body 1).length ≤ e ∧ e < b.1 ∧
      t.body[e]? = some '=' ∧ ∀ i, t.nameStop pos + e < i → i < t.nameStop pos + b.1 →
        ∃ c, code[i]? = some c ∧ isBlank c = true := by
  obtain ⟨hv, hseen, -, -⟩ := mem_chosen.mp hb
  obtain ⟨e, he, hgap, -, hleft⟩ := (hstands _ hv).sign_left
  have hequals := hleft hseen
  have hname := hframes.name_lt
  have hwithin := hframes.within
  have hlt := hframes.lt
  obtain ⟨w, start, behind, rfl, hbody, hfits⟩ := exists_written ha
  rw [group_name hbody] at hname ⊢
  change start + w.name.length < b.1 at hname
  change ∃ e, start + w.name.length ≤ e ∧ _
  obtain ⟨name, x, hlast⟩ := List.eq_nil_or_concat w.name |>.resolve_left hfits.name_ne
  -- the last character of the name stands before the equals sign
  have hx : t.body[start + name.length]? = some x := by
    have hdrop : t.body.drop start = name ++ x :: (w.tail ++ behind) := by
      rw [hbody, Written.text, hlast]
      simp
    exact getElem?_of_drop hdrop
  have hset := hfits.name x (by rw [hlast]; simp)
  have hfirm : x ≠ '=' ∧ isBlank x = false := by
    refine ⟨?_, ?_⟩
    · rintro rfl
      cases hset
    · by_contra hblank
      rw [not_name_of_blank (Bool.not_eq_false _ ▸ hblank)] at hset
      cases hset
  have hlength : w.name.length = name.length + 1 := by rw [hlast]; simp
  have hvisible := getElem?_body hcs (i := start + name.length) (by omega)
  rw [hx] at hvisible
  have hbehind : t.nameStop pos + (start + name.length) < e := by
    rcases Nat.lt_trichotomy e (t.nameStop pos + (start + name.length)) with
      hlater | hsame | hlater
    · obtain ⟨c, hc, hblank⟩ := hgap _ hlater (by simp only; omega)
      rw [remains_tagText code _ _ hvisible hfirm.2] at hc
      rw [← Option.some.inj hc, hfirm.2] at hblank
      cases hblank
    · rw [hsame, hvisible] at hequals
      exact absurd (Option.some.inj hequals) hfirm.1
    · exact hlater
  simp only at he
  refine ⟨e - t.nameStop pos, by omega, by omega, ?_, fun i hi hi' => hgap i (by omega) hi'⟩
  rw [← getElem?_body hcs (by omega), Nat.add_sub_cancel' (by omega), hequals]

omit hplaced in
/-- An attribute is framed by the quotes of one value only. -/
theorem framed_once {t : Spelt} {pos : Nat} {rest : List Char}
    (hcs : (tagText code).drop pos = t.text ++ rest) {a : Match}
    (ha : a ∈ attributeForm.findAll t.body) {b b' : Nat × Nat} (hb : b ∈ chosen vs code t pos)
    (hb' : b' ∈ chosen vs code t pos) (hframes : Frames t.body a b)
    (hframes' : Frames t.body a b') : b = b' := by
  obtain ⟨e, hle, hlt, hequals, hgap⟩ := sign_of_chosen hstands hcs ha hb hframes
  obtain ⟨e', hle', hlt', hequals', hgap'⟩ := sign_of_chosen hstands hcs ha hb' hframes'
  have hsame : e = e' := by
    have honly {c : Nat × Nat} (hframes : Frames t.body a c) (hlt : e < c.1) (hlt' : e' < c.1) :
        e = e' := by
      have hgap := isGap_iff.mp hframes.gap
      have hin {i : Nat} (hi : a.start + (a.group t.body 1).length ≤ i) (hi' : i < c.1)
          (hc : t.body[i]? = some '=') : (slice t.body (a.start + (a.group t.body 1).length) c.1)[
            i - (a.start + (a.group t.body 1).length)]? = some '=' := by
        rw [slice_getElem?, Nat.add_sub_cancel' hi, if_pos hi', hc]
      have hsub := hgap.only (hin hle hlt hequals) (hin hle' hlt' hequals')
      omega
    rcases Nat.le_total b.1 b'.1 with hfirst | hfirst
    · exact honly hframes' (by omega) hlt'
    · exact honly hframes hlt (by omega)
  subst hsame
  have hstands' := (hstands _ (mem_chosen.mp hb).1).eq_of_sign (hstands _ (mem_chosen.mp hb').1)
    (e := t.nameStop pos + e) (by simp only; omega) hgap (by simp only; omega) hgap'
  have hfirst := congrArg Prod.fst hstands'
  have hlast := congrArg Prod.snd hstands'
  exact Prod.ext (Nat.add_left_cancel hfirst) (Nat.add_left_cancel hlast)

/-- What is put into the body of a tag. -/
theorem sprinkled_body (hclosed : Closed vs code)
    {t : Spelt} {pos : Nat} {rest : List Char}
    (hm : t.found pos ∈ tagForm.findAll (tagText code))
    (hcs : (tagText code).drop pos = t.text ++ rest) :
    Sprinkled (fun j => faded (concealed code) vs (t.nameStop pos + j)) (chosen vs code t pos)
      t.body := by
  have hend : t.bodyStop pos = t.nameStop pos + t.body.length := rfl
  have hinside {j : Nat} (hj : j < t.body.length) :
      pos ≤ t.nameStop pos + j ∧ t.nameStop pos + j < (t.found pos).stop := by
    simp only [Spelt.found, Spelt.slashStop, Spelt.bodyStop, Spelt.nameStop, Spelt.nameStart]
    omega
  -- quotes that are shown in the body are those around the chosen values
  have hshown {j : Nat} (hj : j < t.body.length) (hborders : Borders vs (t.nameStop pos + j)) :
      (concealed code (t.nameStop pos + j) = false ∧ Borders (chosen vs code t pos) j) ∨
        (concealed code (t.nameStop pos + j) = true ∧ ∀ a ∈ attributeForm.findAll t.body,
          ∀ b, a.bounds? 2 = some b → ¬(b.1 ≤ j ∧ j + 1 < b.2)) := by
    refine (within_tag hstands hplaced hm hcs (hinside hj) hborders).imp ?_ ?_
    · rintro ⟨hseen, b, hb, hborder⟩
      exact ⟨hseen, b, hb, by omega⟩
    · rintro ⟨hconcealed, hout⟩
      refine ⟨hconcealed, fun a ha b hbounds => ?_⟩
      have hnot := hout a ha b hbounds
      omega
  have hborders {j : Nat} (h : Borders (chosen vs code t pos) j) :
      Borders vs (t.nameStop pos + j) ∧ concealed code (t.nameStop pos + j) = false := by
    obtain ⟨b, hb, hborder⟩ := h
    obtain ⟨hv, hstart, hstop, -⟩ := mem_chosen.mp hb
    refine ⟨⟨_, hv, by simp only; omega⟩, ?_⟩
    rcases hborder with hborder | hborder
    · rwa [← hborder, ← Nat.add_assoc, Nat.add_sub_cancel] at hstart
    · rwa [← hborder, ← Nat.add_assoc, Nat.add_sub_cancel] at hstop
  refine ⟨fun b hb => (mem_chosen.mp hb).2.2.2, fun a ha b hb b' hb' =>
    framed_once hstands hcs ha hb hb', (soft_faded _ vs).shift _, fun j hj h => ?_,
    fun j hj h hne => ?_, fun hquote a ha hbare => ?_⟩
  · obtain ⟨h, hseen⟩ := hborders h
    rw [faded_of_borders h, hseen]
    rfl
  · have hborder : Borders vs (t.nameStop pos + j) := by
      by_contra hnot
      exact hne (faded_of_not_borders hnot)
    rcases hshown hj hborder with ⟨-, hown⟩ | ⟨hconcealed, hout⟩
    · exact absurd hown h
    · refine ⟨by rw [faded_of_borders hborder, hconcealed]; rfl, ?_, hout⟩
      have hc := getElem?_body hcs hj
      rw [List.getElem?_eq_getElem hj] at hc
      refine ⟨_, List.getElem?_eq_getElem hj, ?_⟩
      by_contra hblank
      rw [not_concealed_of_visible hc (Bool.eq_false_iff.mpr hblank) (.inl rfl)] at hconcealed
      cases hconcealed
  · obtain ⟨j, hj, hquote⟩ := hquote
    have hborder : Borders vs (t.nameStop pos + j) := by
      by_contra hnot
      rw [faded_of_not_borders hnot] at hquote
      cases hquote
    obtain ⟨-, -, hbody, -⟩ := groups_found hcs
    rcases hshown hj hborder with ⟨-, b, hb, -⟩ | ⟨hconcealed, -⟩
    · obtain ⟨hv, hseen, -, w, -, hframes⟩ := mem_chosen.mp hb
      have hname := hframes.name_lt
      have hwithin := hframes.within
      have hbase : pos < t.nameStop pos ∧ t.bodyStop pos < (t.found pos).stop := by
        simp only [Spelt.found, Spelt.slashStop, Spelt.nameStop, Spelt.nameStart]
        omega
      rw [← hbody] at ha ⊢
      refine hclosed _ hm ⟨_, hv, hseen, ?_, ?_⟩ a ha hbare
      · change pos < t.nameStop pos + b.1
        omega
      · simp only
        omega
    · rw [faded_of_borders hborder, hconcealed] at hquote
      cases List.mem_singleton.mp hquote

theorem inserted_tag {t : Spelt} {pos : Nat} {rest : List Char}
    (hm : t.found pos ∈ tagForm.findAll (tagText code))
    (hcs : (tagText code).drop pos = t.text ++ rest) (hfits : t.Fits) :
    inserted (fun j => faded (concealed code) vs (pos + j)) t.text =
      (t.sprinkled fun j => faded (concealed code) vs (t.nameStop pos + j)).text := by
  have hend : t.bodyStop pos = t.nameStop pos + t.body.length := rfl
  refine inserted_text t pos fun i hi hi' hout => faded_of_not_borders fun hborders => ?_
  rcases within_tag hstands hplaced hm hcs ⟨hi, hi'⟩ hborders with
    ⟨-, b, hb, hborder⟩ | ⟨hconcealed, -⟩
  · obtain ⟨-, -, -, a, -, hframes⟩ := mem_chosen.mp hb
    have hname := hframes.name_lt
    have hlt := hframes.lt
    have hwithin := hframes.within
    omega
  · refine hout (getElem?_blank hcs hfits hi hi' fun c hc => ?_)
    by_contra hblank
    rw [not_concealed_of_visible hc (Bool.eq_false_iff.mpr hblank) (.inl rfl)] at hconcealed
    cases hconcealed

/-- The tags of a line say the same when its values are in quotes. -/
theorem content_inserted (hwhole : Whole vs code) (hclosed : Closed vs code) :
    (tagsIn (tagText (inserted (faded (fun _ => false) vs) code))).map Tag.content =
      (tagsIn (tagText code)).map Tag.content := by
  have hsoft := soft_faded (concealed code) vs
  have hmoved := (scans_findAll neverEmpty_tagForm (tagText code)).moved
    (faded (concealed code) vs) (R := fun m m' =>
      (tagOf (tagText code) m).content =
        (tagOf (inserted (faded (concealed code) vs) (tagText code)) m').content) ?_ ?_ ?_
  · obtain ⟨ms', hscan, hall⟩ := hmoved
    rw [tagText_inserted hstands hwhole, tagsIn, tagsIn, findAll_eq neverEmpty_tagForm hscan,
      List.map_map, List.map_map, eq_comm, ← List.forall₂_eq_eq_eq, List.forall₂_map_left_iff,
      List.forall₂_map_right_iff]
    exact hall.imp fun m m' h => h.2
  · intro i _ hnone
    rw [tryAt_tagForm, Option.map_eq_none_iff] at hnone ⊢
    rw [drop_inserted]
    exact leadingTag_inserted_eq_none (fun j => hsoft (i + j)) hnone
  · intro i hi r hr hr'
    obtain ⟨c, hc, ds, hds⟩ := drop_between hi hr hr'
    rw [tryAt_tagForm, hds, Option.map_eq_none_iff]
    refine leadingTag_of_head_ne ?_
    rcases hsoft i c hc with rfl | rfl <;> simp
  · intro m hm _
    obtain ⟨t, pos, rest, rfl, hcs, hfits⟩ := exists_spelt hm
    have hsprinkled := sprinkled_body hstands hplaced hclosed hm hcs
    have htext := inserted_tag hstands hplaced hm hcs hfits
    obtain ⟨t', ht'⟩ : ∃ t', t' =
        t.sprinkled fun j => faded (concealed code) vs (t.nameStop pos + j) := ⟨_, rfl⟩
    rw [← ht'] at htext
    have hcs' : (inserted (faded (concealed code) vs) (tagText code)).drop
        (placeOf (sizes (faded (concealed code) vs)) pos) = t'.text ++
          inserted (fun j => faded (concealed code) vs (pos + (t.text.length + j))) rest := by
      rw [drop_inserted, hcs, inserted_append, htext]
    have hlength : t'.text.length =
        placeOf (fun j => sizes (faded (concealed code) vs) (pos + j)) t.text.length := by
      rw [← htext, length_inserted]
      rfl
    have hfits' : t'.Fits := by
      rw [ht']
      exact hfits.sprinkled (hsoft.shift _)
    refine ⟨t'.found (placeOf (sizes (faded (concealed code) vs)) pos), ?_, ?_, ?_⟩
    · rw [tryAt_tagForm]
      exact congrArg (Option.map _) (leadingTag_iff.mpr ⟨_, hcs', hfits'⟩)
    · have hstop : (t'.found (placeOf (sizes (faded (concealed code) vs)) pos)).stop =
          placeOf (sizes (faded (concealed code) vs)) (t.found pos).stop := by
        rw [stop_found, stop_found, placeOf_add, hlength]
      have hlt := ((scans_findAll neverEmpty_tagForm (tagText code)).hits _ hm).2
      rw [hstop]
      exact resumes_at (Nat.le_refl _) (Nat.zero_lt_of_lt hlt) (finds_of_mem_findAll hm).stop_le
        fun i hi hi' => absurd hi (Nat.not_le_of_lt hi')
    · rw [tagOf_found hcs, tagOf_found hcs']
      refine Eq.symm (content_eq ?_ ?_ ?_ ?_)
      · rw [ht']
        rfl
      · rw [ht']
        rfl
      · rw [ht']
        rfl
      · rw [ht', attributesIn, attributesIn, List.forall₂_map_left_iff, List.forall₂_map_right_iff]
        refine (attributes_sprinkled hsprinkled).imp fun a a' h => ⟨?_, h.2⟩
        exact congrArg (fun name : Option (List Char) => lower (name.getD [])) h.1

end Line

/-- No quote of the line gets between what its tags say. -/
structure QuotesInPlace (line : List Char) : Prop where
  whole : Whole (quotedValues line) line
  placed : ∀ v ∈ quotedValues line, Placed line v
  closed : Closed (quotedValues line) line

instance (line : List Char) : Decidable (QuotesInPlace line) :=
  decidable_of_iff (Whole (quotedValues line) line ∧ (∀ v ∈ quotedValues line, Placed line v) ∧
      Closed (quotedValues line) line)
    ⟨fun h => ⟨h.1, h.2.1, h.2.2⟩, fun h => ⟨h.whole, h.placed, h.closed⟩⟩

/-- Quoting the values of a line adds quotes only, and if these are in place, the tags of the line
say the same as before. -/
theorem quoting_keeps_tags (line : List Char) (f : Finding) : ∃ fixed,
    fixQuotes line f = some fixed ∧ line.Sublist fixed ∧
      fixed.filter (· != '"') = line.filter (· != '"') ∧
        (QuotesInPlace line →
          (tagsIn (tagText fixed)).map Tag.content = (tagsIn (tagText line)).map Tag.content) := by
  refine ⟨_, fixQuotes_eq line f, sublist_inserted _ _, filter_inserted (fun i c hc => ?_) _,
    fun h => ?_⟩
  · rw [mem_quotes hc]
    rfl
  · exact content_inserted (fun v hv => stands_of_mem_quotedValues hv) h.placed h.whole h.closed

theorem quoting_keeps_tags_link : ∃ fixed,
    fixQuotes "<a href=x.html title=Go>go</a><br class=wide />".toList default = some fixed ∧
      (tagsIn (tagText fixed)).map Tag.content =
        (tagsIn (tagText "<a href=x.html title=Go>go</a><br class=wide />".toList)).map
          Tag.content := by
  obtain ⟨fixed, hfixed, -, -, htags⟩ :=
    quoting_keeps_tags "<a href=x.html title=Go>go</a><br class=wide />".toList default
  exact ⟨fixed, hfixed, htags (by decide +kernel)⟩

/-- Values in comments and template script are in place, and so are those they are part of. -/
example : QuotesInPlace "<!-- <a href=b> --><i class=c>".toList ∧
    QuotesInPlace "<a href=%%=v(@x)=%%>".toList ∧
      QuotesInPlace "<a href=/go/%%=v(@x)=%% class=b>".toList := by
  decide +kernel

/-- The slash that closes a tag becomes part of the value before it. -/
theorem quoting_takes_slash :
    fixQuotes "<img src=a/>".toList default = some "<img src=\"a/\">".toList ∧
      (tagsIn (tagText "<img src=\"a/\">".toList)).map Tag.content ≠
        (tagsIn (tagText "<img src=a/>".toList)).map Tag.content := by
  decide +kernel

end CampaignCheck.Html

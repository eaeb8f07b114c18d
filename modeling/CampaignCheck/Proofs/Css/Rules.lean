import CampaignCheck.Css.Rule
import CampaignCheck.Proofs.Pattern.Groups
import CampaignCheck.Proofs.Pattern.Scans
import CampaignCheck.Proofs.Text.Letters
import CampaignCheck.Proofs.Text.Positions
import CampaignCheck.Proofs.Text.Slices

namespace CampaignCheck.Css

open Text Pattern

/-- The characters of property names. -/
def nameSet : CharSet := .union [.word, .char '-']

def nameAt (cs : List Char) (offset : Nat) : List Char := (cs.drop offset).takeWhile nameSet.mem

/-- Where the colon stands behind the name written at an offset, after blanks. -/
def colonAt (cs : List Char) (offset : Nat) : Nat :=
  let stop := offset + (nameAt cs offset).length
  stop + (indentation (cs.drop stop)).length

namespace Declaration

def holds (cs : List Char) (i : Nat) (d : Declaration) : Bool :=
  decide (d.offset ≤ i ∧ i < d.offset + (nameAt cs d.offset).length) ||
    decide (i = colonAt cs d.offset) ||
    decide (d.valueOffset ≤ i ∧ i < d.valueOffset + d.value.length)

/-- The declaration is as written between two offsets of the text. -/
structure Exact (cs : List Char) (start stop : Nat) (d : Declaration) : Prop where
  named : nameAt cs d.offset ≠ []
  property : lower (nameAt cs d.offset) = d.property
  colon : cs[colonAt cs d.offset]? = some ':'
  valued : d.value ≠ []
  value : slice cs d.valueOffset (d.valueOffset + d.value.length) = d.value
  gap : allBlank (slice cs (colonAt cs d.offset + 1) d.valueOffset) = true
  start_le : start ≤ d.offset
  colon_lt : colonAt cs d.offset < d.valueOffset
  le_stop : d.valueOffset + d.value.length ≤ stop

end Declaration

def segmentHolds (i : Nat) (s : Nat × List Char) : Bool := decide (s.1 ≤ i ∧ i < s.1 + s.2.length)

/-- The rule is as written in the text, with its block between two offsets. -/
structure Rule.Exact (cs : List Char) (start stop : Nat) (r : Rule) : Prop where
  opens : 0 < start ∧ cs[start - 1]? = some '{'
  closes : cs[stop]? = some '}'
  plain : ∀ c ∈ slice cs start stop, c ≠ '{' ∧ c ≠ '}'
  selector : slice cs r.offset (r.offset + r.selector.length) = r.selector
  before : r.offset + r.selector.length ≤ start - 1 ∧
    allBlank (slice cs (r.offset + r.selector.length) (start - 1)) = true
  declarations : ∀ d ∈ r.declarations, d.Exact cs start stop
  invalid : ∀ s ∈ r.invalid, slice cs s.1 (s.1 + s.2.length) = s.2 ∧ start ≤ s.1 ∧
    s.1 + s.2.length ≤ stop
  once : ∀ i c, start ≤ i → i < stop → cs[i]? = some c → isBlank c = false → c ≠ ';' →
    r.declarations.countP (·.holds cs i) + r.invalid.countP (segmentHolds i) = 1
  gaps : ∀ g ∈ r.missingSemicolons,
    (start < g ∧ ∃ c, cs[g - 1]? = some c ∧ isBlank c = false) ∧
    ∃ n, g ≤ n ∧ n < stop ∧ cs[n]? = some '\n' ∧ allBlank (slice cs g n) = true

variable {cs : List Char}

/-- Pieces fill the text between two offsets, with one separating character between any two. -/
inductive Laid (cs : List Char) (sep : Char → Prop) : Nat → Nat → List (Nat × List Char) → Prop
  | last {a : Nat} {p rest : List Char} (h : cs.drop a = p ++ rest) :
      Laid cs sep a (a + p.length) [(a, p)]
  | cons {a b : Nat} {p rest : List Char} {c : Char} {ps : List (Nat × List Char)}
      (h : cs.drop a = p ++ c :: rest) (hc : sep c) (hps : Laid cs sep (a + p.length + 1) b ps) :
      Laid cs sep a b ((a, p) :: ps)

section Laid

variable {sep : Char → Prop} {a b : Nat} {ps : List (Nat × List Char)}

theorem Laid.ne_nil (h : Laid cs sep a b ps) : ps ≠ [] := by
  cases h <;> exact List.cons_ne_nil _ _

/-- Each piece stands where it says. -/
theorem Laid.stands (h : Laid cs sep a b ps) : ∀ p ∈ ps, a ≤ p.1 ∧ p.1 + p.2.length ≤ b ∧
    ∃ rest, cs.drop p.1 = p.2 ++ rest := by
  induction h with
  | last h =>
    intro p hp
    obtain rfl := List.mem_singleton.mp hp
    exact ⟨Nat.le_refl _, Nat.le_refl _, _, h⟩
  | @cons a b p rest c ps h hc hps ih =>
    have hle : a + p.length + 1 ≤ b := by
      obtain ⟨q, hq⟩ := List.exists_mem_of_ne_nil ps hps.ne_nil
      have hbounds := ih q hq
      omega
    intro q hq
    rcases List.mem_cons.mp hq with rfl | hq
    · exact ⟨Nat.le_refl _, by simp only; omega, _, h⟩
    · obtain ⟨hstart, hstop, hrest⟩ := ih q hq
      exact ⟨by omega, hstop, hrest⟩

theorem Laid.append {m : Nat} {c : Char} {qs : List (Nat × List Char)} (h : Laid cs sep a m ps)
    (hm : cs[m]? = some c) (hc : sep c) (hqs : Laid cs sep (m + 1) b qs) :
    Laid cs sep a b (ps ++ qs) := by
  induction h with
  | @last a p rest h =>
    have hhead : rest.head? = some c := by rw [← drop_of_drop h, List.head?_drop, hm]
    obtain ⟨tail, rfl⟩ := List.head?_eq_some_iff.mp hhead
    exact .cons h hc hqs
  | cons h hc' _ ih => exact .cons h hc' (ih hm hqs)

theorem Laid.mono {sep' : Char → Prop} (h : Laid cs sep a b ps) (hsep : ∀ c, sep c → sep' c) :
    Laid cs sep' a b ps := by
  induction h with
  | last h => exact .last h
  | cons h hc _ ih => exact .cons h (hsep _ hc) ih

/-- Behind each piece but the last stands a separator. -/
theorem Laid.followed (h : Laid cs sep a b ps) : ∀ p ∈ ps.dropLast,
    p.1 + p.2.length < b ∧ ∃ c rest, sep c ∧ cs.drop p.1 = p.2 ++ c :: rest := by
  induction h with
  | last _ => simp
  | @cons a b p rest c ps h hc hps ih =>
    obtain ⟨q, qs, rfl⟩ := List.exists_cons_of_ne_nil hps.ne_nil
    have hnext := hps.stands q List.mem_cons_self
    rw [List.dropLast_cons_cons]
    refine List.forall_mem_cons.mpr ⟨⟨by simp only; omega, c, rest, hc, h⟩, ih⟩

/-- Pieces joined by a character are laid out where their text stands. -/
theorem laid_placed {c : Char} {ps : List (List Char)} (hne : ps ≠ []) {rest : List Char}
    (h : cs.drop a = List.intercalate [c] ps ++ rest) :
    Laid cs (· = c) a (a + (List.intercalate [c] ps).length) (placed a ps) := by
  induction ps generalizing a with
  | nil => exact absurd rfl hne
  | cons p ps ih =>
    cases ps with
    | nil =>
      rw [List.intercalate_singleton] at h ⊢
      exact .last h
    | cons q qs =>
      rw [List.intercalate_cons_cons] at h ⊢
      have hsplit : cs.drop a = p ++ c :: (List.intercalate [c] (q :: qs) ++ rest) := by
        rw [h]
        simp
      have hnext : cs.drop (a + p.length + 1) = List.intercalate [c] (q :: qs) ++ rest := by
        rw [← List.drop_drop, drop_of_drop hsplit]
        rfl
      have hstop : a + (p ++ [c] ++ List.intercalate [c] (q :: qs)).length =
          a + p.length + 1 + (List.intercalate [c] (q :: qs)).length := by
        simp only [List.length_append, List.length_singleton]
        omega
      rw [hstop]
      exact .cons hsplit rfl (ih (List.cons_ne_nil q qs) hnext)

/-- Cutting each piece further lays out smaller pieces. -/
theorem Laid.flatten {sep' : Char → Prop} (h : Laid cs sep a b ps) (hsep : ∀ c, sep c → sep' c)
    {f : Nat × List Char → List (Nat × List Char)}
    (hf : ∀ p ∈ ps, Laid cs sep' p.1 (p.1 + p.2.length) (f p)) :
    Laid cs sep' a b (ps.map f).flatten := by
  induction h with
  | last _ => simpa using hf _ (List.mem_singleton_self _)
  | @cons a b p rest c ps h hc hps ih =>
    obtain ⟨hfirst, hrest⟩ := List.forall_mem_cons.mp hf
    exact hfirst.append (getElem?_of_drop h) (hsep c hc) (ih hrest)

end Laid

/-- What is looked ahead at is not consumed. -/
theorem tryAt_one_ahead {set : CharSet} {body : Pattern} {pos : Nat} {m : Match}
    (h : (seq (one set) (ahead true body)).tryAt cs.toArray pos false = some m) :
    (∃ c, cs[pos]? = some c ∧ set.mem c = true) ∧ m.stop = pos + 1 := by
  obtain ⟨t, ht, rfl⟩ := tryAt_eq_some h
  rw [run, run] at ht
  split at ht
  · next c hc =>
    split_ifs at ht with hset
    rw [run, condition] at ht
    split at ht
    · cases ht
      exact ⟨⟨c, by simpa using hc, hset⟩, rfl⟩
    · cases ht
  · cases ht

theorem tryAt_nextProperty {pos : Nat} {m : Match}
    (h : nextProperty.tryAt cs.toArray pos false = some m) :
    cs[pos]? = some '\n' ∧ m.stop = pos + 1 := by
  replace h : (seq (one (.char '\n')) (ahead true _)).tryAt cs.toArray pos false = some m := h
  obtain ⟨⟨c, hc, hset⟩, hstop⟩ := tryAt_one_ahead h
  obtain rfl : '\n' = c := by simpa [CharSet.mem] using hset
  exact ⟨hc, hstop⟩

theorem neverEmpty_nextProperty : NeverEmpty nextProperty :=
  neverEmpty_of_leastWidth (by rfl) (by decide)

theorem piecesFrom_ne_nil (cs : List Char) (pos : Nat) (ms : List Match) :
    piecesFrom cs pos ms ≠ [] := by
  cases ms <;> exact List.cons_ne_nil _ _

theorem intercalate_piecesFrom {c : Char} {pos : Nat} {ms : List Match}
    (h : Spaced cs.length pos ms) (hms : ∀ m ∈ ms, slice cs m.start m.stop = [c]) :
    List.intercalate [c] (piecesFrom cs pos ms) = cs.drop pos := by
  induction h with
  | nil _ => exact List.intercalate_singleton
  | @cons pos m ms hstart hstop h ih =>
    obtain ⟨hm, hms⟩ := List.forall_mem_cons.mp hms
    obtain ⟨p, ps, hps⟩ := List.exists_cons_of_ne_nil (piecesFrom_ne_nil cs m.stop ms)
    rw [piecesFrom, hps, List.intercalate_cons_cons, ← hps, ih hms, ← hm, List.append_assoc,
      slice_append_drop cs (Nat.le_of_lt hstop), slice_append_drop cs hstart]

theorem intercalate_split (cs : List Char) :
    List.intercalate ['\n'] (nextProperty.split cs) = cs := by
  have hscans := scans_findAll neverEmpty_nextProperty cs
  refine intercalate_piecesFrom (hscans.spaced (Nat.zero_le _)) fun m hm => ?_
  obtain ⟨hc, hstop⟩ := tryAt_nextProperty (hscans.hits m hm).1
  rw [hstop, slice_add_one (Nat.le_refl _) hc, slice_self]
  rfl

/-- A character that parts the pieces of a block. -/
def Parting (c : Char) : Prop := c = ';' ∨ c = '\n'

section Segments

variable {base : Nat} {body rest : List Char} (h : cs.drop base = body ++ rest)
include h

theorem placed_laid : Laid cs (· = ';') base (base + body.length) (placed base (cut ';' body)) := by
  obtain ⟨l, ls, hcut⟩ := cut_eq_cons ';' body
  have hne : cut ';' body ≠ [] := hcut ▸ List.cons_ne_nil l ls
  have hbody : cs.drop base = List.intercalate [';'] (cut ';' body) ++ rest := by
    rw [intercalate_cut, h]
  have hlaid := laid_placed hne hbody
  rwa [intercalate_cut] at hlaid

theorem segment_laid {s : Nat × List Char} (hs : s ∈ placed base (cut ';' body)) :
    Laid cs (· = '\n') s.1 (s.1 + s.2.length) (placed s.1 (nextProperty.split s.2)) := by
  obtain ⟨-, -, tail, htail⟩ := (placed_laid h).stands s hs
  have hne : nextProperty.split s.2 ≠ [] := piecesFrom_ne_nil _ _ _
  have hsegment : cs.drop s.1 = List.intercalate ['\n'] (nextProperty.split s.2) ++ tail := by
    rw [intercalate_split, htail]
  have hlaid := laid_placed hne hsegment
  rwa [intercalate_split] at hlaid

theorem segments_laid :
    Laid cs Parting base (base + body.length) (segments base body).flatten := by
  refine (placed_laid h).flatten (fun c hc => .inl hc) fun s hs => ?_
  exact (segment_laid h hs).mono fun c hc => .inr hc

end Segments

/-- The declaration of a name and a value, from an offset on with blanks before either and before
the colon between them. -/
def declared (offset : Nat) (front name mid value : List Char) : Declaration where
  property := lower name
  value := trim value
  offset := offset + front.length
  valueOffset := offset + ((front ++ name ++ mid).length + 1) + (indentation value).length

/-- What a piece of the text at an offset is. -/
inductive Reads (offset : Nat) (p : List Char) : Piece → Prop
  | blank (h : allBlank p = true) : Reads offset p .blank
  | invalid : Reads offset p (.invalid (offset + (indentation p).length) (trim p))
  | declaration {front name mid value : List Char}
      (hp : p = front ++ (name ++ (mid ++ ':' :: value))) (hfront : allBlank front = true)
      (hname : ∀ c ∈ name, nameSet.mem c = true) (hne : name ≠ []) (hmid : allBlank mid = true)
      (hvalue : allBlank value = false) :
      Reads offset p (.declaration (declared offset front name mid value))

theorem regular_declarationForm : Regular 0 declarationForm 4 :=
  .seq (.seq (.seq (.seq (.many 0 0 _) (.capture (by decide) (by decide) (.many 1 1 _)))
    (.many 2 0 _)) (.one 2 _)) (.capture (by decide) (by decide) (.many 3 0 _))

theorem matchStart?_declarationForm {p : List Char} {m : Match}
    (h : declarationForm.matchStart? p = some m) :
    ∃ front name mid value, p = front ++ (name ++ (mid ++ ':' :: value)) ∧
      allBlank front = true ∧ (∀ c ∈ name, nameSet.mem c = true) ∧ name ≠ [] ∧
      allBlank mid = true ∧ m.group p 1 = name ∧ m.group p 2 = value ∧
      m.startOf 1 = front.length ∧ m.startOf 2 = (front ++ name ++ mid).length + 1 := by
  have htry : declarationForm.tryAt p.toArray 0 false = some m := h
  rw [tryAt_eq_leads regular_declarationForm] at htry
  obtain ⟨r, hr, rfl⟩ := Option.map_eq_some_iff.mp htry
  replace hr : blanks.leads p.toArray ((capture 1 (many1 (one nameSet))).leads p.toArray
    (blanks.leads p.toArray ((one (.char ':')).leads p.toArray
      ((capture 2 (many (one .all))).leads p.toArray done)))) p 0 #[] = some r := hr
  obtain ⟨front, ds, rfl, -, hfront, hr⟩ := leads_many_eq_some hr
  rw [leads_capture] at hr
  obtain ⟨name, ds, rfl, hne, hname, hr⟩ := leads_many_eq_some hr
  obtain ⟨mid, ds, rfl, -, hmid, hr⟩ := leads_many_eq_some hr
  obtain ⟨c, value, rfl, hc, hr⟩ := leads_one_eq_some hr
  obtain rfl : ':' = c := by simpa [CharSet.mem] using hc
  rw [leads_capture, leads_rest rfl] at hr
  rw [marked_pairs] at hr
  cases hr
  set p := front ++ (name ++ (mid ++ ':' :: value)) with hp
  have hname' : p.drop 0 = front ++ (name ++ (mid ++ ':' :: value)) := hp
  have hvalue' : p.drop 0 = front ++ name ++ mid ++ [':'] ++ (value ++ []) := by simp [hp]
  have hfirst := slice_of_drop hname'
  have hsecond := slice_of_drop hvalue'
  simp only [List.length_append, List.length_singleton, ← Nat.add_assoc] at hfirst hsecond
  obtain ⟨hone, htwo, hstart, hstart'⟩ := groups_of_marks (m := ⟨0, _, _⟩) rfl p
  refine ⟨front, name, mid, value, hp, List.all_eq_true.mpr hfront, hname,
    List.ne_nil_of_length_pos hne, List.all_eq_true.mpr hmid, hone.trans hfirst,
    htwo.trans hsecond, hstart.trans (Nat.zero_add _), hstart'.trans ?_⟩
  simp only [List.length_append]
  omega

/-- Reading a piece says what it is. -/
theorem read_reads (offset : Nat) (p : List Char) : Reads offset p (Piece.read offset p) := by
  rw [Piece.read]
  split_ifs with hblank
  · exact .blank hblank
  simp only
  split
  · exact .invalid
  · next m hm =>
    obtain ⟨front, name, mid, value, hp, hfront, hname, hne, hmid, hone, htwo, hstart, hstart'⟩ :=
      matchStart?_declarationForm hm
    rw [hone, htwo, hstart, hstart']
    split_ifs with hvalue
    · exact .invalid
    · exact .declaration hp hfront hname hne hmid (Bool.eq_false_iff.mpr hvalue)

def Piece.holds (cs : List Char) (i : Nat) : Piece → Bool
  | .blank => false
  | .declaration d => d.holds cs i
  | .invalid offset text => segmentHolds i (offset, text)

theorem nameSet_of_isBlank {c : Char} (h : isBlank c = true) : nameSet.mem c = false := by
  have hdash : '-' ≠ c := by
    rintro rfl
    cases h
  have hmem : nameSet.mem c = (isWord c || '-' == c) := rfl
  rw [hmem, isWord_of_isBlank h, Bool.false_or]
  exact beq_false_of_ne hdash

section Written

variable {offset : Nat} {front name mid value rest : List Char}
  (h : cs.drop offset = front ++ (name ++ (mid ++ ':' :: (value ++ rest))))
  (hname : ∀ c ∈ name, nameSet.mem c = true) (hmid : allBlank mid = true)
include h hname hmid

theorem nameAt_written : nameAt cs (offset + front.length) = name := by
  have hstop : (mid ++ ':' :: (value ++ rest)).takeWhile nameSet.mem = [] := by
    cases mid with
    | nil => rfl
    | cons c mid =>
      have hblank := List.all_eq_true.mp hmid c List.mem_cons_self
      exact List.takeWhile_cons_of_neg (by rw [nameSet_of_isBlank hblank]; decide)
  rw [nameAt, drop_of_drop h, List.takeWhile_append_of_pos hname, hstop, List.append_nil]

theorem colonAt_written :
    colonAt cs (offset + front.length) = offset + (front ++ name ++ mid).length := by
  have hdrop : cs.drop (offset + front.length + name.length) = mid ++ ':' :: (value ++ rest) :=
    drop_of_drop (drop_of_drop h)
  have hgap : indentation (mid ++ ':' :: (value ++ rest)) = mid := by
    rw [indentation, List.takeWhile_append_of_pos (List.all_eq_true.mp hmid)]
    exact List.append_nil mid
  rw [colonAt, nameAt_written h hname hmid]
  simp only [hdrop, hgap, List.length_append]
  omega

theorem holds_written {i : Nat} : (declared offset front name mid value).holds cs i = true ↔
    (offset + front.length ≤ i ∧ i < offset + front.length + name.length ∨
      i = offset + (front ++ name ++ mid).length) ∨
      offset + ((front ++ name ++ mid).length + 1) + (indentation value).length ≤ i ∧
      i < offset + ((front ++ name ++ mid).length + 1) + (indentation value).length +
        (trim value).length := by
  simp only [Declaration.holds, Bool.or_eq_true, decide_eq_true_eq]
  simp only [declared, nameAt_written h hname hmid, colonAt_written h hname hmid]

/-- The declaration that is read is exact. -/
theorem exact_written (hne : name ≠ []) (hvalue : allBlank value = false) {start stop : Nat}
    (hstart : start ≤ offset)
    (hstop : offset + (front ++ (name ++ (mid ++ ':' :: value))).length ≤ stop) :
    (declared offset front name mid value).Exact cs start stop := by
  have hnamed := nameAt_written h hname hmid
  have hcolon := colonAt_written h hname hmid
  obtain ⟨tail, hsplit, -⟩ := exists_trim value
  have hlength := congrArg List.length hsplit
  have hmark : cs.drop (offset + (front ++ name ++ mid).length) = ':' :: (value ++ rest) :=
    drop_of_drop (by rw [h, List.append_assoc, List.append_assoc])
  have hgap : cs.drop (offset + (front ++ name ++ mid).length) =
      [':'] ++ (indentation value ++ (trim value ++ tail ++ rest)) := by
    rw [hmark, ← List.append_assoc (indentation value), ← hsplit]
    rfl
  have hvalue' : cs.drop (offset + (front ++ name ++ mid).length) =
      ([':'] ++ indentation value) ++ (trim value ++ (tail ++ rest)) := by
    rw [hgap]
    simp only [List.append_assoc]
  have hend : offset + (front ++ name ++ mid).length + 1 + value.length ≤ stop := by
    simp only [List.length_append, List.length_cons] at hstop ⊢
    omega
  rw [declared, ← Nat.add_assoc offset]
  generalize offset + (front ++ name ++ mid).length = colon at hcolon hmark hgap hvalue' hend ⊢
  simp only [List.length_append] at hlength
  exact {
    named := by rwa [hnamed]
    property := by rw [hnamed]
    colon := by rw [hcolon, ← List.head?_drop, hmark]; rfl
    valued := trim_ne_nil hvalue
    value := slice_eq_of_drop hvalue' (by rw [List.length_append, ← Nat.add_assoc]; rfl) rfl
    gap := by
      have hslice : slice cs (colon + 1) (colon + 1 + (indentation value).length) =
          indentation value := slice_eq_of_drop hgap rfl rfl
      rw [hcolon, hslice]
      exact List.all_eq_true.mpr fun c hc => isBlank_of_mem_indentation hc
    start_le := Nat.le_add_right_of_le hstart
    colon_lt := by simp only [hcolon]; omega
    le_stop := by simp only; omega }

end Written

section Piece

variable {offset : Nat} {p rest : List Char} (h : cs.drop offset = p ++ rest)
include h

/-- What a piece is read as holds offsets of the piece only. -/
theorem within_of_holds {r : Piece} (hr : Reads offset p r) {i : Nat} (hi : r.holds cs i = true) :
    offset ≤ i ∧ i < offset + p.length := by
  cases hr with
  | blank hblank => cases hi
  | invalid =>
    obtain ⟨tail, hsplit, -⟩ := exists_trim p
    have hlength := congrArg List.length hsplit
    simp only [List.length_append] at hlength
    simp only [Piece.holds, segmentHolds, decide_eq_true_eq] at hi
    omega
  | @declaration front name mid value hp hfront hname hne hmid hvalue =>
    subst hp
    obtain ⟨tail, hsplit, -⟩ := exists_trim value
    have hlength := congrArg List.length hsplit
    have hdrop : cs.drop offset = front ++ (name ++ (mid ++ ':' :: (value ++ rest))) := by
      rw [h]
      simp only [List.append_assoc, List.cons_append]
    have hheld := (holds_written hdrop hname hmid).mp hi
    simp only [List.length_append, List.length_cons] at hheld hlength ⊢
    omega

/-- What a piece is read as holds every character of it that is not blank. -/
theorem holds_of_visible {r : Piece} (hr : Reads offset p r) {i : Nat} (hstart : offset ≤ i)
    (hstop : i < offset + p.length) {c : Char} (hc : cs[i]? = some c)
    (hvisible : isBlank c = false) : r.holds cs i = true := by
  obtain ⟨j, rfl⟩ := Nat.exists_eq_add_of_le hstart
  have hj : j < p.length := by omega
  rw [← List.getElem?_drop, h, List.getElem?_append_left hj] at hc
  cases hr with
  | blank hblank =>
    exact absurd (List.mem_of_getElem? hc) (not_mem_of_visible hblank hvisible)
  | invalid =>
    have hwithin := within_trim hc hvisible
    simp only [Piece.holds, segmentHolds, decide_eq_true_eq]
    omega
  | @declaration front name mid value hp hfront hname hne hmid hvalue =>
    subst hp
    have hdrop : cs.drop offset = front ++ (name ++ (mid ++ ':' :: (value ++ rest))) := by
      rw [h]
      simp only [List.append_assoc, List.cons_append]
    refine (holds_written hdrop hname hmid).mpr ?_
    simp only [List.length_append, List.length_cons] at hj ⊢
    -- The part of the piece that the character stands in is none of those that are blank.
    rcases Nat.lt_or_ge j front.length with hlt | hfront'
    · rw [List.getElem?_append_left hlt] at hc
      exact absurd (List.mem_of_getElem? hc) (not_mem_of_visible hfront hvisible)
    rcases Nat.lt_or_ge j (front.length + name.length) with hlt | hname'
    · omega
    rw [List.getElem?_append_right hfront', List.getElem?_append_right (by omega)] at hc
    rcases Nat.lt_trichotomy j (front.length + name.length + mid.length) with hlt | heq | hgt
    · rw [List.getElem?_append_left (by omega)] at hc
      exact absurd (List.mem_of_getElem? hc) (not_mem_of_visible hmid hvisible)
    · omega
    · obtain ⟨k, hk⟩ := Nat.exists_eq_add_of_lt hgt
      have hplace : j - front.length - name.length - mid.length = k + 1 := by omega
      rw [List.getElem?_append_right (by omega), hplace, List.getElem?_cons_succ] at hc
      have hwithin := within_trim hc hvisible
      omega

end Piece

theorem not_holds_of_lt {a b : Nat} {sep : Char → Prop} {ps : List (Nat × List Char)}
    (h : Laid cs sep a b ps) {i : Nat} (hi : i < a) :
    ∀ p ∈ ps, ¬ (Piece.read p.1 p.2).holds cs i = true := by
  intro p hp hholds
  obtain ⟨hstart, -, rest, hrest⟩ := h.stands p hp
  have hwithin := within_of_holds hrest (read_reads p.1 p.2) hholds
  omega

/-- Of the pieces of a block one holds a given character, unless it is blank or a semicolon. -/
theorem Laid.countP_holds {a b : Nat} {ps : List (Nat × List Char)} (h : Laid cs Parting a b ps)
    {i : Nat} {c : Char} (ha : a ≤ i) (hb : i < b) (hc : cs[i]? = some c)
    (hvisible : isBlank c = false) (hne : c ≠ ';') :
    ps.countP (fun p => (Piece.read p.1 p.2).holds cs i) = 1 := by
  induction h with
  | last h =>
    have hholds := holds_of_visible h (read_reads _ _) ha hb hc hvisible
    simp [hholds]
  | @cons a b p rest d ps h hd hps ih =>
    rcases Nat.lt_trichotomy i (a + p.length) with hlt | rfl | hgt
    · have hholds := holds_of_visible h (read_reads _ _) ha hlt hc hvisible
      rw [List.countP_cons, if_pos hholds,
        List.countP_eq_zero.mpr (not_holds_of_lt hps (Nat.lt_succ_of_lt hlt))]
    · -- Here stands what parts the two pieces.
      obtain rfl : c = d := Option.some.inj (hc.symm.trans (getElem?_of_drop h))
      rcases hd with rfl | rfl
      · exact absurd rfl hne
      · cases hvisible
    · have hout : ¬ (Piece.read a p).holds cs i = true := by
        intro hholds
        have hwithin := within_of_holds h (read_reads a p) hholds
        omega
      rw [List.countP_cons, if_neg hout]
      exact ih hgt hb

/-- The declarations and the segments among pieces hold what the pieces hold. -/
theorem countP_parts (i : Nat) (rs : List Piece) :
    (rs.filterMap fun
      | .declaration d => some d
      | _ => none).countP (·.holds cs i) +
    (rs.filterMap fun
      | .invalid offset text => some (offset, text)
      | _ => none).countP (segmentHolds i) = rs.countP (·.holds cs i) := by
  induction rs with
  | nil => rfl
  | cons r rs ih =>
    cases r with
    | blank => simpa [Piece.holds] using ih
    | declaration d =>
      simp only [List.filterMap_cons, List.countP_cons, Piece.holds] at ih ⊢
      omega
    | invalid offset text =>
      simp only [List.filterMap_cons, List.countP_cons, Piece.holds] at ih ⊢
      omega

theorem exact_of_reads {offset start stop : Nat} {p rest : List Char}
    (h : cs.drop offset = p ++ rest) {d : Declaration} (hd : Reads offset p (.declaration d))
    (hstart : start ≤ offset) (hstop : offset + p.length ≤ stop) : d.Exact cs start stop := by
  cases hd with
  | @declaration front name mid value hp hfront hname hne hmid hvalue =>
    subst hp
    have hdrop : cs.drop offset = front ++ (name ++ (mid ++ ':' :: (value ++ rest))) := by
      rw [h]
      simp only [List.append_assoc, List.cons_append]
    exact exact_written hdrop hname hmid hne hvalue hstart hstop

theorem invalid_of_reads {offset start stop : Nat} {p rest : List Char}
    (h : cs.drop offset = p ++ rest) {o : Nat} {t : List Char} (ht : Reads offset p (.invalid o t))
    (hstart : start ≤ offset) (hstop : offset + p.length ≤ stop) :
    slice cs o (o + t.length) = t ∧ start ≤ o ∧ o + t.length ≤ stop := by
  cases ht with
  | invalid =>
    obtain ⟨tail, hsplit, -⟩ := exists_trim p
    have hlength := congrArg List.length hsplit
    have hdrop : cs.drop offset = indentation p ++ (trim p ++ (tail ++ rest)) := by
      rw [h]
      conv_lhs => rw [hsplit]
      simp only [List.append_assoc]
    simp only [List.length_append] at hlength
    exact ⟨slice_eq_of_drop hdrop rfl rfl, by omega, by omega⟩

/-- A missing semicolon belongs right behind a visible character, and only blanks stand from there
up to a line end of the block. -/
theorem gap_of_mem {a b : Nat} {ps : List (Nat × List Char)} (h : Laid cs (· = '\n') a b ps)
    {g : Nat} (hg : g ∈ gapsIn ps) : (a < g ∧ ∃ c, cs[g - 1]? = some c ∧ isBlank c = false) ∧
      ∃ n, g ≤ n ∧ n < b ∧ cs[n]? = some '\n' ∧ allBlank (slice cs g n) = true := by
  obtain ⟨⟨offset, p⟩, hp, hgap⟩ := List.mem_filterMap.mp hg
  obtain ⟨hlt, c, rest, rfl, hdrop⟩ := h.followed _ hp
  obtain ⟨hstart, -, -⟩ := h.stands _ (List.dropLast_subset _ hp)
  simp only at hgap hlt hdrop hstart
  split_ifs at hgap with hblank
  cases hgap
  obtain ⟨tail, hsplit, htail⟩ := exists_trimRight p
  have hlength := congrArg List.length hsplit
  rw [List.length_append] at hlength
  have hpos : 0 < (trimRight p).length := by
    obtain ⟨d, hd, hvisible⟩ := List.all_eq_false.mp (Bool.eq_false_iff.mpr hblank)
    obtain ⟨j, hj⟩ := List.getElem?_of_mem hd
    exact Nat.zero_lt_of_lt (lt_length_dropEndWhile hj (Bool.eq_false_iff.mpr hvisible))
  obtain ⟨k, hk⟩ := Nat.exists_eq_add_of_lt hpos
  obtain ⟨d, hd, hvisible⟩ := visible_last (show (trimRight p).length = k + 1 by omega)
  have hsplit' : cs.drop offset = trimRight p ++ (tail ++ '\n' :: rest) := by
    rw [hdrop]
    conv_lhs => rw [hsplit]
    rw [List.append_assoc]
  refine ⟨⟨by omega, d, ?_, hvisible⟩, offset + p.length, by omega, hlt, ?_, ?_⟩
  · have hplace : offset + (trimRight p).length - 1 = offset + k := by omega
    rw [hplace, ← List.getElem?_drop, hdrop, List.getElem?_append_left (by omega), hd]
  · exact getElem?_of_drop hdrop
  · rw [slice_eq_of_drop hsplit' rfl (by omega)]
    exact htail

theorem regular_ruleBlock : Regular 0 ruleBlock 4 :=
  .seq (.seq (.seq (.capture (by decide) (by decide) (.many 1 0 _)) (.one 2 _))
    (.capture (by decide) (by decide) (.many 3 0 _))) (.one 4 _)

theorem neverEmpty_ruleBlock : NeverEmpty ruleBlock := neverEmpty_of_leastWidth (by rfl) (by decide)

theorem not_brace_of_mem {c : Char} (h : (CharSet.butChars "\x7b\x7d").mem c = true) :
    c ≠ '{' ∧ c ≠ '}' := by
  have hmem : (CharSet.butChars "\x7b\x7d").mem c = !('{' == c || '}' == c) := rfl
  rw [hmem, Bool.not_or, Bool.and_eq_true, Bool.not_eq_true', Bool.not_eq_true'] at h
  exact ⟨(ne_of_beq_false h.1).symm, (ne_of_beq_false h.2).symm⟩

theorem mem_findAll_ruleBlock {m : Match} (h : m ∈ ruleBlock.findAll cs) :
    ∃ head body rest, cs.drop m.start = head ++ '{' :: (body ++ '}' :: rest) ∧
      (∀ c ∈ body, c ≠ '{' ∧ c ≠ '}') ∧ m.group cs 1 = head ∧ m.group cs 2 = body ∧
      m.startOf 1 = m.start ∧ m.startOf 2 = m.start + head.length + 1 := by
  obtain ⟨htry, -⟩ := (scans_findAll neverEmpty_ruleBlock cs).hits m h
  rw [tryAt_eq_leads regular_ruleBlock] at htry
  generalize m.start = pos at htry
  obtain ⟨r, hr, rfl⟩ := Option.map_eq_some_iff.mp htry
  let others := many (one (.butChars "\x7b\x7d"))
  replace hr : (capture 1 others).leads cs.toArray ((one (.char '{')).leads cs.toArray
    ((capture 2 others).leads cs.toArray ((one (.char '}')).leads cs.toArray done)))
    (cs.drop pos) pos #[] = some r := hr
  rw [leads_capture] at hr
  obtain ⟨head, ds, hdrop, -, -, hopen⟩ := leads_many_eq_some hr
  obtain ⟨c, ds, rfl, hc, hblock⟩ := leads_one_eq_some hopen
  obtain rfl : '{' = c := by simpa [CharSet.mem] using hc
  rw [leads_capture] at hblock
  obtain ⟨body, ds, rfl, -, hbody, hclose⟩ := leads_many_eq_some hblock
  obtain ⟨c, rest, rfl, hc', hdone⟩ := leads_one_eq_some hclose
  obtain rfl : '}' = c := by simpa [CharSet.mem] using hc'
  rw [marked_pairs] at hdone
  cases hdone
  obtain ⟨hone, htwo, hstart, hstart'⟩ := groups_of_marks (m := ⟨pos, _, _⟩) rfl cs
  have hdrop' : cs.drop pos = (head ++ ['{']) ++ (body ++ '}' :: rest) := by
    rw [hdrop]
    simp
  refine ⟨head, body, rest, hdrop, fun c hc => not_brace_of_mem (hbody c hc),
    hone.trans (slice_here hdrop), htwo.trans (slice_eq_of_drop hdrop' ?_ rfl), hstart, hstart'⟩
  rw [List.length_append, ← Nat.add_assoc]
  rfl

/-- The selector is what stands behind the last semicolon of the head, without blanks around. -/
theorem selector_written {pos : Nat} {head rest : List Char} (h : cs.drop pos = head ++ rest) :
    let part := ((cut ';' head).getLast?).getD []
    let offset := pos + (head.length - part.length) + (indentation part).length
    slice cs offset (offset + (trim part).length) = trim part ∧
      offset + (trim part).length ≤ pos + head.length ∧
      allBlank (slice cs (offset + (trim part).length) (pos + head.length)) = true := by
  intro part offset
  have hne : cut ';' head ≠ [] := by
    obtain ⟨l, ls, hcut⟩ := cut_eq_cons ';' head
    exact hcut ▸ List.cons_ne_nil l ls
  have hpart : part ∈ (cut ';' head).getLast? := by
    simp only [part, List.getLast?_eq_some_getLast hne, Option.getD_some, Option.mem_some_iff]
  obtain ⟨front, hhead⟩ := exists_of_getLast?_cut hpart
  obtain ⟨tail, hsplit, htail⟩ := exists_trim part
  have hlength := congrArg List.length hsplit
  have hhead' := congrArg List.length hhead
  simp only [List.length_append] at hlength hhead'
  have hdrop : cs.drop pos = (front ++ indentation part) ++ (trim part ++ (tail ++ rest)) := by
    rw [h, hhead]
    conv_lhs => rw [hsplit]
    simp only [List.append_assoc]
  have hdrop' : cs.drop pos = (front ++ indentation part ++ trim part) ++ (tail ++ rest) := by
    rw [hdrop]
    simp only [List.append_assoc]
  refine ⟨slice_eq_of_drop hdrop ?_ rfl, ?_, ?_⟩
  · simp only [offset, List.length_append]
    omega
  · simp only [offset]
    omega
  · rw [slice_eq_of_drop hdrop' ?_ ?_]
    · exact htail
    · simp only [offset, List.length_append]
      omega
    · simp only [offset]
      omega

/-- Every piece of a block is read where it stands. -/
theorem exists_reads_of_mem {base : Nat} {body rest : List Char} (h : cs.drop base = body ++ rest)
    {r : Piece} (hr : r ∈ (segments base body).flatten.map fun p => Piece.read p.1 p.2) :
    ∃ offset p tail, cs.drop offset = p ++ tail ∧ Reads offset p r ∧ base ≤ offset ∧
      offset + p.length ≤ base + body.length := by
  obtain ⟨p, hp, rfl⟩ := List.mem_map.mp hr
  obtain ⟨hfirst, hlast, tail, htail⟩ := (segments_laid h).stands p hp
  exact ⟨p.1, p.2, tail, htail, read_reads p.1 p.2, hfirst, hlast⟩

/-- The rule of a match is as written around and in the block that the match has found. -/
theorem ruleOf_exact {m : Match} (hm : m ∈ ruleBlock.findAll cs) :
    ∃ start stop, (ruleOf cs m).Exact cs start stop := by
  obtain ⟨head, body, rest, hdrop, hplain, hone, htwo, hstart, hstart'⟩ := mem_findAll_ruleBlock hm
  have hbody : cs.drop (m.start + head.length + 1) = body ++ '}' :: rest := by
    rw [← List.drop_drop, drop_of_drop hdrop]
    rfl
  have hlaid := segments_laid hbody
  obtain ⟨hselector, hle, hblank⟩ := selector_written hdrop
  refine ⟨m.start + head.length + 1, m.start + head.length + 1 + body.length, ?_⟩
  refine {
    opens := ⟨Nat.succ_pos _, ?_⟩
    closes := ?_
    plain := ?_
    selector := ?_
    before := ?_
    declarations := fun d hd => ?_
    invalid := fun s hs => ?_
    once := fun i c hi hi' hc hvisible hne => ?_
    gaps := fun g hg => ?_ }
  all_goals simp only [ruleOf, hone, htwo, hstart, hstart', Nat.add_sub_cancel] at *
  · exact getElem?_of_drop hdrop
  · exact getElem?_of_drop hbody
  · rwa [slice_here hbody]
  · exact hselector
  · exact ⟨hle, hblank⟩
  · obtain ⟨r, hr, hd⟩ := List.mem_filterMap.mp hd
    obtain ⟨o, p, tail, htail, hreads, hfirst, hlast⟩ := exists_reads_of_mem hbody hr
    split at hd
    · cases hd
      exact exact_of_reads htail hreads hfirst hlast
    · cases hd
  · obtain ⟨r, hr, hs⟩ := List.mem_filterMap.mp hs
    obtain ⟨o, p, tail, htail, hreads, hfirst, hlast⟩ := exists_reads_of_mem hbody hr
    split at hs
    · cases hs
      exact invalid_of_reads htail hreads hfirst hlast
    · cases hs
  · refine (countP_parts i _).trans ?_
    rw [List.countP_map]
    exact hlaid.countP_holds hi hi' hc hvisible hne
  · obtain ⟨ps, hps, hg⟩ := List.mem_flatMap.mp hg
    obtain ⟨s, hs, rfl⟩ := List.mem_map.mp hps
    obtain ⟨hfirst, hlast, -⟩ := (placed_laid hbody).stands s hs
    obtain ⟨⟨hlt, hbehind⟩, n, hn, hstop, hrest⟩ := gap_of_mem (segment_laid hbody hs) hg
    exact ⟨⟨by omega, hbehind⟩, n, hn, by omega, hrest⟩

/-- Rules are exact and lose nothing. The selector, the declarations and the invalid segments of a
rule are written where it says, and each visible character of its block, other than a semicolon,
belongs to one declaration or one invalid segment. Where a semicolon is missing a visible character
stands right before, and blanks up to a line end. -/
theorem rules_exact {r : Rule} (h : r ∈ rules cs) : ∃ start stop, r.Exact cs start stop := by
  obtain ⟨m, hm, rfl⟩ := List.mem_map.mp h
  exact ruleOf_exact hm

/-- Two declarations with no semicolon between them, behind the head of another rule. -/
theorem rules_exact_gap :
    let cs := "@import a; p \x7b x : 1 \n\n y:2; z \x7d".toList
    let r : Rule := ⟨"p".toList, 11, [⟨"x".toList, "1".toList, 15, 19⟩,
      ⟨"y".toList, "2".toList, 24, 26⟩], [20], [(29, "z".toList)]⟩
    rules cs = [r] ∧ ∃ start stop, r.Exact cs start stop := by
  intro cs r
  have hrules : rules cs = [r] := by decide +kernel
  have hmem : r ∈ rules cs := by
    rw [hrules]
    exact List.mem_singleton_self r
  exact ⟨hrules, rules_exact hmem⟩

end CampaignCheck.Css

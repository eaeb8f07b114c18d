import CampaignCheck.Html.Markup
import CampaignCheck.Proofs.Html.Regions

namespace CampaignCheck.Html

open Pattern Text

/-- A name without value goes on with an equals sign and a quote. -/
def opensQuote (cs : List Char) : Bool :=
  match cs.dropWhile isBlank with
  | '=' :: rest => (rest.dropWhile isBlank).head? == some '"'
  | _ => false

/-- The value without quotes and blanks around it. -/
def unquoted (v : Option (List Char)) : List Char := trim (trimChars ['"', '\''] (v.getD []))

theorem opensQuote_gap {gap cs : List Char} (hgap : IsGap gap)
    (hcs : ∀ c ∈ cs.head?, isBlank c = false) :
    opensQuote (gap ++ cs) = (cs.head? == some '"') := by
  obtain ⟨hbefore, hbehind⟩ := hgap
  rename_i before behind
  have hequals : ∀ c ∈ ('=' :: (behind ++ cs)).head?, isBlank c = false := by simp; rfl
  have hfirst := Text.takeWhile_append hbefore hequals
  have hsecond := Text.takeWhile_append hbehind hcs
  rw [opensQuote, List.append_assoc, List.cons_append, hfirst.2]
  simp only [hsecond.2]

theorem readAttribute_eq_none {cs : List Char} :
    readAttribute cs = none ↔ ∀ c ∈ cs.head?, nameSet.mem c = false := by
  rw [readAttribute]
  cases cs with
  | nil => simp
  | cons c cs =>
    cases hc : nameSet.mem c <;> simp [hc]

theorem head_of_mem {body : List Char} {m : Match} (hm : m ∈ attributeForm.findAll body) :
    ∃ c, body[m.start]? = some c ∧ nameSet.mem c = true := by
  obtain ⟨a, pos, rest, rfl, hcs, hfits⟩ := exists_written hm
  obtain ⟨c, name, hname⟩ := List.exists_cons_of_ne_nil hfits.name_ne
  refine ⟨c, ?_, hfits.name c (by rw [hname]; exact List.mem_cons_self)⟩
  change body[pos]? = some c
  rw [← List.head?_drop, hcs, Written.text, hname]
  rfl

theorem not_name_of_blank {c : Char} (h : isBlank c = true) : nameSet.mem c = false := by
  rw [nameSet_mem, h]
  rfl

theorem not_quote_of_blank {c : Char} (h : isBlank c = true) : isQuote c = false := by
  by_contra hquote
  simp only [isQuote, Bool.not_eq_false, Bool.or_eq_true, beq_iff_eq] at hquote
  rcases hquote with rfl | rfl <;> cases h

theorem IsGap.not_name {gap : List Char} (h : IsGap gap) : ∀ c ∈ gap, nameSet.mem c = false := by
  obtain ⟨hbefore, hbehind⟩ := h
  intro c hc
  rcases List.mem_append.mp hc with hc | hc
  · exact not_name_of_blank (hbefore c hc)
  · rcases List.mem_cons.mp hc with rfl | hc
    · rfl
    · exact not_name_of_blank (hbehind c hc)

/-- What is no value does not become one by quotes behind its first character, unless that is
one. -/
theorem readValue_inserted {add : Nat → List Char} (hadd : Soft add) {cs : List Char}
    (h : readValue cs = none) (hquote : cs.head? = some '"' → ∀ i < cs.length, '"' ∉ add i) :
    readValue (inserted add cs) = none := by
  cases cs with
  | nil => rfl
  | cons c cs =>
    rw [readValue] at h
    rw [inserted, readValue]
    split_ifs at h with hq hmem hvalue
    · have hnot (i : Nat) (hi : i < (c :: cs).length) : c ∉ add i := by
        intro hin
        rcases hadd i c hin with rfl | rfl
        · exact hquote rfl i hi hin
        · cases hq
      have hrest : c ∉ add 0 ++ inserted (fun i => add (i + 1)) cs := by
        intro hin
        rcases List.mem_append.mp hin with hin | hin
        · exact hnot 0 (Nat.succ_pos _) hin
        · rcases mem_inserted hin with hin | ⟨i, hi, hin⟩
          · exact hmem hin
          · exact hnot (i + 1) (Nat.succ_lt_succ hi) hin
      rw [if_pos hq, if_neg hrest]
    · rw [if_neg hq, if_neg hvalue]

/-- Behind the characters of a text stand blanks only, and these behind blanks. -/
def Loose (add : Nat → List Char) (cs : List Char) : Prop :=
  ∀ j < cs.length, add j ≠ [] → add j = [' '] ∧ ∃ c, cs[j]? = some c ∧ isBlank c = true

theorem Loose.left {add : Nat → List Char} {as bs : List Char} (h : Loose add (as ++ bs)) :
    Loose add as := by
  intro j hj hne
  have hlt : j < (as ++ bs).length := by
    rw [List.length_append]
    omega
  obtain ⟨hadd, c, hc, hblank⟩ := h j hlt hne
  rw [List.getElem?_append_left hj] at hc
  exact ⟨hadd, c, hc, hblank⟩

theorem Loose.right {add : Nat → List Char} {as bs : List Char} (h : Loose add (as ++ bs)) :
    Loose (fun j => add (as.length + j)) bs := by
  intro j hj hne
  have hlt : as.length + j < (as ++ bs).length := by
    rw [List.length_append]
    omega
  obtain ⟨hadd, c, hc, hblank⟩ := h _ hlt hne
  rw [List.getElem?_append_right (Nat.le_add_right _ _), Nat.add_sub_cancel_left] at hc
  exact ⟨hadd, c, hc, hblank⟩

theorem Loose.blanks {add : Nat → List Char} {cs : List Char} (h : Loose add cs)
    (hcs : ∀ c ∈ cs, isBlank c = true) : ∀ c ∈ inserted add cs, isBlank c = true := by
  intro c hc
  rcases mem_inserted hc with hc | ⟨j, hj, hc⟩
  · exact hcs c hc
  · rw [(h j hj (List.ne_nil_of_mem hc)).1, List.mem_singleton] at hc
    rw [hc]
    rfl

/-- With more blanks among its blanks the gap between name and value stays one. -/
theorem Loose.gap {add : Nat → List Char} {gap : List Char} (h : Loose add gap)
    (hgap : IsGap gap) : IsGap (inserted add gap) := by
  obtain ⟨hbefore, hbehind⟩ := hgap
  rename_i before behind
  have hsign : add before.length = [] := by
    by_contra hne
    obtain ⟨-, c, hc, hblank⟩ := h before.length (by simp) hne
    rw [List.getElem?_append_right (Nat.le_refl _), Nat.sub_self] at hc
    obtain rfl : '=' = c := Option.some.inj hc
    cases hblank
  have hrest : Loose (fun j => add (before.length + (j + 1))) behind := by
    have hlater : Loose (fun j => add (before.length + j)) ('=' :: behind) := h.right
    have hsplit : '=' :: behind = ['='] ++ behind := rfl
    rw [hsplit] at hlater
    intro j hj hne
    have hone := hlater.right j hj
    simp only [List.length_singleton, Nat.add_comm 1 j] at hone
    exact hone hne
  rw [inserted_append, inserted, Nat.add_zero, hsign, List.nil_append]
  exact .intro (h.left.blanks hbefore) (hrest.blanks hbehind)

theorem Loose.eq_self {add : Nat → List Char} {cs : List Char} (h : Loose add cs)
    (hcs : ∀ c ∈ cs, isBlank c = false) : inserted add cs = cs := by
  refine inserted_of_nil fun j hj => ?_
  by_contra hne
  obtain ⟨-, c, hc, hblank⟩ := h j hj hne
  rw [hcs c (List.mem_of_getElem? hc)] at hblank
  cases hblank

/-- With more blanks among the blanks around it a text without blanks stays what it is. -/
theorem Loose.among {add : Nat → List Char} {front w back : List Char}
    (h : Loose add (front ++ (w ++ back))) (hfront : allBlank front = true)
    (hw : ∀ c ∈ w, isBlank c = false) (hback : allBlank back = true) : ∃ front' back',
      inserted add (front ++ (w ++ back)) = front' ++ (w ++ back') ∧ allBlank front' = true ∧
        allBlank back' = true := by
  refine ⟨_, _, ?_, List.all_eq_true.mpr (h.left.blanks (List.all_eq_true.mp hfront)),
    List.all_eq_true.mpr (h.right.right.blanks (List.all_eq_true.mp hback))⟩
  rw [inserted_append, inserted_append, h.right.left.eq_self hw]

/-- Blanks and one equals sign. -/
def isGap (cs : List Char) : Bool := cs.filter (!isBlank ·) == ['=']

theorem isGap_iff {cs : List Char} : isGap cs = true ↔ IsGap cs := by
  have hkeep {x : List Char} (hx : ∀ c ∈ x, isBlank c = true) : x.filter (!isBlank ·) = [] :=
    List.filter_eq_nil_iff.mpr fun c hc => by simp [hx c hc]
  rw [isGap, beq_iff_eq]
  constructor
  · intro h
    obtain ⟨before, behind, rfl, hbefore, -, hbehind⟩ := List.filter_eq_cons_iff.mp h
    refine .intro (fun c hc => ?_) fun c hc => ?_
    · simpa using hbefore c hc
    · simpa using List.filter_eq_nil_iff.mp hbehind c hc
  · rintro ⟨hbefore, hbehind⟩
    rw [List.filter_append, hkeep hbefore, List.nil_append, List.filter_cons_of_pos (by decide),
      hkeep hbehind]

theorem IsGap.only {gap : List Char} (h : IsGap gap) {i j : Nat} (hi : gap[i]? = some '=')
    (hj : gap[j]? = some '=') : i = j := by
  obtain ⟨hbefore, hbehind⟩ := h
  rename_i before behind
  have hat {k : Nat} (hk : (before ++ '=' :: behind)[k]? = some '=') : k = before.length := by
    rcases Nat.lt_trichotomy k before.length with hlt | rfl | hlt
    · rw [List.getElem?_append_left hlt] at hk
      cases hbefore _ (List.mem_of_getElem? hk)
    · rfl
    · obtain ⟨n, rfl⟩ := Nat.exists_eq_add_of_lt hlt
      rw [List.getElem?_append_right (by omega), Nat.add_assoc, Nat.add_sub_cancel_left,
        List.getElem?_cons_succ] at hk
      cases hbehind _ (List.mem_of_getElem? hk)
  rw [hat hi, hat hj]

/-- The bounds of the value of an attribute; if it has none, the end of the given bounds. -/
def valueBounds (m : Match) (v : Nat × Nat) : Nat × Nat := (m.bounds? 2).getD (v.2, v.2)

/-- Quotes around these bounds hold the value of the attribute, if it has one, and blanks. -/
structure Frames (body : List Char) (m : Match) (v : Nat × Nat) : Prop where
  gap : isGap (slice body (m.start + (m.group body 1).length) v.1) = true
  lt : v.1 < v.2
  within : v.2 ≤ body.length
  start : v.1 ≤ (valueBounds m v).1
  stop : (valueBounds m v).2 ≤ v.2
  front : allBlank (slice body v.1 (valueBounds m v).1) = true
  plain : (slice body (valueBounds m v).1 (valueBounds m v).2).any isQuote = false
  back : allBlank (slice body (valueBounds m v).2 v.2) = true

instance (body : List Char) (m : Match) (v : Nat × Nat) : Decidable (Frames body m v) :=
  decidable_of_iff (isGap (slice body (m.start + (m.group body 1).length) v.1) = true ∧
      (v.1 < v.2 ∧ v.2 ≤ body.length) ∧ (v.1 ≤ (valueBounds m v).1 ∧ (valueBounds m v).2 ≤ v.2) ∧
        allBlank (slice body v.1 (valueBounds m v).1) = true ∧
          (slice body (valueBounds m v).1 (valueBounds m v).2).any isQuote = false ∧
            allBlank (slice body (valueBounds m v).2 v.2) = true)
    ⟨fun ⟨gap, ⟨lt, within⟩, ⟨start, stop⟩, front, plain, back⟩ =>
      ⟨gap, lt, within, start, stop, front, plain, back⟩,
    fun h => ⟨h.gap, ⟨h.lt, h.within⟩, ⟨h.start, h.stop⟩, h.front, h.plain, h.back⟩⟩

/-- Quotes that frame attributes are put into a body, and blanks behind blanks that are no part of
a value. -/
structure Sprinkled (add : Nat → List Char) (sel : List (Nat × Nat)) (body : List Char) : Prop where
  framed : ∀ v ∈ sel, ∃ m ∈ attributeForm.findAll body, Frames body m v
  once : ∀ m ∈ attributeForm.findAll body, ∀ v ∈ sel, ∀ w ∈ sel,
    Frames body m v → Frames body m w → v = w
  soft : Soft add
  quote : ∀ j < body.length, Borders sel j → add j = ['"']
  blank : ∀ j < body.length, ¬Borders sel j → add j ≠ [] →
    add j = [' '] ∧ (∃ c, body[j]? = some c ∧ isBlank c = true) ∧
      ∀ m ∈ attributeForm.findAll body, ∀ b, m.bounds? 2 = some b → ¬(b.1 ≤ j ∧ j + 1 < b.2)
  bare : (∃ j < body.length, '"' ∈ add j) → ∀ m ∈ attributeForm.findAll body, m.bounds? 2 = none →
    opensQuote (body.drop m.stop) = false

/-- Another attribute starts behind what holds no name. -/
theorem next_start {body : List Char} {m m' : Match} (hm : m ∈ attributeForm.findAll body)
    (hm' : m' ∈ attributeForm.findAll body) (hlt : m.start < m'.start) {q : Nat}
    (hclear : ∀ i, m.stop ≤ i → i < q → ∀ c, body[i]? = some c → nameSet.mem c = false) :
    q ≤ m'.start := by
  have hscan := scans_findAll neverEmpty_attributeForm body
  have hstop := (hscan.hits m' hm').2
  have hbehind : m.stop ≤ m'.start := by
    by_contra hwithin
    have hsame := hscan.only hm hm' (i := m'.start) (by omega) (by omega)
    rw [hsame] at hlt
    exact Nat.lt_irrefl _ hlt
  by_contra hbefore
  obtain ⟨c, hc, hname⟩ := head_of_mem hm'
  rw [hclear _ hbehind (Nat.lt_of_not_le hbefore) c hc] at hname
  cases hname

theorem group?_name {cs rest : List Char} {a : Written} {pos : Nat}
    (hcs : cs.drop pos = a.text ++ rest) : (a.found pos).group? cs 1 = some a.name := by
  have hbounds : (a.found pos).bounds? 1 = some (pos, pos + a.name.length) := by
    obtain ⟨name, assigned⟩ := a
    cases assigned <;> rfl
  rw [Match.group?, hbounds, Option.map_some]
  rw [Written.text, List.append_assoc] at hcs
  exact congrArg some (slice_here hcs)

theorem group_name {cs rest : List Char} {a : Written} {pos : Nat}
    (hcs : cs.drop pos = a.text ++ rest) : (a.found pos).group cs 1 = a.name := by
  rw [Match.group, group?_name hcs]
  rfl

section Frames

variable {body : List Char} {m : Match} {v : Nat × Nat} (h : Frames body m v)
include h

theorem Frames.name_lt : m.start + (m.group body 1).length < v.1 := by
  have hgap := List.length_pos_iff.mpr (isGap_iff.mp h.gap).ne_nil
  rw [length_slice] at hgap
  omega

variable (hm : m ∈ attributeForm.findAll body)
include hm

theorem Frames.stop_le : m.stop ≤ v.2 := by
  obtain ⟨a, pos, rest, rfl, hcs, hfits⟩ := exists_written hm
  have hlt := h.lt
  have hname := h.name_lt
  have hstop := h.stop
  rw [group_name hcs] at hname
  rw [valueBounds, Written.bounds?_found] at hstop
  change pos + a.name.length < v.1 at hname
  change pos + a.text.length ≤ v.2
  cases ha : a.assigned with
  | none =>
    have htext : a.text = a.name := by simp [Written.text, Written.tail, ha]
    rw [htext]
    omega
  | some p =>
    rw [ha] at hstop
    rw [(hfits.value ha).1]
    exact hstop

/-- Behind the attribute the quotes hold no name. -/
theorem Frames.clear {i : Nat} (hi : m.stop ≤ i) (hi' : i < v.2) {c : Char}
    (hc : body[i]? = some c) : nameSet.mem c = false := by
  obtain ⟨a, pos, rest, rfl, hcs, hfits⟩ := exists_written hm
  have hstop : (a.found pos).stop = pos + a.text.length := rfl
  have hgap := h.gap
  have hfront := h.front
  have hback := h.back
  rw [group_name hcs] at hgap
  rw [valueBounds, Written.bounds?_found] at hfront hback
  have hblank {start stop : Nat} (hall : allBlank (slice body start stop) = true)
      (hstart : start ≤ i) (hend : i < stop) : nameSet.mem c = false :=
    not_name_of_blank (List.all_eq_true.mp hall c (mem_slice.mpr ⟨i, hstart, hend, hc⟩))
  cases ha : a.assigned with
  | none =>
    have htext : a.text = a.name := by simp [Written.text, Written.tail, ha]
    rw [ha] at hfront
    rw [hstop, htext] at hi
    rcases Nat.lt_or_ge i v.1 with hbefore | hbehind
    · exact (isGap_iff.mp hgap).not_name c (mem_slice.mpr ⟨i, hi, hbefore, hc⟩)
    · exact hblank hfront hbehind hi'
  | some p =>
    rw [ha] at hback
    rw [hstop, (hfits.value ha).1] at hi
    exact hblank hback hi hi'

end Frames

section Body

variable {add : Nat → List Char} {sel : List (Nat × Nat)} {body : List Char}
  (h : Sprinkled add sel body)
include h

/-- Up to the next name quotes belong to this attribute. -/
theorem Sprinkled.own {m : Match} (hm : m ∈ attributeForm.findAll body) {q i : Nat}
    (hclear : ∀ i, m.stop ≤ i → i < q → ∀ c, body[i]? = some c → nameSet.mem c = false)
    (hi : m.start ≤ i) (hi' : i < q) (hborders : Borders sel i) :
    ∃ v ∈ sel, Frames body m v ∧ (i + 1 = v.1 ∨ i + 1 = v.2) := by
  obtain ⟨v, hv, hborder⟩ := hborders
  obtain ⟨m', hm', hframes⟩ := h.framed v hv
  have hstart := hframes.name_lt
  have hlt := hframes.lt
  rcases Nat.lt_trichotomy m.start m'.start with hbefore | hsame | hbehind
  · have hnext := next_start hm hm' hbefore hclear
    omega
  · have hscan := scans_findAll neverEmpty_attributeForm body
    have hstop := (hscan.hits m hm).2
    have hstop' := (hscan.hits m' hm').2
    obtain rfl := hscan.only hm hm' (i := m.start) (by omega) (by omega)
    exact ⟨v, hv, hframes, hborder⟩
  · have hnext := next_start hm' hm hbehind fun j hj hj' c hc => hframes.clear hm' hj hj' hc
    omega

/-- Where nothing is put into quotes, blanks are put behind blanks. -/
theorem Sprinkled.loose {pos : Nat} {as bs : List Char} (hdrop : body.drop pos = as ++ bs)
    (hclear : ∀ j < as.length, ¬Borders sel (pos + j)) : Loose (fun j => add (pos + j)) as := by
  intro j hj hne
  have hlt : pos + j < body.length := by
    have hlength := congrArg List.length hdrop
    rw [List.length_drop, List.length_append] at hlength
    omega
  obtain ⟨hadd, ⟨c, hc, hblank⟩, -⟩ := h.blank _ hlt (hclear j hj) hne
  refine ⟨hadd, c, ?_, hblank⟩
  rw [← hc, ← List.getElem?_drop, hdrop, List.getElem?_append_left hj]

/-- Behind an attribute without quotes around it nothing is put into quotes before the next name. -/
theorem Sprinkled.loose_behind {m : Match} (hm : m ∈ attributeForm.findAll body)
    (hfree : ∀ v ∈ sel, ¬Frames body m v) {as bs : List Char} (hdrop : body.drop m.stop = as ++ bs)
    (has : ∀ c ∈ as, nameSet.mem c = false) : Loose (fun j => add (m.stop + j)) as := by
  have hlt := ((scans_findAll neverEmpty_attributeForm body).hits m hm).2
  refine h.loose hdrop fun j hj hborders => ?_
  have hclear : ∀ i, m.stop ≤ i → i < m.stop + as.length → ∀ c, body[i]? = some c →
      nameSet.mem c = false := by
    intro i hi hi' c hc
    obtain ⟨k, rfl⟩ := Nat.exists_eq_add_of_le hi
    rw [← List.getElem?_drop, hdrop, List.getElem?_append_left (by omega)] at hc
    exact has c (List.mem_of_getElem? hc)
  obtain ⟨v, hv, hframes, -⟩ := h.own hm hclear (by omega) (by omega) hborders
  exact hfree v hv hframes

/-- A name stays without value, unless quotes frame one. -/
theorem Sprinkled.readAssigned_behind {m : Match} (hm : m ∈ attributeForm.findAll body)
    (hbare : m.bounds? 2 = none) (hnone : readAssigned (body.drop m.stop) = none)
    (hfree : ∀ v ∈ sel, ¬Frames body m v) :
    readAssigned (inserted (fun j => add (m.stop + j)) (body.drop m.stop)) = none := by
  have hopen := fun hquote => h.bare hquote m hm hbare
  rcases readAssigned_cases (body.drop m.stop) with ⟨gap, ds, hrest, hgap, hds⟩ |
    ⟨before, ds, hrest, hbefore, hds⟩
  · have hloose := h.loose_behind hm hfree hrest hgap.not_name
    have hlength := congrArg List.length hrest
    rw [List.length_drop, List.length_append] at hlength
    rw [hrest, readAssigned_gap hgap hds, Option.map_eq_none_iff] at hnone
    rw [hrest, opensQuote_gap hgap hds] at hopen
    rw [hrest, inserted_append, readAssigned_gap (hloose.gap hgap) (by rwa [head?_inserted]),
      Option.map_eq_none_iff]
    refine readValue_inserted (fun j => h.soft _) hnone fun hhead j hj hquote => ?_
    have hclosed := hopen ⟨_, by omega, hquote⟩
    rw [hhead] at hclosed
    cases hclosed
  · have hloose := h.loose_behind hm hfree hrest fun c hc => not_name_of_blank (hbefore c hc)
    rw [hrest, inserted_append]
    exact readAssigned_blank (hloose.blanks hbefore) (by rwa [head?_inserted])

/-- A part whose end is put before or behind a quote: the quote comes last. -/
theorem Sprinkled.quoted_last {pos : Nat} {as bs : List Char} (hdrop : body.drop pos = as ++ bs)
    (hne : as ≠ []) (hlast : Borders sel (pos + (as.length - 1)))
    (hclear : ∀ j, j + 1 < as.length → ¬Borders sel (pos + j)) :
    ∃ add', Loose add' as ∧ inserted (fun j => add (pos + j)) as = inserted add' as ++ ['"'] := by
  obtain ⟨n, hn⟩ := Nat.exists_eq_succ_of_ne_zero (List.length_eq_zero_iff.not.mpr hne)
  have hlt : pos + n < body.length := by
    have hlength := congrArg List.length hdrop
    rw [List.length_drop, List.length_append] at hlength
    omega
  rw [hn, Nat.succ_sub_one] at hlast
  have hsplit := inserted_last (fun j => add (pos + j)) hn
  rw [h.quote _ hlt hlast] at hsplit
  refine ⟨_, fun j hj hsome => ?_, hsplit⟩
  split_ifs at hsome ⊢ with hj'
  · exact absurd rfl hsome
  · have hbefore : pos + j < body.length := by omega
    obtain ⟨hadd, ⟨c, hc, hblank⟩, -⟩ := h.blank _ hbefore (hclear j (by omega)) hsome
    refine ⟨hadd, c, ?_, hblank⟩
    rw [← hc, ← List.getElem?_drop, hdrop, List.getElem?_append_left hj]

end Body

theorem IsValue.congr {v rest rest' : List Char} (h : IsValue v rest)
    (hhead : rest'.head? = rest.head?) : IsValue v rest' := by
  cases h with
  | quoted hq hinner => exact .quoted hq hinner
  | plain hne hv hrest => exact .plain hne hv (by rwa [hhead])

theorem IsValue.last {v rest : List Char} (h : IsValue v rest) {j : Nat} (hj : j + 1 = v.length) :
    ∃ c, v[j]? = some c ∧ isBlank c = false := by
  cases h with
  | @quoted q inner _ hq hinner =>
    have hlength : (q :: inner).length = j := by simpa using hj.symm
    have hcons : q :: (inner ++ [q]) = q :: inner ++ [q] := rfl
    refine ⟨q, ?_, ?_⟩
    · rw [hcons, List.getElem?_append_right (Nat.le_of_eq hlength), hlength, Nat.sub_self]
      rfl
    · simp only [isQuote, Bool.or_eq_true, beq_iff_eq] at hq
      rcases hq with rfl | rfl <;> rfl
  | plain hne hv _ =>
    have hlt : j < v.length := by omega
    exact ⟨v[j], List.getElem?_eq_getElem hlt, not_blank_of_valueSet (hv _ (List.getElem_mem hlt))⟩

/-- An attribute with a value fits wherever the value does. -/
theorem Written.fits_of_value {name gap v rest : List Char} (hne : name ≠ [])
    (hname : ∀ c ∈ name, nameSet.mem c = true) (hgap : IsGap gap) (hvalue : IsValue v rest) :
    (⟨name, some (gap, v)⟩ : Written).Fits rest := by
  obtain ⟨c, ds, hcons⟩ := List.exists_cons_of_ne_nil hgap.ne_nil
  refine ⟨hne, hname, fun d hd => ?_, ?_⟩
  · have htail : (⟨name, some (gap, v)⟩ : Written).tail = gap ++ v := rfl
    rw [htail, hcons] at hd
    obtain rfl : c = d := by simpa using hd
    exact hgap.not_name c (by rw [hcons]; exact List.mem_cons_self)
  · have htail : (⟨name, some (gap, v)⟩ : Written).tail = gap ++ v := rfl
    rw [htail, List.append_assoc]
    exact readAssigned_iff.mpr ⟨rest, rfl, hgap, hvalue⟩

theorem group?_value {cs rest : List Char} {a : Written} {pos : Nat}
    (hcs : cs.drop pos = a.text ++ rest) (h : a.Fits rest) :
    (a.found pos).group? cs 2 = a.assigned.map (·.2) := by
  rw [Match.group?, Written.bounds?_found]
  cases ha : a.assigned with
  | none => rfl
  | some p =>
    obtain ⟨htext, -, -⟩ := h.value ha
    rw [htext, List.append_assoc] at hcs
    exact congrArg some (slice_of_drop hcs)

/-- A value without quotes is trimmed, one in quotes as well. -/
theorem unquoted_plain {v : List Char} (hv : ∀ c ∈ v, isQuote c = false) :
    unquoted (some v) = trim v ∧ unquoted (some ('"' :: (v ++ ['"']))) = trim v := by
  have hnot : ∀ c ∈ v, ['"', '\''].contains c = false := by
    intro c hc
    have hquote := hv c hc
    simp only [isQuote, Bool.or_eq_false_iff, beq_eq_false_iff_ne] at hquote
    simp [hquote]
  have hfirst : v.dropWhile (['"', '\''].contains ·) = v :=
    List.dropWhile_eq_self_iff.mpr fun hne => ne_true_of_eq_false (hnot _ (List.getElem_mem _))
  have hlast : dropEndWhile (['"', '\''].contains ·) v = v :=
    List.rdropWhile_eq_self_iff.mpr fun hne => ne_true_of_eq_false (hnot _ (List.getLast_mem hne))
  have hend : dropEndWhile (['"', '\''].contains ·) (v ++ ['"']) = v := by
    rw [dropEndWhile, List.reverse_append]
    exact hlast
  have hquoted : ('"' :: (v ++ ['"'])).dropWhile (['"', '\''].contains ·) =
      (v ++ ['"']).dropWhile (['"', '\''].contains ·) := rfl
  rw [unquoted, unquoted, Option.getD_some, Option.getD_some, trimChars, trimChars]
  refine ⟨by rw [hfirst, hlast], ?_⟩
  rw [hquoted]
  cases v with
  | nil => rfl
  | cons c v =>
    have hc := ne_true_of_eq_false (hnot c List.mem_cons_self)
    rw [List.cons_append, List.dropWhile_cons_of_neg hc, ← List.cons_append, hend]

/-- An attribute of a body, as it is written from its old start up to `stop` with what is put into
the body. -/
structure Respelt (add : Nat → List Char) (body : List Char) (a : Written) (pos : Nat)
    (a' : Written) (stop : Nat) : Prop where
  name : a'.name = a.name
  value : unquoted (a'.assigned.map (·.2)) = unquoted (a.assigned.map (·.2))
  le : pos + a.text.length ≤ stop
  within : stop ≤ body.length
  clear : ∀ i, pos + a.text.length ≤ i → i < stop → ∀ c, body[i]? = some c → nameSet.mem c = false
  text : inserted (fun j => add (pos + j)) (slice body pos stop) = a'.text
  fits : a'.Fits (inserted (fun j => add (stop + j)) (body.drop stop))

section Respelt

variable {add : Nat → List Char} {sel : List (Nat × Nat)} {body rest : List Char} {a : Written}
  {pos : Nat} (hm : a.found pos ∈ attributeForm.findAll body)
  (hcs : body.drop pos = a.text ++ rest) (hfits : a.Fits rest)
include hm hcs hfits

omit hm in
/-- What the quotes hold is the value among blanks. -/
theorem Frames.inner {v : Nat × Nat} (h : Frames body (a.found pos) v) : ∃ front w back,
    slice body v.1 v.2 = front ++ (w ++ back) ∧ allBlank front = true ∧ allBlank back = true ∧
      (∀ c ∈ w, isBlank c = false ∧ isQuote c = false) ∧
        unquoted (a.assigned.map (·.2)) = w := by
  have hle := Nat.le_of_lt h.lt
  have hplain := h.plain
  have hfront := h.front
  have hback := h.back
  have hstart := h.start
  have hstop := h.stop
  rw [valueBounds, Written.bounds?_found] at hplain hfront hback hstart hstop
  cases ha : a.assigned with
  | none =>
    rw [ha] at hfront
    exact ⟨slice body v.1 v.2, [], [], by rw [List.append_nil, List.append_nil], hfront, rfl,
      by simp, rfl⟩
  | some p =>
    obtain ⟨gap, w⟩ := p
    obtain ⟨htext, -, hvalue⟩ := hfits.value ha
    rw [htext, List.append_assoc] at hcs
    have hslice := slice_of_drop hcs
    rw [ha] at hplain hfront hback hstart hstop
    simp only [Option.map_some, Option.getD_some, hslice] at hplain hfront hback hstart hstop
    have hquote : ∀ c ∈ w, isQuote c = false := fun c hc =>
      Bool.eq_false_iff.mpr (List.any_eq_false.mp hplain c hc)
    have hset : ∀ c ∈ w, isBlank c = false := by
      cases hvalue with
      | quoted hq _ =>
        rw [hquote _ List.mem_cons_self] at hq
        cases hq
      | plain _ hv _ => exact fun c hc => not_blank_of_valueSet (hv c hc)
    have hle' : pos + (a.name ++ gap).length ≤ pos + (a.name ++ gap ++ w).length := by
      simp only [List.length_append]
      omega
    have hsplit := @slice_append body _ _ _ hstart (Nat.le_trans hle' hstop)
    rw [← slice_append hle' hstop, hslice] at hsplit
    refine ⟨_, w, _, hsplit.symm, hfront, hback, fun c hc => ⟨hset c hc, hquote c hc⟩, ?_⟩
    · have htrim := @trim_between [] w [] rfl rfl
        (fun c hc => hset c (List.mem_of_mem_head? hc))
        fun c hc => hset c (List.mem_of_mem_getLast? hc)
      rw [List.append_nil, List.nil_append] at htrim
      exact (unquoted_plain hquote).1.trans htrim

omit hm hfits in
/-- The attribute up to the quote behind it. -/
theorem Frames.parts {v : Nat × Nat} (h : Frames body (a.found pos) v) : ∃ gap inner,
    body.drop pos = a.name ++ (gap ++ (inner ++ body.drop v.2)) ∧ IsGap gap ∧
      v.1 = pos + a.name.length + gap.length ∧ v.2 = v.1 + inner.length ∧
        inner = slice body v.1 v.2 := by
  have hlt := h.lt
  have hwithin := h.within
  have hname := h.name_lt
  have hgap := isGap_iff.mp h.gap
  rw [group_name hcs] at hname hgap
  change pos + a.name.length < v.1 at hname
  refine ⟨_, _, ?_, hgap, ?_, ?_, rfl⟩
  · rw [slice_append_drop body (Nat.le_of_lt hlt)]
    refine Eq.trans ?_ (congrArg (a.name ++ ·) (slice_append_drop body (Nat.le_of_lt hname)).symm)
    rw [Written.text, List.append_assoc] at hcs
    rw [hcs, Text.drop_of_drop hcs]
  · change v.1 = pos + a.name.length + (slice body (pos + a.name.length) v.1).length
    rw [length_slice]
    omega
  · rw [length_slice]
    omega

variable (h : Sprinkled add sel body)
include h

/-- Nothing is put into a name. -/
theorem Sprinkled.name_stays : inserted (fun j => add (pos + j)) a.name = a.name := by
  have hdrop : body.drop pos = a.name ++ (a.tail ++ rest) := by
    rw [hcs, Written.text, List.append_assoc]
  refine (h.loose hdrop fun j hj hborders => ?_).eq_self fun c hc => ?_
  · obtain ⟨v, -, hframes, hborder⟩ := h.own hm (q := pos + a.text.length) (fun i hi hi' => by
      change pos + a.text.length ≤ i at hi
      omega) (Nat.le_add_right pos j) (by rw [Written.text, List.length_append]; omega) hborders
    have hname := hframes.name_lt
    have hlt := hframes.lt
    rw [group_name hcs] at hname
    change pos + a.name.length < v.1 at hname
    omega
  · have hname := hfits.name c hc
    by_contra hblank
    rw [not_name_of_blank (Bool.not_eq_false _ ▸ hblank)] at hname
    cases hname

/-- A name without value stays one, unless quotes frame a value for it. -/
theorem Sprinkled.bare_stays (ha : a.assigned = none)
    (hfree : ∀ v ∈ sel, ¬Frames body (a.found pos) v) :
    Respelt add body a pos a (pos + a.text.length) := by
  have hstop : (a.found pos).stop = pos + a.text.length := rfl
  have hrest : body.drop (pos + a.text.length) = rest := Text.drop_of_drop hcs
  have hnone : (a.found pos).bounds? 2 = none := by rw [Written.bounds?_found, ha]; rfl
  have htail : a.tail = [] := by rw [Written.tail, ha]; rfl
  have htext : a.text = a.name := by rw [Written.text, htail, List.append_nil]
  have hle : pos + a.text.length ≤ body.length := (finds_of_mem_findAll hm).stop_le
  refine ⟨rfl, rfl, Nat.le_refl _, hle, fun i hi hi' => by omega, ?_, hfits.name_ne, hfits.name,
    ?_, ?_⟩
  · rw [Text.slice_here hcs, htext]
    exact h.name_stays hm hcs hfits
  · have hends := hfits.ends
    rw [htail, List.nil_append] at hends ⊢
    rwa [head?_inserted, hrest]
  · have hread := hfits.assigned
    rw [htail, List.nil_append, ha, ← hrest, ← hstop] at hread
    rw [htail, List.nil_append, ha, ← hstop]
    exact h.readAssigned_behind hm hnone hread hfree

/-- A value that is not put into quotes stays what it is. -/
theorem Sprinkled.value_stays {gap v : List Char} (ha : a.assigned = some (gap, v))
    (hfree : ∀ v ∈ sel, ¬Frames body (a.found pos) v) :
    ∃ a', Respelt add body a pos a' (pos + a.text.length) := by
  obtain ⟨htext, hgap, hvalue⟩ := hfits.value ha
  have hle : pos + a.text.length ≤ body.length := (finds_of_mem_findAll hm).stop_le
  have hclear (j : Nat) (hj : j < a.text.length) : ¬Borders sel (pos + j) := by
    intro hborders
    obtain ⟨v, hv, hframes, -⟩ := h.own hm (q := pos + a.text.length) (fun i hi hi' => by
      change pos + a.text.length ≤ i at hi
      omega) (Nat.le_add_right pos j) (Nat.add_lt_add_left hj pos) hborders
    exact hfree v hv hframes
  have hdrop : body.drop pos = a.name ++ (gap ++ (v ++ rest)) := by
    rw [hcs, htext]
    simp
  have hdropgap := Text.drop_of_drop hdrop
  have hdropvalue := Text.drop_of_drop hdropgap
  have hlength : a.text.length = a.name.length + gap.length + v.length := by
    rw [htext, List.length_append, List.length_append]
  have hloose := h.loose hdropgap fun j hj => by
    rw [Nat.add_assoc]
    exact hclear _ (by omega)
  have hkept : inserted (fun j => add (pos + a.name.length + gap.length + j)) v = v := by
    refine inserted_of_nil fun j hj => ?_
    by_contra hne
    have hshift :
        pos + a.name.length + gap.length + j = pos + (a.name.length + gap.length + j) := by omega
    have hclear' := hclear (a.name.length + gap.length + j) (by omega)
    rw [← hshift] at hclear'
    obtain ⟨-, ⟨c, hc, hblank⟩, hout⟩ := h.blank _ (by omega) hclear' hne
    have hinner := hout _ hm (pos + (a.name ++ gap).length, pos + (a.name ++ gap ++ v).length) (by
      rw [Written.bounds?_found, ha]
      rfl)
    simp only [List.length_append] at hinner
    -- only the last character is left, and that is no blank
    obtain ⟨d, hd, hfirm⟩ := hvalue.last (j := j) (by omega)
    rw [← List.getElem?_drop, hdropvalue, List.getElem?_append_left hj, hd, Option.some_inj] at hc
    rw [hc, hblank] at hfirm
    cases hfirm
  refine ⟨⟨a.name, some (inserted (fun j => add (pos + a.name.length + j)) gap, v)⟩, rfl, ?_,
    Nat.le_refl _, hle, fun i hi hi' => by omega, ?_, ?_⟩
  · rw [ha]
    rfl
  · rw [Text.slice_here hcs, htext, List.append_assoc, inserted_append, inserted_append,
      h.name_stays hm hcs hfits]
    simp only [← Nat.add_assoc]
    rw [hkept, Written.text, Written.tail]
    rfl
  · refine Written.fits_of_value hfits.name_ne hfits.name (hloose.gap hgap) (hvalue.congr ?_)
    rw [head?_inserted, Text.drop_of_drop hcs]

/-- A value gets its quotes, with the blanks around it. -/
theorem Sprinkled.value_quoted {v : Nat × Nat} (hv : v ∈ sel)
    (hframes : Frames body (a.found pos) v) : ∃ a', Respelt add body a pos a' v.2 := by
  have hlt := hframes.lt
  obtain ⟨gap, inner, hdrop, hgap, hstart, hstop, hinner⟩ := hframes.parts hcs
  have hborders (i : Nat) (hi : pos ≤ i) (hi' : i < v.2) :
      Borders sel i ↔ i + 1 = v.1 ∨ i + 1 = v.2 := by
    refine ⟨fun hborders => ?_, fun hborder => ⟨v, hv, hborder⟩⟩
    obtain ⟨w, hw, hframes', hborder⟩ := h.own hm
      (fun j hj hj' c hc => hframes.clear hm hj hj' hc) hi hi' hborders
    rwa [h.once _ hm v hv w hw hframes hframes']
  have hdropgap := Text.drop_of_drop hdrop
  have hdropvalue := Text.drop_of_drop hdropgap
  have hpos := List.length_pos_iff.mpr hgap.ne_nil
  obtain ⟨added, hadded, hgap'⟩ := h.quoted_last hdropgap hgap.ne_nil
    ((hborders _ (by omega) (by omega)).mpr (by omega)) fun j hj => by
      rw [hborders _ (by omega) (by omega)]
      omega
  obtain ⟨added', hadded', hvalue'⟩ := h.quoted_last hdropvalue
    (List.length_pos_iff.mp (by omega)) ((hborders _ (by omega) (by omega)).mpr (by omega))
    fun j hj => by
      rw [hborders _ (by omega) (by omega)]
      omega
  obtain ⟨front, w, back, hsplit, hfront, hback, hw, hunquoted⟩ := hframes.inner hcs hfits
  rw [hinner, hsplit] at hadded' hvalue'
  obtain ⟨front', back', hinner', hfront', hback'⟩ := hadded'.among hfront
    (fun c hc => (hw c hc).1) hback
  have hquote : ∀ c ∈ front' ++ (w ++ back'), isQuote c = false := by
    intro c hc
    rcases List.mem_append.mp hc with hc | hc
    · exact not_quote_of_blank (List.all_eq_true.mp hfront' c hc)
    · rcases List.mem_append.mp hc with hc | hc
      · exact (hw c hc).2
      · exact not_quote_of_blank (List.all_eq_true.mp hback' c hc)
  refine ⟨⟨a.name, some (inserted added gap, '"' :: (front' ++ (w ++ back') ++ ['"']))⟩, rfl, ?_,
    hframes.stop_le hm, hframes.within, fun i hi hi' c hc => hframes.clear hm hi hi' hc, ?_, ?_⟩
  · rw [hunquoted]
    refine (unquoted_plain hquote).2.trans
      (trim_between hfront' hback' (fun c hc => ?_) fun c hc => ?_)
    · exact (hw c (List.mem_of_mem_head? hc)).1
    · exact (hw c (List.mem_of_mem_getLast? hc)).1
  · have hslice : slice body pos v.2 = a.name ++ (gap ++ inner) := by
      have hlength : v.2 = pos + (a.name ++ (gap ++ inner)).length := by
        simp only [List.length_append]
        omega
      rw [hlength]
      exact Text.slice_here (by rw [hdrop, List.append_assoc, List.append_assoc])
    rw [hslice, hinner, hsplit, inserted_append, inserted_append, h.name_stays hm hcs hfits]
    simp only [← Nat.add_assoc]
    rw [hgap', hvalue', hinner']
    simp [Written.text, Written.tail]
  · refine Written.fits_of_value hfits.name_ne hfits.name (hadded.gap hgap)
      (.quoted rfl fun hmem => ?_)
    have hnot := hquote _ hmem
    cases hnot

theorem Sprinkled.respelt : ∃ a' stop, Respelt add body a pos a' stop := by
  by_cases hframed : ∃ v ∈ sel, Frames body (a.found pos) v
  · obtain ⟨v, hv, hframes⟩ := hframed
    obtain ⟨a', hrespelt⟩ := h.value_quoted hm hcs hfits hv hframes
    exact ⟨a', v.2, hrespelt⟩
  · have hfree : ∀ v ∈ sel, ¬Frames body (a.found pos) v :=
      fun v hv hframes => hframed ⟨v, hv, hframes⟩
    cases ha : a.assigned with
    | none => exact ⟨a, _, h.bare_stays hm hcs hfits ha hfree⟩
    | some p =>
      obtain ⟨a', hrespelt⟩ := h.value_stays hm hcs hfits ha hfree
      exact ⟨a', _, hrespelt⟩

end Respelt

/-- The attributes of a body are the same but for the quotes around values. -/
theorem attributes_sprinkled {add : Nat → List Char} {sel : List (Nat × Nat)} {body : List Char}
    (h : Sprinkled add sel body) :
    List.Forall₂ (fun m m' => m'.group? (inserted add body) 1 = m.group? body 1 ∧
        unquoted (m'.group? (inserted add body) 2) = unquoted (m.group? body 2))
      (attributeForm.findAll body) (attributeForm.findAll (inserted add body)) := by
  have hmoved := (scans_findAll neverEmpty_attributeForm body).moved add
    (R := fun m m' => m'.group? (inserted add body) 1 = m.group? body 1 ∧
      unquoted (m'.group? (inserted add body) 2) = unquoted (m.group? body 2)) ?_ ?_ ?_
  · obtain ⟨ms', hscan, hall⟩ := hmoved
    rw [findAll_eq neverEmpty_attributeForm hscan]
    exact hall.imp fun m m' h => h.2
  · intro i _ hnone
    rw [tryAt_attributeForm, Option.map_eq_none_iff, readAttribute_eq_none] at hnone ⊢
    rwa [drop_inserted, head?_inserted]
  · intro i hi r hr hr'
    obtain ⟨c, hc, ds, hds⟩ := drop_between hi hr hr'
    rw [tryAt_attributeForm, hds, Option.map_eq_none_iff, readAttribute_eq_none]
    rintro d ⟨⟩
    rcases h.soft i _ hc with rfl | rfl <;> rfl
  · intro m hm _
    obtain ⟨a, pos, rest, rfl, hcs, hfits⟩ := exists_written hm
    obtain ⟨a', stop, hrespelt⟩ := h.respelt hm hcs hfits
    have hle := hrespelt.le
    have hpos : pos ≤ stop := Nat.le_trans (Nat.le_add_right pos _) hle
    have hslice : (slice body pos stop).length = stop - pos := by
      rw [slice, List.length_drop, List.length_take_of_le hrespelt.within]
    have hcs' : (inserted add body).drop (placeOf (sizes add) pos) =
        a'.text ++ inserted (fun j => add (stop + j)) (body.drop stop) := by
      have hshift (j : Nat) : pos + (stop - pos + j) = stop + j := by omega
      rw [drop_inserted, ← slice_append_drop body hpos, inserted_append, hrespelt.text, hslice]
      simp only [hshift]
    have hstop : placeOf (sizes add) pos + a'.text.length = placeOf (sizes add) stop := by
      have hplace := placeOf_add (sizes add) pos (stop - pos)
      rw [Nat.add_sub_cancel' hpos] at hplace
      rw [hplace, ← hrespelt.text, length_inserted, hslice]
      rfl
    refine ⟨a'.found (placeOf (sizes add) pos), ?_, ?_, ?_, ?_⟩
    · rw [tryAt_attributeForm]
      exact congrArg (Option.map _) (readAttribute_iff.mpr ⟨_, hcs', hrespelt.fits⟩)
    · have hlt : pos < pos + a.text.length :=
        ((scans_findAll neverEmpty_attributeForm body).hits _ hm).2
      have hend : (a'.found (placeOf (sizes add) pos)).stop = placeOf (sizes add) stop := hstop
      rw [hend]
      refine resumes_at hle (Nat.zero_lt_of_lt (Nat.lt_of_lt_of_le hlt hle)) hrespelt.within
        fun i hi hi' => ?_
      rw [tryAt_attributeForm, Option.map_eq_none_iff, readAttribute_eq_none]
      intro c hc
      rw [List.head?_drop] at hc
      exact hrespelt.clear i hi hi' c hc
    · rw [group?_name hcs', group?_name hcs, hrespelt.name]
    · rw [group?_value hcs' hrespelt.fits, group?_value hcs hfits, hrespelt.value]

end CampaignCheck.Html

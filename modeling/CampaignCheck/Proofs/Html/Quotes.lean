import CampaignCheck.Html.Fixers
import CampaignCheck.Proofs.Html.Tags

namespace CampaignCheck.Html

open Pattern Text

/-- The bounds of the value that an attribute has without quotes. -/
def plainBounds? (cs : List Char) (m : Match) : Option (Nat × Nat) :=
  (m.bounds? 2).filter fun b => !(slice cs b.1 b.2).head?.any isQuote

/-- The bounds of the values without quotes in a text that starts at an offset. -/
def unquotedIn (base : Nat) (cs : List Char) : List (Nat × Nat) :=
  (attributeForm.findAll cs).filterMap fun m =>
    (plainBounds? cs m).map fun b => (base + b.1, base + b.2)

/-- The bounds of the values that the fixer puts into quotes. -/
def quotedValues (line : List Char) : List (Nat × Nat) :=
  (lineTag.findAll line).flatMap fun m => unquotedIn m.start (m.text line)

/-- A value starts or ends behind the character at an offset. -/
def Borders (vs : List (Nat × Nat)) (i : Nat) : Prop := ∃ v ∈ vs, i + 1 = v.1 ∨ i + 1 = v.2

instance (vs : List (Nat × Nat)) (i : Nat) : Decidable (Borders vs i) :=
  inferInstanceAs (Decidable (∃ v ∈ vs, i + 1 = v.1 ∨ i + 1 = v.2))

/-- The quotes that are put behind the character at an offset. -/
def quotes (vs : List (Nat × Nat)) (i : Nat) : List Char := if Borders vs i then ['"'] else []

theorem mem_quotes {vs : List (Nat × Nat)} {i : Nat} {c : Char} (h : c ∈ quotes vs i) :
    c = '"' := by
  rw [quotes] at h
  split_ifs at h
  · exact List.mem_singleton.mp h
  · cases h

theorem quotes_congr {vs vs' : List (Nat × Nat)} {i j : Nat} (h : Borders vs i ↔ Borders vs' j) :
    quotes vs i = quotes vs' j := if_congr h rfl rfl

theorem borders_singleton (pos start stop j : Nat) :
    Borders [(pos + start, pos + stop)] (pos + j) ↔ j + 1 = start ∨ j + 1 = stop := by
  constructor
  · rintro ⟨v, hv, hvj⟩
    obtain rfl := List.mem_singleton.mp hv
    simp only at hvj
    omega
  · intro h
    exact ⟨_, List.mem_singleton_self _, by simp only; omega⟩

theorem inserted_quotes {as bs : List Char} (has : as ≠ []) (hbs : bs ≠ []) {vs : List (Nat × Nat)}
    {pos : Nat} (h : ∀ j < (as ++ bs).length,
      Borders vs (pos + j) ↔ j + 1 = as.length ∨ j + 1 = (as ++ bs).length) :
    inserted (fun j => quotes vs (pos + j)) (as ++ bs) = as ++ '"' :: (bs ++ ['"']) := by
  obtain ⟨n, hn⟩ := Nat.exists_eq_succ_of_ne_zero (List.length_eq_zero_iff.not.mpr has)
  obtain ⟨n', hn'⟩ := Nat.exists_eq_succ_of_ne_zero (List.length_eq_zero_iff.not.mpr hbs)
  simp only [List.length_append, hn, hn'] at h
  have hquote (j : Nat) (hj : j = n ∨ j = n + n' + 1) : quotes vs (pos + j) = ['"'] :=
    if_pos ((h j (by omega)).mpr (by omega))
  have hnone (j : Nat) (hj : j < n + n' + 1) (hne : j ≠ n) : quotes vs (pos + j) = [] :=
    if_neg fun hborders => by
      have hat := (h j (by omega)).mp hborders
      omega
  rw [inserted_append, inserted_at_end hn fun j hj => hnone j (by omega) (by omega),
    hquote n (.inl rfl), inserted_at_end hn' fun j hj => hnone _ (by omega) (by omega),
    hquote _ (.inr (by omega))]
  simp

section Owned

variable {p : Pattern} {cs : List Char} {vs : List (Nat × Nat)} {own : Match → List (Nat × Nat)}

/-- The values lie in the matches. -/
structure Owned (ms : List Match) (own : Match → List (Nat × Nat)) (vs : List (Nat × Nat)) :
    Prop where
  mem : ∀ v, v ∈ vs ↔ ∃ m ∈ ms, v ∈ own m
  within : ∀ m ∈ ms, ∀ v ∈ own m, m.start < v.1 ∧ v.1 < v.2 ∧ v.2 ≤ m.stop

variable {ms : List Match} (h : Owned ms own vs)
include h

theorem Owned.borders {pos : Nat} (hscan : Scans p cs pos ms) {m : Match} (hm : m ∈ ms) {i : Nat}
    (hi : m.start ≤ i ∧ i < m.stop) : Borders vs i ↔ Borders (own m) i := by
  constructor
  · rintro ⟨v, hv, hvi⟩
    obtain ⟨m', hm', hown⟩ := (h.mem v).mp hv
    have hbounds := h.within m' hm' v hown
    obtain rfl := hscan.only hm hm' hi (by omega)
    exact ⟨v, hown, hvi⟩
  · rintro ⟨v, hv, hvi⟩
    exact ⟨v, (h.mem v).mpr ⟨m, hm, hv⟩, hvi⟩

theorem Owned.not_borders {i : Nat} (hi : ∀ m ∈ ms, ¬(m.start ≤ i ∧ i < m.stop)) :
    ¬Borders vs i := by
  rintro ⟨v, hv, hvi⟩
  obtain ⟨m, hm, hown⟩ := (h.mem v).mp hv
  have hbounds := h.within m hm v hown
  exact hi m hm (by omega)

end Owned

theorem exists_written {cs : List Char} {m : Match} (h : m ∈ attributeForm.findAll cs) :
    ∃ (a : Written) (pos : Nat) (rest : List Char),
      m = a.found pos ∧ cs.drop pos = a.text ++ rest ∧ a.Fits rest := by
  have hhit := ((scans_findAll neverEmpty_attributeForm cs).hits m h).1
  rw [tryAt_attributeForm] at hhit
  obtain ⟨a, ha, hm⟩ := Option.map_eq_some_iff.mp hhit
  obtain ⟨rest, hrest, hfits⟩ := readAttribute_iff.mp ha
  exact ⟨a, m.start, rest, hm.symm, hrest, hfits⟩

theorem Written.Fits.value {a : Written} {rest gap v : List Char} (h : a.Fits rest)
    (ha : a.assigned = some (gap, v)) :
    a.text = a.name ++ gap ++ v ∧ IsGap gap ∧ IsValue v rest := by
  have hread := h.assigned
  rw [ha] at hread
  obtain ⟨rest', hrest, hgap, hvalue⟩ := readAssigned_iff.mp hread
  have htail : a.tail = gap ++ v := by rw [Written.tail, ha]; rfl
  rw [htail, List.append_assoc, List.append_cancel_left_eq, List.append_cancel_left_eq] at hrest
  rw [Written.text, htail, List.append_assoc, hrest]
  exact ⟨rfl, hgap, hvalue⟩

theorem Written.bounds?_found (a : Written) (pos : Nat) :
    (a.found pos).bounds? 2 = a.assigned.map fun p =>
      (pos + (a.name ++ p.1).length, pos + (a.name ++ p.1 ++ p.2).length) := by
  obtain ⟨name, assigned⟩ := a
  cases assigned with
  | none => rfl
  | some p =>
    simp [Written.found, Written.marks, Match.bounds?, Cursor.boundsIn, Nat.add_assoc]

/-- The value of an attribute if it has no quotes, with what joins it to the name. -/
def Written.plain? (a : Written) : Option (List Char × List Char) :=
  a.assigned.filter fun p => !p.2.head?.any isQuote

def Written.quoted (a : Written) : Written :=
  match a.plain? with
  | some p => ⟨a.name, some (p.1, '"' :: (p.2 ++ ['"']))⟩
  | none => a

theorem Written.Fits.plain {a : Written} {rest gap v : List Char} (h : a.Fits rest)
    (ha : a.plain? = some (gap, v)) : a.text = a.name ++ gap ++ v ∧ IsGap gap ∧ v ≠ [] ∧
      (∀ c ∈ v, valueSet.mem c = true) ∧ ∀ c ∈ rest.head?, valueSet.mem c = false := by
  obtain ⟨hassigned, hhead⟩ := Option.filter_eq_some_iff.mp ha
  obtain ⟨htext, hgap, hvalue⟩ := h.value hassigned
  cases hvalue with
  | quoted hq _ => simp [hq] at hhead
  | plain hne hv hrest => exact ⟨htext, hgap, hne, hv, hrest⟩

theorem plainBounds?_found {cs rest : List Char} {a : Written} {pos : Nat}
    (hcs : cs.drop pos = a.text ++ rest) (hfits : a.Fits rest) :
    plainBounds? cs (a.found pos) = a.plain?.map fun p =>
      (pos + (a.name ++ p.1).length, pos + (a.name ++ p.1 ++ p.2).length) := by
  rw [plainBounds?, Written.bounds?_found, Written.plain?]
  cases ha : a.assigned with
  | none => rfl
  | some p =>
    obtain ⟨htext, -, -⟩ := hfits.value ha
    rw [htext, List.append_assoc] at hcs
    have hslice := slice_of_drop hcs
    rw [Option.map_some, Option.filter_some, Option.filter_some, hslice]
    split_ifs <;> rfl

theorem IsGap.ne_nil {gap : List Char} (h : IsGap gap) : gap ≠ [] := by
  cases h
  simp

theorem IsValue.ne_nil {v rest : List Char} (h : IsValue v rest) : v ≠ [] := by
  cases h with
  | quoted => simp
  | plain hne => exact hne

theorem unquotedIn_owned (cs : List Char) : Owned (attributeForm.findAll cs)
    (fun m => (plainBounds? cs m).toList) (unquotedIn 0 cs) := by
  refine ⟨fun v => ?_, fun m hm v hv => ?_⟩
  · simp only [unquotedIn, List.mem_filterMap, Option.mem_toList, Nat.zero_add]
    simp
  · obtain ⟨a, pos, rest, rfl, hcs, hfits⟩ := exists_written hm
    rw [Option.mem_toList, plainBounds?_found hcs hfits] at hv
    obtain ⟨⟨gap, value⟩, hp, rfl⟩ := Option.map_eq_some_iff.mp hv
    obtain ⟨htext, -, hne, -, -⟩ := hfits.plain hp
    have hname := List.length_pos_iff.mpr hfits.name_ne
    have hlength := List.length_pos_iff.mpr hne
    simp only [Written.found, htext, List.length_append]
    omega

theorem text_found {cs rest : List Char} {a : Written} {pos : Nat}
    (hcs : cs.drop pos = a.text ++ rest) : (a.found pos).text cs = a.text :=
  slice_here hcs

/-- The replacement of an attribute puts its value into quotes. -/
theorem quotedAttribute_found {cs rest : List Char} {a : Written} {pos : Nat}
    (hcs : cs.drop pos = a.text ++ rest) (hfits : a.Fits rest) :
    quotedAttribute cs (a.found pos) = a.quoted.text := by
  rw [quotedAttribute, Written.bounds?_found, text_found hcs, Written.quoted, Written.plain?]
  cases ha : a.assigned with
  | none => rfl
  | some p =>
    obtain ⟨htext, hgap, hvalue⟩ := hfits.value ha
    rw [htext, List.append_assoc] at hcs
    have hslice := slice_of_drop hcs
    have hfront : slice cs pos (pos + (a.name ++ p.1).length) = a.name ++ p.1 :=
      slice_here hcs
    obtain ⟨c, v, hv⟩ := List.exists_cons_of_ne_nil hvalue.ne_nil
    simp only [Option.map_some, hslice, Option.filter_some]
    simp only [hv, List.head?_cons, Option.any_some]
    cases hq : isQuote c with
    | true => exact if_pos hq
    | false =>
      refine (if_neg (ne_true_of_eq_false hq)).trans ?_
      rw [show (a.found pos).start = pos from rfl, ← hv, hfront]
      simp [Written.text, Written.tail]

/-- Quoting an attribute is putting quotes into it. -/
theorem quotedAttribute_eq {cs : List Char} {m : Match} (hm : m ∈ attributeForm.findAll cs) :
    quotedAttribute cs m =
      inserted (fun j => quotes (unquotedIn 0 cs) (m.start + j)) (m.text cs) := by
  have hscan := scans_findAll neverEmpty_attributeForm cs
  obtain ⟨a, pos, rest, rfl, hcs, hfits⟩ := exists_written hm
  have hown (j : Nat) (hj : j < a.text.length) :
      Borders (unquotedIn 0 cs) (pos + j) ↔
        Borders (plainBounds? cs (a.found pos)).toList (pos + j) :=
    (unquotedIn_owned cs).borders hscan hm ⟨Nat.le_add_right pos j, Nat.add_lt_add_left hj pos⟩
  rw [quotedAttribute_found hcs hfits, text_found hcs, Written.quoted]
  rw [plainBounds?_found hcs hfits] at hown
  change _ = inserted (fun j => quotes (unquotedIn 0 cs) (pos + j)) a.text
  cases hp : a.plain? with
  | none =>
    rw [inserted_of_nil]
    intro j hj
    rw [hp] at hown
    refine if_neg fun hborders => ?_
    obtain ⟨v, hv, -⟩ := (hown j hj).mp hborders
    cases hv
  | some p =>
    obtain ⟨htext, hgap, hne, -, -⟩ := hfits.plain hp
    rw [htext]
    rw [htext, hp] at hown
    refine Eq.symm ((inserted_quotes ?_ hne fun j hj => (hown j hj).trans ?_).trans ?_)
    · exact List.append_ne_nil_of_left_ne_nil hfits.name_ne p.1
    · exact borders_singleton pos _ _ j
    · simp [Written.text, Written.tail]

theorem quotedTag_eq (cs : List Char) : quotedTag cs = inserted (quotes (unquotedIn 0 cs)) cs := by
  have hscan := scans_findAll neverEmpty_attributeForm cs
  have hinserted := hscan.spliceFrom_inserted (quotes (unquotedIn 0 cs))
    (fun m hm => quotedAttribute_eq hm) fun i _ hi => if_neg ((unquotedIn_owned cs).not_borders hi)
  simp only [Nat.zero_add, List.drop_zero] at hinserted
  exact hinserted

theorem mem_unquotedIn {base : Nat} {cs : List Char} {v : Nat × Nat} :
    v ∈ unquotedIn base cs ↔ ∃ b ∈ unquotedIn 0 cs, v = (base + b.1, base + b.2) := by
  simp only [unquotedIn, List.mem_filterMap, Nat.zero_add]
  constructor
  · rintro ⟨m, hm, hv⟩
    obtain ⟨b, hb, rfl⟩ := Option.map_eq_some_iff.mp hv
    exact ⟨b, ⟨m, hm, by rw [hb]; rfl⟩, rfl⟩
  · rintro ⟨b, ⟨m, hm, hb⟩, rfl⟩
    obtain ⟨b, hplain, rfl⟩ := Option.map_eq_some_iff.mp hb
    exact ⟨m, hm, by rw [hplain]; rfl⟩

theorem borders_unquotedIn (base : Nat) (cs : List Char) (j : Nat) :
    Borders (unquotedIn base cs) (base + j) ↔ Borders (unquotedIn 0 cs) j := by
  constructor
  · rintro ⟨v, hv, hvj⟩
    obtain ⟨b, hb, rfl⟩ := mem_unquotedIn.mp hv
    simp only at hvj
    exact ⟨b, hb, by omega⟩
  · rintro ⟨b, hb, hbj⟩
    exact ⟨_, mem_unquotedIn.mpr ⟨b, hb, rfl⟩, by simp only; omega⟩

theorem unquotedIn_within {cs : List Char} {v : Nat × Nat} (h : v ∈ unquotedIn 0 cs) :
    0 < v.1 ∧ v.1 < v.2 ∧ v.2 ≤ cs.length := by
  obtain ⟨m, hm, hown⟩ := ((unquotedIn_owned cs).mem v).mp h
  have hbounds := (unquotedIn_owned cs).within m hm v hown
  have hstop := (finds_of_mem_findAll hm).stop_le
  omega

theorem length_text {p : Pattern} {cs : List Char} {m : Match} (hm : m ∈ p.findAll cs) :
    (m.text cs).length = m.stop - m.start := by
  have hstop := (finds_of_mem_findAll hm).stop_le
  rw [Match.text, slice, List.length_drop, List.length_take_of_le hstop]

theorem quotedValues_owned (line : List Char) : Owned (lineTag.findAll line)
    (fun m => unquotedIn m.start (m.text line)) (quotedValues line) := by
  refine ⟨fun v => List.mem_flatMap, fun m hm v hv => ?_⟩
  obtain ⟨b, hb, rfl⟩ := mem_unquotedIn.mp hv
  have hbounds := unquotedIn_within hb
  rw [length_text hm] at hbounds
  simp only
  omega

/-- Quoting the values of a line is putting quotes into the line. -/
theorem fixQuotes_eq (line : List Char) (f : Finding) :
    fixQuotes line f = some (inserted (quotes (quotedValues line)) line) := by
  have hscan := scans_findAll neverEmpty_lineTag line
  have htag (m : Match) (hm : m ∈ lineTag.findAll line) : quotedTag (m.text line) =
      inserted (fun j => quotes (quotedValues line) (m.start + j)) (m.text line) := by
    rw [quotedTag_eq]
    refine inserted_congr fun j hj => quotes_congr ?_
    rw [length_text hm] at hj
    have hborders := (quotedValues_owned line).borders hscan hm (i := m.start + j) (by omega)
    exact (hborders.trans (borders_unquotedIn _ _ _)).symm
  have hinserted := hscan.spliceFrom_inserted _ htag fun i _ hi =>
    if_neg ((quotedValues_owned line).not_borders hi)
  simp only [Nat.zero_add, List.drop_zero] at hinserted
  exact congrArg some hinserted

/-- A value without quotes stands at these bounds, behind an equals sign and perhaps blanks. -/
structure Stands (cs : List Char) (v : Nat × Nat) : Prop where
  before : ∃ e < v.1, cs[e]? = some '=' ∧
    ∀ i, e < i → i < v.1 → ∃ c, cs[i]? = some c ∧ isBlank c = true
  lt : v.1 < v.2
  value : ∀ i, v.1 ≤ i → i < v.2 → ∃ c, cs[i]? = some c ∧ valueSet.mem c = true ∧ c ≠ '<'
  behind : ∃ c, cs[v.2]? = some c ∧ valueSet.mem c = false

theorem Stands.sign {cs : List Char} {v : Nat × Nat} (h : Stands cs v) :
    ∃ i c, v.1 = i + 1 ∧ cs[i]? = some c ∧ (c = '=' ∨ isBlank c = true) := by
  obtain ⟨e, he, hsign, hgap⟩ := h.before
  obtain ⟨i, hi⟩ := Nat.exists_eq_succ_of_ne_zero (Nat.ne_of_gt (Nat.zero_lt_of_lt he))
  rcases Nat.eq_or_lt_of_le (Nat.le_of_lt_succ (hi ▸ he)) with rfl | hlt
  · exact ⟨e, '=', hi, hsign, .inl rfl⟩
  · obtain ⟨c, hc, hblank⟩ := hgap i hlt (by omega)
    exact ⟨i, c, hi, hc, .inr hblank⟩

theorem stands_of_drop {cs front gap value rest : List Char} {pos : Nat} {d : Char}
    (h : cs.drop pos = front ++ '=' :: (gap ++ (value ++ d :: rest)))
    (hgap : ∀ c ∈ gap, isBlank c = true) (hne : value ≠ [])
    (hvalue : ∀ x ∈ value, valueSet.mem x = true ∧ x ≠ '<') (hd : valueSet.mem d = false) :
    Stands cs
      (pos + (front ++ '=' :: gap).length, pos + (front ++ '=' :: gap ++ value).length) := by
  have hsign : cs.drop (pos + front.length) = '=' :: (gap ++ (value ++ d :: rest)) :=
    Text.drop_of_drop h
  have hblank : cs.drop (pos + front.length + 1) = gap ++ (value ++ d :: rest) := by
    rw [← List.drop_drop, hsign]
    rfl
  have hbehind : cs.drop (pos + front.length + 1 + gap.length) = value ++ d :: rest :=
    Text.drop_of_drop hblank
  have hlast : cs.drop (pos + front.length + 1 + gap.length + value.length) = d :: rest :=
    Text.drop_of_drop hbehind
  have hstart : pos + (front ++ '=' :: gap).length = pos + front.length + 1 + gap.length := by
    rw [List.length_append, List.length_cons]
    omega
  have hstop : pos + (front ++ '=' :: gap ++ value).length =
      pos + front.length + 1 + gap.length + value.length := by
    rw [List.length_append, ← Nat.add_assoc, hstart]
  have hlength := List.length_pos_iff.mpr hne
  rw [hstart, hstop]
  refine ⟨⟨pos + front.length, by simp only; omega, ?_, fun i hi hi' => ?_⟩, by simp only; omega,
    fun i hi hi' => ?_, d, ?_, hd⟩
  · rw [← List.head?_drop, hsign]
    rfl
  · obtain ⟨k, rfl⟩ := Nat.exists_eq_add_of_le (Nat.succ_le_of_lt hi)
    have hk : k < gap.length := Nat.lt_of_add_lt_add_left hi'
    refine ⟨gap[k], ?_, hgap _ (List.getElem_mem hk)⟩
    rw [← List.getElem?_drop, hblank, List.getElem?_append_left hk, List.getElem?_eq_getElem hk]
  · obtain ⟨k, rfl⟩ := Nat.exists_eq_add_of_le hi
    have hk : k < value.length := Nat.lt_of_add_lt_add_left hi'
    refine ⟨value[k], ?_, hvalue _ (List.getElem_mem hk)⟩
    simp only
    rw [← List.getElem?_drop, hbehind, List.getElem?_append_left hk, List.getElem?_eq_getElem hk]
  · simp only
    rw [← List.head?_drop, hlast]
    rfl

/-- A value in a text between angles. -/
theorem stands_of_mem_unquotedIn {cs : List Char} {v : Nat × Nat} (h : v ∈ unquotedIn 0 cs)
    (hlast : cs.getLast? = some '>') (hangle : '<' ∉ cs.tail) : Stands cs v := by
  obtain ⟨m, hm, hown⟩ := ((unquotedIn_owned cs).mem v).mp h
  obtain ⟨a, pos, rest, rfl, hcs, hfits⟩ := exists_written hm
  rw [Option.mem_toList, plainBounds?_found hcs hfits] at hown
  obtain ⟨⟨gap, value⟩, hp, rfl⟩ := Option.map_eq_some_iff.mp hown
  obtain ⟨htext, hgap, hne, hvalue, hrest⟩ := hfits.plain hp
  obtain ⟨-, hbehind⟩ := hgap
  rename_i before behind
  have hdrop : cs.drop pos = a.name ++ before ++ '=' :: (behind ++ (value ++ rest)) := by
    rw [hcs, htext]
    simp
  have hno (x : Char) (hx : x ∈ value) : x ≠ '<' := by
    rintro rfl
    have htail : '<' ∈ (cs.drop pos).tail := by
      obtain ⟨n, name, hname⟩ := List.exists_cons_of_ne_nil hfits.name_ne
      rw [hdrop, hname]
      simp [hx]
    rw [List.tail_drop, Nat.add_comm, ← List.drop_drop, List.drop_one] at htail
    exact hangle (List.mem_of_mem_drop htail)
  cases rest with
  | nil =>
    -- the text would end with the value, not with an angle
    rcases List.eq_nil_or_concat value with rfl | ⟨value, x, rfl⟩
    · exact absurd rfl hne
    · have hsplit := List.take_append_drop pos cs
      have hend : cs.take pos ++ (a.name ++ before ++ '=' :: (behind ++ (value ++ [x] ++ []))) =
          cs.take pos ++ (a.name ++ before ++ '=' :: (behind ++ value)) ++ [x] := by simp
      rw [hdrop, List.concat_eq_append, hend] at hsplit
      rw [← hsplit, List.getLast?_concat, Option.some_inj] at hlast
      have hmem := hvalue x (by simp)
      rw [hlast] at hmem
      cases hmem
  | cons d rest =>
    have hstands := stands_of_drop hdrop hbehind hne (fun x hx => ⟨hvalue x hx, hno x hx⟩)
      (hrest d rfl)
    simp only [List.append_assoc] at hstands ⊢
    exact hstands

theorem Stands.of_slice {cs : List Char} {start stop : Nat} {v : Nat × Nat}
    (h : Stands (slice cs start stop) v) : Stands cs (start + v.1, start + v.2) := by
  have hget {i : Nat} {c : Char} (hc : (slice cs start stop)[i]? = some c) :
      cs[start + i]? = some c := by
    rw [slice, List.getElem?_drop] at hc
    have hlt := (List.getElem?_eq_some_iff.mp hc).1
    rw [List.length_take] at hlt
    rwa [List.getElem?_take_of_lt (by omega)] at hc
  obtain ⟨⟨e, he, hsign, hgap⟩, hlt, hvalue, d, hd, hbehind⟩ := h
  refine ⟨⟨start + e, Nat.add_lt_add_left he start, hget hsign, fun j hj hj' => ?_⟩,
    Nat.add_lt_add_left hlt start, fun j hj hj' => ?_, d, hget hd, hbehind⟩
  · obtain ⟨k, rfl⟩ :=
      Nat.exists_eq_add_of_le (Nat.le_trans (Nat.le_add_right start e) (Nat.le_of_lt hj))
    obtain ⟨x, hx, hblank⟩ := hgap k (Nat.lt_of_add_lt_add_left hj) (Nat.lt_of_add_lt_add_left hj')
    exact ⟨x, hget hx, hblank⟩
  · obtain ⟨k, rfl⟩ := Nat.exists_eq_add_of_le (Nat.le_trans (Nat.le_add_right start v.1) hj)
    obtain ⟨x, hx, hset⟩ := hvalue k (Nat.le_of_add_le_add_left hj) (Nat.lt_of_add_lt_add_left hj')
    exact ⟨x, hget hx, hset⟩

theorem stands_of_mem_quotedValues {line : List Char} {v : Nat × Nat} (h : v ∈ quotedValues line) :
    Stands line v := by
  obtain ⟨m, hm, hv⟩ := List.mem_flatMap.mp h
  obtain ⟨b, hb, rfl⟩ := mem_unquotedIn.mp hv
  have hhit := ((scans_findAll neverEmpty_lineTag line).hits m hm).1
  obtain ⟨c, inner, rest, hline, hc, hinner, hstop⟩ := of_tryAt_lineTag hhit
  have htext : m.text line = '<' :: c :: inner ++ ['>'] := by
    have hdrop : line.drop m.start = ('<' :: c :: inner ++ ['>']) ++ rest := by
      rw [hline]
      simp
    rw [Match.text, hstop, ← slice_here hdrop]
    simp [Nat.add_comm, Nat.add_left_comm]
  have hstands : Stands (m.text line) b := by
    refine stands_of_mem_unquotedIn hb ?_ ?_
    · rw [htext, List.getLast?_concat]
    · intro hangle
      rw [htext, List.cons_append, List.tail_cons, List.cons_append, List.mem_cons,
        List.mem_append] at hangle
      rcases hangle with rfl | hangle | hangle
      · cases hc
      · have hmem := hinner '<' hangle
        cases hmem
      · simp at hangle
  exact hstands.of_slice

section Stands

variable {cs : List Char} {v : Nat × Nat} (h : Stands cs v) {i : Nat} {c : Char}
include h

theorem Stands.start_ne (hc : cs[i]? = some c) (hfirm : c ≠ '=' ∧ isBlank c = false) :
    i + 1 ≠ v.1 := by
  intro hi
  obtain ⟨j, x, hj, hx, hkind⟩ := h.sign
  obtain rfl : i = j := by omega
  rw [hc] at hx
  obtain rfl := Option.some.inj hx
  rcases hkind with hkind | hkind
  · exact hfirm.1 hkind
  · rw [hfirm.2] at hkind
    cases hkind

theorem Stands.stop_ne (hc : cs[i + 1]? = some c) (hset : valueSet.mem c = true) :
    i + 1 ≠ v.2 := by
  intro hi
  obtain ⟨x, hx, hnot⟩ := h.behind
  rw [← hi, hc] at hx
  rw [← Option.some.inj hx, hset] at hnot
  cases hnot

theorem Stands.outside (hc : cs[i]? = some c) (hset : valueSet.mem c = false ∨ c = '<') :
    ¬(v.1 ≤ i ∧ i < v.2) := by
  rintro ⟨hi, hi'⟩
  obtain ⟨x, hx, hyes, hangle⟩ := h.value i hi hi'
  rw [hc] at hx
  obtain rfl := Option.some.inj hx
  rcases hset with hset | hset
  · rw [hset] at hyes
    cases hyes
  · exact hangle hset

omit i c in
/-- The value behind an equals sign starts with the first character behind it that is no blank, and
ends with the last that may stand in a value. -/
theorem Stands.eq_of_sign {w : Nat × Nat} (h' : Stands cs w) {e : Nat} (he : e < v.1)
    (hgap : ∀ i, e < i → i < v.1 → ∃ c, cs[i]? = some c ∧ isBlank c = true) (he' : e < w.1)
    (hgap' : ∀ i, e < i → i < w.1 → ∃ c, cs[i]? = some c ∧ isBlank c = true) : v = w := by
  have hstart {v w : Nat × Nat} (h : Stands cs v) (he : e < v.1)
      (hgap : ∀ i, e < i → i < w.1 → ∃ c, cs[i]? = some c ∧ isBlank c = true) : w.1 ≤ v.1 := by
    by_contra hlt
    obtain ⟨c, hc, hblank⟩ := hgap v.1 he (Nat.lt_of_not_le hlt)
    exact h.outside hc (.inl (valueSet_of_isBlank hblank)) ⟨Nat.le_refl _, h.lt⟩
  have hstop {v w : Nat × Nat} (h : Stands cs v) (h' : Stands cs w) (hsame : v.1 = w.1) :
      w.2 ≤ v.2 := by
    by_contra hlt
    obtain ⟨c, hc, hset⟩ := h.behind
    have hle := h.lt
    exact h'.outside hc (.inl hset) ⟨by omega, Nat.lt_of_not_le hlt⟩
  have hfirst : v.1 = w.1 := Nat.le_antisymm (hstart h' he' hgap) (hstart h he hgap')
  exact Prod.ext hfirst (Nat.le_antisymm (hstop h' h hfirst.symm) (hstop h h' hfirst))

end Stands

end CampaignCheck.Html

import CampaignCheck.Ampscript.Meaning
import CampaignCheck.Proofs.Ampscript.Conditions
import CampaignCheck.Proofs.Pattern.Groups
import CampaignCheck.Proofs.Pattern.Scans
import CampaignCheck.Proofs.Pattern.Stretched
import CampaignCheck.Proofs.Pattern.Ways

namespace CampaignCheck

namespace Pattern

theorem backOff_some (pos n : Nat) : backOff some pos n = some (pos + n) := by
  cases n <;> rfl

theorem leads_of_mem_findAll {p : Pattern} {b : Nat} (hp : Regular 0 p b) (hwidth : NeverEmpty p)
    {cs : List Char} {m : Match} (hm : m ∈ p.findAll cs) :
    p.leads cs.toArray done (cs.drop m.start) m.start #[] = some (m.stop, m.marks) := by
  have htry := ((scans_findAll hwidth cs).hits m hm).1
  rw [tryAt_eq_leads hp] at htry
  obtain ⟨r, hr, hmatch⟩ := Option.map_eq_some_iff.mp htry
  rw [hr, ← hmatch]

/-- The bounds of a single group. -/
theorem bounds?_of_marks {m : Match} {a b : Nat}
    (h : marked (marked #[] (2 * 1 - 2) a) (2 * 1 - 1) b = m.marks) :
    m.bounds? 1 = some (a, b) := by
  have hpair : marked (marked #[] (2 * 1 - 2) a) (2 * 1 - 1) b = #[some a, some b] :=
    marked_pair rfl a b
  rw [Match.bounds?, ← h, hpair]
  rfl

theorem group_of_bounds? {m : Match} {n start stop : Nat} (h : m.bounds? n = some (start, stop))
    (cs : List Char) : m.group cs n = Text.slice cs start stop ∧ m.startOf n = start := by
  rw [Match.group, Match.group?, Match.startOf, h]
  exact ⟨rfl, rfl⟩

end Pattern

namespace Ampscript

open Text Pattern

/-- What may follow the sign of a variable. -/
def nameStart : CharSet := .union [.range 'A' 'Z', .range 'a' 'z', .char '_']

def namePart : CharSet := .union [.range 'A' 'Z', .range 'a' 'z', .range '0' '9', .char '_']

theorem variableName_eq : variableName =
    seq (seq (one (.char '@')) (one nameStart)) (many (one namePart)) := rfl

theorem simple_variableName : Simple variableName := .seq (.seq (.one _) (.one _)) (.many _)

/-- The name of a variable starts at an offset. -/
structure NameAt (cs : List Char) (pos : Nat) : Prop where
  sign : cs[pos]? = some '@'
  letter : sees nameStart cs (pos + 1) = true

theorem hit?_variableName {cs : List Char} {pos stop : Nat} :
    variableName.hit? cs pos = some stop ↔ NameAt cs pos ∧
      stop = pos + 2 + ((cs.drop (pos + 2)).takeWhile namePart.mem).length := by
  rw [variableName_eq, hit?, ends, ends, ends_one, ends_one, many, ends, countOf_eq, backOff_some]
  constructor
  · intro h
    split_ifs at h with hsign hletter
    exact ⟨⟨(sees_char _ _ _).mp hsign, hletter⟩, (Option.some.inj h).symm⟩
  · rintro ⟨⟨hsign, hletter⟩, rfl⟩
    rw [if_pos ((sees_char _ _ _).mpr hsign), if_pos hletter]

theorem not_sign_of_sees {set : CharSet} (hset : set.mem '@' = false) {cs : List Char} {pos : Nat}
    (h : sees set cs pos = true) : cs[pos]? ≠ some '@' := by
  intro hsign
  rw [sees, hsign, Option.map_some, Option.getD_some, hset] at h
  cases h

theorem apart_variableName (cs : List Char) : variableName.Apart cs := by
  intro pos stop h
  obtain ⟨hname, rfl⟩ := hit?_variableName.mp h
  refine ⟨by omega, fun q hq hq' => ?_⟩
  rw [Option.eq_none_iff_forall_ne_some]
  intro stop' hstop'
  have hsign := (hit?_variableName.mp hstop').1.sign
  obtain rfl | ⟨j, rfl⟩ : q = pos + 1 ∨ ∃ j, q = pos + 2 + j := by
    rcases Nat.lt_or_ge q (pos + 2) with hlt | hle
    · exact .inl (by omega)
    · exact .inr (Nat.exists_eq_add_of_le hle)
  · exact not_sign_of_sees (by decide) hname.letter hsign
  · have hroom : j + 1 ≤ ((cs.drop (pos + 2)).takeWhile namePart.mem).length := by omega
    have hpart := (le_length_takeWhile_iff _ _).mp hroom j (Nat.lt_succ_self j)
    rw [List.getElem?_drop] at hpart
    have hsees : sees namePart cs (pos + 2 + j) = true := hpart
    exact not_sign_of_sees (by decide) hsees hsign

theorem mem_starts_variableName {cs : List Char} {pos : Nat} :
    pos ∈ (variableName.findAll cs).map (·.start) ↔ NameAt cs pos := by
  rw [List.mem_map]
  constructor
  · rintro ⟨m, hm, rfl⟩
    exact (hit?_variableName.mp
      (hit?_of_mem_findAll simple_variableName (apart_variableName cs).full hm)).1
  · intro h
    have hlt := (List.getElem?_eq_some_iff.mp h.sign).1
    obtain ⟨m, hm, hstart, -⟩ := (mem_findAll_iff simple_variableName (apart_variableName cs)).mpr
      ⟨Nat.le_of_lt hlt, hit?_variableName.mpr ⟨h, rfl⟩⟩
    exact ⟨m, hm, hstart⟩

def keyword (word : String) : Pattern :=
  seq (seq wordEdge (inOrder ((letters word).map one))) blanks1

def listed : CharSet := .union [.word, .blank, .chars ",@"]

/-- A word, a variable, and an equals sign. -/
def target (word : String) : Pattern :=
  seq (seq (seq (keyword word) (capture 1 (seq (one (.char '@')) wordChars1))) blanks)
    (one (.char '='))

theorem declaration_eq : declaration =
    seq (keyword "VAR") (capture 1 (seq (one (.char '@')) (many1 (one listed)))) := rfl

theorem assignment_eq : assignment = target "SET" := rfl

theorem loopVariable_eq : loopVariable = target "FOR" := rfl

theorem regular_keyword {word : String} {first : Char} {rest : List Char}
    (hword : word.toList = first :: rest) : Regular 0 (keyword word) 0 := by
  have hletters (c : Char) (cs : List Char) :
      Regular 0 (inOrder (((c :: cs).map CharSet.anyCase).map one)) 0 := by
    induction cs generalizing c with
    | nil => exact .one 0 _
    | cons d cs ih => exact .seq (.one 0 _) (ih d)
  rw [keyword, letters, hword]
  exact .seq (.seq (.anchor 0 _) (hletters first rest)) (.many 0 1 _)

theorem regular_declaration : Regular 0 declaration 2 := by
  rw [declaration_eq]
  exact .seq (regular_keyword rfl)
    (.capture (by decide) (by decide) (.seq (.one 1 _) (.many 1 1 _)))

theorem regular_target {word : String} {first : Char} {rest : List Char}
    (hword : word.toList = first :: rest) : Regular 0 (target word) 2 :=
  .seq (.seq (.seq (regular_keyword hword)
    (.capture (by decide) (by decide) (.seq (.one 1 _) (.many 1 1 _)))) (.many 2 0 _)) (.one 2 _)

section Leads

variable {text : Array Char} {g : Sequel} {marks : Marks}

/-- What comes after a keyword goes on somewhere behind it. -/
theorem leads_keyword_eq_some {word : String} {cs : List Char} {pos : Nat} {r : Nat × Marks}
    (h : (keyword word).leads text g cs pos marks = some r) :
    ∃ k, g (cs.drop k) (pos + k) marks = some r := by
  rw [keyword, leads_seq, leads_seq, wordEdge, leads_anchor] at h
  split_ifs at h
  rw [leads_inOrder] at h
  split_ifs at h
  obtain ⟨as, ds, hsplit, -, -, hg⟩ := leads_many_eq_some h
  refine ⟨(letters word).length + as.length, ?_⟩
  rwa [← List.drop_drop, hsplit, List.drop_left, ← Nat.add_assoc]

end Leads

/-- The list of variables ends with its match, where no character of a list is next. -/
theorem bounds?_declaration {cs : List Char} {m : Match} (hm : m ∈ declaration.findAll cs) :
    ∃ start, m.bounds? 1 = some (start, m.stop) ∧ sees listed cs m.stop = false := by
  have hr := leads_of_mem_findAll regular_declaration (neverEmpty_of_leastWidth rfl (by decide)) hm
  rw [declaration_eq, leads_seq] at hr
  obtain ⟨k, hr⟩ := leads_keyword_eq_some hr
  rw [leads_capture, leads_seq] at hr
  obtain ⟨c, ds, hdrop, -, hr⟩ := leads_one_eq_some hr
  rw [many1, leads_most] at hr
  obtain ⟨as, es, rfl, hlength, -, hr⟩ := exactly_eq_some hr
  rw [most_of_isSome rfl, done, Option.some.injEq, Prod.mk.injEq] at hr
  obtain ⟨hstop, hmarks⟩ := hr
  have hbounds := bounds?_of_marks hmarks
  rw [hstop] at hbounds
  refine ⟨_, hbounds, ?_⟩
  have hlast : cs[m.stop]? = es[(es.takeWhile listed.mem).length]? := by
    have hplace : m.stop =
        m.start + (k + (1 + (as.length + (es.takeWhile listed.mem).length))) := by omega
    rw [hplace, ← List.getElem?_drop, ← List.getElem?_drop, hdrop, ← List.getElem?_drop,
      List.drop_one, List.tail_cons, ← List.getElem?_drop, List.drop_left]
  rw [sees, hlast]
  exact getElem?_length_takeWhile es

/-- The variable of a target has its bounds. -/
theorem bounds?_target {word : String} {first : Char} {rest : List Char}
    (hword : word.toList = first :: rest) (hwidth : NeverEmpty (target word)) {cs : List Char}
    {m : Match} (hm : m ∈ (target word).findAll cs) :
    ∃ start stop, m.bounds? 1 = some (start, stop) := by
  have hr := leads_of_mem_findAll (regular_target hword) hwidth hm
  rw [target, leads_seq, leads_seq, leads_seq] at hr
  obtain ⟨k, hr⟩ := leads_keyword_eq_some hr
  rw [leads_capture, leads_seq] at hr
  obtain ⟨c, ds, -, -, hr⟩ := leads_one_eq_some hr
  obtain ⟨name, ds, -, -, -, hr⟩ := leads_many_eq_some hr
  obtain ⟨between, ds, -, -, -, hr⟩ := leads_many_eq_some hr
  obtain ⟨d, ds, -, -, hr⟩ := leads_one_eq_some hr
  exact ⟨_, _, bounds?_of_marks (Prod.mk.inj (Option.some.inj hr)).2⟩

theorem bounds?_assignment {cs : List Char} {m : Match} (hm : m ∈ assignment.findAll cs) :
    ∃ start stop, m.bounds? 1 = some (start, stop) := by
  rw [assignment_eq] at hm
  exact bounds?_target (by rfl) (neverEmpty_of_leastWidth (by rfl) (by decide)) hm

theorem bounds?_loopVariable {cs : List Char} {m : Match} (hm : m ∈ loopVariable.findAll cs) :
    ∃ start stop, m.bounds? 1 = some (start, stop) := by
  rw [loopVariable_eq] at hm
  exact bounds?_target (by rfl) (neverEmpty_of_leastWidth (by rfl) (by decide)) hm

/-- A variable is declared at an offset of a masked line: it stands in a list after VAR, or it is
the variable that SET assigns or FOR counts. -/
inductive Declares (cs : List Char) (pos : Nat) : Prop
  | listed {m : Match} {start stop : Nat} (hm : m ∈ declaration.findAll cs)
      (hbounds : m.bounds? 1 = some (start, stop)) (hstart : start ≤ pos) (hstop : pos < stop)
  | assigned {m : Match} {stop : Nat} (hm : m ∈ assignment.findAll cs)
      (hbounds : m.bounds? 1 = some (pos, stop))
  | counted {m : Match} {stop : Nat} (hm : m ∈ loopVariable.findAll cs)
      (hbounds : m.bounds? 1 = some (pos, stop))

theorem isWord_of_nameStart {c : Char} (h : nameStart.mem c = true) : isWord c = true := by
  have hall : ∀ n < 128, nameStart.mem (Char.ofNat n) = true → isWord (Char.ofNat n) = true := by
    decide +kernel
  have hbelow (hi : Char) (hle : codeOf c ≤ codeOf hi) (hhi : codeOf hi < 128) : c.toNat < 128 := by
    have hcode := toNat_eq_codeOf (Nat.lt_trans (Nat.lt_of_le_of_lt hle hhi) (by decide))
    exact hcode ▸ Nat.lt_of_le_of_lt hle hhi
  have hsmall : c.toNat < 128 := by
    simp only [nameStart, CharSet.union, CharSet.mem, CharSet.between, Bool.or_eq_true,
      Bool.and_eq_true, decide_eq_true_eq, beq_iff_eq] at h
    rcases h with ⟨-, hle⟩ | ⟨-, hle⟩ | rfl
    · exact hbelow 'Z' hle (by decide)
    · exact hbelow 'z' hle (by decide)
    · decide
  have hplain := hall c.toNat hsmall
  rw [Char.ofNat_toNat] at hplain
  exact hplain h

theorem listed_of_nameStart {c : Char} (h : nameStart.mem c = true) : listed.mem c = true := by
  simp [listed, CharSet.union, CharSet.mem, isWord_of_nameStart h]

/-- The names in a list are those of the text that start between its bounds: behind the last sign of
the list the letter belongs to it as well. -/
theorem nameAt_slice_iff {cs : List Char} {start stop j : Nat}
    (hlast : sees listed cs stop = false) :
    NameAt (slice cs start stop) j ↔ NameAt cs (start + j) ∧ start + j < stop := by
  have hplace (i : Nat) (hi : start + i < stop) : (slice cs start stop)[i]? = cs[start + i]? := by
    rw [slice_getElem?, if_pos hi]
  constructor
  · rintro ⟨hsign, hletter⟩
    have hlt : start + (j + 1) < stop := by
      by_contra hge
      rw [sees, slice_getElem?, if_neg hge] at hletter
      cases hletter
    rw [hplace j (by omega)] at hsign
    rw [sees, hplace (j + 1) hlt] at hletter
    exact ⟨⟨hsign, hletter⟩, by omega⟩
  · rintro ⟨⟨hsign, hletter⟩, hlt⟩
    have hnext : start + (j + 1) < stop := by
      refine Nat.lt_of_le_of_ne hlt fun hstop => ?_
      rw [← hstop, ← Nat.add_assoc, sees] at hlast
      rw [sees] at hletter
      cases hc : cs[start + j + 1]? with
      | none => simp [hc] at hletter
      | some c =>
        simp only [hc, Option.map_some, Option.getD_some] at hletter hlast
        rw [listed_of_nameStart hletter] at hlast
        cases hlast
    refine ⟨(hplace j hlt).trans hsign, ?_⟩
    rw [sees, hplace (j + 1) hnext]
    exact hletter

/-- The columns of the names in a list are those between its bounds. -/
theorem mem_listColumns {cs : List Char} {m : Match} (hm : m ∈ declaration.findAll cs) {pos : Nat}
    (hname : NameAt cs pos) :
    pos ∈ (variableName.findAll (m.group cs 1)).map (m.startOf 1 + ·.start) ↔
      ∃ start stop, m.bounds? 1 = some (start, stop) ∧ start ≤ pos ∧ pos < stop := by
  obtain ⟨start, hbounds, hlast⟩ := bounds?_declaration hm
  obtain ⟨hgroup, hfirst⟩ := group_of_bounds? hbounds cs
  rw [hgroup, hfirst, hbounds]
  constructor
  · intro hpos
    obtain ⟨v, hv, rfl⟩ := List.mem_map.mp hpos
    have hlisted := (nameAt_slice_iff hlast).mp
      (mem_starts_variableName.mp (List.mem_map_of_mem hv))
    exact ⟨_, _, rfl, Nat.le_add_right start v.start, hlisted.2⟩
  · rintro ⟨_, _, he, hstart, hstop⟩
    obtain ⟨rfl, rfl⟩ := Prod.mk.inj (Option.some.inj he)
    obtain ⟨j, rfl⟩ := Nat.exists_eq_add_of_le hstart
    obtain ⟨v, hv, rfl⟩ := List.mem_map.mp
      (mem_starts_variableName.mpr ((nameAt_slice_iff hlast).mpr ⟨hname, hstop⟩))
    exact List.mem_map_of_mem hv

/-- The columns of the targets that a pattern finds are where its variables start. -/
theorem mem_targetColumns {p : Pattern} {cs : List Char}
    (hp : ∀ m ∈ p.findAll cs, ∃ start stop, m.bounds? 1 = some (start, stop)) {pos : Nat} :
    pos ∈ (p.findAll cs).map (·.startOf 1) ↔
      ∃ m ∈ p.findAll cs, ∃ stop, m.bounds? 1 = some (pos, stop) := by
  rw [List.mem_map]
  refine exists_congr fun m => and_congr_right fun hm => ?_
  obtain ⟨start, stop, hbounds⟩ := hp m hm
  rw [(group_of_bounds? hbounds cs).2, hbounds]
  simp

/-- The columns that count as declarations are the offsets of names that are declared there. -/
theorem mem_declarationColumns {cs : List Char} {pos : Nat} (hname : NameAt cs pos) :
    pos ∈ declarationColumns cs ↔ Declares cs pos := by
  have hassigned : pos ∈ (assignment.findAll cs).map (·.startOf 1) ↔ _ :=
    mem_targetColumns fun _ => bounds?_assignment
  have hcounted : pos ∈ (loopVariable.findAll cs).map (·.startOf 1) ↔ _ :=
    mem_targetColumns fun _ => bounds?_loopVariable
  rw [declarationColumns, List.mem_append, List.mem_flatMap, List.flatMap_cons, List.flatMap_cons,
    List.flatMap_nil, List.append_nil, List.mem_append, hassigned, hcounted]
  constructor
  · rintro (⟨m, hm, hpos⟩ | ⟨m, hm, stop, hbounds⟩ | ⟨m, hm, stop, hbounds⟩)
    · obtain ⟨start, stop, hbounds, hstart, hstop⟩ := (mem_listColumns hm hname).mp hpos
      exact .listed hm hbounds hstart hstop
    · exact .assigned hm hbounds
    · exact .counted hm hbounds
  · rintro (⟨hm, hbounds, hstart, hstop⟩ | ⟨hm, hbounds⟩ | ⟨hm, hbounds⟩)
    · exact .inl ⟨_, hm, (mem_listColumns hm hname).mpr ⟨_, _, hbounds, hstart, hstop⟩⟩
    · exact .inr (.inl ⟨_, hm, _, hbounds⟩)
    · exact .inr (.inr ⟨_, hm, _, hbounds⟩)

end Ampscript

end CampaignCheck

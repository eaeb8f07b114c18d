import CampaignCheck.Proofs.Settings
import CampaignCheck.Rules.Build
import Mathlib.Computability.Primrec.List

namespace CampaignCheck

namespace Rule

variable {id : String} {v : Value} {vs : List Value} {fs : Fields}

def described? (v : Value) : Option Rule := (build v).toOption

def Names (v : Value) : Prop :=
  isAll v = true ∨ ∃ s d, dialectText v = .ok s ∧ Dialect.parse s = .ok d

/-- An element without a text, which does not count as false either. -/
def Textless (v : Value) : Prop :=
  v.isTruthy = true ∧ (∀ s, v ≠ .text s) ∧ ∀ bs, v ≠ .bytes bs

/-- A value at which the loading ends. -/
inductive Stops (v : Value) : Prop where
  | dialects {fs : Fields} {e : Misuse} (hfs : v.fields? = some fs)
      (hfield : (dialectsField fs).isTruthy = true)
      (helements : dialectElements (dialectsField fs) = .error e)
  | element {fs : Fields} {before after : List Value} {x : Value} (hfs : v.fields? = some fs)
      (hfield : (dialectsField fs).isTruthy = true)
      (helements : dialectElements (dialectsField fs) = .ok (before ++ x :: after))
      (hbefore : ∀ w ∈ before, Names w) (hx : Textless x)
  | key {fs : Fields} {elements : List Value} (hfs : v.fields? = some fs)
      (hfield : (dialectsField fs).isTruthy = true)
      (helements : dialectElements (dialectsField fs) = .ok elements)
      (hnames : ∀ w ∈ elements, Names w) (hkey : hasUnnamed v = true)
  | pattern {fs : Fields} {elements : List Value} (hfs : v.fields? = some fs)
      (hfield : (dialectsField fs).isTruthy = true)
      (helements : dialectElements (dialectsField fs) = .ok elements)
      (hnames : ∀ w ∈ elements, Names w)
      (hpattern : isOversized (fs.map fun f => (f.1, f.2.decoded)) = true)

theorem dialectText_eq_error_iff : (∃ e, dialectText v = .error e) ↔ Textless v := by
  cases v with
  | text s => simp [dialectText, Textless]
  | bytes bs => simp [dialectText, Textless]
  | _ =>
    simp only [dialectText, Textless]
    split_ifs with htruthy <;> simp [htruthy]

theorem not_isAll_of_textless (h : Textless v) : isAll v = false := by
  cases v with
  | text s => exact absurd rfl (h.2.1 s)
  | _ => rfl

theorem dialectsNamed_eq_ok_iff : (∃ ds, dialectsNamed id v = .ok ds) ↔ Names v := by
  unfold dialectsNamed Names
  by_cases hall : isAll v = true
  · simp [hall]
  · rw [if_neg hall]
    cases htext : dialectText v with
    | error e => simp [hall]
    | ok s => cases hparse : Dialect.parse s <;> simp [hall, hparse]

theorem dialectsNamed_eq_misuse_iff :
    (∃ e, dialectsNamed id v = .error (.misuse e)) ↔ Textless v := by
  rw [← dialectText_eq_error_iff]
  unfold dialectsNamed
  by_cases hall : isAll v = true
  · have hnot : ¬ ∃ e, dialectText v = .error e := by
      rw [dialectText_eq_error_iff]
      intro htextless
      rw [not_isAll_of_textless htextless] at hall
      cases hall
    simp [hall, hnot]
  · rw [if_neg hall]
    cases htext : dialectText v with
    | error e => simp
    | ok s =>
      cases hparse : Dialect.parse s <;> simp only [hparse] <;> simp

theorem dialectsOf_eq_ok (h : ∀ v ∈ vs, Names v) : ∃ ds, dialectsOf id vs = .ok ds := by
  induction vs with
  | nil => exact ⟨[], rfl⟩
  | cons v vs ih =>
    obtain ⟨ds, hds⟩ := (@dialectsNamed_eq_ok_iff id _).mpr (h v List.mem_cons_self)
    obtain ⟨more, hmore⟩ := ih fun w hw => h w (List.mem_cons_of_mem _ hw)
    exact ⟨ds ++ more, by rw [dialectsOf, hds, hmore]; rfl⟩

theorem names_of_dialectsOf {ds : List Dialect} (h : dialectsOf id vs = .ok ds) :
    ∀ v ∈ vs, Names v := by
  induction vs generalizing ds with
  | nil => simp
  | cons v vs ih =>
    obtain ⟨first, hfirst, h⟩ := eq_ok_of_bind h
    obtain ⟨more, hmore, -⟩ := eq_ok_of_bind h
    intro w hw
    rcases List.mem_cons.mp hw with rfl | hw
    · exact dialectsNamed_eq_ok_iff.mp ⟨first, hfirst⟩
    · exact ih hmore w hw

/-- The first element that names nothing decides how the dialects are rejected. -/
theorem dialectsOf_eq_misuse_iff : (∃ e, dialectsOf id vs = .error (.misuse e)) ↔
    ∃ before x after, vs = before ++ x :: after ∧ (∀ w ∈ before, Names w) ∧ Textless x := by
  constructor
  · rintro ⟨e, h⟩
    induction vs with
    | nil => cases h
    | cons v vs ih =>
      rcases eq_error_of_bind h with h | ⟨first, hfirst, h⟩
      · exact ⟨[], v, vs, rfl, by simp, dialectsNamed_eq_misuse_iff.mp ⟨e, h⟩⟩
      · rcases eq_error_of_bind h with h | ⟨more, -, h⟩
        · obtain ⟨before, x, after, rfl, hbefore, hx⟩ := ih h
          refine ⟨v :: before, x, after, rfl, ?_, hx⟩
          intro w hw
          rcases List.mem_cons.mp hw with rfl | hw
          · exact dialectsNamed_eq_ok_iff.mp ⟨first, hfirst⟩
          · exact hbefore w hw
        · cases h
  · rintro ⟨before, x, after, rfl, hbefore, hx⟩
    induction before with
    | nil =>
      obtain ⟨e, he⟩ := (@dialectsNamed_eq_misuse_iff id _).mpr hx
      exact ⟨e, by rw [List.nil_append, dialectsOf, he]; rfl⟩
    | cons v before ih =>
      obtain ⟨ds, hds⟩ := (@dialectsNamed_eq_ok_iff id _).mpr (hbefore v List.mem_cons_self)
      obtain ⟨e, he⟩ := ih fun w hw => hbefore w (List.mem_cons_of_mem _ hw)
      exact ⟨e, by rw [List.cons_append, dialectsOf, hds, he]; rfl⟩

theorem dialectsOf_eq_misuse {before after : List Value} {x : Value}
    (hbefore : ∀ w ∈ before, Names w) (hx : Textless x) :
    ∃ e, dialectsOf id (before ++ x :: after) = .error (.misuse e) :=
  dialectsOf_eq_misuse_iff.mpr ⟨before, x, after, rfl, hbefore, hx⟩

/-- What is done once the elements that should name dialects are known. -/
def finish (v : Value) (fs : Fields) (elements : List Value) : Except BuildError Rule := do
  let id := ((Fields.get? fs "id").getD .null).quoted
  let ds ← dialectsOf id elements
  if hasUnnamed v then .error (.misuse .unnamedField)
  else match check (.ok (Dialect.gather ds)) (fs.map fun f => (f.1, f.2.decoded)) with
    | .ok (.ok r) => return r
    | .ok (.faults faults) => .error (.rule (.invalid id faults))
    | .error e => .error (.misuse e)

theorem build_of_none (hfs : v.fields? = none) : build v = .error (.rule (.notMapping v.kind)) := by
  simp only [build, hfs]

theorem build_of_elements (hfs : v.fields? = some fs)
    (hfield : (dialectsField fs).isTruthy = true)
    (helements : dialectElements (dialectsField fs) = .ok vs) : build v = finish v fs vs := by
  simp only [build, hfs, hfield, helements]
  rfl

theorem build_of_no_elements {e : Misuse} (hfs : v.fields? = some fs)
    (hfield : (dialectsField fs).isTruthy = true)
    (helements : dialectElements (dialectsField fs) = .error e) : build v = .error (.misuse e) := by
  simp only [build, hfs, hfield, helements]
  rfl

theorem build_of_no_dialects (hfs : v.fields? = some fs)
    (hfield : (dialectsField fs).isTruthy = false) :
    build v = .error (.rule (.noDialects ((Fields.get? fs "id").getD .null).quoted)) := by
  simp only [build, hfs, hfield]
  rfl

theorem finish_eq_misuse_iff : (∃ e, finish v fs vs = .error (.misuse e)) ↔
    (∃ before x after, vs = before ++ x :: after ∧ (∀ w ∈ before, Names w) ∧ Textless x) ∨
    ((∀ w ∈ vs, Names w) ∧
      (hasUnnamed v = true ∨ isOversized (fs.map fun f => (f.1, f.2.decoded)) = true)) := by
  constructor
  · rintro ⟨e, h⟩
    rcases eq_error_of_bind h with h | ⟨ds, hds, h⟩
    · exact .inl (dialectsOf_eq_misuse_iff.mp ⟨e, h⟩)
    · refine .inr ⟨names_of_dialectsOf hds, ?_⟩
      by_cases hkey : hasUnnamed v = true
      · exact .inl hkey
      · rw [if_neg hkey] at h
        by_cases hpattern : isOversized (fs.map fun f => (f.1, f.2.decoded)) = true
        · exact .inr hpattern
        · rw [check, if_neg hpattern] at h
          split at h
          · cases h
          · cases h
          · next hcheck => cases hcheck
  · rintro (⟨before, x, after, rfl, hbefore, hx⟩ | ⟨hnames, hrest⟩)
    · obtain ⟨e, he⟩ := dialectsOf_eq_misuse hbefore hx
      exact ⟨e, by rw [finish, he]; rfl⟩
    · obtain ⟨ds, hds⟩ := dialectsOf_eq_ok hnames
      rw [finish, hds]
      by_cases hkey : hasUnnamed v = true
      · exact ⟨.unnamedField, if_pos hkey⟩
      · have hpattern := hrest.resolve_left hkey
        refine ⟨.oversizedRepetition, ?_⟩
        change (if hasUnnamed v = true then _ else _) = _
        rw [if_neg hkey, check, if_pos hpattern]

/-- The ways in which no rule is built although nothing is told to be wrong with it. -/
theorem build_eq_misuse_iff : (∃ e, build v = .error (.misuse e)) ↔ Stops v := by
  constructor
  · rintro ⟨e, h⟩
    cases hfs : v.fields? with
    | none =>
      rw [build_of_none hfs] at h
      cases h
    | some fs =>
      cases hfield : (dialectsField fs).isTruthy with
      | false =>
        rw [build_of_no_dialects hfs hfield] at h
        cases h
      | true =>
        cases helements : dialectElements (dialectsField fs) with
        | error e' => exact .dialects hfs hfield helements
        | ok vs =>
          rw [build_of_elements hfs hfield helements] at h
          rcases finish_eq_misuse_iff.mp ⟨e, h⟩ with
            ⟨before, x, after, rfl, hbefore, hx⟩ | ⟨hnames, hkey | hpattern⟩
          · exact .element hfs hfield helements hbefore hx
          · exact .key hfs hfield helements hnames hkey
          · exact .pattern hfs hfield helements hnames hpattern
  · intro h
    cases h with
    | dialects hfs hfield helements => exact ⟨_, build_of_no_elements hfs hfield helements⟩
    | element hfs hfield helements hbefore hx =>
      rw [build_of_elements hfs hfield helements]
      exact finish_eq_misuse_iff.mpr (.inl ⟨_, _, _, rfl, hbefore, hx⟩)
    | key hfs hfield helements hnames hkey =>
      rw [build_of_elements hfs hfield helements]
      exact finish_eq_misuse_iff.mpr (.inr ⟨hnames, .inl hkey⟩)
    | pattern hfs hfield helements hnames hpattern =>
      rw [build_of_elements hfs hfield helements]
      exact finish_eq_misuse_iff.mpr (.inr ⟨hnames, .inr hpattern⟩)

end Rule

namespace RuleTable

open Rule

/-- The table with the rules among some values added. -/
def withDescribed (t : RuleTable) (vs : List Value) : RuleTable :=
  (vs.filterMap described?).foldl add t

/-- One value: it adds its rule, it adds nothing, or the loading ends. -/
theorem loadList_cons (t : RuleTable) (v : Value) (vs : List Value) :
    (∃ r, described? v = some r ∧ t.loadList (v :: vs) =
      (((t.add r).loadList vs).1, ((t.add r).loadList vs).2.map (· + 1))) ∨
    (described? v = none ∧ ¬ Stops v ∧ t.loadList (v :: vs) = t.loadList vs) ∨
    ∃ e, Stops v ∧ build v = .error (.misuse e) ∧ t.loadList (v :: vs) = (t, .error e) := by
  cases hbuild : build v with
  | ok r =>
    refine .inl ⟨r, ?_, ?_⟩
    · rw [described?, hbuild]
      rfl
    · simp only [loadList, hbuild]
  | error err =>
    cases err with
    | rule e =>
      refine .inr (.inl ⟨?_, ?_, ?_⟩)
      · rw [described?, hbuild]
        rfl
      · intro hstops
        obtain ⟨e', he'⟩ := build_eq_misuse_iff.mpr hstops
        rw [hbuild] at he'
        cases he'
      · simp only [loadList, hbuild]
    | misuse e =>
      refine .inr (.inr ⟨e, build_eq_misuse_iff.mp ⟨e, hbuild⟩, rfl, ?_⟩)
      simp only [loadList, hbuild]

theorem withDescribed_cons_of_some {t : RuleTable} {v : Value} {vs : List Value} {r : Rule}
    (h : described? v = some r) : t.withDescribed (v :: vs) = (t.add r).withDescribed vs := by
  simp only [withDescribed, List.filterMap_cons, h, List.foldl_cons]

theorem withDescribed_cons_of_none {t : RuleTable} {v : Value} {vs : List Value}
    (h : described? v = none) : t.withDescribed (v :: vs) = t.withDescribed vs := by
  simp only [withDescribed, List.filterMap_cons, h]

/-- Where no value stops the loading, all of them are gone through. -/
theorem loadList_of_none_stops (t : RuleTable) {vs : List Value} (h : ∀ v ∈ vs, ¬ Stops v) :
    t.loadList vs = (t.withDescribed vs, .ok (vs.filterMap described?).length) := by
  induction vs generalizing t with
  | nil => rfl
  | cons v vs ih =>
    have hvs : ∀ w ∈ vs, ¬ Stops w := fun w hw => h w (List.mem_cons_of_mem _ hw)
    rcases loadList_cons t v vs with ⟨r, hr, hload⟩ | ⟨hnone, -, hload⟩ | ⟨e, hstops, -, -⟩
    · rw [hload, ih (t.add r) hvs, withDescribed_cons_of_some hr, List.filterMap_cons, hr]
      rfl
    · rw [hload, ih t hvs, withDescribed_cons_of_none hnone, List.filterMap_cons, hnone]
    · exact absurd hstops (h v List.mem_cons_self)

theorem loadList_of_stops (t : RuleTable) {before after : List Value} {v : Value} {e : Misuse}
    (h : ∀ w ∈ before, ¬ Stops w) (hv : build v = .error (.misuse e)) :
    t.loadList (before ++ v :: after) = (t.withDescribed before, .error e) := by
  induction before generalizing t with
  | nil => simp only [List.nil_append, loadList, hv, withDescribed, List.filterMap_nil,
      List.foldl_nil]
  | cons w before ih =>
    have hbefore : ∀ w ∈ before, ¬ Stops w := fun w hw => h w (List.mem_cons_of_mem _ hw)
    rcases loadList_cons t w (before ++ v :: after) with
      ⟨r, hr, hload⟩ | ⟨hnone, -, hload⟩ | ⟨e', hstops, -, -⟩
    · rw [List.cons_append, hload, ih (t.add r) hbefore, withDescribed_cons_of_some hr]
      rfl
    · rw [List.cons_append, hload, ih t hbefore, withDescribed_cons_of_none hnone]
    · exact absurd hstops (h w List.mem_cons_self)

theorem exists_first_stop (vs : List Value) : (∀ v ∈ vs, ¬ Stops v) ∨
    ∃ before v after, vs = before ++ v :: after ∧ (∀ w ∈ before, ¬ Stops w) ∧ Stops v := by
  induction vs with
  | nil => exact .inl (by simp)
  | cons v vs ih =>
    by_cases hv : Stops v
    · exact .inr ⟨[], v, vs, rfl, by simp, hv⟩
    · rcases ih with h | ⟨before, x, after, rfl, hbefore, hx⟩
      · exact .inl (List.forall_mem_cons.mpr ⟨hv, h⟩)
      · exact .inr ⟨v :: before, x, after, rfl, List.forall_mem_cons.mpr ⟨hv, hbefore⟩, hx⟩

/-- Loading a list of values, for every table: if none of them stops the loading, the table is the
one with the rules that they describe added in their order, and the number is that of these rules,
so that all other values add nothing and hinder none. Otherwise the first value that stops it ends
the loading with what is wrong with the use of this value, and only the rules before it are
added. -/
theorem load_passes_over (t : RuleTable) (vs : List Value) :
    (∀ v, (∃ e, build v = .error (.misuse e)) ↔ Stops v) ∧
    (((∀ v ∈ vs, ¬ Stops v) ∧
        t.load (.list vs) = (t.withDescribed vs, .ok (vs.filterMap described?).length)) ∨
      ∃ before v after e, vs = before ++ v :: after ∧ (∀ w ∈ before, ¬ Stops w) ∧ Stops v ∧
        build v = .error (.misuse e) ∧
        t.load (.list vs) = (t.withDescribed before, .error e)) := by
  refine ⟨fun _ => build_eq_misuse_iff, ?_⟩
  change (_ ∧ t.loadList vs = _) ∨ ∃ before v after e, _ ∧ _ ∧ _ ∧ _ ∧ t.loadList vs = _
  rcases exists_first_stop vs with h | ⟨before, v, after, rfl, hbefore, hv⟩
  · exact .inl ⟨h, loadList_of_none_stops t h⟩
  · obtain ⟨e, he⟩ := build_eq_misuse_iff.mpr hv
    exact .inr ⟨before, v, after, e, rfl, hbefore, hv, he, loadList_of_stops t hbefore he⟩

/-- A number where the dialects should be keeps the rule after it from being added. -/
theorem load_stopped_by_number :
    let entry (id : String) (dialects : Value) : Value := .object
      [("id", .text id), ("name", .text "N"), ("category", .text "naming"),
        ("severity", .text "info"), ("pattern", .text "foo"), ("message", .text "M"),
        ("dialects", dialects)]
    let bad := entry "bad" (.int 5)
    let good := entry "good" (.list [.text "sql"])
    (described? bad = none ∧ ((described? good).map (·.id)) = some "good") ∧
    RuleTable.load {} (.list [bad, good]) = ({}, .error (.notIterable "int")) := by
  intro entry bad good
  exact ⟨⟨by cbv, by decide +kernel⟩, by cbv⟩

end RuleTable

end CampaignCheck

import CampaignCheck.Proofs.Schema.Reading
import CampaignCheck.Settings
import Mathlib.Tactic.SplitIfs
import Mathlib.Control.Monad.Basic

namespace CampaignCheck

theorem Fields.get?_put (fs : Fields) (k : String) (v : Value) : (fs.put k v).get? k = some v := by
  induction fs with
  | nil => exact List.lookup_cons_self
  | cons f fs ih =>
    obtain ⟨k', v'⟩ := f
    unfold Fields.put
    split_ifs with hk
    · exact List.lookup_cons_self
    · have hne : (k == k') = false := by simpa using Ne.symm hk
      unfold Fields.get? at ih ⊢
      rw [List.lookup_cons, hne]
      exact ih

theorem eq_ok_of_bind {ε α β : Type} {x : Except ε α} {f : α → Except ε β} {b : β}
    (h : x >>= f = .ok b) : ∃ a, x = .ok a ∧ f a = .ok b := by
  cases x with
  | error e => cases h
  | ok a => exact ⟨a, rfl, h⟩

theorem eq_error_of_bind {ε α β : Type} {x : Except ε α} {f : α → Except ε β} {e : ε}
    (h : x >>= f = .error e) : x = .error e ∨ ∃ a, x = .ok a ∧ f a = .error e := by
  cases x with
  | error e' =>
    obtain rfl := Except.error.inj h
    exact .inl rfl
  | ok a => exact .inr ⟨a, rfl, h⟩

/-- An update that was read waits for a pause, if it says anything about that. -/
theorem LiveConfigUpdate.pos_of_ofFields {fs : Fields} {u : LiveConfigUpdate}
    (h : LiveConfigUpdate.ofFields fs = .ok u) {n : Nat} (hn : u.debounce = some n) : 0 < n := by
  rw [Schema.Checked.eq_ok_iff] at h
  simp only [LiveConfigUpdate.ofFields, Schema.Checked.exists_map_ok,
    Schema.Checked.exists_seq_ok] at h
  obtain ⟨debounce, hread, _, -, _, -, _, -, rfl⟩ := h
  obtain rfl : debounce = some n := hn
  rcases Schema.read_of_withDefault hread with hnone | ⟨v, -, hv⟩
  · cases hnone
  · exact Schema.pos_of_positive (Schema.read_of_maybe hv)

theorem LiveConfig.debounce_update_pos {c : LiveConfig} (hc : 0 < c.debounce) {fs : Fields}
    {u : LiveConfigUpdate} (h : LiveConfigUpdate.ofFields fs = .ok u) :
    0 < (c.update u).debounce := by
  unfold LiveConfig.update
  cases hu : u.debounce with
  | none => exact hc
  | some n => exact LiveConfigUpdate.pos_of_ofFields h hu

/-- Settings that take other switches are an object, and hold them then. -/
theorem Settings.held_of_withLive {s t : Settings} {c : LiveConfig} (h : s.withLive c = .ok t) :
    (∃ fs, t.data = .object fs) ∧ t.part "analysis" = .ok c.toValue := by
  unfold Settings.withLive at h
  split at h
  · next fs hdata =>
    obtain rfl := Except.ok.inj h
    refine ⟨⟨_, rfl⟩, ?_⟩
    change Except.ok ((Fields.get? (Fields.put fs "analysis" c.toValue) "analysis").getD _) = _
    rw [Fields.get?_put]
    rfl
  · cases h
  · cases h

theorem Settings.ne_object_of_withLive {s : Settings} {c : LiveConfig} {e : Misuse}
    (h : s.withLive c = .error e) (fs : Fields) : s.data ≠ .object fs := by
  intro hdata
  rw [Settings.withLive, hdata] at h
  cases h

theorem SettingsStore.write_write (store : SettingsStore) (s : Settings) :
    (store.write s).write s = store.write s := by
  obtain ⟨file, writable⟩ := store
  cases writable with
  | false => rfl
  | true => cases file <;> rfl

theorem Environment.positive?_pos {env : Environment} {name : String} {n : Int}
    (h : env.positive? name = some n) : 0 < n := by
  obtain ⟨_, -, hread⟩ := Option.bind_eq_some_iff.mp h
  obtain ⟨m, -, hm⟩ := Option.bind_eq_some_iff.mp hread
  split_ifs at hm with hpos
  obtain rfl := Option.some.inj hm
  exact hpos

theorem Settings.millis_debounce {s : Settings} {env : Environment} {v : Value}
    (h : s.debounce env = .ok v) : 0 < millis v := by
  have hint {n : Int} (hn : 0 < n) : 0 < millis (.int n) := by
    simp only [millis]
    omega
  unfold Settings.debounce at h
  split at h
  · next n hn =>
    obtain rfl := Except.ok.inj h
    exact hint (Environment.positive?_pos hn)
  · obtain ⟨held, -, hv⟩ := eq_ok_of_bind h
    obtain rfl := Except.ok.inj hv
    split
    · split_ifs with hpos
      · exact hint hpos
      · decide
    · decide
    · decide

/-- The switches that the environment and a file give leave some time to wait for a pause. -/
theorem Settings.debounce_live_pos {s : Settings} {env : Environment} {c : LiveConfig}
    (h : s.live env = .ok c) : 0 < c.debounce := by
  obtain ⟨v, hv, h⟩ := eq_ok_of_bind h
  obtain ⟨_, -, h⟩ := eq_ok_of_bind h
  obtain ⟨_, -, h⟩ := eq_ok_of_bind h
  obtain ⟨_, -, h⟩ := eq_ok_of_bind h
  obtain rfl := Except.ok.inj h
  exact Settings.millis_debounce hv

/-- The environment sets every switch of live analysis. -/
structure Environment.Complete (env : Environment) : Prop where
  debounce : (env.positive? "ANALYSIS_DEBOUNCE_MS").isSome
  validation : (env.switch? "ENABLE_LIVE_VALIDATION").isSome
  metrics : (env.switch? "ENABLE_PERFORMANCE_METRICS").isSome
  bestPractices : (env.switch? "ENABLE_BEST_PRACTICES").isSome

namespace Settings

/-- The milliseconds that a value of the settings gives: a number above zero, where the word for
true is one. -/
def millis? : Value → Option Nat
  | .int n => if 0 < n then some n.toNat else none
  | .bool true => some 1
  | _ => none

/-- A switch as it is said in the environment, or else in a section, where anything but nothing,
zero and what is empty switches on. -/
def chosenFlag (env : Environment) (held : Fields) (name field : String) : Bool :=
  ((env.switch? name).or ((held.get? field).map Value.isTruthy)).getD true

/-- The switches as they are said in the environment, or else in a section, or else by default. -/
def chosen (env : Environment) (held : Fields) : LiveConfig where
  debounce := (((env.positive? "ANALYSIS_DEBOUNCE_MS").map Int.toNat).or
    ((held.get? "debounce_ms").bind millis?)).getD 300
  validation := chosenFlag env held "ENABLE_LIVE_VALIDATION" "enable_live_validation"
  metrics := chosenFlag env held "ENABLE_PERFORMANCE_METRICS" "enable_performance_metrics"
  bestPractices := chosenFlag env held "ENABLE_BEST_PRACTICES" "enable_best_practices"

/-- The section for the analysis, empty where there is none; nothing if it or the settings as a
whole are no object. -/
def section? (s : Settings) : Option Fields :=
  s.data.fields?.bind fun fs => ((fs.get? "analysis").getD (.object [])).fields?

variable {s : Settings} {env : Environment} {held : Fields}

theorem fields_eq_ok {v : Value} {fs : Fields} (h : v.fields? = some fs) : v.fields = .ok fs := by
  rw [Value.fields, h]

theorem fields_eq_error {v : Value} (h : v.fields? = none) :
    v.fields = .error (.lacks v.kind "get") := by
  rw [Value.fields, h]

theorem inSection_of_section (h : s.section? = some held) (field : String) :
    s.inSection "analysis" field = .ok (held.get? field) := by
  obtain ⟨fs, hdata, hheld⟩ := Option.bind_eq_some_iff.mp h
  rw [inSection, part, fields_eq_ok hdata]
  change (do let held ← Value.fields _; _) = _
  rw [fields_eq_ok hheld]
  rfl

/-- Without the section every look into it fails, and always in the same way. -/
theorem inSection_of_no_section (h : s.section? = none) :
    ∃ kind, ∀ field, s.inSection "analysis" field = .error (.lacks kind "get") := by
  cases hdata : s.data.fields? with
  | none =>
    refine ⟨s.data.kind, fun field => ?_⟩
    rw [inSection, part, fields_eq_error hdata]
    rfl
  | some fs =>
    have hheld : ((fs.get? "analysis").getD (.object [])).fields? = none := by
      simpa only [section?, hdata, Option.bind_some] using h
    refine ⟨((fs.get? "analysis").getD (.object [])).kind, fun field => ?_⟩
    rw [inSection, part, fields_eq_ok hdata]
    change (do let held ← Value.fields _; _) = _
    rw [fields_eq_error hheld]
    rfl

theorem flag_of_switch {name : String} {b : Bool} (h : env.switch? name = some b)
    (field : String) : s.flag env name field = .ok b := by
  rw [flag, h]

theorem chosenFlag_of_switch {name : String} {b : Bool} (h : env.switch? name = some b)
    (field : String) : chosenFlag env held name field = b := by
  rw [chosenFlag, h]
  rfl

theorem flag_of_section (h : s.section? = some held) (name field : String) :
    s.flag env name field = .ok (chosenFlag env held name field) := by
  cases hsaid : env.switch? name with
  | some b => rw [flag_of_switch hsaid, chosenFlag_of_switch hsaid]
  | none =>
    rw [flag, chosenFlag, hsaid]
    simp only [inSection_of_section h]
    cases held.get? field <;> rfl

/-- The wait that is read from a value of the section, or from no value. -/
theorem millis_held (x : Option Value) :
    millis (match x with
      | some (.int n) => if 0 < n then .int n else .int 300
      | some (.bool true) => .bool true
      | _ => .int 300) = (x.bind millis?).getD 300 := by
  cases x with
  | none => rfl
  | some v =>
    cases v with
    | int n =>
      simp only [Option.bind_some, millis?]
      split_ifs <;> rfl
    | bool b => cases b <;> rfl
    | _ => rfl

theorem debounce_of_positive {n : Int} (h : env.positive? "ANALYSIS_DEBOUNCE_MS" = some n) :
    s.debounce env = .ok (.int n) := by
  rw [debounce, h]

theorem millis_of_positive {n : Int} (h : env.positive? "ANALYSIS_DEBOUNCE_MS" = some n) :
    millis (.int n) = (chosen env held).debounce := by
  rw [chosen, h]
  rfl

theorem debounce_of_section (h : s.section? = some held) :
    ∃ v, s.debounce env = .ok v ∧ millis v = (chosen env held).debounce := by
  cases hsaid : env.positive? "ANALYSIS_DEBOUNCE_MS" with
  | some n => exact ⟨_, debounce_of_positive hsaid, millis_of_positive hsaid⟩
  | none =>
    rw [debounce, chosen, hsaid]
    simp only [inSection_of_section h]
    exact ⟨_, rfl, millis_held _⟩

/-- The switches are put together from their parts. -/
theorem live_eq_chosen (hdebounce : ∃ v, s.debounce env = .ok v ∧
      millis v = (chosen env held).debounce)
    (hvalidation : s.validation env = .ok (chosen env held).validation)
    (hmetrics : s.metrics env = .ok (chosen env held).metrics)
    (hbest : s.bestPractices env = .ok (chosen env held).bestPractices) :
    s.live env = .ok (chosen env held) := by
  obtain ⟨v, hv, hmillis⟩ := hdebounce
  rw [live, hv, hvalidation, hmetrics, hbest]
  change Except.ok (LiveConfig.mk (millis v) _ _ _) = _
  rw [hmillis]

theorem live_of_section (h : s.section? = some held) : s.live env = .ok (chosen env held) :=
  live_eq_chosen (debounce_of_section h) (flag_of_section h _ _) (flag_of_section h _ _)
    (flag_of_section h _ _)

/-- Where the environment sets everything nobody looks into the file. -/
theorem live_of_complete (h : env.Complete) : s.live env = .ok (chosen env held) := by
  obtain ⟨n, hn⟩ := Option.isSome_iff_exists.mp h.debounce
  obtain ⟨_, hvalidation⟩ := Option.isSome_iff_exists.mp h.validation
  obtain ⟨_, hmetrics⟩ := Option.isSome_iff_exists.mp h.metrics
  obtain ⟨_, hbest⟩ := Option.isSome_iff_exists.mp h.bestPractices
  have hflag {name : String} {b : Bool} (hb : env.switch? name = some b) (field : String) :
      s.flag env name field = .ok (chosenFlag env held name field) := by
    rw [flag_of_switch hb, chosenFlag_of_switch hb]
  exact live_eq_chosen ⟨_, debounce_of_positive hn, millis_of_positive hn⟩ (hflag hvalidation _)
    (hflag hmetrics _) (hflag hbest _)

theorem flag_of_no_section {kind name : String}
    (h : ∀ field, s.inSection "analysis" field = .error (.lacks kind "get"))
    (hsaid : env.switch? name = none) (field : String) :
    s.flag env name field = .error (.lacks kind "get") := by
  rw [flag, hsaid]
  simp only [h]
  rfl

/-- The first switch that the environment leaves open is looked for in the file. -/
theorem live_of_no_section (h : s.section? = none) (hopen : ¬ env.Complete) :
    ∃ kind, s.live env = .error (.lacks kind "get") := by
  obtain ⟨kind, hlook⟩ := inSection_of_no_section h
  refine ⟨kind, ?_⟩
  cases hdebounce : env.positive? "ANALYSIS_DEBOUNCE_MS" with
  | none =>
    rw [live, debounce, hdebounce]
    simp only [hlook]
    rfl
  | some n =>
    rw [live, debounce_of_positive hdebounce]
    cases hvalidation : env.switch? "ENABLE_LIVE_VALIDATION" with
    | none =>
      rw [validation, flag_of_no_section hlook hvalidation]
      rfl
    | some _ =>
      rw [validation, flag_of_switch hvalidation]
      cases hmetrics : env.switch? "ENABLE_PERFORMANCE_METRICS" with
      | none =>
        rw [metrics, flag_of_no_section hlook hmetrics]
        rfl
      | some _ =>
        rw [metrics, flag_of_switch hmetrics]
        cases hbest : env.switch? "ENABLE_BEST_PRACTICES" with
        | none =>
          rw [bestPractices, flag_of_no_section hlook hbest]
          rfl
        | some _ =>
          refine absurd ⟨?_, ?_, ?_, ?_⟩ hopen <;>
            simp only [hdebounce, hvalidation, hmetrics, hbest, Option.isSome_some]

theorem section?_eq_none_iff : s.section? = none ↔ s.data.fields? = none ∨
    ∃ fs v, s.data.fields? = some fs ∧ fs.get? "analysis" = some v ∧ v.fields? = none := by
  rw [section?]
  cases hdata : s.data.fields? with
  | none => simp
  | some fs =>
    cases hheld : fs.get? "analysis" with
    | none => simp [hheld, Value.fields?]
    | some v => simp [hheld]

theorem section?_default : default.section? = some (LiveConfig.fields {}) := rfl

theorem load_of_unreadable {file : SettingsFile}
    (h : ∀ text, file = .holds text → Json.read? text = none) : load file = default := by
  cases file with
  | missing => rfl
  | unusable => rfl
  | holds text => rw [load, h text rfl]; rfl

/-- The settings without a file say what holds by default. -/
theorem live_default (env : Environment) : default.live env = .ok (chosen env []) := by
  have hflag (name : String) {field : String}
      (hfield : Fields.get? (LiveConfig.fields {}) field = some (.bool true)) :
      chosenFlag env (LiveConfig.fields {}) name field = chosenFlag env [] name field := by
    rw [chosenFlag, chosenFlag, hfield]
    cases env.switch? name <;> rfl
  have hchosen : chosen env (LiveConfig.fields {}) = chosen env [] := by
    rw [chosen, chosen, hflag _ rfl, hflag _ rfl, hflag _ rfl]
    cases env.positive? "ANALYSIS_DEBOUNCE_MS" <;> rfl
  rw [live_of_section section?_default, hchosen]

/-- The section is missed just in a file that can be read, but holds something else than an object,
or something else than an object as the section. -/
theorem section?_load_eq_none_iff (file : SettingsFile) :
    (load file).section? = none ↔ ∃ text v, file = .holds text ∧ Json.read? text = some v ∧
      (v.fields? = none ∨ ∃ fs w, v.fields? = some fs ∧ fs.get? "analysis" = some w ∧
        w.fields? = none) := by
  constructor
  · intro h
    cases file with
    | missing => cases h
    | unusable => cases h
    | holds text =>
      cases hread : Json.read? text with
      | none => rw [load, hread] at h; cases h
      | some v =>
        rw [load, hread] at h
        exact ⟨text, v, rfl, hread, section?_eq_none_iff.mp h⟩
  · rintro ⟨text, v, rfl, hread, hv⟩
    rw [load, hread]
    exact section?_eq_none_iff.mpr hv

/-- Either the section is there or not needed, or the first look into it fails. -/
theorem live_cases (s : Settings) (env : Environment) :
    ((s.section? ≠ none ∨ env.Complete) ∧ s.live env = .ok (chosen env (s.section?.getD []))) ∨
    (¬ (s.section? ≠ none ∨ env.Complete) ∧ ∃ kind, s.live env = .error (.lacks kind "get")) := by
  cases hsection : s.section? with
  | some held => exact .inl ⟨.inl (by simp), live_of_section hsection⟩
  | none =>
    by_cases hcomplete : env.Complete
    · exact .inl ⟨.inr hcomplete, live_of_complete hcomplete⟩
    · exact .inr ⟨by simp [hcomplete], live_of_no_section hsection hcomplete⟩

/-- The switches of live analysis, for every environment and every settings file. A file that is
missing or cannot be read leaves the environment and the defaults. There are switches unless the
file can be read, misses the section and is needed, as the environment does not set them all; then
the section is used as the object that it is not. The switches are those of the environment where it
says something valid, those of the file where it does, and those by default, and they leave some
time to wait for a pause. -/
theorem live_settled (file : SettingsFile) (env : Environment) :
    let s := load file
    ((∀ text, file = .holds text → Json.read? text = none) → s.live env = .ok (chosen env [])) ∧
    (s.section? = none ↔ ∃ text v, file = .holds text ∧ Json.read? text = some v ∧
      (v.fields? = none ∨ ∃ fs w, v.fields? = some fs ∧ fs.get? "analysis" = some w ∧
        w.fields? = none)) ∧
    ((∃ c, s.live env = .ok c) ↔ s.section? ≠ none ∨ env.Complete) ∧
    (∀ c, s.live env = .ok c → c = chosen env (s.section?.getD []) ∧ 0 < c.debounce) ∧
    ∀ e, s.live env = .error e → ∃ kind, e = .lacks kind "get" := by
  intro s
  refine ⟨fun h => ?_, section?_load_eq_none_iff file, ?_⟩
  · rw [show s = default from load_of_unreadable h]
    exact live_default env
  · rcases live_cases s env with ⟨hgiven, hlive⟩ | ⟨hmissed, kind, hlive⟩
    · refine ⟨iff_of_true ⟨_, hlive⟩ hgiven, fun c hc => ⟨?_, debounce_live_pos hc⟩, fun e he => ?_⟩
      · exact Except.ok.inj (hc.symm.trans hlive)
      · cases hlive.symm.trans he
    · refine ⟨iff_of_false (fun ⟨c, hc⟩ => ?_) hmissed, fun c hc => ?_, fun e he => ⟨kind, ?_⟩⟩
      · cases hlive.symm.trans hc
      · cases hlive.symm.trans hc
      · exact (Except.error.inj (hlive.symm.trans he)).symm

theorem live_settled_mixed :
    let file := SettingsFile.holds ("\x7b\"analysis\": \x7b\"debounce_ms\": \"120\", " ++
      "\"enable_best_practices\": \"\"\x7d\x7d")
    let env := [("ENABLE_LIVE_VALIDATION", " Off ")]
    let c : LiveConfig := ⟨300, false, true, false⟩
    (load file).live env = .ok c ∧ 0 < c.debounce := by
  intro file env c
  have hlive : (load file).live env = .ok c := by decide +kernel
  exact ⟨hlive, ((live_settled file env).2.2.2.1 c hlive).2⟩

/-- Nothing in the place of the section is asked for its fields. -/
theorem live_of_null_section :
    (load (.holds "\x7b\"analysis\": null\x7d")).live [] = .error (.lacks "NoneType" "get") := by
  decide +kernel

end Settings

end CampaignCheck

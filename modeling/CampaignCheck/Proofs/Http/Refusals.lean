import CampaignCheck.Http.Service
import CampaignCheck.Proofs.Live.Attendance
import CampaignCheck.Proofs.Settings

namespace CampaignCheck

namespace Live.World

variable {w : World}

theorem diagnoseNow_world (h : w.AtRest) (hdelay : (w.conditions .validate).delay = 0)
    (dialect : String) (code : List Char) : (w.diagnoseNow dialect code).1 = w := by
  unfold diagnoseNow
  split_ifs
  · rfl
  · rw [hdelay]
    exact h.advance_zero

theorem enforceNow_world (h : w.AtRest) (hdelay : (w.conditions .rules).delay = 0)
    (dialect : String) (code : List Char) : (w.enforceNow dialect code).1 = w := by
  unfold enforceNow
  split_ifs
  · rfl
  · rw [hdelay]
    exact h.advance_zero

theorem measureNow_world (h : w.AtRest) (hdelay : (w.conditions .metrics).delay = 0)
    (dialect : String) (code : List Char) : (w.measureNow dialect code).1 = w := by
  unfold measureNow
  split_ifs
  · rfl
  · simp only [hdelay]
    exact h.advance_zero

end Live.World

namespace Json

/-- The text holds no halves of characters. -/
def Encodable (s : String) : Prop := s.toList.any Text.standsForHalf = false

instance (s : String) : Decidable (Encodable s) :=
  inferInstanceAs (Decidable (s.toList.any Text.standsForHalf = false))

theorem Encodable.append {s t : String} (hs : Encodable s) (ht : Encodable t) :
    Encodable (s ++ t) := by
  rw [Encodable, String.toList_append, List.any_append, Bool.or_eq_false_iff]
  exact ⟨hs, ht⟩

theorem encodable_punctuation :
    Encodable "\x7b" ∧ Encodable "\x7d" ∧ Encodable ":" ∧ Encodable "," := by
  decide

theorem encodable_compactFields {fs : Fields}
    (h : ∀ f ∈ fs, Encodable (quotedText isPlain f.1) ∧ Encodable (compact f.2)) :
    Encodable (compactFields fs) := by
  obtain ⟨-, -, hcolon, hcomma⟩ := encodable_punctuation
  induction fs with
  | nil => rfl
  | cons f fs ih =>
    obtain ⟨⟨hkey, hvalue⟩, hrest⟩ := List.forall_mem_cons.mp h
    have hfield := (hkey.append hcolon).append hvalue
    cases fs with
    | nil => exact hfield
    | cons g gs => exact (hfield.append hcomma).append (ih hrest)

theorem encodable_ofNat (n : Nat) : Encodable (compact (.ofNat n)) := by
  refine List.any_eq_false.mpr fun d hd => ?_
  have hdigit : d ∈ Nat.toDigits 10 n := by
    rw [← Nat.toList_repr]
    exact hd
  have hrange := Char.isDigit_iff_toNat.mp
    (Nat.isDigit_of_mem_toDigits (by decide) (by decide) hdigit)
  have hsmall : d.toNat < 0xD0000 := Nat.lt_of_le_of_lt hrange.2 (by decide)
  rw [Text.standsForHalf, decide_eq_false (Nat.not_le.mpr hsmall), Bool.false_and]
  exact Bool.false_ne_true

theorem encodable_bool (b : Bool) : Encodable (compact (.bool b)) := by
  cases b <;> decide

theorem encodingFault?_eq_none {s : String} (h : Encodable s) : encodingFault? s.toList = none := by
  have hno := List.any_eq_false.mp h
  rw [encodingFault?, List.findIdx?_eq_none_iff.mpr fun c hc => Bool.not_eq_true _ ▸ hno c hc]
  rfl

end Json

/-- Switches can be sent to anybody. -/
theorem LiveConfig.sendingFault?_toValue (c : LiveConfig) :
    Json.sendingFault? c.toValue = none := by
  have hkeys : ∀ key ∈ c.fields.map Prod.fst,
      Json.Encodable (Json.quotedText Json.isPlain key) := by
    change ∀ key ∈ ["debounce_ms", "enable_live_validation", "enable_performance_metrics",
      "enable_best_practices"], _
    simp only [List.forall_mem_cons, List.not_mem_nil, false_imp_iff, implies_true, and_true]
    decide +kernel
  have hvalues : ∀ v ∈ c.fields.map Prod.snd, Json.Encodable (Json.compact v) := by
    simp only [fields, List.map_cons, List.map_nil, List.forall_mem_cons, Json.encodable_ofNat,
      Json.encodable_bool, List.not_mem_nil, true_and, false_imp_iff, implies_true]
  have hfields : Json.Encodable (Json.compactFields c.fields) :=
    Json.encodable_compactFields fun f hf =>
      ⟨hkeys _ (List.mem_map_of_mem hf), hvalues _ (List.mem_map_of_mem hf)⟩
  obtain ⟨hopen, hclose, -, -⟩ := Json.encodable_punctuation
  have hfinite : Json.isFinite c.toValue = true := rfl
  rw [Json.sendingFault?, if_pos hfinite]
  exact Json.encodingFault?_eq_none ((hopen.append hfields).append hclose)

namespace Http

theorem Response.ok_status_lt (body : Value) : (Response.ok body).status < 400 := by
  change 200 < 400
  decide

theorem Response.le_malformed_status (faults : List BodyFault) :
    400 ≤ (Response.malformed faults).status := by
  change 400 ≤ 422
  decide

namespace Service

/-- The service is in order: passes take no time of their own, nothing is due at the moment, and the
switches leave some time to wait for a pause. -/
structure Ok (s : Service) : Prop where
  world : s.world.Ok
  rest : s.world.AtRest
  conditions : ∀ pass, s.world.conditions pass = {}
  debounce : 0 < s.world.config.debounce

/-- The switches in force are those that the settings hold, and these have been written, unless
nothing can be written. -/
structure Settled (s : Service) : Prop where
  object : ∃ fs, s.settings.data = .object fs
  held : s.settings.part "analysis" = .ok s.world.config.toValue
  written : s.store.write s.settings = s.store

/-- The switches that a request gives are in force, nothing else is changed, and the answer reports
that the settings cannot hold them: they are no object. -/
structure Unheld (s : Service) (r : Request) (t : Service) (answer : Response) : Prop where
  action : r.action = .ok .changeConfig
  no_object : ∀ fs, s.settings.data ≠ .object fs
  effect : ∃ u e, bodyRecord r LiveConfigUpdate.ofFields = .ok u ∧
    s.settings.withLive (s.world.config.update u) = .error e ∧ answer = .broken r e ∧
    t = { s with world := { s.world with config := s.world.config.update u } }

/-- What a request does to the service, with the reply: nothing, whatever the reply; or one of a few
changes, with a reply that is no refusal, but for switches that cannot be held. Only one kind of
request changes the switches. -/
inductive Change (s : Service) (r : Request) : Service → Reply → Prop
  | stays (response : Response) : Change s r s (.now response)
  | calls (session : String) (code : List Char) (dialect : String) :
    Change s r { s with world := s.world.call session code dialect } (.later s.world.state.calls)
  | clears (id : String) {response : Response} (hs : response.status < 400) :
    Change s r { s with world := s.world.clear id } (.now response)
  | rules (t : RuleTable) {response : Response} (hs : response.status < 400) :
    Change s r (s.withRules t) (.now response)
  | configures {u : LiveConfigUpdate} {settings : Settings} (ha : r.action = .ok .changeConfig)
    (hu : bodyRecord r LiveConfigUpdate.ofFields = .ok u)
    (hset : s.settings.withLive (s.world.config.update u) = .ok settings) :
    Change s r
      { world := { s.world with config := s.world.config.update u }
        settings
        store := s.store.write settings }
      (.now (.ok (s.world.config.update u).toValue))
  | unheld {t : Service} {answer : Response} (h : s.Unheld r t answer) : Change s r t (.now answer)

variable {s t : Service} {r : Request}

theorem read_of_bodyRecord {α : Type} {read : Fields → Schema.Checked α} {a : α}
    (h : bodyRecord r read = .ok a) : ∃ fs, read fs = .ok a := by
  obtain ⟨fs, -, h⟩ := eq_ok_of_bind h
  refine ⟨fs, ?_⟩
  split at h
  · next b hb =>
    obtain rfl := Except.ok.inj h
    exact hb
  · cases h

/-- A body that cannot be read is refused. -/
theorem refused_of_bodyFields {shape : BodyShape} {e : Response}
    (h : bodyFields r shape = .error e) : 400 ≤ e.status := by
  unfold bodyFields at h
  split at h
  · obtain rfl := Except.error.inj h
    exact Response.le_malformed_status _
  · split at h
    · obtain rfl := Except.error.inj h
      exact Response.le_malformed_status _
    · obtain rfl := Except.error.inj h
      exact Nat.le_refl 400
    · cases h
    · obtain rfl := Except.error.inj h
      exact Response.le_malformed_status _

theorem refused_of_bodyRecord {α : Type} {read : Fields → Schema.Checked α} {e : Response}
    (h : bodyRecord r read = .error e) : 400 ≤ e.status := by
  rcases eq_error_of_bind h with hfs | ⟨fs, -, h⟩
  · exact refused_of_bodyFields hfs
  · split at h
    · cases h
    · obtain rfl := Except.error.inj h
      exact Response.le_malformed_status _

theorem analyzeLive_change (s : Service) (r : Request) :
    Change s r (s.analyzeLive r).1 (s.analyzeLive r).2 := by
  unfold analyzeLive
  split
  · exact .stays _
  · split
    · exact .stays _
    · exact .calls _ _ _

/-- A pass at once leaves the service as it is when it leaves the world as it is. -/
theorem atOnce_change {α : Type} (s : Service) (r : Request)
    {pass : Live.World → String → List Char → Live.World × Except AnalysisError α}
    (write : Dialect → α → Value)
    (hpass : ∀ dialect code, (pass s.world dialect code).1 = s.world) :
    Change s r (s.atOnce r pass write).1 (s.atOnce r pass write).2 := by
  unfold atOnce
  split
  · exact .stays _
  · simp only [hpass]
    exact .stays _

theorem clearSession_change (s : Service) (r : Request) (id : String) :
    Change s r (s.clearSession id).1 (.now (s.clearSession id).2) := by
  unfold clearSession
  split_ifs
  · exact .clears id (Response.ok_status_lt _)
  · exact .stays _

theorem changeConfig_change (s : Service) (ha : r.action = .ok .changeConfig) :
    Change s r (s.changeConfig r).1 (.now (s.changeConfig r).2) := by
  unfold changeConfig
  split
  · exact .stays _
  · next u hu =>
    simp only
    split
    · next settings hset => exact .configures ha hu hset
    · next e hset =>
      exact .unheld ⟨ha, Settings.ne_object_of_withLive hset, u, e, hu, hset, rfl, rfl⟩

/-- Switches that are not refused are in force, held and written. -/
theorem changeConfig_ok (hs : (s.changeConfig r).2.status < 400) :
    ∃ config settings, s.settings.withLive config = .ok settings ∧
      s.changeConfig r =
        ({ world := { s.world with config }, settings, store := s.store.write settings },
          .ok config.toValue) := by
  unfold changeConfig at hs ⊢
  split at hs
  · next e he => exact absurd hs (Nat.not_lt.mpr (refused_of_bodyRecord he))
  · next u hu =>
    simp only at hs ⊢
    split at hs
    · next settings hset => exact ⟨_, settings, hset, rfl⟩
    · exact absurd hs (Nat.not_lt.mpr (Nat.le_add_right 400 100))

theorem addRule_change (s : Service) (r : Request) :
    Change s r (s.addRule r).1 (.now (s.addRule r).2) := by
  unfold addRule
  split
  · exact .stays _
  · split
    · have hcreated : 201 < 400 := by decide
      exact .rules _ hcreated
    · exact .stays _
    · exact .stays _

theorem removeRule_change (s : Service) (r : Request) (id : String) :
    Change s r (s.removeRule id).1 (.now (s.removeRule id).2) := by
  unfold removeRule
  simp only
  split_ifs
  · exact .rules _ (Response.ok_status_lt _)
  · exact .stays _

/-- Every request makes one of the changes. -/
theorem accept_change (h : s.Ok) (r : Request) : Change s r (s.accept r).1 (s.accept r).2 := by
  have hdelay (pass : Live.Pass) : (s.world.conditions pass).delay = 0 := by rw [h.conditions]
  unfold accept
  split
  · next a ha =>
    cases a with
    | analyzeLive => exact analyzeLive_change s r
    | diagnose =>
      exact atOnce_change s r _ (Live.World.diagnoseNow_world h.rest (hdelay .validate))
    | measure => exact atOnce_change s r _ (Live.World.measureNow_world h.rest (hdelay .metrics))
    | enforce => exact atOnce_change s r _ (Live.World.enforceNow_world h.rest (hdelay .rules))
    | clearSession id => exact clearSession_change s r id
    | changeConfig => exact changeConfig_change s ha
    | addRule => exact addRule_change s r
    | removeRule id => exact removeRule_change s r id
    | _ => exact .stays _
  · exact .stays _
  · exact .stays _

theorem Change.of_refusal {answer : Response} (h : Change s r t (.now answer))
    (hs : 400 ≤ answer.status) : t = s ∨ s.Unheld r t answer := by
  cases h with
  | stays => exact .inl rfl
  | clears _ hlt => exact absurd hlt (Nat.not_lt.mpr hs)
  | rules _ hlt => exact absurd hlt (Nat.not_lt.mpr hs)
  | configures => exact absurd (Response.ok_status_lt _) (Nat.not_lt.mpr hs)
  | unheld h => exact .inr h

theorem Change.kept {reply : Reply} (h : Change s r t reply)
    (ha : r.action ≠ .ok .changeConfig) :
    t.settings = s.settings ∧ t.store = s.store ∧ t.world.config = s.world.config := by
  cases h with
  | configures hconfig => exact absurd hconfig ha
  | unheld h => exact absurd h.action ha
  | _ => exact ⟨rfl, rfl, rfl⟩

theorem Change.lt_calls {call : Nat} (h : Change s r t (.later call)) :
    call < t.world.state.calls := by
  cases h with
  | calls session code dialect =>
    change _ < (s.world.state.call session code dialect).calls
    rw [Live.call_calls]
    exact Nat.lt_succ_self _

theorem debounce_update_pos {u : LiveConfigUpdate} {c : LiveConfig} (hc : 0 < c.debounce)
    (hu : bodyRecord r LiveConfigUpdate.ofFields = .ok u) : 0 < (c.update u).debounce := by
  obtain ⟨fs, hread⟩ := read_of_bodyRecord hu
  exact LiveConfig.debounce_update_pos hc hread

/-- The service stays in order. -/
theorem Change.ok {reply : Reply} (h : Change s r t reply) (hs : s.Ok) : t.Ok := by
  cases h with
  | stays => exact hs
  | calls session code dialect =>
    exact ⟨hs.world.call session code dialect, hs.rest.call hs.debounce session code dialect,
      hs.conditions, hs.debounce⟩
  | clears id => exact ⟨hs.world.clear id, hs.rest, hs.conditions, hs.debounce⟩
  | rules table => exact ⟨hs.world.withEngine _, hs.rest, hs.conditions, hs.debounce⟩
  | configures _ hu =>
    exact ⟨hs.world.withConfig _, hs.rest, hs.conditions, debounce_update_pos hs.debounce hu⟩
  | unheld h =>
    obtain ⟨u, e, hu, -, -, rfl⟩ := h.effect
    exact ⟨hs.world.withConfig _, hs.rest, hs.conditions, debounce_update_pos hs.debounce hu⟩

theorem settled_of_withLive {w : Live.World} {settings : Settings}
    (hset : s.settings.withLive w.config = .ok settings) (store : SettingsStore) :
    Settled { world := w, settings, store := store.write settings } :=
  have ⟨hobject, hheld⟩ := Settings.held_of_withLive hset
  ⟨hobject, hheld, store.write_write settings⟩

/-- Switches that are held stay so: whatever replaces them is held as well. -/
theorem Change.settled {reply : Reply} (h : Change s r t reply) (hs : s.Settled) : t.Settled := by
  cases h with
  | configures _ _ hset => exact settled_of_withLive hset _
  | unheld h => exact absurd hs.object.choose_spec (h.no_object _)
  | _ => exact ⟨hs.object, hs.held, hs.written⟩

theorem Ok.after {w : Live.World} (hs : s.Ok) (h : s.world.After w) (hrest : w.AtRest) :
    Ok { s with world := w } := by
  refine ⟨h.ok, hrest, ?_, ?_⟩
  · rw [h.conditions]
    exact hs.conditions
  · rw [h.config]
    exact hs.debounce

theorem Settled.after {w : Live.World} (hs : s.Settled) (h : s.world.After w) :
    Settled { s with world := w } := by
  refine ⟨hs.object, ?_, hs.written⟩
  rw [h.config]
  exact hs.held

/-- Requests are taken, and time passes in between. -/
inductive Step (s : Service) : Service → Prop
  | request (r : Request) : Step s (s.accept r).1
  | elapse (duration : Nat) : Step s { s with world := s.world.advance duration }
  | await (condition : Live.World → Bool) :
    Step s { s with world := s.world.awaitWhile condition }

def Leads : Service → Service → Prop := Relation.ReflTransGen Step

def Reachable (s : Service) : Prop :=
  ∃ registry rules store env t, start registry rules store env = .ok t ∧ t.Leads s

/-- The switches in force are those that the settings gave at the start, or those that they hold;
settings that are no object have never been changed. -/
def Sourced (s : Service) : Prop :=
  s.settings = .load s.store.file ∧
    ((∃ env, s.settings.live env = .ok s.world.config) ∨ ∀ fs, s.settings.data ≠ .object fs) ∨
  s.Settled

theorem Change.sourced {reply : Reply} (h : Change s r t reply) (hs : s.Sourced) : t.Sourced := by
  cases h with
  | configures _ _ hset => exact .inr (settled_of_withLive hset _)
  | unheld h =>
    obtain ⟨u, e, -, -, -, rfl⟩ := h.effect
    rcases hs with ⟨hload, -⟩ | hsettled
    · exact .inl ⟨hload, .inr h.no_object⟩
    · exact absurd hsettled.object.choose_spec (h.no_object _)
  | _ => exact hs.imp_right fun hs => ⟨hs.object, hs.held, hs.written⟩

/-- What a step keeps. -/
theorem Step.kept (h : Step s t) (hs : s.Ok) :
    t.Ok ∧ (s.Settled → t.Settled) ∧ (s.Sourced → t.Sourced) := by
  have hafter {w : Live.World} (h : s.world.After w) (hrest : w.AtRest) :
      let t : Service := { s with world := w }
      t.Ok ∧ (s.Settled → t.Settled) ∧ (s.Sourced → t.Sourced) := by
    refine ⟨hs.after h hrest, fun hsettled => hsettled.after h, fun hsourced => ?_⟩
    refine hsourced.imp (fun hload => ?_) fun hsettled => hsettled.after h
    rw [h.config]
    exact hload
  cases h with
  | request r =>
    have hchange := accept_change hs r
    exact ⟨hchange.ok hs, hchange.settled, hchange.sourced⟩
  | elapse duration => exact hafter (hs.world.advance duration) (hs.world.advance_atRest _)
  | await condition =>
    exact hafter (hs.world.after.awaitWhile condition) (hs.world.awaitWhile_atRest condition)

/-- What a run keeps. -/
theorem Leads.kept (h : s.Leads t) (hs : s.Ok) :
    t.Ok ∧ (s.Settled → t.Settled) ∧ (s.Sourced → t.Sourced) := by
  induction h with
  | refl => exact ⟨hs, id, id⟩
  | tail _ hstep ih =>
    obtain ⟨hok, hsettled, hsourced⟩ := ih
    have hkept := hstep.kept hok
    exact ⟨hkept.1, hkept.2.1 ∘ hsettled, hkept.2.2 ∘ hsourced⟩

theorem start_ok {registry : Registry} {rules : RuleTable} {store : SettingsStore}
    {env : Environment} (h : start registry rules store env = .ok s) : s.Ok ∧ s.Sourced := by
  obtain ⟨_, -, h⟩ := eq_ok_of_bind h
  obtain ⟨config, hlive, h⟩ := eq_ok_of_bind h
  obtain ⟨_, -, h⟩ := eq_ok_of_bind h
  obtain rfl := Except.ok.inj h
  exact ⟨⟨Live.World.ok_start _ _, nofun, fun _ => rfl, Settings.debounce_live_pos hlive⟩,
    .inl ⟨rfl, .inl ⟨env, hlive⟩⟩⟩

theorem Reachable.ok (h : Reachable s) : s.Ok ∧ s.Sourced := by
  obtain ⟨_, _, _, _, _, hstart, hleads⟩ := h
  obtain ⟨hok, hsourced⟩ := start_ok hstart
  have hkept := hleads.kept hok
  exact ⟨hkept.1, hkept.2.2 hsourced⟩

theorem Reachable.step (h : Reachable s) (hstep : Step s t) : Reachable t := by
  obtain ⟨registry, rules, store, env, u, hstart, hleads⟩ := h
  exact ⟨registry, rules, store, env, u, hstart, hleads.tail hstep⟩

theorem fresh_reachable (registry : Registry) : Reachable (fresh registry) :=
  ⟨registry, .builtin, {}, [], _, rfl, .refl⟩

theorem acceptAll_reachable (requests : List (Nat × Request)) (h : Reachable s) :
    Reachable (s.acceptAll requests).1 := by
  induction requests generalizing s with
  | nil => exact h
  | cons p rest ih => exact ih (h.step (.request p.2))

/-- Requests that arrive together lead nowhere else. -/
theorem serveAll_reachable (requests : List Request) (h : Reachable s) :
    Reachable (s.serveAll requests).1 :=
  (acceptAll_reachable _ h).step (.await _)

theorem serve_eq (s : Service) (r : Request) :
    s.serve r =
      ({ (s.accept r).1 with
        world := (s.accept r).1.world.awaitWhile fun w => isWaiting w (s.accept r).2 },
        some ((responseOf ((s.accept r).1.world.awaitWhile fun w => isWaiting w (s.accept r).2)
          (s.accept r).2).sent r)) := by
  unfold serve serveAll
  cases hbody : needsBody r <;> simp [hbody, acceptAll, List.partition, List.partition.loop]

/-- A live call is answered in the end, and not by a refusal. -/
theorem responseOf_later {w : Live.World} (h : w.Ok) {call : Nat} (hc : call < w.state.calls) :
    (responseOf (w.awaitWhile fun w => isWaiting w (.later call)) (.later call)).status < 400 := by
  have hwaits (u : Live.World) (hu : isWaiting u (.later call) = false) :
      ∃ a ∈ u.state.answers, a.call = call := by
    simpa [isWaiting] using hu
  obtain ⟨a, ha, hcall⟩ := h.answered_awaitWhile hc _ hwaits
  simp only [responseOf]
  split
  · exact Response.ok_status_lt _
  · next hnone => exact absurd (beq_iff_eq.mpr hcall) (List.find?_eq_none.mp hnone a ha)

theorem accept_changeConfig (s : Service) (ha : r.action = .ok .changeConfig) :
    s.accept r = ((s.changeConfig r).1, .now (s.changeConfig r).2) := by
  rw [accept, ha]
  rfl

/-- The answer went well, but it cannot be sent. -/
def Unsendable (answer : Response) : Prop :=
  answer.status < 400 ∧ (Json.sendingFault? answer.body).isSome

theorem unsendable_of_sent {answer : Response} (hs : answer.status < 400)
    (hsent : 400 ≤ (answer.sent r).status) : Unsendable answer := by
  refine ⟨hs, ?_⟩
  unfold Response.sent at hsent
  split at hsent
  · next e he => rw [he]; rfl
  · exact absurd hs (Nat.not_lt.mpr hsent)

/-- The answer to new switches can be sent. -/
theorem changeConfig_sendable (s : Service) (r : Request) : ¬Unsendable (s.changeConfig r).2 := by
  rintro ⟨hs, hfault⟩
  obtain ⟨config, settings, -, heq⟩ := changeConfig_ok hs
  rw [heq, show (Response.ok config.toValue).body = config.toValue from rfl,
    config.sendingFault?_toValue] at hfault
  cases hfault

/-- Every request is served. An answer that is a refusal has changed nothing, but for switches that
cannot be held. -/
theorem serve_answer (h : s.Ok) (r : Request) :
    ∃ answer : Response, (s.serve r).2 = some (answer.sent r) ∧
      (400 ≤ answer.status → (s.serve r).1 = s ∨ s.Unheld r (s.serve r).1 answer) ∧
      (r.action = .ok .changeConfig → answer = (s.changeConfig r).2) := by
  have hchange := accept_change h r
  have hok := hchange.ok h
  have hconfig (ha : r.action = .ok .changeConfig) := accept_changeConfig s ha
  rw [serve_eq]
  generalize s.accept r = taken at *
  obtain ⟨t, reply⟩ := taken
  cases reply with
  | now answer =>
    have hrest : t.world.awaitWhile (fun w => isWaiting w (.now answer)) = t.world :=
      hok.rest.awaitWhile rfl
    refine ⟨answer, rfl, fun hs => ?_, fun ha => ?_⟩
    · simp only [hrest]
      exact hchange.of_refusal hs
    · exact Reply.now.inj (Prod.mk.inj (hconfig ha)).2
  | later call =>
    refine ⟨_, rfl, fun hs => ?_, fun ha => ?_⟩
    · exact absurd (responseOf_later hok.world hchange.lt_calls) (Nat.not_lt.mpr hs)
    · cases hconfig ha

/-- In every state that the service can come to, by requests that are accepted or refused and with
time in between, every request is served with some response. A refusal leaves everything as it was,
with two exceptions. New switches are in force also when the settings are no object and cannot hold
them; the refusal says that. And an answer that cannot be sent, which new switches never are
answered with, comes too late: what was asked for has been done.

The switches leave some time to wait for a pause. They are those that the settings gave at the
start, those that the settings hold and that were written as far as possible, or such that the
settings never could hold. Only a request for new switches does anything to them, to the settings
and to the place where these are kept; if it goes well it writes the settings, and from then on the
switches are those that the settings hold. -/
theorem refusals_change_nothing (h : Reachable s) :
    (∀ (r : Request) (answer : Response), (s.accept r).2 = .now answer → 400 ≤ answer.status →
      (s.accept r).1 = s ∨ s.Unheld r (s.accept r).1 answer) ∧
    (∀ r : Request, ∃ answer : Response, (s.serve r).2 = some (answer.sent r) ∧
      (400 ≤ (answer.sent r).status →
        (s.serve r).1 = s ∨ s.Unheld r (s.serve r).1 answer ∨
          Unsendable answer ∧ r.action ≠ .ok .changeConfig)) ∧
    0 < s.world.config.debounce ∧
    s.Sourced ∧
    (∀ r : Request, r.action ≠ .ok .changeConfig →
      let t := (s.accept r).1
      t.settings = s.settings ∧ t.store = s.store ∧ t.world.config = s.world.config) ∧
    ∀ (r : Request) (answer : Response), r.action = .ok .changeConfig →
      (s.accept r).2 = .now answer → answer.status < 400 →
      let t := (s.accept r).1
      t.store = s.store.write t.settings ∧ t.Settled ∧ ∀ u, t.Leads u → u.Settled := by
  obtain ⟨hok, hsourced⟩ := h.ok
  refine ⟨?_, ?_, hok.debounce, hsourced, fun r ha => (accept_change hok r).kept ha, ?_⟩
  · intro r answer hr hs
    have hchange := accept_change hok r
    rw [hr] at hchange
    exact hchange.of_refusal hs
  · intro r
    obtain ⟨answer, hserve, hrefused, hconfig⟩ := serve_answer hok r
    refine ⟨answer, hserve, fun hsent => ?_⟩
    rcases Nat.lt_or_ge answer.status 400 with hs | hs
    · have hunsendable := unsendable_of_sent hs hsent
      exact .inr (.inr ⟨hunsendable, fun ha =>
        changeConfig_sendable s r (hconfig ha ▸ hunsendable)⟩)
    · exact (hrefused hs).imp_right .inl
  · intro r answer ha hr hs
    have htaken := (accept_change hok r).ok hok
    rw [accept_changeConfig s ha] at hr htaken ⊢
    obtain rfl := Reply.now.inj hr
    obtain ⟨config, settings, hset, heq⟩ := changeConfig_ok hs
    rw [heq] at htaken ⊢
    have hsettled := settled_of_withLive (w := { s.world with config }) hset s.store
    exact ⟨rfl, hsettled, fun u hu => (hu.kept htaken).2.1 hsettled⟩

theorem unknown_session_changes_nothing :
    let patched := ((fresh []).accept ⟨"PATCH", "/api/analysis/config", [],
      some "\x7b\"debounce_ms\": 50\x7d", ""⟩).1
    patched.world.config.debounce = 50 ∧
      (patched.accept ⟨"DELETE", "/api/analysis/sessions/draft", [], none, ""⟩).1 = patched := by
  intro patched
  have hdelete : (⟨"DELETE", "/api/analysis/sessions/draft", [], none, ""⟩ : Request).action =
      .ok (.clearSession "draft") := by decide +kernel
  have hreply (s : Service) (hs : s.world.state = {}) :
      (s.accept ⟨"DELETE", "/api/analysis/sessions/draft", [], none, ""⟩).2 =
        .now (.refused 404 "Session draft not found") := by
    unfold accept
    rw [hdelete]
    simp only [act, clearSession, hs]
    rfl
  refine ⟨by decide +kernel, ?_⟩
  rcases (refusals_change_nothing ((fresh_reachable []).step (.request _))).1 _ _
    (hreply patched (by decide +kernel)) (Nat.le_add_right 400 4) with hsame | hunheld
  · exact hsame
  · exact absurd (hdelete.symm.trans hunheld.action) (by decide)

/-- With settings that are a list, and an environment that sets all the service needs to start, new
switches are refused and in force. And a rule with half of a character in its name is added by a
request that is answered with a refusal. -/
theorem refusals_with_effect :
    let env := [("ANALYSIS_DEBOUNCE_MS", "400"), ("ENABLE_LIVE_VALIDATION", "true"),
      ("ENABLE_PERFORMANCE_METRICS", "true"), ("ENABLE_BEST_PRACTICES", "true"),
      ("RULES_DIR", "rules"), ("CORS_ORIGINS", "http://localhost:3000")]
    let patch : Request := ⟨"PATCH", "/api/analysis/config", [],
      some "\x7b\"debounce_ms\": 50\x7d", ""⟩
    let post : Request := ⟨"POST", "/api/rules", [],
      some ("\x7b\"id\": \"x\", \"name\": \"\\ud800\", \"category\": \"naming\", " ++
        "\"severity\": \"info\", \"pattern\": \"a\", \"message\": \"M\", " ++
        "\"dialects\": \"sql\"\x7d"), ""⟩
    ((start [] .builtin { file := .holds "[]" } env).toOption.map fun s =>
      (s.world.config.debounce, (s.serve patch).2.map Response.status,
        (s.serve patch).1.world.config.debounce)) = some (400, some 500, 50) ∧
    (fresh []).world.engine.rules.contains "x" = false ∧
    ((fresh []).serve post).2.map Response.status = some 500 ∧
    ((fresh []).serve post).1.world.engine.rules.contains "x" = true := by
  decide +kernel

end Service

end Http

end CampaignCheck

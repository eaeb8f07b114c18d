import CampaignCheck.Proofs.Live.Invariant

namespace CampaignCheck.Live

/-- What a session can become: its numbers never fall, and once it is closed nothing changes. -/
structure Session.Precedes (x y : Session) : Prop where
  name : y.name = x.name
  cached : x.cached ≤ y.cached
  issued : x.issued ≤ y.issued
  closed : x.isOpen = false → y = x

theorem Session.Precedes.refl (x : Session) : x.Precedes x :=
  ⟨rfl, Nat.le_refl _, Nat.le_refl _, fun _ => rfl⟩

theorem Session.Precedes.trans {x y z : Session} (hxy : x.Precedes y) (hyz : y.Precedes z) :
    x.Precedes z := by
  refine ⟨hyz.name.trans hxy.name, Nat.le_trans hxy.cached hyz.cached,
    Nat.le_trans hxy.issued hyz.issued, ?_⟩
  intro h
  have hy := hxy.closed h
  rw [hyz.closed (by rw [hy]; exact h), hy]

theorem keep_of_closed {x : Session} (h : x.isOpen = false) (r : LiveResult) (sequence : Nat) :
    x.keep r sequence = x := by
  simp [Session.keep, h]

theorem keep_of_lt {x : Session} {sequence : Nat} (h : sequence < x.cached) (r : LiveResult) :
    x.keep r sequence = x := by
  simp [Session.keep, h]

theorem keep_precedes (x : Session) (r : LiveResult) (sequence : Nat) :
    x.Precedes (x.keep r sequence) := by
  obtain ⟨hname, -, -, -, hissued⟩ := keep_frame x r sequence
  refine ⟨hname, ?_, Nat.le_of_eq hissued.symm, fun h => keep_of_closed h r sequence⟩
  unfold Session.keep
  split_ifs with h
  · simp only [Bool.and_eq_true, Bool.not_eq_true', decide_eq_false_iff_not, Nat.not_lt] at h
    exact h.2
  · exact Nat.le_refl _

/-- The sessions after one of them has been replaced. -/
theorem precedes_set {sessions : List Session} {i j : Nat} {x y z : Session}
    (hx : sessions[i]? = some x) (hxy : x.Precedes y) (hz : sessions[j]? = some z) :
    ∃ w, (sessions.set i y)[j]? = some w ∧ z.Precedes w := by
  by_cases hij : j = i
  · subst hij
    obtain rfl : z = x := Option.some.inj (hz.symm.trans hx)
    exact ⟨y, getElem?_set_self hx y, hxy⟩
  · exact ⟨z, by rw [List.getElem?_set_ne (Ne.symm hij)]; exact hz, .refl z⟩

theorem move_precedes {a b : Analyzer} (h : a.Ok) (hm : Move a b) {j : Nat} {z : Session}
    (hz : a.state.sessions[j]? = some z) :
    ∃ w, b.state.sessions[j]? = some w ∧ z.Precedes w := by
  have hopen {x y : Session} (ho : x.isOpen = true) : x.isOpen = false → y = x := by simp [ho]
  cases hm with
  | opens name =>
    have hlt : j < a.state.sessions.length := (List.getElem?_eq_some_iff.mp hz).1
    exact ⟨z, (List.getElem?_append_left hlt).trans hz, .refl z⟩
  | arms code dialect hx ho =>
    exact precedes_set hx ⟨rfl, Nat.le_refl _, Nat.le_succ _, hopen ho⟩ hz
  | takes hc ht hx =>
    have ho := (h.sleeping hc ht hx).1
    exact precedes_set hx ⟨rfl, Nat.le_refl _, Nat.le_refl _, hopen ho⟩ hz
  | settles yield hc ht hx =>
    cases yield with
    | none => exact ⟨z, hz, .refl z⟩
    | some y => exact precedes_set hx (keep_precedes _ _ _) hz
  | closes hx ho => exact precedes_set hx ⟨rfl, Nat.le_refl _, Nat.le_refl _, hopen ho⟩ hz
  | configures config => exact ⟨z, hz, .refl z⟩

theorem moves_precedes {a b : Analyzer} (h : a.Ok) (hm : Moves a b) {j : Nat} {z : Session}
    (hz : a.state.sessions[j]? = some z) :
    ∃ w, b.state.sessions[j]? = some w ∧ z.Precedes w := by
  induction hm with
  | refl => exact ⟨z, hz, .refl z⟩
  | tail hfirst hmove ih =>
    obtain ⟨y, hy, hzy⟩ := ih
    obtain ⟨w, hw, hyw⟩ := move_precedes (moves_ok h hfirst) hmove hy
    exact ⟨w, hw, hzy.trans hyw⟩

/-- The log only grows. -/
theorem moves_log {a b : Analyzer} (hm : Moves a b) : a.log <+: b.log := by
  induction hm with
  | refl => exact List.prefix_rfl
  | tail _ hmove ih =>
    cases hmove with
    | arms => exact ih.trans (List.prefix_append _ _)
    | _ => exact ih

/-- A cycle belongs to the same session and has the same source as long as it lasts. -/
theorem entry_of_moves {a b : Analyzer} (ha : a.Ok) (hb : b.Ok) (hm : Moves a b) {c d : Cycle}
    (hc : c ∈ a.state.cycles) (hd : d ∈ b.state.cycles) (he : d.number = c.number) :
    d.session = c.session ∧ d.sequence = c.sequence ∧ d.code = c.code ∧ d.dialect = c.dialect := by
  obtain ⟨more, hmore⟩ := moves_log hm
  have hlog := (ha.cycles c hc).logged
  have hlt : c.number < a.log.length := (List.getElem?_eq_some_iff.mp hlog).1
  have hdlog := (hb.cycles d hd).logged
  rw [he, ← hmore, List.getElem?_append_left hlt, hlog] at hdlog
  simp only [Option.some.injEq, Call.mk.injEq] at hdlog
  exact ⟨hdlog.1.symm, hdlog.2.1.symm, hdlog.2.2.1.symm, hdlog.2.2.2.symm⟩

section

variable {s : State} {number : Nat} {c : Cycle} {x : Session}

/-- A pass that ends changes at most the session of its cycle, and only by keeping its result. -/
theorem finish_sessions (hc : s.cycle? number = some c) (hx : s.sessions[c.session]? = some x)
    (yield : Option Yield) :
    (s.finish number yield).sessions = s.sessions ∨
      yield ≠ none ∧ (s.finish number yield).sessions =
        s.sessions.set c.session (x.keep (State.outcome c x yield) c.sequence) := by
  simp only [State.finish, hc, hx]
  cases c.taken with
  | none => exact .inl rfl
  | some callers =>
    cases yield with
    | none => exact .inl rfl
    | some y => exact .inr ⟨by simp, rfl⟩

theorem finish_sessions_ne (hc : s.cycle? number = some c) (hx : s.sessions[c.session]? = some x)
    (yield : Option Yield) {j : Nat} (hj : j ≠ c.session) :
    (s.finish number yield).sessions[j]? = s.sessions[j]? := by
  rcases finish_sessions hc hx yield with he | ⟨-, he⟩
  · rw [he]
  · rw [he, List.getElem?_set_ne (Ne.symm hj)]

theorem finish_sessions_of_keep (hc : s.cycle? number = some c)
    (hx : s.sessions[c.session]? = some x) {yield : Option Yield}
    (hk : yield ≠ none → x.keep (State.outcome c x yield) c.sequence = x) :
    (s.finish number yield).sessions = s.sessions := by
  rcases finish_sessions hc hx yield with he | ⟨hy, he⟩
  · exact he
  · obtain ⟨hlt, hget⟩ := List.getElem?_eq_some_iff.mp hx
    rw [he, hk hy, ← hget]
    exact List.set_getElem_self hlt

/-- A pass that fails, that is older than the result that is kept or whose session is closed leaves
the sessions alone. -/
theorem finish_sessions_eq (hc : s.cycle? number = some c) (hx : s.sessions[c.session]? = some x)
    {yield : Option Yield} (h : yield = none ∨ c.sequence < x.cached ∨ x.isOpen = false) :
    (s.finish number yield).sessions = s.sessions := by
  apply finish_sessions_of_keep hc hx
  intro hy
  rcases h with h | h | h
  · exact absurd h hy
  · exact keep_of_lt h _
  · exact keep_of_closed h _ _

/-- The result of any other pass that succeeds is kept. -/
theorem finish_keeps (hc : s.cycle? number = some c) (hx : s.sessions[c.session]? = some x)
    {callers : List Nat} (ht : c.taken = some callers) (ho : x.isOpen = true)
    (hle : x.cached ≤ c.sequence) (y : Yield) :
    (s.finish number (some y)).sessions[c.session]? = some { x with
      last := some (LiveResult.merge y.found y.violations c.sequence)
      cached := c.sequence } := by
  have hkeep : x.keep (State.outcome c x (some y)) c.sequence = { x with
      last := some (LiveResult.merge y.found y.violations c.sequence)
      cached := c.sequence } := by
    simp [Session.keep, State.outcome, ho, hle]
  simp only [State.finish, hc, ht, hx, Option.isSome_some, if_true, hkeep]
  exact getElem?_set_self hx _

end

/-- The end of a pass whose session was closed leaves the sessions alone, however long it takes. -/
theorem finish_sessions_of_closed {a b : Analyzer} (ha : a.Ok) (hm : Moves a b) {c : Cycle}
    (hc : c ∈ a.state.cycles) {x : Session} (hx : a.state.sessions[c.session]? = some x)
    (ho : x.isOpen = false) (yield : Option Yield) :
    (b.state.finish c.number yield).sessions = b.state.sessions := by
  cases hd : b.state.cycle? c.number with
  | none => simp [State.finish, hd]
  | some d =>
    obtain ⟨hmem, hnum⟩ := State.cycle?_eq_some hd
    obtain ⟨hsess, -⟩ := entry_of_moves ha (moves_ok ha hm) hm hc hmem hnum
    obtain ⟨y, hy, hxy⟩ := moves_precedes ha hm hx
    have hy' : b.state.sessions[d.session]? = some x := by rw [hsess, hy, hxy.closed ho]
    exact finish_sessions_eq hd hy' (.inr (.inr ho))

/-- A call under a name without an open session makes a session in a new place, with new numbers. -/
theorem call_sessions_of_find?_none {s : State} {name : String} (h : s.find? name = none)
    (code : List Char) (dialect : String) :
    (s.call name code dialect).sessions =
      s.sessions ++ [(Session.fresh name).afterCall s.calls] := by
  have hget : (s.sessions ++ [Session.fresh name])[s.sessions.length]? = some (.fresh name) := by
    simp
  simp only [State.call, State.ensure, h, hget]
  simp

/-- After every run: a session that keeps a result keeps its number with it, which is at most the
number of the last call. In all that follows, sessions stay in their places and their numbers never
fall, and a closed session stays as it is. The end of a pass touches no session but its own, and not
even that if it fails, comes late or finds the session closed, then or at any time before; else its
result is kept. A session that is made again under the name of a closed one has another place and
new numbers, and no pass that is under way belongs to it. -/
theorem session_cache_safe (e : Engine) (config : LiveConfig) (acts : List Act) :
    let a := Analyzer.run e { config := config } acts
    (∀ x ∈ a.state.sessions, (∀ r ∈ x.last, r.sequence = x.cached) ∧ x.cached ≤ x.issued) ∧
    (∀ (more : List Act) (i : Nat) (x : Session), a.state.sessions[i]? = some x →
      ∃ y, (a.run e more).state.sessions[i]? = some y ∧ x.Precedes y) ∧
    (∀ (number : Nat) (c : Cycle) (x : Session), a.state.cycle? number = some c →
      a.state.sessions[c.session]? = some x → ∀ yield : Option Yield,
      (∀ j ≠ c.session, (a.state.finish number yield).sessions[j]? = a.state.sessions[j]?) ∧
      (yield = none ∨ c.sequence < x.cached ∨ x.isOpen = false →
        (a.state.finish number yield).sessions = a.state.sessions) ∧
      ∀ y callers, yield = some y → c.taken = some callers → x.isOpen = true →
        x.cached ≤ c.sequence → (a.state.finish number yield).sessions[c.session]? = some { x with
          last := some (LiveResult.merge y.found y.violations c.sequence)
          cached := c.sequence }) ∧
    (∀ c ∈ a.state.cycles, ∀ x, a.state.sessions[c.session]? = some x → x.isOpen = false →
      ∀ (more : List Act) (yield : Option Yield),
        ((a.run e more).state.finish c.number yield).sessions = (a.run e more).state.sessions) ∧
    (∀ (name code dialect), a.state.find? name = none →
      (∃ x, (a.step e (.call name code dialect)).state.sessions = a.state.sessions ++ [x] ∧
        x.name = name ∧ x.last = none ∧ x.cached = 0 ∧ x.issued = 1) ∧
      ∀ c ∈ a.state.cycles, c.session < a.state.sessions.length) := by
  intro a
  have hok : a.Ok := run_ok e (start_ok config) acts
  refine ⟨?_, ?_, ?_, ?_, ?_⟩
  · intro x hx
    obtain ⟨i, hi⟩ := List.mem_iff_getElem?.mp hx
    exact ⟨(hok.sessions i x hi).cached, (hok.sessions i x hi).issued⟩
  · intro more i x hx
    exact moves_precedes hok (run_moves e a more) hx
  · intro number c x hc hx yield
    refine ⟨fun j hj => finish_sessions_ne hc hx yield hj, finish_sessions_eq hc hx, ?_⟩
    rintro y callers rfl ht ho hle
    exact finish_keeps hc hx ht ho hle y
  · intro c hc x hx ho more yield
    exact finish_sessions_of_closed hok (run_moves e a more) hc hx ho yield
  · intro name code dialect hfind
    refine ⟨⟨_, call_sessions_of_find?_none hfind code dialect, rfl, rfl, rfl, rfl⟩, ?_⟩
    intro c hc
    obtain ⟨x, hx, -⟩ := (hok.cycles c hc).session
    exact (List.getElem?_eq_some_iff.mp hx).1

/-- The first pass ends after the second, and the result of the second is the one that is kept. -/
example : (Analyzer.run { rules := {} } { config := {} } [.call "a" [] "css", .wake 0,
    .call "a" [] "css", .wake 1, .complete 1 { validation := false, bestPractices := false },
    .complete 0 { validation := false, bestPractices := false }]).state.sessions.map (·.cached) =
      [2] := by
  decide +kernel

end CampaignCheck.Live

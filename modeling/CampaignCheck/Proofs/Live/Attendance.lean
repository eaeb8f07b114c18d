import CampaignCheck.Proofs.Live.Timers

/-!
Every live call is answered. A cycle that sleeps has a timer that will wake it, and one that
analyses has a timer for each pass that has not yielded anything yet. So no cycle is left when no
timer is left, and then nobody waits any more.
-/

namespace CampaignCheck.Live

/-- The second state can come from the first by moves. -/
def State.Leads (s s' : State) : Prop :=
  ∀ a : Analyzer, a.state = s → ∃ b, Moves a b ∧ b.state = s'

namespace State.Leads

theorem refl (s : State) : s.Leads s := fun a ha => ⟨a, .refl, ha⟩

theorem trans {s t u : State} (hst : s.Leads t) (htu : t.Leads u) : s.Leads u := by
  intro a ha
  obtain ⟨b, hab, hb⟩ := hst a ha
  obtain ⟨c, hbc, hc⟩ := htu b hb
  exact ⟨c, hab.trans hbc, hc⟩

theorem call (e : Engine) (s : State) (name : String) (code : List Char) (dialect : String) :
    s.Leads (s.call name code dialect) := by
  rintro a rfl
  exact ⟨_, call_moves e a name code dialect, rfl⟩

theorem wake (e : Engine) (s : State) (n : Nat) : s.Leads (s.wake n) := by
  rintro a rfl
  exact ⟨_, wake_moves e a n, rfl⟩

theorem finish (s : State) (n : Nat) (yield : Option Yield) : s.Leads (s.finish n yield) := by
  rintro a rfl
  exact ⟨_, finish_moves a n yield, rfl⟩

theorem clear (e : Engine) (s : State) (name : String) : s.Leads (s.clear name) := by
  rintro a rfl
  exact ⟨_, clear_moves e a name, rfl⟩

theorem calls {s t : State} (h : s.Leads t) : s.calls ≤ t.calls := by
  obtain ⟨b, hb, rfl⟩ := h { config := {}, state := s } rfl
  exact moves_calls hb

end State.Leads

theorem move_answers {a b : Analyzer} (hm : Move a b) : a.state.answers ⊆ b.state.answers := by
  cases hm with
  | settles => exact List.subset_append_left _ _
  | closes => exact List.subset_append_left _ _
  | _ => exact List.Subset.refl _

theorem moves_answers {a b : Analyzer} (hm : Moves a b) : a.state.answers ⊆ b.state.answers := by
  induction hm with
  | refl => exact List.Subset.refl _
  | tail _ hmove ih => exact List.Subset.trans ih (move_answers hmove)

theorem State.Leads.answers {s t : State} (h : s.Leads t) : s.answers ⊆ t.answers := by
  obtain ⟨b, hb, rfl⟩ := h { config := {}, state := s } rfl
  exact moves_answers hb

/-- The machine is in order wherever it comes to from its start, and every caller is in one
place. -/
theorem State.Leads.ok {s : State} (h : State.Leads {} s) :
    ∃ a : Analyzer, a.state = s ∧ a.Ok ∧
      ∀ n, a.occurrences n = (List.range s.calls).count n := by
  obtain ⟨a, ha, rfl⟩ := h { config := {} } rfl
  refine ⟨a, rfl, moves_ok (start_ok {}) ha, ?_⟩
  intro n
  exact moves_occurrences (start_ok {}) ha n (by
    simp [Analyzer.occurrences, Analyzer.waiting, Analyzer.taken, Analyzer.answered])

section Cycles

variable {a : Analyzer} {c : Cycle} {n : Nat}

theorem Analyzer.Ok.mem_finish (h : a.Ok) {yield : Option Yield}
    (hc : c ∈ (a.state.finish n yield).cycles) :
    c ∈ a.state.cycles ∧ (c.number ≠ n ∨ c.taken = none) := by
  unfold State.finish at hc
  split at hc
  · next hnone => exact ⟨hc, .inl (cycle?_eq_none.mp hnone c hc)⟩
  · next d hd =>
    obtain ⟨hmem, rfl⟩ := State.cycle?_eq_some hd
    split at hc
    · obtain ⟨hc, hne⟩ := List.mem_filter.mp hc
      exact ⟨hc, .inl (by simpa using hne)⟩
    · next hends =>
      refine ⟨hc, ?_⟩
      by_cases hnum : c.number = d.number
      · obtain rfl := h.eq_of_number hc hmem hnum
        obtain ⟨x, hx, -⟩ := (h.cycles c hc).session
        cases ht : c.taken with
        | none => exact .inr rfl
        | some callers => exact absurd hx (hends callers x ht)
      · exact .inl hnum

theorem Analyzer.Ok.mem_wake (h : a.Ok) (hc : c ∈ (a.state.wake n).cycles) :
    (c ∈ a.state.cycles ∧ c.number ≠ n) ∨
      c.number = n ∧ c.taken ≠ none ∧ ∃ d ∈ a.state.cycles, d.number = n := by
  unfold State.wake at hc
  split at hc
  · next hnone => exact .inl ⟨hc, cycle?_eq_none.mp hnone c hc⟩
  · next d hd =>
    obtain ⟨hmem, rfl⟩ := State.cycle?_eq_some hd
    split at hc
    · next x ht hx =>
      obtain ⟨b, hb, rfl⟩ := List.mem_map.mp hc
      split_ifs with hnum
      · exact .inr ⟨hnum, nofun, d, hmem, rfl⟩
      · exact .inl ⟨hb, hnum⟩
    · next hstays =>
      by_cases hnum : c.number = d.number
      · obtain rfl := h.eq_of_number hc hmem hnum
        obtain ⟨x, hx, -⟩ := (h.cycles c hc).session
        exact .inr ⟨rfl, fun ht => hstays x ht hx, c, hc, rfl⟩
      · exact .inl ⟨hc, hnum⟩

theorem Analyzer.Ok.waiting_eq_nil (h : a.Ok) (hnone : a.state.cycles = []) : a.waiting = [] := by
  rw [Analyzer.waiting, List.flatMap_eq_nil_iff]
  intro x hx
  obtain ⟨i, hi⟩ := List.getElem?_of_mem hx
  have hsession := h.sessions i x hi
  by_contra hne
  obtain ⟨n, hn⟩ := Option.ne_none_iff_exists'.mp (hsession.waiting hne)
  obtain ⟨c, hc, -⟩ := hsession.pending n hn
  rw [hnone] at hc
  cases hc

theorem mem_call {s : State} {name : String} {code : List Char} {dialect : String}
    (hc : c ∈ (s.call name code dialect).cycles) :
    c ∈ s.cycles ∨ c.number = s.calls ∧ c.taken = none := by
  have hsame : (s.ensure name).1.cycles = s.cycles ∧ (s.ensure name).1.calls = s.calls := by
    unfold State.ensure
    split <;> exact ⟨rfl, rfl⟩
  unfold State.call at hc
  simp only at hc
  split at hc
  · rw [hsame.1] at hc
    exact .inl hc
  · rcases List.mem_append.mp hc with hc | hc
    · have hmem := List.mem_of_mem_filter hc
      rw [hsame.1] at hmem
      exact .inl hmem
    · rw [List.mem_singleton.mp hc]
      exact .inr ⟨hsame.2, rfl⟩

theorem call_calls (s : State) (name : String) (code : List Char) (dialect : String) :
    (s.call name code dialect).calls = s.calls + 1 := by
  unfold State.call State.ensure
  cases hfind : s.find? name with
  | some i =>
    obtain ⟨x, hx, -⟩ := State.find?_eq_some hfind
    simp only [hx]
  | none =>
    have hx : (s.sessions ++ [Session.fresh name])[s.sessions.length]? = some (.fresh name) := by
      simp
    simp only [hx]

theorem clear_cycles_subset (s : State) (name : String) : (s.clear name).cycles ⊆ s.cycles := by
  unfold State.clear
  split
  · exact close_cycles_subset s _
  · exact List.Subset.refl _

end Cycles

namespace World

theorem progress?_amend (w : World) (n : Nat) {f : Progress → Progress}
    (hf : ∀ p, (f p).cycle = p.cycle) (m : Nat) :
    (w.amend n f).progress? m = if m = n then (w.progress? n).map f else w.progress? m := by
  have hsame : (fun p : Progress => (if p.cycle = n then f p else p).cycle == m) =
      fun p => p.cycle == m := by
    funext p
    split_ifs
    · rw [hf]
    · rfl
  have hmap : (w.amend n f).progress? m =
      (w.progress? m).map fun p => if p.cycle = n then f p else p := by
    simp only [progress?, amend, List.find?_map, Function.comp_def, hsame]
  rw [hmap]
  cases hp : w.progress? m with
  | none =>
    split_ifs with hmn
    · rw [← hmn, hp, Option.map_none, Option.map_none]
    · rfl
  | some p =>
    have hcycle : p.cycle = m := by simpa using List.find?_some hp
    rw [Option.map_some, hcycle]
    split_ifs with hmn
    · rw [← hmn, hp, Option.map_some]
    · rfl

theorem progress?_finish (w : World) (n : Nat) (yield : Option Yield) (m : Nat) :
    (w.finish n yield).progress? m = if m = n then none else w.progress? m := by
  simp only [progress?, finish, List.find?_filter]
  split_ifs with hmn
  · rw [List.find?_eq_none]
    rintro p -
    simp [hmn]
  · congr 1
    funext p
    by_cases hp : p.cycle = m
    · simp [hp, hmn]
    · simp [hp]

theorem progress?_begun (w : World) (n m : Nat) :
    (w.begun n).progress? m =
      (w.progress? m).or (if m = n then some (w.beginning n) else none) := by
  simp only [progress?, begun, List.find?_append]
  congr 1
  by_cases hmn : m = n
  · simp [hmn, beginning]
  · simp [hmn, beginning, Ne.symm hmn]

end World

/-- A pass that has not yielded anything yet is due. -/
structure Progress.Awaited (p : Progress) (due : Due → Prop) (n : Nat) : Prop where
  found : p.found = none → due (.validate n)
  violations : p.violations = none → due (.enforce n)

/-- Somebody sees to a cycle, given what is due and what its passes have yielded: it sleeps and will
wake, or it lacks something still and all that it lacks is due. -/
inductive Attended (due : Due → Prop) (c : Cycle) : Option Progress → Prop
  | asleep (ht : c.taken = none) (hwake : due (.wake c.number)) : Attended due c none
  | analysing {p : Progress} (ht : c.taken ≠ none) (hlacks : p.found = none ∨ p.violations = none)
    (hp : p.Awaited due c.number) : Attended due c (some p)

namespace Attended

variable {due due' : Due → Prop} {c : Cycle} {p : Option Progress}

theorem of_asleep (h : Attended due c p) (ht : c.taken = none) :
    p = none ∧ due (.wake c.number) := by
  cases h with
  | asleep _ hwake => exact ⟨rfl, hwake⟩
  | analysing hne => exact absurd ht hne

theorem of_analysing (h : Attended due c p) (ht : c.taken ≠ none) :
    ∃ q, p = some q ∧ (q.found = none ∨ q.violations = none) ∧ q.Awaited due c.number := by
  cases h with
  | asleep hnone => exact absurd hnone ht
  | analysing _ hlacks hp => exact ⟨_, rfl, hlacks, hp⟩

theorem mono (h : Attended due c p) (hdue : ∀ e, due e → due' e) : Attended due' c p := by
  cases h with
  | asleep ht hwake => exact .asleep ht (hdue _ hwake)
  | analysing ht hlacks hp =>
    exact .analysing ht hlacks ⟨fun h => hdue _ (hp.found h), fun h => hdue _ (hp.violations h)⟩

/-- What is due for another cycle, or a pass of a cycle that sleeps, does not matter. -/
theorem drop {d : Due} (h : Attended (fun e => e = d ∨ due e) c p)
    (hd : c.number ≠ World.cycleOf d ∨ c.taken = none ∧ d ≠ .wake (World.cycleOf d)) :
    Attended due c p := by
  cases h with
  | asleep ht hwake =>
    refine .asleep ht (hwake.resolve_left ?_)
    rintro rfl
    rcases hd with hne | ⟨-, hne⟩ <;> exact hne rfl
  | analysing ht hlacks hp =>
    have hne : c.number ≠ World.cycleOf d := hd.resolve_right fun h => ht h.1
    refine .analysing ht hlacks ⟨fun h => (hp.found h).resolve_left ?_,
      fun h => (hp.violations h).resolve_left ?_⟩ <;>
    · rintro rfl
      exact hne rfl

end Attended

namespace World

/-- Somebody sees to every cycle, given what is due. -/
def Tended (w : World) (due : Due → Prop) : Prop :=
  ∀ c ∈ w.state.cycles, Attended due c (w.progress? c.number)

/-- Timers go off in order, the machine is where it can come to from its start, and the passes of a
cycle that is still to come have yielded nothing. -/
structure Orderly (w : World) : Prop where
  sorted : w.timers.Pairwise fun t u => t.instant ≤ u.instant
  reached : State.Leads {} w.state
  fresh : ∀ n, w.state.calls ≤ n → w.progress? n = none

variable {w v : World}

theorem Orderly.finish (h : w.Orderly) (n : Nat) (yield : Option Yield) :
    (w.finish n yield).Orderly := by
  have hleads := State.Leads.finish w.state n yield
  refine ⟨h.sorted, h.reached.trans hleads, ?_⟩
  intro m hm
  rw [progress?_finish, h.fresh m (Nat.le_trans hleads.calls hm), ite_self]

theorem Orderly.settle (h : w.Orderly) (n : Nat) : (w.settle n).Orderly :=
  settle_keeps h fun _ => h.finish n _

theorem Orderly.amend (h : w.Orderly) (n : Nat) {f : Progress → Progress}
    (hf : ∀ p, (f p).cycle = p.cycle) : (w.amend n f).Orderly := by
  refine ⟨h.sorted, h.reached, ?_⟩
  intro m hm
  change w.state.calls ≤ m at hm
  rw [progress?_amend w n hf]
  split_ifs with hmn
  · rw [← hmn, h.fresh m hm, Option.map_none]
  · exact h.fresh m hm

theorem Adds.progress? {ds : List Due} {n : Nat} (h : (w.begun n).Adds ds v) (m : Nat) :
    v.progress? m = (w.progress? m).or (if m = n then some (w.beginning n) else none) := by
  rw [← progress?_begun]
  unfold World.progress?
  rw [h.progress]

theorem Orderly.begun (h : w.Orderly) {n : Nat} {c : Cycle} (hc : w.state.cycle? n = some c)
    {ds : List Due} (hadds : (w.begun n).Adds ds v) : v.Orderly := by
  obtain ⟨a, ha, hok, -⟩ := h.reached.ok
  have hleads : w.state.Leads v.state := by
    rw [hadds.state]
    exact State.Leads.wake w.engine _ n
  refine ⟨hadds.sorted h.sorted, h.reached.trans hleads, ?_⟩
  intro m hm
  have hm' := Nat.le_trans hleads.calls hm
  have hlt : n < w.state.calls := by
    rw [← ha] at hc ⊢
    obtain ⟨hmem, rfl⟩ := State.cycle?_eq_some hc
    exact hok.number_lt hmem
  rw [hadds.progress?, h.fresh m hm', if_neg (by omega), Option.or_none]

theorem Orderly.finish_tended (hw : w.Orderly) {due : Due → Prop} {n : Nat} {yield : Option Yield}
    (h : ∀ c ∈ w.state.cycles, c.number ≠ n ∨ c.taken = none →
      Attended due c (w.progress? c.number)) : (w.finish n yield).Tended due := by
  obtain ⟨a, ha, hok, -⟩ := hw.reached.ok
  intro c hc
  change c ∈ (w.state.finish n yield).cycles at hc
  rw [← ha] at hc
  obtain ⟨hc, hstays⟩ := hok.mem_finish hc
  rw [ha] at hc
  have hattended := h c hc hstays
  rw [progress?_finish]
  split_ifs with hnum
  · -- A cycle with this number is still there only if it sleeps, and has no progress to lose.
    have ht : c.taken = none := hstays.resolve_left (not_not.mpr hnum)
    rwa [(hattended.of_asleep ht).1] at hattended
  · exact hattended

/-- A cycle settles when its passes have yielded all or what they have not yielded is due. -/
theorem Orderly.settle_tended (hw : w.Orderly) {due : Due → Prop} {n : Nat}
    (h : ∀ c ∈ w.state.cycles, Attended due c (w.progress? c.number) ∨
      c.number = n ∧ c.taken ≠ none ∧ ∃ p, w.progress? n = some p ∧ p.Awaited due n) :
    (w.settle n).Tended due := by
  rcases settle_cases w n with ⟨he, hlacks⟩ | ⟨y, he⟩ <;> rw [he]
  · intro c hc
    rcases h c hc with hattended | ⟨rfl, ht, p, hp, hawaited⟩
    · exact hattended
    · rw [hp]
      exact .analysing ht (hlacks p hp) hawaited
  · refine hw.finish_tended ?_
    intro c hc hstays
    rcases h c hc with hattended | ⟨hnum, ht, -⟩
    · exact hattended
    · rcases hstays with hne | hnone
      · exact absurd hnum hne
      · exact absurd hnone ht

theorem beginning_awaited (w : World) (n : Nat) :
    (w.beginning n).Awaited (· ∈ w.passes n) n := by
  constructor
  · intro h
    cases hv : w.config.validation <;> simp [beginning, passes, hv] at h ⊢
  · intro h
    cases hb : w.config.bestPractices <;> simp [beginning, passes, hb] at h ⊢

/-- A cycle that wakes is seen to: its passes are due, unless it has been awake before. -/
theorem Orderly.woken_tended (hw : w.Orderly) {n : Nat} {c : Cycle}
    (hc : w.state.cycle? n = some c) (h : w.Tended fun e => e = .wake n ∨ w.Awaits e)
    (hadds : (w.begun n).Adds (w.passes n) v) : (v.settle n).Tended v.Awaits := by
  obtain ⟨a, ha, hok, -⟩ := hw.reached.ok
  have hmore (e : Due) (he : w.Awaits e) : v.Awaits e := (hadds.awaits e).mpr (.inr he)
  refine (hw.begun hc hadds).settle_tended ?_
  intro c hc
  rw [hadds.state] at hc
  change c ∈ (w.state.wake n).cycles at hc
  rw [← ha] at hc
  rcases hok.mem_wake hc with ⟨hc, hne⟩ | ⟨hnum, ht, d, hd, hdnum⟩
  · rw [ha] at hc
    refine .inl ?_
    rw [hadds.progress?, if_neg hne, Option.or_none]
    exact ((h c hc).drop (.inl hne)).mono hmore
  · refine .inr ⟨hnum, ht, ?_⟩
    rw [hadds.progress?, if_pos rfl]
    rw [ha] at hd
    have hattended := h d hd
    rw [hdnum] at hattended
    by_cases hasleep : d.taken = none
    · have hawaited := beginning_awaited w n
      rw [(hattended.of_asleep hasleep).1]
      exact ⟨_, rfl, fun h => (hadds.awaits _).mpr (.inl (hawaited.found h)),
        fun h => (hadds.awaits _).mpr (.inl (hawaited.violations h))⟩
    · obtain ⟨p, hp, -, hawaited⟩ := hattended.of_analysing hasleep
      rw [hdnum] at hawaited
      rw [hp]
      exact ⟨p, rfl, fun h => hmore _ ((hawaited.found h).resolve_left nofun),
        fun h => hmore _ ((hawaited.violations h).resolve_left nofun)⟩

/-- A pass that yields what is due leaves its cycle with what is due otherwise. -/
theorem Orderly.yielded_tended (hw : w.Orderly) {d : Due} (hd : d ≠ .wake (cycleOf d))
    {f : Progress → Progress} (hf : Yields d f) (h : w.Tended fun e => e = d ∨ w.Awaits e) :
    ((w.amend (cycleOf d) f).settle (cycleOf d)).Tended w.Awaits := by
  refine (hw.amend _ hf.cycle).settle_tended ?_
  intro c hc
  have hattended := h c hc
  rw [progress?_amend w _ hf.cycle, progress?_amend w _ hf.cycle, if_pos rfl]
  by_cases hnum : c.number = cycleOf d
  · rw [if_pos hnum]
    rw [hnum] at hattended
    by_cases ht : c.taken = none
    · obtain ⟨hp, hwake⟩ := hattended.of_asleep ht
      rw [hp]
      exact .inl ((Attended.asleep ht hwake).drop (.inr ⟨ht, hd⟩))
    · obtain ⟨p, hp, -, hawaited⟩ := hattended.of_analysing ht
      rw [hnum] at hawaited
      rw [hp]
      refine .inr ⟨hnum, ht, f p, rfl, ?_, ?_⟩
      · intro hnone
        obtain ⟨hfound, hne⟩ := hf.found p hnone
        exact (hawaited.found hfound).resolve_left hne.symm
      · intro hnone
        obtain ⟨hviolations, hne⟩ := hf.violations p hnone
        exact (hawaited.violations hviolations).resolve_left hne.symm
  · rw [if_neg hnum]
    exact .inl (hattended.drop (.inl hnum))

/-- The world is in order, and somebody sees to every cycle. -/
structure Ok (w : World) : Prop extends Orderly w where
  tended : w.Tended w.Awaits

theorem ok_start (e : Engine) (config : LiveConfig) : Ok { engine := e, config } :=
  ⟨⟨List.Pairwise.nil, .refl _, fun _ _ => rfl⟩, nofun⟩

theorem Ok.withEngine (h : w.Ok) (e : Engine) : Ok { w with engine := e } :=
  ⟨⟨h.sorted, h.reached, h.fresh⟩, h.tended⟩

theorem Ok.withConfig (h : w.Ok) (config : LiveConfig) : Ok { w with config := config } :=
  ⟨⟨h.sorted, h.reached, h.fresh⟩, h.tended⟩

theorem Ok.withNow (h : w.Ok) (now : Nat) : Ok { w with now := now } :=
  ⟨⟨h.sorted, h.reached, h.fresh⟩, h.tended⟩

theorem settle_awaits (w : World) (n : Nat) : (w.settle n).Awaits = w.Awaits := by
  unfold Awaits
  rw [settle_timers]

/-- The world stays in order when something happens that was due. -/
theorem Fires.ok {d : Due} (h : Fires w d v) (hw : w.Orderly)
    (htended : w.Tended fun e => e = d ∨ w.Awaits e) : v.Ok := by
  cases h with
  | idle hc =>
    refine ⟨hw, ?_⟩
    intro c hmem
    exact (htended c hmem).drop (.inl (cycle?_eq_none.mp hc c hmem))
  | @woken n c w' hc hadds =>
    refine ⟨(hw.begun hc hadds).settle n, ?_⟩
    rw [settle_awaits]
    exact hw.woken_tended hc htended hadds
  | failed hd =>
    refine ⟨hw.finish _ none, hw.finish_tended ?_⟩
    intro c hc hstays
    exact (htended c hc).drop (hstays.imp_right fun ht => ⟨ht, hd⟩)
  | yielded hd hf =>
    refine ⟨(hw.amend _ hf.cycle).settle _, ?_⟩
    rw [settle_awaits]
    exact hw.yielded_tended hd hf htended

/-- The world stays in order when a timer goes off. -/
theorem Ok.tick (h : w.Ok) {deadline : Option Nat} (ht : w.tick? deadline = some v) : v.Ok := by
  obtain ⟨t, rest, htimers, -, hfires⟩ := tick?_eq_some ht
  have hsorted := h.sorted
  rw [htimers] at hsorted
  refine hfires.ok ⟨hsorted.of_cons, h.reached, h.fresh⟩ ?_
  intro c hc
  refine (h.tended c hc).mono ?_
  rintro e ⟨u, hu, rfl⟩
  rw [htimers] at hu
  rcases List.mem_cons.mp hu with rfl | hu
  · exact .inl rfl
  · exact .inr ⟨u, hu, rfl⟩

theorem settle_leads (w : World) (n : Nat) : w.state.Leads (w.settle n).state :=
  settle_keeps (P := fun v => w.state.Leads v.state) (.refl _) fun _ => .finish _ _ _

theorem Fires.leads {d : Due} (h : Fires w d v) : w.state.Leads v.state := by
  cases h with
  | idle => exact .refl _
  | @woken n c w' hc hadds =>
    have hwake : w.state.Leads w'.state := by
      rw [hadds.state]
      exact .wake w.engine _ n
    exact hwake.trans (settle_leads w' n)
  | failed => exact .finish _ _ _
  | @yielded _ f => exact settle_leads (w.amend (cycleOf d) f) _

theorem Ok.call (h : w.Ok) (session : String) (code : List Char) (dialect : String) :
    (w.call session code dialect).Ok := by
  have hadds := (Adds.refl (w.happen (.call session code dialect))).schedule
    (w.config.debounce * millisecond) (.wake w.state.calls)
  have hleads := State.Leads.call w.engine w.state session code dialect
  refine ⟨⟨hadds.sorted h.sorted, h.reached.trans hleads, ?_⟩, ?_⟩
  · intro n hn
    exact h.fresh n (Nat.le_trans hleads.calls hn)
  · intro c hc
    change Attended _ c (w.progress? c.number)
    rcases mem_call hc with hc | ⟨hnum, ht⟩
    · exact (h.tended c hc).mono fun e he => (hadds.awaits e).mpr (.inr he)
    · rw [h.fresh c.number (Nat.le_of_eq hnum.symm)]
      refine .asleep ht ((hadds.awaits _).mpr (.inl ?_))
      rw [hnum]
      exact List.mem_singleton_self _

theorem Ok.clear (h : w.Ok) (session : String) : (w.clear session).Ok := by
  have hleads := State.Leads.clear w.engine w.state session
  refine ⟨⟨h.sorted, h.reached.trans hleads, ?_⟩, ?_⟩
  · intro n hn
    exact h.fresh n (Nat.le_trans hleads.calls hn)
  · intro c hc
    exact h.tended c (clear_cycles_subset w.state session hc)

/-- The second world is the first some time later, and in order. -/
structure After (w v : World) : Prop extends Framed w v where
  ok : v.Ok
  leads : w.state.Leads v.state

variable {u : World}

theorem Ok.after (h : w.Ok) : w.After w := ⟨.refl w, h, .refl _⟩

theorem After.tick (h : w.After u) {deadline : Option Nat} (ht : u.tick? deadline = some v) :
    w.After v := by
  obtain ⟨t, rest, -, -, hfires⟩ := tick?_eq_some ht
  have hframed : u.Framed v := ⟨hfires.framed.engine, hfires.framed.config,
    hfires.framed.conditions⟩
  exact ⟨h.toFramed.trans hframed, h.ok.tick ht, h.leads.trans hfires.leads⟩

theorem After.runBy (h : w.After u) (n instant : Nat) : w.After (runBy n instant u) :=
  runBy_keeps (P := w.After) (fun _ _ hu ht => hu.tick ht) n h

theorem After.runWhile (h : w.After u) (condition : World → Bool) (n : Nat) :
    w.After (runWhile condition n u) :=
  runWhile_keeps (P := w.After) condition (fun _ _ hu ht => hu.tick ht) n h

theorem After.runUntil (h : w.After u) (instant : Nat) : w.After (u.runUntil instant) := by
  have hrun := h.runBy u.bound instant
  exact ⟨⟨hrun.engine, hrun.config, hrun.conditions⟩, hrun.ok.withNow _, hrun.leads⟩

theorem After.awaitWhile (h : w.After u) (condition : World → Bool) :
    w.After (u.awaitWhile condition) :=
  (h.runWhile condition u.bound).runUntil _

theorem Ok.advance (h : w.Ok) (duration : Nat) : w.After (w.advance duration) :=
  h.after.runUntil _

/-- Nothing is due any more after everything has happened that was due. -/
theorem Ok.runUntil_atRest (h : w.Ok) {instant : Nat} (hle : w.now ≤ instant) :
    (w.runUntil instant).AtRest := by
  have hrun := h.after.runBy w.bound instant
  have hnone : (runBy w.bound instant w).tick? (some instant) = none :=
    tick?_runBy (weight_le w.timers)
  intro t ht
  have hlate := tick?_eq_none hnone hrun.ok.sorted t ht
  exact Nat.max_lt.mpr ⟨by omega, hlate⟩

theorem Ok.advance_atRest (h : w.Ok) (duration : Nat) : (w.advance duration).AtRest :=
  h.runUntil_atRest (Nat.le_add_right _ _)

theorem Ok.awaitWhile_atRest (h : w.Ok) (condition : World → Bool) :
    (w.awaitWhile condition).AtRest :=
  (h.after.runWhile condition w.bound).ok.runUntil_atRest (Nat.le_refl _)

theorem Ok.cycles_eq_nil (h : w.Ok) (hnone : w.timers = []) : w.state.cycles = [] := by
  have hquiet (d : Due) : ¬ w.Awaits d := by
    rintro ⟨t, ht, -⟩
    rw [hnone] at ht
    cases ht
  rw [List.eq_nil_iff_forall_not_mem]
  intro c hc
  have hattended := h.tended c hc
  by_cases ht : c.taken = none
  · exact hquiet _ (hattended.of_asleep ht).2
  · obtain ⟨p, -, hlacks, hawaited⟩ := hattended.of_analysing ht
    rcases hlacks with hfound | hviolations
    · exact hquiet _ (hawaited.found hfound)
    · exact hquiet _ (hawaited.violations hviolations)

/-- When no timer is left, every call is answered. -/
theorem Ok.answered (h : w.Ok) (hnone : w.timers = []) {n : Nat} (hn : n < w.state.calls) :
    ∃ r ∈ w.state.answers, r.call = n := by
  obtain ⟨a, ha, hok, hcount⟩ := h.reached.ok
  have hcycles : a.state.cycles = [] := by
    rw [ha]
    exact h.cycles_eq_nil hnone
  have htaken : a.taken = [] := by simp [Analyzer.taken, hcycles]
  have hwaiting := hok.waiting_eq_nil hcycles
  -- The caller is somewhere, and there is no other place left.
  have hone := hcount n
  rw [Analyzer.occurrences, htaken, hwaiting, List.count_nil] at hone
  have hpos : 0 < (List.range w.state.calls).count n :=
    List.count_pos_iff.mpr (List.mem_range.mpr hn)
  have hmem : n ∈ a.answered := List.count_pos_iff.mp (by omega)
  rw [Analyzer.answered, ha] at hmem
  exact List.mem_map.mp hmem

/-- Whoever waits for the answer to a call gets it. -/
theorem Ok.answered_awaitWhile (h : w.Ok) {n : Nat} (hn : n < w.state.calls)
    (condition : World → Bool)
    (hc : ∀ u : World, condition u = false → ∃ r ∈ u.state.answers, r.call = n) :
    ∃ r ∈ (w.awaitWhile condition).state.answers, r.call = n := by
  have hrun := h.after.runWhile condition w.bound
  have hends : ∃ r ∈ (runWhile condition w.bound w).state.answers, r.call = n := by
    rcases runWhile_ends condition (weight_le w.timers) with hfalse | hnone
    · exact hc _ hfalse
    · exact hrun.ok.answered hnone (Nat.lt_of_lt_of_le hn hrun.leads.calls)
  obtain ⟨r, hr, hcall⟩ := hends
  have hleads := (hrun.ok.after.runUntil (runWhile condition w.bound w).now).leads
  exact ⟨r, hleads.answers hr, hcall⟩

end World

end CampaignCheck.Live

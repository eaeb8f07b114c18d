import CampaignCheck.Live.Clock
import CampaignCheck.Proofs.Live.Callers

namespace CampaignCheck.Live

namespace World

/-- The two worlds have the same engine, switches and conditions. -/
structure Framed (w w' : World) : Prop where
  engine : w'.engine = w.engine
  config : w'.config = w.config
  conditions : w'.conditions = w.conditions

theorem Framed.refl (w : World) : w.Framed w := ⟨rfl, rfl, rfl⟩

theorem Framed.trans {u v w : World} (huv : u.Framed v) (hvw : v.Framed w) : u.Framed w :=
  ⟨hvw.engine.trans huv.engine, hvw.config.trans huv.config, hvw.conditions.trans huv.conditions⟩

theorem settle_cases (w : World) (n : Nat) :
    (w.settle n = w ∧ ∀ p, w.progress? n = some p → p.found = none ∨ p.violations = none) ∨
      ∃ y, w.settle n = w.finish n (some y) := by
  unfold settle
  split
  · exact .inr ⟨_, rfl⟩
  · next hp =>
    refine .inl ⟨rfl, ?_⟩
    intro p hfound
    obtain ⟨cycle, found, violations⟩ := p
    cases found with
    | none => exact .inl rfl
    | some found =>
      cases violations with
      | none => exact .inr rfl
      | some violations => exact absurd hfound (hp cycle found violations)

theorem settle_keeps {P : World → Prop} {w : World} {n : Nat} (h : P w)
    (hfinish : ∀ y, P (w.finish n (some y))) : P (w.settle n) := by
  rcases settle_cases w n with ⟨he, -⟩ | ⟨y, he⟩
  · rw [he]
    exact h
  · rw [he]
    exact hfinish y

theorem settle_timers (w : World) (n : Nat) : (w.settle n).timers = w.timers :=
  settle_keeps (P := fun v => v.timers = w.timers) rfl fun _ => rfl

theorem settle_framed (w : World) (n : Nat) : w.Framed (w.settle n) :=
  settle_keeps (.refl w) fun _ => ⟨rfl, rfl, rfl⟩

theorem insertTimer_perm (t : Timer) (ts : List Timer) : (insertTimer t ts).Perm (t :: ts) := by
  induction ts with
  | nil => exact .refl _
  | cons u ts ih =>
    unfold insertTimer
    split_ifs
    · exact (ih.cons u).trans (.swap t u ts)
    · exact .refl _

theorem insertTimer_sorted (t : Timer) {ts : List Timer}
    (h : ts.Pairwise fun t u => t.instant ≤ u.instant) :
    (insertTimer t ts).Pairwise fun t u => t.instant ≤ u.instant := by
  induction ts with
  | nil => exact List.pairwise_singleton _ t
  | cons u ts ih =>
    obtain ⟨hu, hts⟩ := List.pairwise_cons.mp h
    unfold insertTimer
    split_ifs with hle
    · refine List.pairwise_cons.mpr ⟨?_, ih hts⟩
      intro v hv
      rcases List.mem_cons.mp ((insertTimer_perm t ts).mem_iff.mp hv) with rfl | hv
      · exact hle
      · exact hu v hv
    · refine List.pairwise_cons.mpr ⟨?_, h⟩
      intro v hv
      have hv' : u.instant ≤ v.instant := by
        rcases List.mem_cons.mp hv with rfl | hv
        · exact Nat.le_refl _
        · exact hu v hv
      omega

/-- How many timers go off because of something, itself included: a cycle that wakes sets two. -/
def weightOf : Due → Nat
  | .wake _ => 3
  | _ => 1

/-- How many timers go off because of these things at the most. -/
def load : List Due → Nat
  | [] => 0
  | d :: ds => weightOf d + load ds

/-- How many timers go off once these are set at the most. -/
def weight (ts : List Timer) : Nat := load (ts.map (·.due))

theorem weight_le (ts : List Timer) : weight ts ≤ 3 * ts.length := by
  induction ts with
  | nil => exact Nat.le_refl _
  | cons t ts ih =>
    have hone : weightOf t.due ≤ 3 := by cases t.due <;> simp [weightOf]
    simp only [weight, List.map_cons, load, List.length_cons] at ih ⊢
    omega

theorem weight_insertTimer (t : Timer) (ts : List Timer) :
    weight (insertTimer t ts) = weightOf t.due + weight ts := by
  induction ts with
  | nil => rfl
  | cons u ts ih =>
    unfold insertTimer
    split_ifs
    · simp only [weight, List.map_cons, load] at ih ⊢
      omega
    · rfl

def Awaits (w : World) (d : Due) : Prop := ∃ t ∈ w.timers, t.due = d

/-- The second world is the first with timers for some more things. -/
structure Adds (w : World) (ds : List Due) (w' : World) : Prop where
  framed : w.Framed w'
  now : w'.now = w.now
  state : w'.state = w.state
  progress : w'.progress = w.progress
  sorted : (w.timers.Pairwise fun t u => t.instant ≤ u.instant) →
    w'.timers.Pairwise fun t u => t.instant ≤ u.instant
  weight : weight w'.timers = weight w.timers + load ds
  awaits : ∀ e, w'.Awaits e ↔ e ∈ ds ∨ w.Awaits e

theorem Adds.refl (w : World) : w.Adds [] w :=
  ⟨.refl w, rfl, rfl, rfl, id, rfl, by simp⟩

theorem Adds.schedule {w w' : World} {ds : List Due} (h : w.Adds ds w') (delay : Nat) (d : Due) :
    w.Adds (d :: ds) (w'.schedule delay d) := by
  refine ⟨⟨h.framed.engine, h.framed.config, h.framed.conditions⟩, h.now, h.state, h.progress,
    fun hs => insertTimer_sorted _ (h.sorted hs), ?_, ?_⟩
  · have hweight := h.weight
    simp only [World.schedule, weight_insertTimer, load]
    omega
  · intro e
    have hmem (t : Timer) : t ∈ (w'.schedule delay d).timers ↔
        t = ⟨w'.now + delay, d⟩ ∨ t ∈ w'.timers := by
      simp [World.schedule, (insertTimer_perm _ _).mem_iff]
    rw [List.mem_cons, or_assoc, ← h.awaits e]
    constructor
    · rintro ⟨t, ht, rfl⟩
      rcases (hmem t).mp ht with rfl | ht
      · exact .inl rfl
      · exact .inr ⟨t, ht, rfl⟩
    · rintro (rfl | ⟨t, ht, rfl⟩)
      · exact ⟨_, (hmem _).mpr (.inl rfl), rfl⟩
      · exact ⟨t, (hmem t).mpr (.inr ht), rfl⟩

theorem Adds.scheduleIf {w w' : World} {ds : List Due} (h : w.Adds ds w') (b : Bool) (delay : Nat)
    (d : Due) :
    w.Adds ((if b then [d] else []) ++ ds) (if b then w'.schedule delay d else w') := by
  cases b with
  | true => exact h.schedule delay d
  | false => exact h

def cycleOf : Due → Nat
  | .wake n | .validate n | .enforce n => n

/-- What a cycle has when it wakes: nothing yet from the passes that are switched on. -/
def beginning (w : World) (n : Nat) : Progress :=
  ⟨n, if w.config.validation then none else some [],
    if w.config.bestPractices then none else some []⟩

def passes (w : World) (n : Nat) : List Due :=
  (if w.config.bestPractices then [.enforce n] else []) ++
    if w.config.validation then [.validate n] else []

/-- The world when a cycle has just woken. -/
def begun (w : World) (n : Nat) : World :=
  { w.happen (.wake n) with progress := w.progress ++ [w.beginning n] }

/-- What a pass does to its cycle's progress: it yields what is due, and nothing is lost. -/
structure Yields (d : Due) (f : Progress → Progress) : Prop where
  cycle : ∀ p, (f p).cycle = p.cycle
  found : ∀ p, (f p).found = none → p.found = none ∧ d ≠ .validate (cycleOf d)
  violations : ∀ p, (f p).violations = none → p.violations = none ∧ d ≠ .enforce (cycleOf d)

theorem yields_found (n : Nat) (found : List Finding) :
    Yields (.validate n) fun p => { p with found := some found } :=
  ⟨fun _ => rfl, nofun, fun _ h => ⟨h, nofun⟩⟩

theorem yields_violations (n : Nat) (violations : List Violation) :
    Yields (.enforce n) fun p => { p with violations := some violations } :=
  ⟨fun _ => rfl, fun _ h => ⟨h, nofun⟩, nofun⟩

/-- What becomes of the world when something due happens: nothing if its cycle is over; else the
cycle wakes and its passes start, or a pass fails, or a pass yields something. -/
inductive Fires (w : World) : Due → World → Prop
  | idle {d : Due} (hc : w.state.cycle? (cycleOf d) = none) : Fires w d w
  | woken {n : Nat} {c : Cycle} {w' : World} (hc : w.state.cycle? n = some c)
    (hadds : (w.begun n).Adds (w.passes n) w') : Fires w (.wake n) (w'.settle n)
  | failed {d : Due} (hd : d ≠ .wake (cycleOf d)) : Fires w d (w.finish (cycleOf d) none)
  | yielded {d : Due} {f : Progress → Progress} (hd : d ≠ .wake (cycleOf d)) (hf : Yields d f) :
    Fires w d ((w.amend (cycleOf d) f).settle (cycleOf d))

theorem wake_fires (w : World) (n : Nat) : Fires w (.wake n) (w.wake n) := by
  cases hc : w.state.cycle? n with
  | none =>
    have hsame : w.wake n = w := by simp [wake, hc]
    exact hsame.symm ▸ .idle hc
  | some c =>
    have hadds := ((Adds.refl (w.begun n)).scheduleIf w.config.validation
      (w.conditions .validate).delay (.validate n)).scheduleIf w.config.bestPractices
      (w.conditions .rules).delay (.enforce n)
    rw [List.append_nil] at hadds
    convert Fires.woken hc hadds using 1
    cases hv : w.config.validation <;> cases hb : w.config.bestPractices <;>
      simp [wake, hc, hv, hb, begun, beginning, happen, schedule]

theorem validate_fires (w : World) (n : Nat) : Fires w (.validate n) (w.validate n) := by
  unfold validate
  split
  · next hc => exact .idle hc
  · split_ifs
    · exact .failed nofun
    · split
      · exact .yielded nofun (yields_found n _)
      · exact .failed nofun

theorem enforce_fires (w : World) (n : Nat) : Fires w (.enforce n) (w.enforce n) := by
  unfold enforce
  split
  · next hc => exact .idle hc
  · split_ifs
    · exact .failed nofun
    · split
      · exact .yielded nofun (yields_violations n _)
      · exact .failed nofun

theorem fires (w : World) (d : Due) : Fires w d (w.fire d) := by
  cases d with
  | wake n => exact wake_fires w n
  | validate n => exact validate_fires w n
  | enforce n => exact enforce_fires w n

theorem Fires.framed {w v : World} {d : Due} (h : Fires w d v) : w.Framed v := by
  cases h with
  | idle => exact .refl w
  | @woken n c w' hc hadds =>
    have hbegun : w.Framed (w.begun n) := ⟨rfl, rfl, rfl⟩
    exact (hbegun.trans hadds.framed).trans (settle_framed w' n)
  | failed => exact ⟨rfl, rfl, rfl⟩
  | @yielded _ f =>
    have hamend : w.Framed (w.amend (cycleOf d) f) := ⟨rfl, rfl, rfl⟩
    exact hamend.trans (settle_framed _ _)

theorem load_passes (w : World) (n : Nat) : load (w.passes n) ≤ 2 := by
  unfold passes
  cases w.config.bestPractices <;> cases w.config.validation <;> simp [load, weightOf]

/-- What goes off keeps the timers in order and sets only few. -/
theorem Fires.timers {w v : World} {d : Due} (h : Fires w d v) :
    ((w.timers.Pairwise fun t u => t.instant ≤ u.instant) →
      v.timers.Pairwise fun t u => t.instant ≤ u.instant) ∧
    weight v.timers < weight w.timers + weightOf d := by
  have hone : 0 < weightOf d := by cases d <;> simp [weightOf]
  cases h with
  | idle => exact ⟨id, Nat.lt_add_of_pos_right hone⟩
  | @woken n _ _ _ hadds =>
    have hfew := load_passes w n
    have hthree : weightOf (.wake n) = 3 := rfl
    have hsame : (w.begun n).timers = w.timers := rfl
    rw [settle_timers, hadds.weight, hsame]
    exact ⟨hadds.sorted, by omega⟩
  | failed => exact ⟨id, Nat.lt_add_of_pos_right hone⟩
  | yielded =>
    rw [settle_timers]
    exact ⟨id, Nat.lt_add_of_pos_right hone⟩

theorem tick?_eq_some {w v : World} {deadline : Option Nat} (h : w.tick? deadline = some v) :
    ∃ t rest, w.timers = t :: rest ∧ deadline.all (t.instant ≤ ·) = true ∧
      Fires { w with now := max w.now t.instant, timers := rest } t.due v := by
  unfold tick? at h
  split at h
  · cases h
  · next t rest ht =>
    split_ifs at h with hdue
    obtain rfl := Option.some.inj h
    exact ⟨t, rest, ht, hdue, fires _ _⟩

theorem tick?_eq_none {w : World} {instant : Nat} (h : w.tick? (some instant) = none)
    (hs : w.timers.Pairwise fun t u => t.instant ≤ u.instant) :
    ∀ t ∈ w.timers, instant < t.instant := by
  unfold tick? at h
  split at h
  · next ht => simp [ht]
  · next t rest ht =>
    split_ifs at h with hdue
    have hlate : instant < t.instant := by simpa using hdue
    rw [ht] at hs ⊢
    intro u hu
    rcases List.mem_cons.mp hu with rfl | hu
    · exact hlate
    · exact Nat.lt_of_lt_of_le hlate (List.rel_of_pairwise_cons hs hu)

theorem timers_eq_nil {w : World} (h : w.tick? none = none) : w.timers = [] := by
  cases ht : w.timers with
  | nil => rfl
  | cons t rest => simp [tick?, ht] at h

/-- A timer that goes off leaves less to do. -/
theorem weight_tick {w v : World} {deadline : Option Nat} (h : w.tick? deadline = some v) :
    weight v.timers < weight w.timers := by
  obtain ⟨t, rest, ht, -, hfires⟩ := tick?_eq_some h
  have hless := hfires.timers.2
  have hsplit : weight w.timers = weightOf t.due + weight rest := by
    rw [ht]
    rfl
  change weight v.timers < weight rest + weightOf t.due at hless
  omega

theorem runBy_keeps {P : World → Prop} {instant : Nat}
    (htick : ∀ u v, P u → u.tick? (some instant) = some v → P v) (n : Nat) {w : World} (h : P w) :
    P (runBy n instant w) := by
  induction n generalizing w with
  | zero => exact h
  | succ n ih =>
    unfold runBy
    split
    · next v hv => exact ih (htick w v h hv)
    · exact h

theorem tick?_runBy {instant n : Nat} {w : World} (h : weight w.timers ≤ n) :
    (runBy n instant w).tick? (some instant) = none := by
  induction n generalizing w with
  | zero =>
    unfold runBy
    by_contra hsome
    obtain ⟨v, hv⟩ := Option.ne_none_iff_exists'.mp hsome
    have hless := weight_tick hv
    omega
  | succ n ih =>
    unfold runBy
    split
    · next v hv =>
      have hless := weight_tick hv
      exact ih (by omega)
    · next hnone => exact hnone

theorem runWhile_keeps {P : World → Prop} (condition : World → Bool)
    (htick : ∀ u v, P u → u.tick? none = some v → P v) (n : Nat) {w : World} (h : P w) :
    P (runWhile condition n w) := by
  induction n generalizing w with
  | zero => exact h
  | succ n ih =>
    unfold runWhile
    split_ifs
    · split
      · next v hv => exact ih (htick w v h hv)
      · exact h
    · exact h

/-- The condition has become false, or there is nothing left to wait for. -/
theorem runWhile_ends (condition : World → Bool) {n : Nat} {w : World}
    (h : weight w.timers ≤ n) :
    condition (runWhile condition n w) = false ∨ (runWhile condition n w).timers = [] := by
  induction n generalizing w with
  | zero =>
    unfold runWhile
    by_contra hsome
    obtain ⟨v, hv⟩ := Option.ne_none_iff_exists'.mp (mt timers_eq_nil (not_or.mp hsome).2)
    have hless := weight_tick hv
    omega
  | succ n ih =>
    unfold runWhile
    split_ifs with hc
    · split
      · next v hv =>
        have hless := weight_tick hv
        exact ih (by omega)
      · next hnone => exact .inr (timers_eq_nil hnone)
    · exact .inl (by simpa using hc)

/-- Nothing is due at the moment. -/
def AtRest (w : World) : Prop := ∀ t ∈ w.timers, w.now < t.instant

variable {w : World}

/-- Nothing happens at a moment when nothing is due. -/
theorem AtRest.runUntil_now (h : w.AtRest) : w.runUntil w.now = w := by
  have hnone : w.tick? (some w.now) = none := by
    unfold tick?
    split
    · rfl
    · next t rest ht =>
      have hlate := h t (by simp [ht])
      exact if_neg (by simpa using hlate)
  have hrun (n : Nat) : runBy n w.now w = w := by
    cases n with
    | zero => rfl
    | succ n => simp [runBy, hnone]
  unfold runUntil
  rw [hrun, Nat.max_self]

theorem AtRest.advance_zero (h : w.AtRest) : w.advance 0 = w := h.runUntil_now

/-- Nothing happens while nobody waits and nothing is due. -/
theorem AtRest.awaitWhile (h : w.AtRest) {condition : World → Bool} (hc : condition w = false) :
    w.awaitWhile condition = w := by
  have hrun (n : Nat) : runWhile condition n w = w := by
    cases n with
    | zero => rfl
    | succ n => simp [runWhile, hc]
  unfold World.awaitWhile
  rw [hrun]
  exact h.runUntil_now

/-- A call at a moment when nothing is due wakes its cycle later. -/
theorem AtRest.call (h : w.AtRest) (hpos : 0 < w.config.debounce) (session : String)
    (code : List Char) (dialect : String) : (w.call session code dialect).AtRest := by
  intro t ht
  rcases List.mem_cons.mp ((insertTimer_perm _ _).mem_iff.mp ht) with rfl | ht
  · exact Nat.lt_add_of_pos_right (Nat.mul_pos hpos (by decide))
  · exact h t ht

end World

end CampaignCheck.Live

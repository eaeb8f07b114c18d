import CampaignCheck.Proofs.Live.Invariant

namespace CampaignCheck.Live

namespace Analyzer

def waiting (a : Analyzer) : List Nat := a.state.sessions.flatMap (·.waiting)

def taken (a : Analyzer) : List Nat := a.state.cycles.flatMap fun c => c.taken.getD []

def answered (a : Analyzer) : List Nat := a.state.answers.map (·.call)

/-- How often a caller is found anywhere. -/
def occurrences (a : Analyzer) (n : Nat) : Nat :=
  a.waiting.count n + a.taken.count n + a.answered.count n

end Analyzer

variable {a : Analyzer}

theorem count_waiting_set {sessions : List Session} {i : Nat} {x : Session}
    (hx : sessions[i]? = some x) (y : Session) (n : Nat) :
    ((sessions.set i y).flatMap (·.waiting)).count n + x.waiting.count n =
      (sessions.flatMap (·.waiting)).count n + y.waiting.count n := by
  obtain ⟨hlt, hget⟩ := List.getElem?_eq_some_iff.mp hx
  have hsplit : sessions = sessions.take i ++ x :: sessions.drop (i + 1) := by
    rw [← hget, List.getElem_cons_drop, List.take_append_drop]
  have hset : sessions.set i y = sessions.take i ++ y :: sessions.drop (i + 1) :=
    List.set_eq_take_append_cons_drop.trans (if_pos hlt)
  have hold : (sessions.flatMap (·.waiting)).count n =
      ((sessions.take i).flatMap (·.waiting)).count n + x.waiting.count n +
        ((sessions.drop (i + 1)).flatMap (·.waiting)).count n := by
    conv => lhs; rw [hsplit]
    simp only [List.flatMap_append, List.flatMap_cons, List.count_append]
    omega
  rw [hset, hold]
  simp only [List.flatMap_append, List.flatMap_cons, List.count_append]
  omega

/-- Ending the pending cycle of a session loses no callers: it has taken none. -/
theorem taken_withoutPending (h : a.Ok) {i : Nat} {x : Session}
    (hx : a.state.sessions[i]? = some x) :
    (State.withoutPending a.state.cycles x).flatMap (fun c => c.taken.getD []) = a.taken := by
  have hfilter (cycles : List Cycle)
      (hc : ∀ c ∈ cycles, some c.number = x.pending → c.taken = none) :
      (State.withoutPending cycles x).flatMap (fun c => c.taken.getD []) =
        cycles.flatMap fun c => c.taken.getD [] := by
    induction cycles with
    | nil => rfl
    | cons c cycles ih =>
      have hrest := ih fun d hd => hc d (by simp [hd])
      unfold State.withoutPending at hrest ⊢
      by_cases hp : some c.number = x.pending
      · simp [hp, hrest, hc c (by simp) hp]
      · simp [hp, hrest]
  apply hfilter
  intro c hc hp
  obtain ⟨d, hd, hnum, -, ht⟩ := (h.sessions i x hx).pending c.number hp.symm
  rw [← h.eq_of_number hd hc hnum]
  exact ht

/-- A cycle among the others, which have other numbers. -/
theorem Analyzer.Ok.split_cycles (h : a.Ok) {c : Cycle} (hc : c ∈ a.state.cycles) :
    ∃ before after, a.state.cycles = before ++ c :: after ∧
      (∀ d ∈ before, d.number ≠ c.number) ∧ ∀ d ∈ after, d.number ≠ c.number := by
  obtain ⟨before, after, he⟩ := List.append_of_mem hc
  have hn := h.numbers
  rw [he, List.map_append, List.map_cons, List.nodup_append] at hn
  obtain ⟨-, hafter, hne⟩ := hn
  refine ⟨before, after, he, ?_, ?_⟩
  · intro d hd
    exact hne d.number (List.mem_map_of_mem hd) c.number (by simp)
  · intro d hd heq
    exact (List.nodup_cons.mp hafter).1 (heq ▸ List.mem_map_of_mem hd)

theorem taken_woken (h : a.Ok) {c : Cycle} (hc : c ∈ a.state.cycles) (ht : c.taken = none)
    (x : Session) (n : Nat) :
    (a.woken c x).taken.count n = a.taken.count n + x.waiting.count n := by
  obtain ⟨before, after, he, hbefore, hafter⟩ := h.split_cycles hc
  have hsame (cycles : List Cycle) (hd : ∀ d ∈ cycles, d.number ≠ c.number) :
      (cycles.map fun d => if d.number = c.number then { d with taken := some x.waiting } else d) =
        cycles := by
    refine (List.map_congr_left fun d hmem => ?_).trans (List.map_id _)
    exact if_neg (hd d hmem)
  simp only [Analyzer.taken, Analyzer.woken, he, List.map_append, List.map_cons, hsame _ hbefore,
    hsame _ hafter, if_true, List.flatMap_append, List.flatMap_cons, ht, List.count_append,
    Option.getD_some, Option.getD_none, List.count_nil]
  omega

theorem taken_settled (h : a.Ok) {c : Cycle} (hc : c ∈ a.state.cycles) {callers : List Nat}
    (ht : c.taken = some callers) (x : Session) (yield : Option Yield) (n : Nat) :
    (a.settled c x callers yield).taken.count n + callers.count n = a.taken.count n := by
  obtain ⟨before, after, he, hbefore, hafter⟩ := h.split_cycles hc
  have hsame (cycles : List Cycle) (hd : ∀ d ∈ cycles, d.number ≠ c.number) :
      cycles.filter (·.number != c.number) = cycles :=
    List.filter_eq_self.mpr fun d hmem => by simp [hd d hmem]
  simp only [Analyzer.taken, Analyzer.settled, he, List.filter_append, List.filter_cons,
    bne_self_eq_false, hsame _ hbefore, hsame _ hafter, List.flatMap_append, List.flatMap_cons, ht,
    List.count_append, Option.getD_some]
  simp only [Bool.false_eq_true, if_false]
  omega

theorem waiting_settled {c : Cycle} {x : Session} (hx : a.state.sessions[c.session]? = some x)
    (callers : List Nat) (yield : Option Yield) (n : Nat) :
    (a.settled c x callers yield).waiting.count n = a.waiting.count n := by
  unfold Analyzer.waiting Analyzer.settled
  simp only
  split_ifs
  · have hset := count_waiting_set hx (x.keep (State.outcome c x yield) c.sequence) n
    rw [(keep_frame x _ _).2.2.2.1] at hset
    omega
  · rfl

theorem move_occurrences {b : Analyzer} (h : a.Ok) (hm : Move a b) (n : Nat)
    (ha : a.occurrences n = (List.range a.state.calls).count n) :
    b.occurrences n = (List.range b.state.calls).count n := by
  unfold Analyzer.occurrences at ha ⊢
  cases hm with
  | opens name =>
    have hw : (a.opened name).waiting = a.waiting := by
      simp [Analyzer.waiting, Analyzer.opened, Session.fresh]
    rw [hw]
    exact ha
  | @arms i x code dialect hx ho =>
    have hw : (a.armed i x code dialect).waiting.count n =
        a.waiting.count n + [a.state.calls].count n := by
      have hset := count_waiting_set hx (x.afterCall a.state.calls) n
      simp only [Session.afterCall, List.count_append] at hset
      simp only [Analyzer.waiting, Analyzer.armed, Session.afterCall]
      omega
    have ht : (a.armed i x code dialect).taken = a.taken := by
      rw [← taken_withoutPending h hx]
      simp [Analyzer.taken, Analyzer.armed]
    have hr : (List.range (a.state.calls + 1)).count n =
        (List.range a.state.calls).count n + [a.state.calls].count n := by
      rw [List.range_succ, List.count_append]
    rw [hw, ht]
    change _ + a.answered.count n = (List.range (a.state.calls + 1)).count n
    omega
  | @takes c x hc ht hx =>
    have hset := count_waiting_set hx (x.afterWake c.number) n
    simp only [Session.afterWake, List.count_nil] at hset
    have hw : (a.woken c x).waiting.count n + x.waiting.count n = a.waiting.count n := hset
    have htaken := taken_woken h hc ht x n
    change _ + a.answered.count n = (List.range a.state.calls).count n
    omega
  | @settles c x callers yield hc ht hx =>
    have hw := waiting_settled hx callers yield n
    have htaken := taken_settled h hc ht x yield n
    have hanswered : (a.settled c x callers yield).answered.count n =
        a.answered.count n + callers.count n := by
      simp [Analyzer.answered, Analyzer.settled, Function.comp_def, List.count_append]
    change _ = (List.range a.state.calls).count n
    omega
  | @closes i x hx ho =>
    have hset := count_waiting_set hx x.closed n
    simp only [Session.closed, List.count_nil] at hset
    have hw : (a.shut i x).waiting.count n + x.waiting.count n = a.waiting.count n := hset
    have ht : (a.shut i x).taken = a.taken := taken_withoutPending h hx
    have hanswered : (a.shut i x).answered.count n = a.answered.count n + x.waiting.count n := by
      simp [Analyzer.answered, Analyzer.shut, Function.comp_def, List.count_append]
    rw [ht]
    change _ = (List.range a.state.calls).count n
    omega
  | configures config => exact ha

theorem moves_occurrences {b : Analyzer} (h : a.Ok) (hm : Moves a b) (n : Nat)
    (ha : a.occurrences n = (List.range a.state.calls).count n) :
    b.occurrences n = (List.range b.state.calls).count n := by
  induction hm with
  | refl => exact ha
  | tail hfirst hmove ih => exact move_occurrences (moves_ok h hfirst) hmove n ih

/-- Every caller is in one place. -/
theorem callers_perm (e : Engine) (config : LiveConfig) (acts : List Act) :
    let a := Analyzer.run e { config := config } acts
    (a.waiting ++ a.taken ++ a.answered).Perm (List.range a.state.calls) := by
  intro a
  rw [List.perm_iff_count]
  intro n
  have hn := moves_occurrences (start_ok config) (run_moves e { config := config } acts) n (by
    simp [Analyzer.occurrences, Analyzer.waiting, Analyzer.taken, Analyzer.answered])
  simpa [Analyzer.occurrences, List.count_append, Nat.add_assoc] using hn

theorem cycle?_eq_none {s : State} {n : Nat} :
    s.cycle? n = none ↔ ∀ c ∈ s.cycles, c.number ≠ n := by
  simp [State.cycle?, List.find?_eq_none]

theorem move_calls {b : Analyzer} (hm : Move a b) : a.state.calls ≤ b.state.calls := by
  cases hm with
  | arms => exact Nat.le_succ _
  | _ => exact Nat.le_refl _

theorem moves_calls {b : Analyzer} (hm : Moves a b) : a.state.calls ≤ b.state.calls := by
  induction hm with
  | refl => exact Nat.le_refl _
  | tail _ hmove ih => exact Nat.le_trans ih (move_calls hmove)

/-- A cycle that is over never comes back. -/
theorem moves_gone {b : Analyzer} (hm : Moves a b) {n : Nat} (hn : n < a.state.calls)
    (ha : a.state.cycle? n = none) : n < b.state.calls ∧ b.state.cycle? n = none := by
  induction hm with
  | refl => exact ⟨hn, ha⟩
  | tail _ hmove ih =>
    obtain ⟨hlt, hgone⟩ := ih
    refine ⟨Nat.lt_of_lt_of_le hlt (move_calls hmove), ?_⟩
    rw [cycle?_eq_none] at hgone ⊢
    intro c hc
    cases hmove with
    | opens name => exact hgone c hc
    | arms code dialect hx ho =>
      rcases List.mem_append.mp hc with hc | hc
      · exact hgone c (List.mem_of_mem_filter hc)
      · rw [List.mem_singleton.mp hc]
        exact Nat.ne_of_gt hlt
    | takes hmem ht hx =>
      obtain ⟨d, hd, rfl⟩ := List.mem_map.mp hc
      have hne := hgone d hd
      split_ifs <;> exact hne
    | settles yield hmem ht hx => exact hgone c (List.mem_of_mem_filter hc)
    | closes hx ho => exact hgone c (List.mem_of_mem_filter hc)
    | configures config => exact hgone c hc

theorem close_cycles_subset (s : State) (i : Nat) : (s.close i).cycles ⊆ s.cycles := by
  unfold State.close
  split
  · exact List.Subset.refl _
  · exact List.filter_subset_self _

theorem close_answers (s : State) (i : Nat) :
    ∃ new, (s.close i).answers = s.answers ++ new ∧ ∀ r ∈ new, r.result = .empty 0 := by
  unfold State.close
  split
  · exact ⟨[], by simp, by simp⟩
  · exact ⟨_, rfl, by simp⟩

theorem close_closed {s : State} {i j : Nat}
    (h : i = j ∨ ∀ x, s.sessions[j]? = some x → x.isOpen = false) :
    ∀ x, (s.close i).sessions[j]? = some x → x.isOpen = false := by
  intro x hx
  unfold State.close at hx
  split at hx
  · next hi =>
    rcases h with rfl | h
    · rw [hi] at hx
      cases hx
    · exact h x hx
  · rcases getElem?_set_cases hx with ⟨-, rfl⟩ | ⟨hne, hx⟩
    · rfl
    · rcases h with rfl | h
      · exact absurd rfl hne
      · exact h x hx

/-- What holds and is kept by closing a session holds after a shutdown. -/
theorem shutdown_induction {s : State} {P : State → Prop} (hs : P s)
    (hclose : ∀ t i, P t → P (t.close i)) : P s.shutdown := by
  have hfold (places : List Nat) (t : State) (ht : P t) : P (places.foldl (fun t i =>
      if (s.sessions[i]?.map (·.isOpen)).getD false then t.close i else t) t) := by
    induction places generalizing t with
    | nil => exact ht
    | cons i places ih =>
      rw [List.foldl_cons]
      split_ifs
      · exact ih _ (hclose t i ht)
      · exact ih t ht
  exact hfold _ s hs

theorem shutdown_answers (s : State) :
    ∃ new, s.shutdown.answers = s.answers ++ new ∧ ∀ r ∈ new, r.result = .empty 0 := by
  refine shutdown_induction
    (P := fun t => ∃ new, t.answers = s.answers ++ new ∧ ∀ r ∈ new, r.result = .empty 0)
    ⟨[], (List.append_nil _).symm, by simp⟩ ?_
  rintro t i ⟨new, hnew, hempty⟩
  obtain ⟨more, hmore, hmoreEmpty⟩ := close_answers t i
  refine ⟨new ++ more, by rw [hmore, hnew, List.append_assoc], ?_⟩
  exact List.forall_mem_append.mpr ⟨hempty, hmoreEmpty⟩

theorem shutdown_closed {s : State} {j : Nat} {x : Session} (hx : s.sessions[j]? = some x)
    (ho : x.isOpen = true) : ∀ y, s.shutdown.sessions[j]? = some y → y.isOpen = false := by
  -- Either the place is still to come, or its session is closed already.
  have hfold (places : List Nat) (t : State)
      (h : j ∈ places ∨ ∀ y, t.sessions[j]? = some y → y.isOpen = false) :
      ∀ y, (places.foldl (fun t i =>
        if (s.sessions[i]?.map (·.isOpen)).getD false then t.close i else t) t).sessions[j]? =
          some y → y.isOpen = false := by
    induction places generalizing t with
    | nil => simpa using h
    | cons i places ih =>
      rw [List.foldl_cons]
      by_cases hij : i = j
      · subst hij
        simp only [hx, Option.map_some, ho, Option.getD_some, if_true]
        exact ih _ (.inr (close_closed (.inl rfl)))
      · have hrest : j ∈ places ∨ ∀ y, t.sessions[j]? = some y → y.isOpen = false := by
          simpa [Ne.symm hij] using h
        split_ifs
        · rcases hrest with hmem | hclosed
          · exact ih _ (.inl hmem)
          · exact ih _ (.inr (close_closed (.inr hclosed)))
        · exact ih t hrest
  have hlt : j < s.sessions.length := (List.getElem?_eq_some_iff.mp hx).1
  exact hfold _ s (.inl (List.mem_range.mpr hlt))

/-- The act replaces the sleeping cycle of the session that a cycle belongs to, or ends it. -/
def Act.Cancels (a : Analyzer) (c : Cycle) : Act → Prop
  | .call name _ _ => a.state.find? name = some c.session
  | .clear name => a.state.find? name = some c.session
  | .shutdown => True
  | _ => False

theorem gone_of_cancels (e : Engine) (h : a.Ok) {c : Cycle} (hc : c ∈ a.state.cycles)
    (ht : c.taken = none) {act : Act} (hact : act.Cancels a c) :
    (a.step e act).state.cycle? c.number = none := by
  obtain ⟨x, hx, -, hsleep⟩ := (h.cycles c hc).session
  obtain ⟨ho, hp, -⟩ := hsleep ht
  have hwithout : ∀ d ∈ State.withoutPending a.state.cycles x, d.number ≠ c.number := by
    intro d hd
    have hne := (List.mem_filter.mp hd).2
    simpa [hp] using hne
  rw [cycle?_eq_none]
  intro d hd
  cases act with
  | call name code dialect =>
    have hfind : a.state.find? name = some c.session := hact
    simp only [Analyzer.step, State.step, State.call, State.ensure, hfind, hx] at hd
    rcases List.mem_append.mp hd with hd | hd
    · exact hwithout d hd
    · rw [List.mem_singleton.mp hd]
      exact Nat.ne_of_gt (h.number_lt hc)
  | clear name =>
    have hfind : a.state.find? name = some c.session := hact
    simp only [Analyzer.step, State.step, State.clear, hfind, State.close, hx] at hd
    exact hwithout d hd
  | shutdown =>
    intro he
    have hsub : a.state.shutdown.cycles ⊆ a.state.cycles :=
      shutdown_induction (P := fun t => t.cycles ⊆ a.state.cycles) (List.Subset.refl _)
        fun t i hsub => List.Subset.trans (close_cycles_subset t i) hsub
    obtain rfl := h.eq_of_number (hsub hd) hc he
    have hb := moves_ok h (step_moves e a .shutdown)
    obtain ⟨y, hy, -, hopen⟩ := (hb.cycles d hd).session
    have hclosed := shutdown_closed hx ho y hy
    rw [(hopen ht).1] at hclosed
    cases hclosed
  | _ => cases hact

/-- Nothing happens when a cycle that is over wakes or ends. -/
theorem step_of_gone (e : Engine) {n : Nat} (h : a.state.cycle? n = none) :
    a.step e (.wake n) = a ∧ a.step e (.fail n) = a ∧
      ∀ switches, a.step e (.complete n switches) = a := by
  simp [Analyzer.step, State.step, State.wake, State.finish, h]

/-- The act answers a call rightly: with what the pass of a cycle of the same session found, armed
by that call or a later one and computed on the source of the call that armed it; or, if that pass
fails, with what the session keeps, else with nothing; or with nothing because the session is
closed. -/
def Resolves (e : Engine) (a : Analyzer) (act : Act) (r : Answer) : Prop :=
  ∃ k, a.log[r.call]? = some k ∧
    ((∃ m j x, a.log[m]? = some j ∧ j.session = k.session ∧ k.sequence ≤ j.sequence ∧
        a.state.sessions[j.session]? = some x ∧
        ((∃ switches y, act = .complete m switches ∧
            analysis? e switches j.dialect j.code = some y ∧
            r.result = LiveResult.merge y.found y.violations j.sequence) ∨
          r.result = x.last.getD (.empty j.sequence) ∧
            (act = .fail m ∨ ∃ switches, act = .complete m switches ∧
              analysis? e switches j.dialect j.code = none))) ∨
      r.result = .empty 0 ∧ (act = .shutdown ∨ ∃ name, act = .clear name))

/-- The answers at the end of a pass. -/
theorem finish_answers (s : State) (number : Nat) (yield : Option Yield) :
    (s.finish number yield).answers = s.answers ∨
      ∃ c callers x, s.cycle? number = some c ∧ c.taken = some callers ∧
        s.sessions[c.session]? = some x ∧ (s.finish number yield).answers =
          s.answers ++ callers.map fun n => ⟨n, State.outcome c x yield⟩ := by
  unfold State.finish
  cases hc : s.cycle? number with
  | none => exact .inl rfl
  | some c =>
    simp only
    cases ht : c.taken with
    | none => exact .inl rfl
    | some callers =>
      cases hx : s.sessions[c.session]? with
      | none => exact .inl rfl
      | some x => exact .inr ⟨c, callers, x, rfl, ht, hx, rfl⟩

/-- The end of a pass answers the callers of its cycle rightly. -/
theorem finish_resolves (e : Engine) (h : a.Ok) {number : Nat} {yield : Option Yield} {act : Act}
    (hact : ∀ c, a.state.cycle? number = some c →
      (∃ switches y, act = .complete c.number switches ∧ yield = some y ∧
        analysis? e switches c.dialect c.code = some y) ∨
      yield = none ∧ (act = .fail c.number ∨ ∃ switches, act = .complete c.number switches ∧
        analysis? e switches c.dialect c.code = none)) :
    ∃ new, (a.state.finish number yield).answers = a.state.answers ++ new ∧
      ∀ r ∈ new, Resolves e a act r := by
  rcases finish_answers a.state number yield with he | ⟨c, callers, x, hc, ht, hx, he⟩
  · exact ⟨[], by simp [he], by simp⟩
  · refine ⟨_, he, ?_⟩
    intro r hr
    obtain ⟨n, hn, rfl⟩ := List.mem_map.mp hr
    have hok := h.cycles c (State.cycle?_eq_some hc).1
    obtain ⟨k, hk, hsess, hseq⟩ := hok.callers callers ht n hn
    refine ⟨k, hk, .inl ⟨c.number, _, x, hok.logged, hsess.symm, hseq, hx, ?_⟩⟩
    rcases hact c hc with ⟨switches, y, hdone, rfl, hy⟩ | ⟨rfl, hfailed⟩
    · exact .inl ⟨switches, y, hdone, hy, rfl⟩
    · exact .inr ⟨rfl, hfailed⟩

/-- Answers that are given when sessions are closed. -/
theorem closed_resolves (e : Engine) {b : Analyzer} {act : Act} {new : List Answer}
    (hb : b.Ok) (hcount : ∀ n, b.occurrences n = (List.range b.state.calls).count n)
    (hlog : b.log = a.log) (hnew : b.state.answers = a.state.answers ++ new)
    (hempty : ∀ r ∈ new, r.result = .empty 0)
    (hact : act = .shutdown ∨ ∃ name, act = .clear name) : ∀ r ∈ new, Resolves e a act r := by
  intro r hr
  have hmem : r.call ∈ b.answered := by
    apply List.mem_map_of_mem
    rw [hnew]
    exact List.mem_append_right _ hr
  have hpos : 0 < (List.range b.state.calls).count r.call := by
    have hone := List.count_pos_iff.mpr hmem
    have htotal := hcount r.call
    unfold Analyzer.occurrences at htotal
    omega
  have hlt : r.call < a.log.length := by
    rw [← hlog, hb.calls]
    exact List.mem_range.mp (List.count_pos_iff.mp hpos)
  exact ⟨a.log[r.call], List.getElem?_eq_getElem hlt, .inr ⟨hempty r hr, hact⟩⟩

/-- Answers are never taken back, and whoever is answered is answered rightly. -/
theorem step_resolves (e : Engine) (h : a.Ok)
    (hcount : ∀ n, a.occurrences n = (List.range a.state.calls).count n) (act : Act) :
    ∃ new, (a.step e act).state.answers = a.state.answers ++ new ∧
      ∀ r ∈ new, Resolves e a act r := by
  have hmoves := step_moves e a act
  have hb := moves_ok h hmoves
  have hbcount (n : Nat) := moves_occurrences h hmoves n (hcount n)
  cases act with
  | call name code dialect =>
    refine ⟨[], ?_, by simp⟩
    simp only [Analyzer.step, State.step, State.call, State.ensure]
    cases a.state.find? name with
    | some i => cases a.state.sessions[i]? <;> simp
    | none => simp
  | wake cycle =>
    refine ⟨[], ?_, by simp⟩
    simp only [Analyzer.step, State.step, State.wake, List.append_nil]
    split
    · rfl
    · split <;> rfl
  | complete cycle switches =>
    apply finish_resolves e h
    intro c hc
    obtain ⟨-, hnum⟩ := State.cycle?_eq_some hc
    rw [hc, Option.bind_some]
    cases hy : analysis? e switches c.dialect c.code with
    | some y => exact .inl ⟨switches, y, by rw [hnum], rfl, hy⟩
    | none => exact .inr ⟨rfl, .inr ⟨switches, by rw [hnum], hy⟩⟩
  | fail cycle =>
    apply finish_resolves e h
    intro c hc
    obtain ⟨-, hnum⟩ := State.cycle?_eq_some hc
    exact .inr ⟨rfl, .inl (by rw [hnum])⟩
  | clear name =>
    have hanswers : ∃ new, (a.state.clear name).answers = a.state.answers ++ new ∧
        ∀ r ∈ new, r.result = .empty 0 := by
      unfold State.clear
      split
      · exact close_answers _ _
      · exact ⟨[], by simp, by simp⟩
    obtain ⟨new, hnew, hempty⟩ := hanswers
    exact ⟨new, hnew, closed_resolves e hb hbcount rfl hnew hempty (.inr ⟨name, rfl⟩)⟩
  | shutdown =>
    obtain ⟨new, hnew, hempty⟩ := shutdown_answers a.state
    exact ⟨new, hnew, closed_resolves e hb hbcount rfl hnew hempty (.inl rfl)⟩
  | configure config => exact ⟨[], by simp [Analyzer.step], by simp⟩

/-- After every run: a session has at most one sleeping cycle; every caller so far waits in a
session, or is served by an analysing cycle, or has been answered, and is there once; those who wait
do so in an open session whose pending cycle sleeps. Whatever happens next, answers stay, and each
new one is right. A cycle that is replaced or cleared in its sleep is gone for good: nothing happens
any more when it wakes or ends. -/
theorem callers_answered_once (e : Engine) (config : LiveConfig) (acts : List Act) :
    let a := Analyzer.run e { config := config } acts
    (∀ c ∈ a.state.cycles, ∀ d ∈ a.state.cycles, c.taken = none → d.taken = none →
      c.session = d.session → c = d) ∧
    (a.waiting ++ a.taken ++ a.answered).Perm (List.range a.state.calls) ∧
    (∀ (i : Nat) (x : Session), a.state.sessions[i]? = some x → x.waiting ≠ [] →
      x.isOpen = true ∧ ∃ c ∈ a.state.cycles,
        x.pending = some c.number ∧ c.session = i ∧ c.taken = none) ∧
    (∀ act, ∃ new, (a.step e act).state.answers = a.state.answers ++ new ∧
      ∀ r ∈ new, Resolves e a act r) ∧
    (∀ c ∈ a.state.cycles, c.taken = none → ∀ act : Act, act.Cancels a c → ∀ more,
      let b := (a.step e act).run e more
      b.state.cycle? c.number = none ∧ b.step e (.wake c.number) = b ∧
        b.step e (.fail c.number) = b ∧ ∀ switches, b.step e (.complete c.number switches) = b) := by
  intro a
  have hok : a.Ok := run_ok e (start_ok config) acts
  have hperm := callers_perm e config acts
  refine ⟨?_, hperm, ?_, ?_, ?_⟩
  · intro c hc d hd htc htd hsess
    obtain ⟨x, hx, -, hsleep⟩ := (hok.cycles c hc).session
    have hd' := (hok.sleeping hd htd (hsess ▸ hx)).2.1
    exact hok.eq_of_number hc hd (Option.some.inj ((hsleep htc).2.1.symm.trans hd'))
  · intro i x hx hne
    have hxok := hok.sessions i x hx
    obtain ⟨n, hn⟩ := Option.ne_none_iff_exists'.mp (hxok.waiting hne)
    obtain ⟨c, hc, hnum, hsess, ht⟩ := hxok.pending n hn
    refine ⟨(hok.sleeping hc ht (by rw [hsess]; exact hx)).1, c, hc, ?_, hsess, ht⟩
    rw [hn, hnum]
  · intro act
    refine step_resolves e hok (fun n => ?_) act
    have hcount := hperm.count_eq n
    simpa [Analyzer.occurrences, List.count_append, Nat.add_assoc] using hcount
  · intro c hc ht act hact more b
    have hgone := gone_of_cancels e hok hc ht hact
    have hcalls : c.number < (a.step e act).state.calls := by
      have hlt := hok.number_lt hc
      have hstep := moves_calls (step_moves e a act)
      omega
    have hb := (moves_gone (run_moves e (a.step e act) more) hcalls hgone).2
    exact ⟨hb, step_of_gone e hb⟩

end CampaignCheck.Live

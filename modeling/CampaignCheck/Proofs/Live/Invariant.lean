import CampaignCheck.Analysis.Engine
import CampaignCheck.Live.Config
import CampaignCheck.Live.Machine
import Mathlib.Data.List.Nodup
import Mathlib.Logic.Relation

namespace CampaignCheck.Live

/-- A call as it was made: the place of its session, its number there, and its source. -/
structure Call where
  session : Nat
  sequence : Nat
  code : List Char
  dialect : String
deriving DecidableEq, Repr, Inhabited

/-- The machine with its switches and every call so far. The cycle that a call arms has the number
of the call in the log. -/
structure Analyzer where
  config : LiveConfig
  state : State := {}
  log : List Call := []
deriving Inhabited

/-- Something that happens to the analyzer. A pass completes with the switches that it saw when it
started, which may have been changed since; it can also fail for reasons of its own. -/
inductive Act where
  | call (session : String) (code : List Char) (dialect : String)
  | wake (cycle : Nat)
  | complete (cycle : Nat) (switches : LiveConfig)
  | fail (cycle : Nat)
  | clear (session : String)
  | shutdown
  | configure (config : LiveConfig)
deriving Inhabited

/-- What a pass over a source yields, with nothing from what is switched off. -/
def analysis? (e : Engine) (switches : LiveConfig) (dialect : String) (code : List Char) :
    Option Yield :=
  match (if switches.validation then e.diagnose dialect code else .ok []),
    (if switches.bestPractices then e.enforce dialect code else .ok []) with
  | .ok found, .ok violations => some ⟨found, violations⟩
  | _, _ => none

/-- The entry of the log for a call that is made now. -/
def State.entry (s : State) (name : String) (code : List Char) (dialect : String) : Call :=
  let (t, i) := s.ensure name
  ⟨i, ((t.sessions[i]?.map (·.issued)).getD 0) + 1, code, dialect⟩

namespace Analyzer

def step (e : Engine) (a : Analyzer) : Act → Analyzer
  | .call name code dialect =>
    { a with
      state := a.state.step (.call name code dialect)
      log := a.log ++ [a.state.entry name code dialect] }
  | .wake cycle => { a with state := a.state.step (.wake cycle) }
  | .complete cycle switches =>
    { a with state := a.state.step (.finish cycle
        ((a.state.cycle? cycle).bind fun c => analysis? e switches c.dialect c.code)) }
  | .fail cycle => { a with state := a.state.step (.finish cycle none) }
  | .clear name => { a with state := a.state.step (.clear name) }
  | .shutdown => { a with state := a.state.step .shutdown }
  | .configure config => { a with config := config }

def run (e : Engine) (a : Analyzer) (acts : List Act) : Analyzer := acts.foldl (step e) a

end Analyzer

namespace Analyzer

/-- A new session, behind all others. -/
def opened (a : Analyzer) (name : String) : Analyzer :=
  { a with state := { a.state with sessions := a.state.sessions ++ [.fresh name] } }

def armed (a : Analyzer) (i : Nat) (x : Session) (code : List Char) (dialect : String) : Analyzer :=
  { a with
    state := { a.state with
      sessions := a.state.sessions.set i (x.afterCall a.state.calls)
      cycles := State.withoutPending a.state.cycles x ++
        [⟨a.state.calls, i, code, dialect, x.issued + 1, none⟩]
      calls := a.state.calls + 1 }
    log := a.log ++ [⟨i, x.issued + 1, code, dialect⟩] }

def woken (a : Analyzer) (c : Cycle) (x : Session) : Analyzer :=
  { a with state := { a.state with
      sessions := a.state.sessions.set c.session (x.afterWake c.number)
      cycles := a.state.cycles.map fun d =>
        if d.number = c.number then { d with taken := some x.waiting } else d } }

/-- The pass of a cycle has ended and its callers are answered. -/
def settled (a : Analyzer) (c : Cycle) (x : Session) (callers : List Nat) (yield : Option Yield) :
    Analyzer :=
  { a with state := { a.state with
      sessions :=
        if yield.isSome then
          a.state.sessions.set c.session (x.keep (State.outcome c x yield) c.sequence)
        else a.state.sessions
      cycles := a.state.cycles.filter (·.number != c.number)
      answers := a.state.answers ++ callers.map fun n => ⟨n, State.outcome c x yield⟩ } }

def shut (a : Analyzer) (i : Nat) (x : Session) : Analyzer :=
  { a with state := { a.state with
      sessions := a.state.sessions.set i x.closed
      cycles := State.withoutPending a.state.cycles x
      answers := a.state.answers ++ x.waiting.map fun n => ⟨n, .empty 0⟩ } }

end Analyzer

/-- One such change, where it can take place. -/
inductive Move (a : Analyzer) : Analyzer → Prop
  | opens (name : String) : Move a (a.opened name)
  | arms {i : Nat} {x : Session} (code : List Char) (dialect : String)
    (hx : a.state.sessions[i]? = some x) (ho : x.isOpen = true) :
    Move a (a.armed i x code dialect)
  | takes {c : Cycle} {x : Session} (hc : c ∈ a.state.cycles) (ht : c.taken = none)
    (hx : a.state.sessions[c.session]? = some x) : Move a (a.woken c x)
  | settles {c : Cycle} {x : Session} {callers : List Nat} (yield : Option Yield)
    (hc : c ∈ a.state.cycles) (ht : c.taken = some callers)
    (hx : a.state.sessions[c.session]? = some x) : Move a (a.settled c x callers yield)
  | closes {i : Nat} {x : Session} (hx : a.state.sessions[i]? = some x) (ho : x.isOpen = true) :
    Move a (a.shut i x)
  | configures (config : LiveConfig) : Move a { a with config := config }

abbrev Moves : Analyzer → Analyzer → Prop := Relation.ReflTransGen Move

namespace State

theorem find?_eq_some {s : State} {name : String} {i : Nat} (h : s.find? name = some i) :
    ∃ x, s.sessions[i]? = some x ∧ x.isOpen = true ∧ x.name = name := by
  obtain ⟨hi, hp, -⟩ := List.findIdx?_eq_some_iff_getElem.mp h
  simp only [Bool.and_eq_true, beq_iff_eq] at hp
  exact ⟨s.sessions[i], List.getElem?_eq_getElem hi, hp.1, hp.2⟩

theorem cycle?_eq_some {s : State} {number : Nat} {c : Cycle} (h : s.cycle? number = some c) :
    c ∈ s.cycles ∧ c.number = number :=
  ⟨List.mem_of_find?_eq_some h, by simpa using List.find?_some h⟩

end State

theorem call_moves (e : Engine) (a : Analyzer) (name : String) (code : List Char)
    (dialect : String) : Moves a (a.step e (.call name code dialect)) := by
  simp only [Analyzer.step, State.step, State.call, State.entry, State.ensure]
  cases hfind : a.state.find? name with
  | some i =>
    obtain ⟨x, hx, ho, -⟩ := State.find?_eq_some hfind
    simp only [hx, Option.map_some, Option.getD_some]
    exact .single (.arms code dialect hx ho)
  | none =>
    have hx : (a.state.sessions ++ [Session.fresh name])[a.state.sessions.length]? =
        some (.fresh name) := by simp
    simp only [hx, Option.map_some, Option.getD_some]
    exact .tail (.single (.opens name)) (.arms code dialect hx rfl)

theorem wake_moves (e : Engine) (a : Analyzer) (cycle : Nat) :
    Moves a (a.step e (.wake cycle)) := by
  simp only [Analyzer.step, State.step, State.wake]
  cases hc : a.state.cycle? cycle with
  | none => exact .refl
  | some c =>
    obtain ⟨hmem, rfl⟩ := State.cycle?_eq_some hc
    simp only
    cases ht : c.taken with
    | some callers => exact .refl
    | none =>
      cases hx : a.state.sessions[c.session]? with
      | none => exact .refl
      | some x => exact .single (.takes hmem ht hx)

theorem finish_moves (a : Analyzer) (cycle : Nat) (yield : Option Yield) :
    Moves a { a with state := a.state.finish cycle yield } := by
  simp only [State.finish]
  cases hc : a.state.cycle? cycle with
  | none => exact .refl
  | some c =>
    obtain ⟨hmem, rfl⟩ := State.cycle?_eq_some hc
    simp only
    cases ht : c.taken with
    | none => exact .refl
    | some callers =>
      cases hx : a.state.sessions[c.session]? with
      | none => exact .refl
      | some x => exact .single (.settles yield hmem ht hx)

theorem clear_moves (e : Engine) (a : Analyzer) (name : String) :
    Moves a (a.step e (.clear name)) := by
  simp only [Analyzer.step, State.step, State.clear]
  cases hfind : a.state.find? name with
  | none => exact .refl
  | some i =>
    obtain ⟨x, hx, ho, -⟩ := State.find?_eq_some hfind
    simp only [State.close, hx]
    exact .single (.closes hx ho)

/-- Closing the sessions at some places, which have not been closed before. -/
theorem shutdown_moves (e : Engine) (a : Analyzer) : Moves a (a.step e .shutdown) := by
  have hfold (places : List Nat) (hn : places.Nodup) (b : Analyzer)
      (hb : ∀ i ∈ places, b.state.sessions[i]? = a.state.sessions[i]?) :
      Moves b { b with state := places.foldl (fun t i =>
        if (a.state.sessions[i]?.map (·.isOpen)).getD false then t.close i else t) b.state } := by
    induction places generalizing b with
    | nil => exact .refl
    | cons i places ih =>
      obtain ⟨hi, hn⟩ := List.nodup_cons.mp hn
      have hrest : ∀ j ∈ places, b.state.sessions[j]? = a.state.sessions[j]? :=
        fun j hj => hb j (by simp [hj])
      rw [List.foldl_cons]
      cases hx : a.state.sessions[i]? with
      | none => simpa using ih hn b hrest
      | some x =>
        cases ho : x.isOpen with
        | false => simpa [ho] using ih hn b hrest
        | true =>
          have hxb : b.state.sessions[i]? = some x := (hb i (by simp)).trans hx
          simp only [Option.map_some, ho, Option.getD_some, if_true, State.close, hxb]
          refine .head (.closes hxb ho) (ih hn { b with state := _ } ?_)
          intro j hj
          have hne : i ≠ j := fun h => hi (h ▸ hj)
          rw [← hrest j hj]
          exact List.getElem?_set_ne hne
  exact hfold _ List.nodup_range a fun _ _ => rfl

theorem step_moves (e : Engine) (a : Analyzer) (act : Act) : Moves a (a.step e act) := by
  cases act with
  | call name code dialect => exact call_moves e a name code dialect
  | wake cycle => exact wake_moves e a cycle
  | complete cycle switches => exact finish_moves a cycle _
  | fail cycle => exact finish_moves a cycle none
  | clear name => exact clear_moves e a name
  | shutdown => exact shutdown_moves e a
  | configure config => exact .single (.configures config)

theorem run_moves (e : Engine) (a : Analyzer) (acts : List Act) : Moves a (a.run e acts) := by
  induction acts generalizing a with
  | nil => exact .refl
  | cons act acts ih => exact (step_moves e a act).trans (ih (a.step e act))

/-- The call was made in the session at a place and has at most the given number there. -/
def Serves (log : List Call) (session sequence call : Nat) : Prop :=
  ∃ k, log[call]? = some k ∧ k.session = session ∧ k.sequence ≤ sequence

theorem Serves.append {log : List Call} {session sequence call : Nat}
    (h : Serves log session sequence call) (more : List Call) :
    Serves (log ++ more) session sequence call := by
  obtain ⟨k, hk, hs⟩ := h
  have hlt : call < log.length := (List.getElem?_eq_some_iff.mp hk).1
  exact ⟨k, by rw [List.getElem?_append_left hlt]; exact hk, hs⟩

theorem Serves.mono {log : List Call} {session sequence sequence' call : Nat}
    (h : Serves log session sequence call) (hle : sequence ≤ sequence') :
    Serves log session sequence' call := by
  obtain ⟨k, hk, hs, hk'⟩ := h
  exact ⟨k, hk, hs, Nat.le_trans hk' hle⟩

/-- The session at a place is in order. -/
structure Session.Ok (cycles : List Cycle) (log : List Call) (i : Nat) (x : Session) : Prop where
  cached : ∀ r ∈ x.last, r.sequence = x.cached
  issued : x.cached ≤ x.issued
  pending : ∀ n ∈ x.pending, ∃ c ∈ cycles, c.number = n ∧ c.session = i ∧ c.taken = none
  waiting : x.waiting ≠ [] → x.pending ≠ none
  callers : ∀ n ∈ x.waiting, Serves log i x.issued n

/-- The cycle is in order. -/
structure Cycle.Ok (sessions : List Session) (log : List Call) (c : Cycle) : Prop where
  logged : log[c.number]? = some ⟨c.session, c.sequence, c.code, c.dialect⟩
  session : ∃ x, sessions[c.session]? = some x ∧ c.sequence ≤ x.issued ∧
    (c.taken = none → x.isOpen = true ∧ x.pending = some c.number ∧ c.sequence = x.issued)
  callers : ∀ ns ∈ c.taken, ∀ n ∈ ns, Serves log c.session c.sequence n

/-- The analyzer is in order. -/
structure Analyzer.Ok (a : Analyzer) : Prop where
  calls : a.log.length = a.state.calls
  numbers : (a.state.cycles.map (·.number)).Nodup
  cycles : ∀ c ∈ a.state.cycles, c.Ok a.state.sessions a.log
  sessions : ∀ (i : Nat) (x : Session), a.state.sessions[i]? = some x →
    x.Ok a.state.cycles a.log i

/-- The session at a place after one of them was replaced. -/
theorem getElem?_set_cases {α : Type} {l : List α} {i j : Nat} {x y : α}
    (h : (l.set i y)[j]? = some x) : (j = i ∧ x = y) ∨ (j ≠ i ∧ l[j]? = some x) := by
  by_cases hij : j = i
  · subst hij
    rw [List.getElem?_set] at h
    simp only [if_true] at h
    split at h
    · exact .inl ⟨rfl, (Option.some.inj h).symm⟩
    · cases h
  · rw [List.getElem?_set_ne (Ne.symm hij)] at h
    exact .inr ⟨hij, h⟩

theorem getElem?_set_self {α : Type} {l : List α} {i : Nat} {x : α} (h : l[i]? = some x) (y : α) :
    (l.set i y)[i]? = some y := by
  have hi : i < l.length := (List.getElem?_eq_some_iff.mp h).1
  simp [hi]

/-- A session stays in order as long as its sleeping cycle stays. -/
theorem Session.Ok.frame {cycles cycles' : List Cycle} {log log' : List Call} {i : Nat}
    {x : Session} (h : x.Ok cycles log i)
    (hc : ∀ c ∈ cycles, c.session = i → c.taken = none → c ∈ cycles')
    (hl : ∀ n, Serves log i x.issued n → Serves log' i x.issued n) : x.Ok cycles' log' i := by
  refine ⟨h.cached, h.issued, ?_, h.waiting, fun n hn => hl n (h.callers n hn)⟩
  intro n hn
  obtain ⟨c, hmem, hnum, hsess, ht⟩ := h.pending n hn
  exact ⟨c, hc c hmem hsess ht, hnum, hsess, ht⟩

/-- A cycle stays in order when a session is replaced by one with at least as many calls and, while
the cycle sleeps in it, with the same pending cycle. -/
theorem Cycle.Ok.frame {sessions : List Session} {log : List Call} {c : Cycle}
    (h : c.Ok sessions log) {i : Nat} {x y : Session} (hx : sessions[i]? = some x)
    (hle : x.issued ≤ y.issued)
    (hy : c.session = i → c.taken = none →
      y.isOpen = x.isOpen ∧ y.pending = x.pending ∧ y.issued = x.issued) :
    c.Ok (sessions.set i y) log := by
  obtain ⟨z, hz, hseq, hsleep⟩ := h.session
  refine ⟨h.logged, ?_, h.callers⟩
  by_cases hi : c.session = i
  · subst hi
    obtain rfl : z = x := Option.some.inj (hz.symm.trans hx)
    refine ⟨y, getElem?_set_self hx y, Nat.le_trans hseq hle, ?_⟩
    intro ht
    obtain ⟨ho, hp, hi⟩ := hy rfl ht
    rw [ho, hp, hi]
    exact hsleep ht
  · exact ⟨z, by rw [List.getElem?_set_ne (Ne.symm hi)]; exact hz, hseq, hsleep⟩

theorem Cycle.Ok.append {sessions : List Session} {log : List Call} {c : Cycle}
    (h : c.Ok sessions log) (more : List Call) : c.Ok sessions (log ++ more) := by
  have hlt : c.number < log.length := (List.getElem?_eq_some_iff.mp h.logged).1
  refine ⟨?_, h.session, fun ns hns n hn => (h.callers ns hns n hn).append more⟩
  rw [List.getElem?_append_left hlt]
  exact h.logged

variable {a : Analyzer}

theorem Analyzer.Ok.eq_of_number (h : a.Ok) {c d : Cycle} (hc : c ∈ a.state.cycles)
    (hd : d ∈ a.state.cycles) (he : c.number = d.number) : c = d :=
  List.inj_on_of_nodup_map h.numbers hc hd he

theorem Analyzer.Ok.number_lt (h : a.Ok) {c : Cycle} (hc : c ∈ a.state.cycles) :
    c.number < a.state.calls := by
  rw [← h.calls]
  exact (List.getElem?_eq_some_iff.mp (h.cycles c hc).logged).1

theorem start_ok (config : LiveConfig) : Analyzer.Ok { config := config } :=
  ⟨rfl, List.nodup_nil, by simp, by simp⟩

theorem opened_ok (h : a.Ok) (name : String) : (a.opened name).Ok := by
  refine ⟨h.calls, h.numbers, ?_, ?_⟩
  · intro c hc
    obtain ⟨hlog, ⟨x, hx, hrest⟩, hcallers⟩ := h.cycles c hc
    have hlt : c.session < a.state.sessions.length := (List.getElem?_eq_some_iff.mp hx).1
    exact ⟨hlog, ⟨x, (List.getElem?_append_left hlt).trans hx, hrest⟩, hcallers⟩
  · intro i x hx
    rcases Nat.lt_or_ge i a.state.sessions.length with hlt | hge
    · have hold : a.state.sessions[i]? = some x := by
        rw [← List.getElem?_append_left hlt]
        exact hx
      exact h.sessions i x hold
    · have hfresh : [Session.fresh name][i - a.state.sessions.length]? = some x := by
        rw [← List.getElem?_append_right hge]
        exact hx
      rw [List.mem_singleton.mp (List.mem_of_getElem? hfresh)]
      exact ⟨by simp [Session.fresh], Nat.le_refl 0, by simp [Session.fresh],
        by simp [Session.fresh], by simp [Session.fresh]⟩

/-- A sleeping cycle is the pending one of its session, which is open. -/
theorem Analyzer.Ok.sleeping (h : a.Ok) {c : Cycle} (hc : c ∈ a.state.cycles)
    (ht : c.taken = none) {x : Session} (hx : a.state.sessions[c.session]? = some x) :
    x.isOpen = true ∧ x.pending = some c.number ∧ c.sequence = x.issued := by
  obtain ⟨y, hy, -, hsleep⟩ := (h.cycles c hc).session
  obtain rfl : y = x := Option.some.inj (hy.symm.trans hx)
  exact hsleep ht

/-- Ending the pending cycle of a session ends no sleeping cycle of another. -/
theorem Analyzer.Ok.mem_withoutPending (h : a.Ok) {i : Nat} {x : Session}
    (hx : a.state.sessions[i]? = some x) {c : Cycle} (hc : c ∈ a.state.cycles)
    (hi : c.session ≠ i) : c ∈ State.withoutPending a.state.cycles x := by
  refine List.mem_filter.mpr ⟨hc, ?_⟩
  rw [bne_iff_ne]
  intro he
  obtain ⟨d, hd, hnum, hsess, -⟩ := (h.sessions i x hx).pending c.number he.symm
  rw [h.eq_of_number hd hc hnum] at hsess
  exact hi hsess

/-- Only analysing cycles of a session stay when its pending cycle ends. -/
theorem Analyzer.Ok.taken_of_withoutPending (h : a.Ok) {i : Nat} {x : Session}
    (hx : a.state.sessions[i]? = some x) {c : Cycle}
    (hc : c ∈ State.withoutPending a.state.cycles x) (hi : c.session = i) : c.taken ≠ none := by
  obtain ⟨hmem, hne⟩ := List.mem_filter.mp hc
  subst hi
  intro ht
  have hp := (h.sleeping hmem ht hx).2.1
  simp [hp] at hne

theorem nodup_withoutPending (h : a.Ok) (x : Session) :
    ((State.withoutPending a.state.cycles x).map (·.number)).Nodup :=
  h.numbers.sublist (List.filter_sublist.map _)

theorem armed_ok (h : a.Ok) {i : Nat} {x : Session} (code : List Char) (dialect : String)
    (hx : a.state.sessions[i]? = some x) (ho : x.isOpen = true) :
    (a.armed i x code dialect).Ok := by
  have hnew : (a.log ++ [⟨i, x.issued + 1, code, dialect⟩])[a.state.calls]? =
      some (⟨i, x.issued + 1, code, dialect⟩ : Call) := by simp [← h.calls]
  have hset := getElem?_set_self hx (x.afterCall a.state.calls)
  refine ⟨by simp [Analyzer.armed, h.calls], ?_, ?_, ?_⟩
  · simp only [Analyzer.armed, List.map_append]
    apply List.Nodup.append (nodup_withoutPending h x) (List.nodup_singleton _)
    intro n hn hnew
    obtain ⟨c, hc, rfl⟩ := List.mem_map.mp hn
    have hlt := h.number_lt (List.mem_of_mem_filter hc)
    have hn : c.number = a.state.calls := List.mem_singleton.mp hnew
    omega
  · intro c hc
    rcases List.mem_append.mp hc with hc | hc
    · refine ((h.cycles c (List.mem_of_mem_filter hc)).frame hx ?_ ?_).append _
      · exact Nat.le_succ _
      · intro hi ht
        exact absurd ht (h.taken_of_withoutPending hx hc hi)
    · rw [List.mem_singleton.mp hc]
      exact ⟨hnew, ⟨_, hset, Nat.le_refl _, fun _ => ⟨ho, rfl, rfl⟩⟩, by simp⟩
  · intro j y hy
    rcases getElem?_set_cases hy with ⟨rfl, rfl⟩ | ⟨hj, hy⟩
    · have hok := h.sessions j x hx
      refine ⟨hok.cached, Nat.le_succ_of_le hok.issued, ?_, by simp [Session.afterCall], ?_⟩
      · intro n hn
        obtain rfl : a.state.calls = n := by simpa [Session.afterCall] using hn
        exact ⟨⟨a.state.calls, j, code, dialect, x.issued + 1, none⟩, by simp [Analyzer.armed],
          rfl, rfl, rfl⟩
      · intro n hn
        rcases List.mem_append.mp hn with hn | hn
        · exact ((hok.callers n hn).mono (Nat.le_succ _)).append _
        · rw [List.mem_singleton.mp hn]
          exact ⟨_, hnew, rfl, Nat.le_refl _⟩
    · refine (h.sessions j y hy).frame ?_ fun n hn => hn.append _
      intro c hc hi _
      exact List.mem_append_left _ (h.mem_withoutPending hx hc (by rw [hi]; exact hj))

theorem woken_ok (h : a.Ok) {c : Cycle} {x : Session} (hc : c ∈ a.state.cycles)
    (ht : c.taken = none) (hx : a.state.sessions[c.session]? = some x) : (a.woken c x).Ok := by
  obtain ⟨-, hpending, hseq⟩ := h.sleeping hc ht hx
  have hset := getElem?_set_self hx (x.afterWake c.number)
  have hok := h.sessions c.session x hx
  refine ⟨h.calls, ?_, ?_, ?_⟩
  · have he : (a.state.cycles.map fun d =>
        if d.number = c.number then { d with taken := some x.waiting } else d).map (·.number) =
        a.state.cycles.map (·.number) := by
      rw [List.map_map]
      apply List.map_congr_left
      intro d _
      simp only [Function.comp_apply]
      split_ifs <;> rfl
    exact he ▸ h.numbers
  · intro d' hd'
    obtain ⟨d, hd, rfl⟩ := List.mem_map.mp hd'
    split_ifs with he
    · -- The cycle that wakes has the latest number of its session, so it serves all who wait.
      obtain rfl := h.eq_of_number hd hc he
      refine ⟨(h.cycles d hd).logged, ⟨_, hset, Nat.le_of_eq hseq, by simp⟩, ?_⟩
      intro ns hns n hn
      cases hns
      rw [hseq]
      exact hok.callers n hn
    · refine (h.cycles d hd).frame hx (Nat.le_refl _) ?_
      intro hi htd
      have hp := (h.sleeping hd htd (hi ▸ hx)).2.1
      exact absurd (Option.some.inj (hp.symm.trans hpending)) he
  · intro j y hy
    rcases getElem?_set_cases hy with ⟨rfl, rfl⟩ | ⟨hj, hy⟩
    · exact ⟨hok.cached, hok.issued, by simp [Session.afterWake, hpending],
        by simp [Session.afterWake], by simp [Session.afterWake]⟩
    · refine (h.sessions j y hy).frame ?_ fun n hn => hn
      intro d hd hi _
      refine List.mem_map.mpr ⟨d, hd, if_neg ?_⟩
      intro he
      rw [h.eq_of_number hd hc he] at hi
      exact hj hi.symm

/-- Keeping a result touches nothing but the result. -/
theorem keep_frame (x : Session) (r : LiveResult) (sequence : Nat) :
    (x.keep r sequence).name = x.name ∧ (x.keep r sequence).isOpen = x.isOpen ∧
    (x.keep r sequence).pending = x.pending ∧ (x.keep r sequence).waiting = x.waiting ∧
    (x.keep r sequence).issued = x.issued := by
  unfold Session.keep
  split_ifs <;> exact ⟨rfl, rfl, rfl, rfl, rfl⟩

theorem keep_ok {cycles : List Cycle} {log : List Call} {i : Nat} {x : Session}
    (h : x.Ok cycles log i) {r : LiveResult} {sequence : Nat} (hr : r.sequence = sequence)
    (hle : sequence ≤ x.issued) : (x.keep r sequence).Ok cycles log i := by
  unfold Session.keep
  split_ifs
  · refine ⟨?_, hle, h.pending, h.waiting, h.callers⟩
    intro r' hr'
    cases hr'
    exact hr
  · exact h

theorem settled_ok (h : a.Ok) {c : Cycle} {x : Session} {callers : List Nat}
    (yield : Option Yield) (hc : c ∈ a.state.cycles) (ht : c.taken = some callers)
    (hx : a.state.sessions[c.session]? = some x) : (a.settled c x callers yield).Ok := by
  obtain ⟨-, hopen, hpending, -, hissued⟩ :=
    keep_frame x (State.outcome c x yield) c.sequence
  obtain ⟨y, hy, hseq, -⟩ := (h.cycles c hc).session
  obtain rfl : y = x := Option.some.inj (hy.symm.trans hx)
  -- No session waits for the cycle that ends: it is analysing.
  have hkeep : ∀ d ∈ a.state.cycles, d.taken = none →
      d ∈ a.state.cycles.filter (·.number != c.number) := by
    intro d hd htd
    refine List.mem_filter.mpr ⟨hd, ?_⟩
    rw [bne_iff_ne]
    intro he
    rw [h.eq_of_number hd hc he, ht] at htd
    cases htd
  refine ⟨h.calls, h.numbers.sublist (List.filter_sublist.map _), ?_, ?_⟩
  · intro d hd
    have hok := h.cycles d (List.mem_of_mem_filter hd)
    simp only [Analyzer.settled]
    split_ifs
    · exact hok.frame hx (Nat.le_of_eq hissued.symm) fun _ _ => ⟨hopen, hpending, hissued⟩
    · exact hok
  · intro j z hz
    have hold (w : Session) (hw : a.state.sessions[j]? = some w) :
        w.Ok (a.state.cycles.filter (·.number != c.number)) a.log j :=
      (h.sessions j w hw).frame (fun d hd _ htd => hkeep d hd htd) fun _ hn => hn
    cases yield with
    | none => exact hold z hz
    | some out =>
      rcases getElem?_set_cases hz with ⟨rfl, rfl⟩ | ⟨-, hz⟩
      · exact keep_ok (hold y hx) rfl hseq
      · exact hold z hz

theorem shut_ok (h : a.Ok) {i : Nat} {x : Session} (hx : a.state.sessions[i]? = some x) :
    (a.shut i x).Ok := by
  refine ⟨h.calls, nodup_withoutPending h x, ?_, ?_⟩
  · intro c hc
    refine (h.cycles c (List.mem_of_mem_filter hc)).frame hx (Nat.le_refl _) ?_
    intro hi ht
    exact absurd ht (h.taken_of_withoutPending hx hc hi)
  · intro j y hy
    rcases getElem?_set_cases hy with ⟨rfl, rfl⟩ | ⟨hj, hy⟩
    · have hok := h.sessions j x hx
      exact ⟨hok.cached, hok.issued, by simp [Session.closed], by simp [Session.closed],
        by simp [Session.closed]⟩
    · refine (h.sessions j y hy).frame ?_ fun _ hn => hn
      intro c hc hi _
      exact h.mem_withoutPending hx hc (by rw [hi]; exact hj)

theorem move_ok {b : Analyzer} (h : a.Ok) (hm : Move a b) : b.Ok := by
  cases hm with
  | opens name => exact opened_ok h name
  | arms code dialect hx ho => exact armed_ok h code dialect hx ho
  | takes hc ht hx => exact woken_ok h hc ht hx
  | settles yield hc ht hx => exact settled_ok h yield hc ht hx
  | closes hx ho => exact shut_ok h hx
  | configures config => exact ⟨h.calls, h.numbers, h.cycles, h.sessions⟩

theorem moves_ok {b : Analyzer} (h : a.Ok) (hm : Moves a b) : b.Ok := by
  induction hm with
  | refl => exact h
  | tail _ hmove ih => exact move_ok ih hmove

/-- The analyzer is in order after every run. -/
theorem run_ok (e : Engine) (h : a.Ok) (acts : List Act) : (a.run e acts).Ok :=
  moves_ok h (run_moves e a acts)

end CampaignCheck.Live

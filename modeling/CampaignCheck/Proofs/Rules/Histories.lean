import CampaignCheck.Proofs.Rules.Independence
import CampaignCheck.Rules.Shelf

namespace CampaignCheck

/-- What happens to a table: a rule is put into it, or the rule of a name is taken away. -/
inductive RuleEvent where
  | put (r : Rule)
  | drop (id : String)
deriving Repr, Inhabited

namespace RuleEvent

def id : RuleEvent → String
  | put r => r.id
  | drop i => i

end RuleEvent

/-- What happened to a table, the latest first. -/
abbrev History := List RuleEvent

namespace History

variable {id : String} {h : History} {r : Rule} {n : Nat}

/-- The rule that stands under a name. -/
def held? (id : String) : History → Option Rule
  | [] => none
  | .put r :: h => if r.id = id then some r else held? id h
  | .drop i :: h => if i = id then none else held? id h

/-- The number of events before the one by which a name came to stay. -/
def arrival? (id : String) : History → Option Nat
  | [] => none
  | .put r :: h => if r.id = id then some ((arrival? id h).getD h.length) else arrival? id h
  | .drop i :: h => if i = id then none else arrival? id h

/-- One name came to stay before another. -/
def Earlier (h : History) (a b : String) : Prop :=
  ∃ m n, arrival? a h = some m ∧ arrival? b h = some n ∧ m < n

/-- These are the rules with a property that stand in the table, in the order of arrival. -/
def Lists (h : History) (p : Rule → Prop) (rs : List Rule) : Prop :=
  (∀ r, r ∈ rs ↔ held? r.id h = some r ∧ p r) ∧ (rs.map (·.id)).Pairwise (Earlier h)

@[simp] theorem held?_put_self : held? r.id (.put r :: h) = some r := by simp [held?]

@[simp] theorem held?_drop_self : held? id (.drop id :: h) = none := by simp [held?]

theorem held?_other {e : RuleEvent} (he : e.id ≠ id) : held? id (e :: h) = held? id h := by
  cases e <;> exact if_neg he

@[simp] theorem arrival?_put_self :
    arrival? r.id (.put r :: h) = some ((arrival? r.id h).getD h.length) := by simp [arrival?]

@[simp] theorem arrival?_drop_self : arrival? id (.drop id :: h) = none := by simp [arrival?]

theorem arrival?_other {e : RuleEvent} (he : e.id ≠ id) :
    arrival? id (e :: h) = arrival? id h := by
  cases e <;> exact if_neg he

theorem isSome_arrival? (id : String) (h : History) :
    (arrival? id h).isSome = (held? id h).isSome := by
  induction h with
  | nil => rfl
  | cons e h ih =>
    by_cases he : e.id = id
    · cases e with
      | put r =>
        subst he
        simp [RuleEvent.id]
      | drop i =>
        subst he
        simp [RuleEvent.id]
    · rw [arrival?_other he, held?_other he, ih]

theorem arrival?_eq_none_iff : arrival? id h = none ↔ held? id h = none := by
  rw [← Option.isNone_iff_eq_none, ← Option.isNone_iff_eq_none, ← Option.not_isSome,
    ← Option.not_isSome, isSome_arrival?]

theorem arrival?_lt (hn : arrival? id h = some n) : n < h.length := by
  induction h generalizing n with
  | nil => simp [arrival?] at hn
  | cons e h ih =>
    have hcons : h.length < (e :: h).length := by simp
    by_cases he : e.id = id
    · cases e with
      | put r =>
        subst he
        rw [RuleEvent.id, arrival?_put_self, Option.some_inj] at hn
        cases hm : arrival? r.id h with
        | none =>
          rw [hm, Option.getD_none] at hn
          omega
        | some m =>
          rw [hm, Option.getD_some] at hn
          have hlt := ih hm
          omega
      | drop i =>
        subst he
        simp [RuleEvent.id] at hn
    · rw [arrival?_other he] at hn
      exact (ih hn).trans hcons

/-- The rule that was put under the name last, and nothing happened to the name since. -/
theorem held?_eq_some_iff : held? id h = some r ↔
    ∃ newer older, h = newer ++ .put r :: older ∧ r.id = id ∧ ∀ e ∈ newer, e.id ≠ id := by
  constructor
  · intro hr
    induction h with
    | nil => simp [held?] at hr
    | cons e h ih =>
      by_cases he : e.id = id
      · cases e with
        | put s =>
          subst he
          rw [RuleEvent.id, held?_put_self, Option.some_inj] at hr
          subst hr
          exact ⟨[], h, rfl, rfl, by simp⟩
        | drop i =>
          subst he
          simp [RuleEvent.id] at hr
      · rw [held?_other he] at hr
        obtain ⟨newer, older, rfl, hid, hnewer⟩ := ih hr
        refine ⟨e :: newer, older, rfl, hid, ?_⟩
        simpa [he] using hnewer
  · rintro ⟨newer, older, rfl, rfl, hnewer⟩
    induction newer with
    | nil => exact held?_put_self
    | cons e newer ih =>
      rw [List.cons_append, held?_other (hnewer e List.mem_cons_self)]
      exact ih fun e' he' => hnewer e' (List.mem_cons_of_mem _ he')

theorem exists_of_arrival? (hn : arrival? id h = some n) :
    ∃ newer s older, h = newer ++ .put s :: older ∧ s.id = id ∧ older.length = n ∧
      held? id older = none ∧ .drop id ∉ newer := by
  induction h generalizing n with
  | nil => simp [arrival?] at hn
  | cons e h ih =>
    by_cases he : e.id = id
    · cases e with
      | put s =>
        subst he
        rw [RuleEvent.id, arrival?_put_self, Option.some_inj] at hn
        cases hm : arrival? s.id h with
        | none =>
          rw [hm, Option.getD_none] at hn
          exact ⟨[], s, h, rfl, rfl, hn, arrival?_eq_none_iff.mp hm, by simp⟩
        | some m =>
          rw [hm, Option.getD_some] at hn
          subst hn
          obtain ⟨newer, s', older, rfl, hid, hlength, hheld, hdrop⟩ := ih hm
          exact ⟨.put s :: newer, s', older, rfl, hid, hlength, hheld,
            by simpa [RuleEvent.id] using hdrop⟩
      | drop i =>
        subst he
        simp [RuleEvent.id] at hn
    · rw [arrival?_other he] at hn
      obtain ⟨newer, s, older, rfl, hid, hlength, hheld, hdrop⟩ := ih hn
      refine ⟨e :: newer, s, older, rfl, hid, hlength, hheld, ?_⟩
      intro hmem
      rcases List.mem_cons.mp hmem with rfl | hmem
      · exact he rfl
      · exact hdrop hmem

theorem arrival?_append_put {newer older : History} (hheld : held? r.id older = none)
    (hdrop : .drop r.id ∉ newer) :
    arrival? r.id (newer ++ .put r :: older) = some older.length := by
  induction newer with
  | nil => simp [arrival?_eq_none_iff.mpr hheld]
  | cons e newer ih =>
    have hnewer := ih fun hmem => hdrop (List.mem_cons_of_mem _ hmem)
    by_cases he : e.id = r.id
    · cases e with
      | put s =>
        have hput := arrival?_put_self (r := s) (h := newer ++ .put r :: older)
        rw [show s.id = r.id from he, hnewer] at hput
        exact hput
      | drop i =>
        rw [show i = r.id from he] at hdrop
        exact absurd List.mem_cons_self hdrop
    · rw [List.cons_append, arrival?_other he, hnewer]

/-- The name was put into the table when it was not there, and it was not taken away since. -/
theorem arrival?_eq_some_iff : arrival? id h = some n ↔
    ∃ newer s older, h = newer ++ .put s :: older ∧ s.id = id ∧ older.length = n ∧
      held? id older = none ∧ .drop id ∉ newer := by
  constructor
  · exact exists_of_arrival?
  · rintro ⟨newer, s, older, rfl, rfl, rfl, hheld, hdrop⟩
    exact arrival?_append_put hheld hdrop

theorem Earlier.other {e : RuleEvent} {a b : String} (ha : e.id ≠ a) (hb : e.id ≠ b)
    (hab : Earlier h a b) : Earlier (e :: h) a b := by
  obtain ⟨m, n, hm, hn, hlt⟩ := hab
  refine ⟨m, n, ?_, ?_, hlt⟩
  · rw [arrival?_other ha, hm]
  · rw [arrival?_other hb, hn]

/-- A rule that is put where its namesake stands changes nothing about the order. -/
theorem arrival?_put_of_some {a : String} {m : Nat} (hm : arrival? a h = some m) :
    arrival? a (.put r :: h) = some m := by
  by_cases ha : r.id = a
  · subst ha
    simp [hm]
  · have hother : (RuleEvent.put r).id ≠ a := ha
    rw [arrival?_other hother, hm]

theorem Earlier.put {a b : String} (hab : Earlier h a b) : Earlier (.put r :: h) a b := by
  obtain ⟨m, n, hm, hn, hlt⟩ := hab
  exact ⟨m, n, arrival?_put_of_some hm, arrival?_put_of_some hn, hlt⟩

end History

namespace RuleTable

open History

variable {t : RuleTable} {h : History} {r : Rule} {id : String}

theorem get?_add (t : RuleTable) (r : Rule) (id : String) :
    (t.add r).get? id = if r.id = id then some r else t.get? id := by
  obtain ⟨rs⟩ := t
  simp only [add, get?]
  induction rs with
  | nil =>
    by_cases hr : r.id = id <;> simp [insert, hr]
  | cons s rs ih =>
    rw [insert]
    split_ifs with hs hr hr
    · simp [hr]
    · have hsid : s.id ≠ id := hs ▸ hr
      simp [hr, hsid]
    · rw [if_pos hr] at ih
      have hsid : s.id ≠ id := fun h => hs (h.trans hr.symm)
      rw [List.find?_cons_of_neg (by simpa using hsid), ih]
    · rw [if_neg hr] at ih
      by_cases hsid : s.id = id
      · simp [hsid]
      · rw [List.find?_cons_of_neg (by simpa using hsid), ih,
          List.find?_cons_of_neg (by simpa using hsid)]

theorem get?_remove (t : RuleTable) (i id : String) :
    (t.remove i).get? id = if i = id then none else t.get? id := by
  simp only [get?, remove, List.find?_filter]
  split_ifs with hi
  · subst hi
    rw [List.find?_eq_none]
    simp
  · congr 1
    funext s
    by_cases hs : s.id = id
    · have hsi : s.id ≠ i := fun h => hi (h.symm.trans hs)
      simp [hs, Ne.symm hi]
    · simp [hs]

theorem mem_ids_iff : id ∈ t.ids ↔ (t.get? id).isSome := by
  simp [ids, get?, List.find?_isSome]

/-- The rule under a name is the one rule of that name. -/
theorem get?_eq_some_iff (hn : t.ids.Nodup) : t.get? id = some r ↔ r ∈ t.rules ∧ r.id = id := by
  constructor
  · intro hr
    have hid := List.find?_some hr
    exact ⟨List.mem_of_find?_eq_some hr, by simpa using hid⟩
  · rintro ⟨hmem, rfl⟩
    have hsome : (t.get? r.id).isSome := mem_ids_iff.mp (List.mem_map_of_mem hmem)
    obtain ⟨s, hs⟩ := Option.isSome_iff_exists.mp hsome
    have hid : s.id = r.id := by simpa using List.find?_some hs
    have hsr : s = r := List.inj_on_of_nodup_map hn (List.mem_of_find?_eq_some hs) hmem hid
    rw [hs, hsr]

/-- A rule takes the place of its namesake. -/
theorem ids_add_of_mem (hr : r.id ∈ t.ids) : (t.add r).ids = t.ids := by
  obtain ⟨rs⟩ := t
  simp only [add, ids] at hr ⊢
  induction rs with
  | nil => simp at hr
  | cons s rs ih =>
    rw [insert]
    split_ifs with hs
    · rw [List.map_cons, List.map_cons, hs]
    · have hrest : r.id ∈ rs.map (·.id) := by
        rcases List.mem_cons.mp hr with he | hmem
        · exact absurd he.symm hs
        · exact hmem
      rw [List.map_cons, List.map_cons, ih hrest]

theorem ids_remove (t : RuleTable) (i : String) : (t.remove i).ids = t.ids.filter (· != i) := by
  simp [ids, remove, List.filter_map, Function.comp_def]

/-- A rule of a new name goes to the end. -/
theorem add_of_not_mem (hr : r.id ∉ t.ids) : t.add r = ⟨t.rules ++ [r]⟩ := by
  obtain ⟨rs⟩ := t
  simp only [add, ids, RuleTable.mk.injEq] at hr ⊢
  induction rs with
  | nil => rfl
  | cons s rs ih =>
    simp only [List.map_cons, List.mem_cons, not_or] at hr
    rw [insert, if_neg (Ne.symm hr.1), ih hr.2, List.cons_append]

theorem foldl_add (t : RuleTable) (rs : List Rule) (hn : (t.ids ++ rs.map (·.id)).Nodup) :
    rs.foldl add t = ⟨t.rules ++ rs⟩ := by
  induction rs generalizing t with
  | nil => simp
  | cons r rs ih =>
    have hr : r.id ∉ t.ids := by
      intro hmem
      exact (List.nodup_append.mp hn).2.2 _ hmem _ List.mem_cons_self rfl
    have hadd := add_of_not_mem hr
    have hrest : ((t.add r).ids ++ rs.map (·.id)).Nodup := by
      rw [hadd]
      simpa [ids] using hn
    rw [List.foldl_cons, ih _ hrest, hadd, List.append_assoc, List.singleton_append]

theorem copy_eq (hn : t.ids.Nodup) : t.copy = t := by
  have hfold := foldl_add {} t.rules (by simpa [ids] using hn)
  rw [copy, ofList, hfold, List.nil_append]

/-- The table is what the history makes of it. -/
structure Follows (t : RuleTable) (h : History) : Prop where
  nodup : t.ids.Nodup
  held : ∀ id, t.get? id = held? id h
  order : t.ids.Pairwise (Earlier h)

theorem Follows.nil : Follows {} [] where
  nodup := List.nodup_nil
  held := fun _ => rfl
  order := List.Pairwise.nil

theorem Follows.arrived (f : t.Follows h) (hid : id ∈ t.ids) : ∃ n, arrival? id h = some n := by
  have hsome : (arrival? id h).isSome := by
    rw [isSome_arrival?, ← f.held]
    exact mem_ids_iff.mp hid
  exact Option.isSome_iff_exists.mp hsome

theorem Follows.put (f : t.Follows h) (r : Rule) : (t.add r).Follows (.put r :: h) where
  nodup := nodup_ids_add f.nodup r
  held := by
    intro id
    rw [get?_add]
    split_ifs with hr
    · rw [← hr, held?_put_self]
    · have hother : (RuleEvent.put r).id ≠ id := hr
      rw [held?_other hother, f.held]
  order := by
    have hold : t.ids.Pairwise (Earlier (.put r :: h)) := f.order.imp fun hab => hab.put
    by_cases hr : r.id ∈ t.ids
    · rw [ids_add_of_mem hr]
      exact hold
    · have hids : (t.add r).ids = t.ids ++ [r.id] := by
        rw [add_of_not_mem hr, ids, List.map_append]
        rfl
      rw [hids, List.pairwise_append]
      refine ⟨hold, List.pairwise_singleton _ _, ?_⟩
      intro a ha b hb
      obtain rfl := List.mem_singleton.mp hb
      have hnone : arrival? r.id h = none := by
        rw [mem_ids_iff, f.held, Option.not_isSome_iff_eq_none] at hr
        exact arrival?_eq_none_iff.mpr hr
      obtain ⟨m, hm⟩ := f.arrived ha
      refine ⟨m, h.length, arrival?_put_of_some hm, ?_, arrival?_lt hm⟩
      rw [arrival?_put_self, hnone, Option.getD_none]

theorem Follows.drop (f : t.Follows h) (i : String) : (t.remove i).Follows (.drop i :: h) where
  nodup := nodup_ids_remove f.nodup i
  held := by
    intro id
    rw [get?_remove]
    split_ifs with hi
    · rw [hi, held?_drop_self]
    · have hother : (RuleEvent.drop i).id ≠ id := hi
      rw [held?_other hother, f.held]
  order := by
    rw [ids_remove]
    have hkept : (t.ids.filter (· != i)).Pairwise (Earlier h) := f.order.filter _
    refine hkept.imp_of_mem ?_
    intro a b ha hb hab
    have hother {c : String} (hc : c ∈ t.ids.filter (· != i)) : (RuleEvent.drop i).id ≠ c := by
      have hne : c ≠ i := by simpa using (List.mem_filter.mp hc).2
      exact hne.symm
    exact hab.other (hother ha) (hother hb)

theorem Follows.lists (f : t.Follows h) : Lists h (fun _ => True) t.rules := by
  refine ⟨?_, f.order⟩
  intro r
  rw [← f.held, get?_eq_some_iff f.nodup]
  simp

theorem Follows.lists_forDialect (f : t.Follows h) (d : Dialect) :
    Lists h (fun r => r.appliesTo d = true) (t.forDialect d) := by
  constructor
  · intro r
    rw [← f.held, get?_eq_some_iff f.nodup, forDialect, List.mem_filter]
    simp
  · exact f.order.sublist (List.filter_sublist.map _)

end RuleTable

namespace History

open RuleShelf

/-- What an act adds to the histories, `h` being that of its table. -/
def act (hs : List History) (h : History) : Act → List History
  | .add i e =>
    match e.read with
    | .ok r => hs.set i (.put r :: h)
    | .error _ => hs
  | .remove i id => hs.set i (.drop id :: h)
  | .get .. | .list _ | .listFor .. => hs
  | .copy _ => hs ++ [h]

def step (hs : List History) (a : Act) : List History :=
  match hs[a.table]? with
  | some h => act hs h a
  | none => hs

def after (acts : List Act) : List History := acts.foldl step [[]]

/-- What an act answers by the histories, `h` being that of its table. -/
def Answers (hs : List History) (h : History) : Act → Reply → Prop
  | .add _ e, reply =>
    (∃ r, e.read = .ok r ∧ reply = .added r) ∨ ∃ err, e.read = .error err ∧ reply = .refused err
  | .remove _ id, reply => reply = .removed (held? id h).isSome
  | .get _ id, reply => reply = .found (held? id h)
  | .list _, reply => ∃ rs, reply = .rules rs ∧ Lists h (fun _ => True) rs
  | .listFor _ d, reply => ∃ rs, reply = .rules rs ∧ Lists h (fun r => r.appliesTo d = true) rs
  | .copy _, reply => reply = .table hs.length

end History

namespace RuleShelf

open History

variable {s : RuleShelf} {hs : List History} {t : RuleTable} {h : History} {i : Nat}

/-- Every table is what its own history makes of it. -/
abbrev Follow (s : RuleShelf) (hs : List History) : Prop := List.Forall₂ RuleTable.Follows s hs

theorem Follow.getElem? (f : Follow s hs) (ht : s[i]? = some t) :
    ∃ h, hs[i]? = some h ∧ t.Follows h := by
  induction f generalizing i with
  | nil => simp at ht
  | @cons t' h' s hs hfirst _ ih =>
    cases i with
    | zero =>
      rw [List.getElem?_cons_zero, Option.some_inj] at ht
      exact ⟨h', rfl, ht ▸ hfirst⟩
    | succ i => exact ih ht

theorem Follow.set (f : Follow s hs) (i : Nat) (ht : t.Follows h) :
    Follow (s.set i t) (hs.set i h) := by
  induction f generalizing i with
  | nil => exact .nil
  | cons hfirst hrest ih =>
    cases i with
    | zero => exact .cons ht hrest
    | succ i => exact .cons hfirst (ih i)

theorem Follow.concat (f : Follow s hs) (ht : t.Follows h) : Follow (s ++ [t]) (hs ++ [h]) := by
  induction f with
  | nil => exact .cons ht .nil
  | cons hfirst _ ih => exact .cons hfirst ih

theorem set_self (ht : s[i]? = some t) : s.set i t = s := by
  obtain ⟨hi, rfl⟩ := List.getElem?_eq_some_iff.mp ht
  exact List.set_getElem_self hi

/-- One act, whatever it is, takes tables that follow their histories to such tables. -/
theorem Follow.step (f : Follow s hs) (a : Act) : Follow (s.step a).1 (History.step hs a) := by
  cases ht : s[a.table]? with
  | none =>
    have hnone : hs[a.table]? = none := by
      rw [List.getElem?_eq_none_iff, ← f.length_eq]
      exact List.getElem?_eq_none_iff.mp ht
    simp only [RuleShelf.step, History.step, ht, hnone]
    exact f
  | some t =>
    obtain ⟨h, hh, hfollows⟩ := f.getElem? ht
    simp only [RuleShelf.step, History.step, ht, hh]
    cases a with
    | add i e =>
      simp only [RuleShelf.act, History.act, RuleTable.accept]
      cases e.read with
      | ok r => exact f.set i (hfollows.put r)
      | error err =>
        have hset : s.set i t = s := set_self ht
        change Follow (s.set i t) hs
        rw [hset]
        exact f
    | remove i id => exact f.set i (hfollows.drop id)
    | get i id => exact f
    | list i => exact f
    | listFor i d => exact f
    | copy i =>
      have hcopy : t.copy.Follows h := by
        rw [RuleTable.copy_eq hfollows.nodup]
        exact hfollows
      exact f.concat hcopy

theorem follow_after (acts : List Act) : Follow (after acts) (History.after acts) := by
  have hfold (s : RuleShelf) (hs : List History) (f : Follow s hs) :
      Follow (acts.foldl (fun s a => (s.step a).1) s) (acts.foldl History.step hs) := by
    induction acts generalizing s hs with
    | nil => exact f
    | cons a acts ih => exact ih _ _ (f.step a)
  exact hfold [{}] [[]] (.cons .nil .nil)

theorem answers (f : Follow s hs) (a : Act) (hh : hs[a.table]? = some h) :
    Answers hs h a (s.step a).2 := by
  have hlength : a.table < s.length := by
    rw [f.length_eq]
    exact (List.getElem?_eq_some_iff.mp hh).1
  obtain ⟨h', hh', hfollows⟩ := f.getElem? (List.getElem?_eq_getElem hlength)
  obtain rfl : h' = h := Option.some_inj.mp (hh'.symm.trans hh)
  simp only [RuleShelf.step, List.getElem?_eq_getElem hlength]
  cases a with
  | add i e =>
    simp only [RuleShelf.act, RuleTable.accept]
    cases hread : e.read with
    | ok r => exact .inl ⟨r, hread, rfl⟩
    | error err => exact .inr ⟨err, hread, rfl⟩
  | remove i id =>
    simp only [RuleShelf.act, RuleTable.discard, RuleTable.contains, hfollows.held]
    rfl
  | get i id =>
    simp only [RuleShelf.act, hfollows.held]
    rfl
  | list i => exact ⟨_, rfl, hfollows.lists⟩
  | listFor i d => exact ⟨_, rfl, hfollows.lists_forDialect d⟩
  | copy i =>
    simp only [RuleShelf.act, f.length_eq]
    rfl

theorem step_of_none {a : Act} (ht : s[a.table]? = none) : s.step a = (s, .noTable) := by
  simp only [RuleShelf.step, ht]

/-- An addition that is refused changes no table. -/
theorem step_of_refused {a : Act} {err : BuildError} (ha : (s.step a).2 = .refused err) :
    (s.step a).1 = s := by
  cases ht : s[a.table]? with
  | none => rw [step_of_none ht]
  | some t =>
    simp only [RuleShelf.step, ht] at ha ⊢
    cases a with
    | add i e =>
      simp only [RuleShelf.act, RuleTable.accept] at ha ⊢
      cases hread : e.read with
      | ok r => simp [hread] at ha
      | error err => exact set_self ht
    | remove i id => simp [RuleShelf.act] at ha
    | get i id => rfl
    | list i => rfl
    | listFor i d => rfl
    | copy i => simp [RuleShelf.act] at ha

theorem step_getElem? (s : RuleShelf) {a : Act} (hi : i < s.length) (ha : a.changes i = false) :
    (s.step a).1[i]? = s[i]? := by
  cases ht : s[a.table]? with
  | none => rw [step_of_none ht]
  | some t =>
    simp only [RuleShelf.step, ht]
    cases a with
    | add j e =>
      have hij : j ≠ i := by
        rintro rfl
        simp [Act.changes] at ha
      simp only [RuleShelf.act]
      split <;> exact List.getElem?_set_ne hij
    | remove j id =>
      have hij : j ≠ i := by
        rintro rfl
        simp [Act.changes] at ha
      exact List.getElem?_set_ne hij
    | get j id => rfl
    | list j => rfl
    | listFor j d => rfl
    | copy j => exact List.getElem?_append_left hi

theorem length_le_step (s : RuleShelf) (a : Act) : s.length ≤ (s.step a).1.length := by
  cases ht : s[a.table]? with
  | none => rw [step_of_none ht]
  | some t =>
    simp only [RuleShelf.step, ht]
    cases a <;> simp only [RuleShelf.act] <;> try split
    all_goals simp

/-- What is done with other tables does not show in a table. -/
theorem after_append_getElem? (acts more : List Act) (hi : i < (after acts).length)
    (hmore : ∀ a ∈ more, a.changes i = false) : (after (acts ++ more))[i]? = (after acts)[i]? := by
  rw [after, List.foldl_append, ← after]
  generalize after acts = s at hi
  induction more generalizing s with
  | nil => rfl
  | cons a more ih =>
    have hlength := length_le_step s a
    have hrest := ih (s := (s.step a).1) (fun b hb => hmore b (List.mem_cons_of_mem _ hb))
      (by omega)
    rw [List.foldl_cons, hrest, step_getElem? s hi (hmore a List.mem_cons_self)]

/-- For every sequence of acts, every table there is then is what its history makes of it: names are
distinct, under a name stands what was put there last and not taken away since, and the names are in
the order in which they came to stay. What the next act answers is told by the histories alone; an
addition that is refused changes nothing; a copy is equal to the table copied and a table of its
own, so that what is done with one of them afterwards does not show in the other. -/
theorem tables_follow_histories (acts : List Act) :
    Follow (after acts) (History.after acts) ∧
    (∀ id h r, held? id h = some r ↔
      ∃ newer older, h = newer ++ .put r :: older ∧ r.id = id ∧ ∀ e ∈ newer, e.id ≠ id) ∧
    (∀ id h n, arrival? id h = some n ↔
      ∃ newer r older, h = newer ++ .put r :: older ∧ r.id = id ∧ older.length = n ∧
        held? id older = none ∧ .drop id ∉ newer) ∧
    (∀ a h, (History.after acts)[a.table]? = some h →
      Answers (History.after acts) h a ((after acts).step a).2) ∧
    (∀ a, (History.after acts)[a.table]? = none → (after acts).step a = (after acts, .noTable)) ∧
    (∀ a err, ((after acts).step a).2 = .refused err → ((after acts).step a).1 = after acts) ∧
    (∀ i t, (after acts)[i]? = some t → ((after acts).step (.copy i)).1 = after acts ++ [t]) ∧
    ∀ i more, i < (after acts).length → (∀ a ∈ more, a.changes i = false) →
      (after (acts ++ more))[i]? = (after acts)[i]? := by
  have f := follow_after acts
  refine ⟨f, fun _ _ _ => held?_eq_some_iff, fun _ _ _ => arrival?_eq_some_iff,
    fun a _ hh => answers f a hh, ?_, fun _ _ ha => step_of_refused ha, ?_,
    fun i more hi hmore => after_append_getElem? acts more hi hmore⟩
  · intro a hnone
    apply step_of_none
    rw [List.getElem?_eq_none_iff, f.length_eq]
    exact List.getElem?_eq_none_iff.mp hnone
  · intro i t ht
    obtain ⟨h, -, hfollows⟩ := f.getElem? ht
    have hstep : ((after acts).step (.copy i)).1 = after acts ++ [t.copy] := by
      simp only [RuleShelf.step, Act.table, ht, RuleShelf.act]
    rw [hstep, RuleTable.copy_eq hfollows.nodup]

/-- A rule that is removed from a copy and added again goes to the end there, and only there. -/
theorem tables_follow_histories_copied :
    let named (id : String) : RuleEntry := .rule
      { id := id, name := id, category := .naming, severity := .info, pattern := "x",
        message := id, dialects := [.sql] }
    let acts : List Act := [.add 0 (named "a"), .add 0 (named "b"), .copy 0]
    let more : List Act := [.remove 1 "a", .add 1 (named "a"), .add 1 (.data .null)]
    (after (acts ++ more)).map (·.ids) = [["a", "b"], ["b", "a"]] ∧
    (after (acts ++ more))[0]? = (after acts)[0]? := by
  intro named acts more
  refine ⟨by cbv, ?_⟩
  exact (tables_follow_histories acts).2.2.2.2.2.2.2 0 more (by cbv) (by decide)

end RuleShelf

end CampaignCheck

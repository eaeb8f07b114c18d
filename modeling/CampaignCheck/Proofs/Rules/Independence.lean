import CampaignCheck.Proofs.Rules.Enforcement
import Mathlib

namespace CampaignCheck

open Text

namespace RuleTable

theorem mem_ids_insert {r : Rule} {rs : List Rule} {id : String}
    (h : id ∈ (insert r rs).map (·.id)) : id = r.id ∨ id ∈ rs.map (·.id) := by
  induction rs with
  | nil => exact .inl (by simpa [insert] using h)
  | cons s rs ih =>
    rw [insert] at h
    split_ifs at h with hs
    · rcases List.mem_cons.mp h with h | h
      · exact .inl h
      · exact .inr (List.mem_cons_of_mem _ h)
    · rcases List.mem_cons.mp h with h | h
      · exact .inr (h ▸ List.mem_cons_self)
      · exact (ih h).imp_right (List.mem_cons_of_mem _)

theorem nodup_ids_insert (r : Rule) {rs : List Rule} (h : (rs.map (·.id)).Nodup) :
    ((insert r rs).map (·.id)).Nodup := by
  induction rs with
  | nil => exact List.nodup_singleton _
  | cons s rs ih =>
    simp only [List.map_cons, List.nodup_cons] at h
    rw [insert]
    split_ifs with he
    · simp only [List.map_cons, List.nodup_cons]
      exact ⟨he ▸ h.1, h.2⟩
    · simp only [List.map_cons, List.nodup_cons]
      refine ⟨?_, ih h.2⟩
      intro hmem
      rcases mem_ids_insert hmem with hid | hid
      · exact he hid
      · exact h.1 hid

theorem nodup_ids_add {t : RuleTable} (h : t.ids.Nodup) (r : Rule) : (t.add r).ids.Nodup :=
  nodup_ids_insert r h

theorem nodup_ids_remove {t : RuleTable} (h : t.ids.Nodup) (id : String) :
    (t.remove id).ids.Nodup :=
  h.sublist (List.filter_sublist.map _)

/-- No two rules of a table that was filled rule by rule have the same name. -/
theorem nodup_ids_ofList (rs : List Rule) : (ofList rs).ids.Nodup := by
  have hfold (t : RuleTable) (ht : t.ids.Nodup) : (rs.foldl add t).ids.Nodup := by
    induction rs generalizing t with
    | nil => exact ht
    | cons r rs ih => exact ih (t.add r) (nodup_ids_add ht r)
  exact hfold {} List.nodup_nil

/-- A rule that is added takes the place of its namesake and touches no other rule. -/
theorem filter_insert (r : Rule) (rs : List Rule) :
    (insert r rs).filter (·.id != r.id) = rs.filter (·.id != r.id) := by
  induction rs with
  | nil => simp [insert]
  | cons s rs ih =>
    rw [insert]
    split_ifs with hs
    · simp [hs]
    · simp [hs, ih]

end RuleTable

/-- The order of reports as one of tuples. -/
def Finding.standing (f : Finding) : ℕᵒᵈ ×ₗ ℕ ×ₗ ℕ ×ₗ String :=
  toLex (OrderDual.toDual f.severity.rank, toLex (f.line, toLex (f.column.getD 0, f.rule)))

theorem Finding.notAfter_iff_standing_le (f g : Finding) :
    f.notAfter g = true ↔ f.standing ≤ g.standing := by
  rw [Finding.notAfter_iff]
  simp only [Finding.standing, Prod.Lex.toLex_le_toLex, OrderDual.toDual_lt_toDual,
    OrderDual.toDual_inj]
  have hrank : f.severity.rank = g.severity.rank ↔ g.severity.rank = f.severity.rank := eq_comm
  rw [hrank]

namespace Enforce

variable {d : Dialect} {code : List Char}

/-- The reports of the rules that a test on names lets pass. -/
theorem violations_filter (p : String → Bool) (t : RuleTable) :
    (violations t d code).filter (fun v => p v.rule) =
      violations ⟨t.rules.filter fun r => p r.id⟩ d code := by
  have hfound : found ⟨t.rules.filter fun r => p r.id⟩ d code =
      (found t d code).filter fun v => p v.rule := by
    simp only [found, RuleTable.forDialect]
    induction t.rules with
    | nil => rfl
    | cons r rs ih =>
      have here : ((places r (lines code)).map (Violation.ofRule r)).filter (fun v => p v.rule) =
          if p r.id then (places r (lines code)).map (Violation.ofRule r) else [] := by
        split_ifs with hp
        · exact List.filter_eq_self.mpr (by simp [Violation.ofRule, hp])
        · exact List.filter_eq_nil_iff.mpr (by simp [Violation.ofRule, hp])
      by_cases ha : r.appliesTo d = true <;> by_cases hp : p r.id = true <;>
        simp only [List.filter_cons, ha, hp, here, ih, if_true, if_false, List.flatMap_cons,
          List.filter_append, List.nil_append, Bool.false_eq_true]
  have horder (v w : Violation) : v.toFinding.notAfter w.toFinding = true ↔
      v.toFinding.standing ≤ w.toFinding.standing :=
    Finding.notAfter_iff_standing_le v.toFinding w.toFinding
  rw [violations_eq, violations_eq, hfound, filter_mergeSort horder]
  congr 1
  exact (firstByKey_filter (fun v : Violation => v.key) (fun k => p k.1)
    (fun _ _ => Iff.rfl) (found t d code)).symm

theorem violations_remove (t : RuleTable) (id : String) :
    violations (t.remove id) d code = (violations t d code).filter (·.rule != id) :=
  (violations_filter (· != id) t).symm

theorem violations_add (t : RuleTable) (r : Rule) :
    (violations (t.add r) d code).filter (·.rule != r.id) =
      violations (t.remove r.id) d code := by
  rw [violations_filter (· != r.id), RuleTable.add, RuleTable.filter_insert]
  rfl

section

variable {t : RuleTable}

/-- What is found at a place under a name is found by the one rule of that name. -/
theorem eq_of_key (hn : t.ids.Nodup) {v w : Violation} (hv : v ∈ found t d code)
    (hw : w ∈ found t d code) (hkey : v.key = w.key) : v = w := by
  obtain ⟨r, hr, -, q, -, rfl⟩ := mem_found.mp hv
  obtain ⟨s, hs, -, p, -, rfl⟩ := mem_found.mp hw
  simp only [key_ofRule, Prod.mk.injEq, Option.some.injEq] at hkey
  obtain ⟨hid, hline, hcolumn⟩ := hkey
  obtain rfl : r = s := List.inj_on_of_nodup_map hn hr hs hid
  have hplace : q = p := by
    cases q
    cases p
    simp_all
  rw [hplace]

theorem mem_violations_iff (hn : t.ids.Nodup) {v : Violation} :
    v ∈ violations t d code ↔ v ∈ found t d code := by
  constructor
  · intro hv
    exact mem_found.mpr (mem_violations hv)
  · intro hv
    obtain ⟨w, hw, hkey⟩ := mem_keys.mpr ⟨v, hv, rfl⟩
    rw [← eq_of_key hn (mem_found.mpr (mem_violations hw)) hv hkey]
    exact hw

/-- Two reports that may stand in either order are the same. -/
theorem eq_of_notAfter (hn : t.ids.Nodup) {v w : Violation} (hv : v ∈ violations t d code)
    (hw : w ∈ violations t d code) (hvw : v.toFinding.notAfter w.toFinding = true)
    (hwv : w.toFinding.notAfter v.toFinding = true) : v = w := by
  rw [mem_violations_iff hn] at hv hw
  apply eq_of_key hn hv hw
  have hstanding : v.standing = w.standing := by
    rw [Finding.notAfter_iff_standing_le] at hvw hwv
    exact le_antisymm hvw hwv
  obtain ⟨r, -, -, q, -, rfl⟩ := mem_found.mp hv
  obtain ⟨s, -, -, p, -, rfl⟩ := mem_found.mp hw
  simp only [Finding.standing, Violation.ofRule, Option.getD_some, toLex_inj,
    Prod.mk.injEq] at hstanding
  obtain ⟨-, hline, hcolumn, hid⟩ := hstanding
  rw [key_ofRule, key_ofRule, hid, hline, hcolumn]

theorem nodup_violations (t : RuleTable) (d : Dialect) (code : List Char) :
    (violations t d code).Nodup := (nodup_keys t d code).of_map _

theorem violations_perm (hn : t.ids.Nodup) {u : RuleTable} (h : t.rules.Perm u.rules) :
    violations t d code = violations u d code := by
  have hn' : u.ids.Nodup := (h.map _).nodup_iff.mp hn
  have hmem (v : Violation) : v ∈ violations t d code ↔ v ∈ violations u d code := by
    rw [mem_violations_iff hn, mem_violations_iff hn', mem_found, mem_found]
    simp only [h.mem_iff]
  have hperm : (violations t d code).Perm (violations u d code) :=
    (List.perm_ext_iff_of_nodup (nodup_violations t d code) (nodup_violations u d code)).mpr hmem
  refine hperm.eq_of_pairwise ?_ (violations_sorted t d code) (violations_sorted u d code)
  intro v w hv hw hvw hwv
  exact eq_of_notAfter hn hv ((hmem w).mpr hw) hvw hwv

end

/-- Tables that rules are added to and removed from hold each name once, and where a table does, the
order of its rules does not matter. For every table, with a rule that is added, of whatever kind,
the reports of the others are those on the table without any rule of its name, which are also those
on the table before; and with a rule removed by its name, those of the others stay as they are. -/
theorem rules_independent (d : Dialect) (code : List Char) :
    (∀ rs : List Rule, (RuleTable.ofList rs).ids.Nodup) ∧
    (∀ (t : RuleTable) (r : Rule) (id : String), t.ids.Nodup →
      (t.add r).ids.Nodup ∧ (t.remove id).ids.Nodup) ∧
    (∀ t u : RuleTable, t.ids.Nodup → t.rules.Perm u.rules →
      violations t d code = violations u d code) ∧
    (∀ (t : RuleTable) (r : Rule), (violations (t.add r) d code).filter (·.rule != r.id) =
      violations (t.remove r.id) d code) ∧
    (∀ (t : RuleTable) (r : Rule), (violations (t.add r) d code).filter (·.rule != r.id) =
      (violations t d code).filter (·.rule != r.id)) ∧
    ∀ (t : RuleTable) (id : String), violations (t.remove id) d code =
      (violations t d code).filter (·.rule != id) := by
  refine ⟨RuleTable.nodup_ids_ofList, ?_, fun t u hn h => violations_perm hn h, violations_add, ?_,
    violations_remove⟩
  · intro t r id hn
    exact ⟨RuleTable.nodup_ids_add hn r, RuleTable.nodup_ids_remove hn id⟩
  · intro t r
    rw [violations_add, violations_remove]

/-- Two rules that match the same characters, in either order: both are reported, by their names. -/
theorem rules_independent_swapped :
    let named (id : String) : Rule :=
      { id := id, name := id, category := .naming, severity := .info, pattern := "x",
        message := id, dialects := [.sql] }
    (violations (.ofList [named "b", named "a"]) .sql ['x']).map (·.rule) = ["a", "b"] ∧
    violations (.ofList [named "a", named "b"]) .sql ['x'] =
      violations (.ofList [named "b", named "a"]) .sql ['x'] := by
  intro named
  refine ⟨by cbv, ?_⟩
  refine (rules_independent .sql ['x']).2.2.1 _ _ (RuleTable.nodup_ids_ofList _) ?_
  exact List.Perm.swap _ _ []

end Enforce

end CampaignCheck

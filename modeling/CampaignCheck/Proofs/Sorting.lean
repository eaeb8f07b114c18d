import CampaignCheck.Finding
import Mathlib.Data.List.Basic
import Mathlib.Order.Lattice

namespace CampaignCheck

/-- Sorting keeps elements in their order that may stand in any order. -/
theorem filter_mergeSort_of_tied {α : Type} {le : α → α → Bool}
    (htrans : ∀ a b c, le a b = true → le b c = true → le a c = true)
    (htotal : ∀ a b, (le a b || le b a) = true) (p : α → Bool)
    (htied : ∀ a b, p a = true → p b = true → le a b = true) (l : List α) :
    (l.mergeSort le).filter p = l.filter p := by
  have hsorted : (l.filter p).Pairwise fun a b => le a b = true :=
    List.pairwise_of_forall_mem_list fun a ha b hb =>
      htied a b (List.mem_filter.mp ha).2 (List.mem_filter.mp hb).2
  have hsub : (l.filter p).Sublist (l.mergeSort le) :=
    List.sublist_mergeSort htrans htotal hsorted List.filter_sublist
  have hsub' : (l.filter p).Sublist ((l.mergeSort le).filter p) := by
    simpa [List.filter_filter] using hsub.filter p
  have hlen : (l.filter p).length = ((l.mergeSort le).filter p).length :=
    ((List.mergeSort_perm l le).filter p).length_eq.symm
  exact (hsub'.eq_of_length hlen).symm

/-- Two lists sorted by a key are the same if they hold the same elements, in the same order, at
each key. -/
theorem eq_of_filter_key {α β : Type} [LinearOrder β] (key : α → β) {l₁ l₂ : List α}
    (h₁ : l₁.Pairwise fun a b => key a ≤ key b) (h₂ : l₂.Pairwise fun a b => key a ≤ key b)
    (h : ∀ k, l₁.filter (fun a => decide (key a = k)) = l₂.filter fun a => decide (key a = k)) :
    l₁ = l₂ := by
  induction l₁ generalizing l₂ with
  | nil =>
    cases l₂ with
    | nil => rfl
    | cons b l₂ =>
      have hb := h (key b)
      simp at hb
  | cons a l₁ ih =>
    have hmem {x : α} : x ∈ a :: l₁ ↔ x ∈ l₂ := by
      have hx := congrArg (x ∈ ·) (h (key x))
      simpa using hx
    cases l₂ with
    | nil => exact absurd (hmem.mp (List.mem_cons_self (a := a))) List.not_mem_nil
    | cons b l₂ =>
      -- Each head is below all of its list, so the heads share their key, and then they are the
      -- first elements of that key.
      have hab : key a ≤ key b := by
        rcases List.mem_cons.mp (hmem.mpr (by simp : b ∈ b :: l₂)) with rfl | hb
        · exact le_rfl
        · exact List.rel_of_pairwise_cons h₁ hb
      have hba : key b ≤ key a := by
        rcases List.mem_cons.mp (hmem.mp (by simp : a ∈ a :: l₁)) with rfl | ha
        · exact le_rfl
        · exact List.rel_of_pairwise_cons h₂ ha
      have hkey : key a = key b := le_antisymm hab hba
      have heads := h (key a)
      simp only [List.filter_cons, hkey, decide_true, if_true, List.cons.injEq] at heads
      obtain ⟨rfl, -⟩ := heads
      refine congrArg (a :: ·) (ih h₁.tail h₂.tail fun k => ?_)
      have hk := h k
      simp only [List.filter_cons] at hk
      split_ifs at hk
      · exact (List.cons.inj hk).2
      · exact hk

/-- Sorting by a key and leaving elements out can be done in either order. -/
theorem filter_mergeSort {α β : Type} [LinearOrder β] {key : α → β} {le : α → α → Bool}
    (hle : ∀ a b, le a b = true ↔ key a ≤ key b) (p : α → Bool) (l : List α) :
    (l.mergeSort le).filter p = (l.filter p).mergeSort le := by
  have htrans (a b c : α) (hab : le a b = true) (hbc : le b c = true) : le a c = true := by
    rw [hle] at *
    exact le_trans hab hbc
  have htotal (a b : α) : (le a b || le b a) = true := by
    rw [Bool.or_eq_true, hle, hle]
    exact le_total (key a) (key b)
  have hsorted (l : List α) : (l.mergeSort le).Pairwise fun a b => key a ≤ key b :=
    (List.pairwise_mergeSort htrans htotal l).imp fun {a b} h => (hle a b).mp h
  have htied (k : β) (l : List α) : (l.mergeSort le).filter (fun a => decide (key a = k)) =
      l.filter fun a => decide (key a = k) := by
    refine filter_mergeSort_of_tied htrans htotal _ (fun a b ha hb => ?_) l
    rw [hle, of_decide_eq_true ha, of_decide_eq_true hb]
  refine eq_of_filter_key key ((hsorted l).filter p) (hsorted _) fun k => ?_
  rw [htied, List.filter_comm, htied, List.filter_comm]

theorem firstByKey_sublist {α κ : Type} [DecidableEq κ] (key : α → κ) (seen : List κ)
    (as : List α) : (firstByKey key seen as).Sublist as := by
  induction as generalizing seen with
  | nil => exact List.Sublist.refl _
  | cons a as ih =>
    rw [firstByKey]
    split_ifs
    · exact (ih seen).cons a
    · exact (ih _).cons_cons a

theorem not_mem_of_mem_firstByKey {α κ : Type} [DecidableEq κ] {key : α → κ} {seen : List κ}
    {as : List α} {a : α} (h : a ∈ firstByKey key seen as) : key a ∉ seen := by
  induction as generalizing seen with
  | nil => simp [firstByKey] at h
  | cons b as ih =>
    rw [firstByKey] at h
    split_ifs at h with hb
    · exact ih h
    · rcases List.mem_cons.mp h with rfl | h
      · exact hb
      · exact fun hmem => ih h (List.mem_cons_of_mem _ hmem)

/-- No two of the elements have the same key. -/
theorem nodup_map_firstByKey {α κ : Type} [DecidableEq κ] (key : α → κ) (seen : List κ)
    (as : List α) : ((firstByKey key seen as).map key).Nodup := by
  induction as generalizing seen with
  | nil => simp [firstByKey]
  | cons a as ih =>
    rw [firstByKey]
    split_ifs
    · exact ih seen
    · rw [List.map_cons, List.nodup_cons]
      refine ⟨?_, ih _⟩
      intro hmem
      obtain ⟨b, hb, hkey⟩ := List.mem_map.mp hmem
      exact not_mem_of_mem_firstByKey hb (hkey ▸ List.mem_cons_self)

/-- Every key has its first element, unless it is taken already. -/
theorem mem_map_firstByKey {α κ : Type} [DecidableEq κ] {key : α → κ} {seen : List κ}
    {as : List α} {k : κ} (hk : k ∈ as.map key) (hseen : k ∉ seen) :
    k ∈ (firstByKey key seen as).map key := by
  induction as generalizing seen with
  | nil => simp at hk
  | cons a as ih =>
    rw [firstByKey]
    by_cases hka : k = key a
    · subst hka
      rw [if_neg hseen]
      exact List.mem_map_of_mem List.mem_cons_self
    · have hrest : k ∈ as.map key := by simpa [hka] using hk
      split_ifs
      · exact ih hrest hseen
      · exact List.mem_cons_of_mem _ (ih hrest (by simp [hka, hseen]))

/-- What elements of the same key have in common is seen on the first ones. -/
theorem any_firstByKey {α κ : Type} [DecidableEq κ] {key : α → κ} {p : α → Bool} {as : List α}
    (h : ∀ a ∈ as, ∀ b ∈ as, key a = key b → p a = p b) :
    (firstByKey key [] as).any p = as.any p := by
  have hsub := (firstByKey_sublist key [] as).subset
  rw [Bool.eq_iff_iff, List.any_eq_true, List.any_eq_true]
  constructor
  · rintro ⟨a, ha, hp⟩
    exact ⟨a, hsub ha, hp⟩
  · rintro ⟨a, ha, hp⟩
    have hfirst := mem_map_firstByKey (List.mem_map_of_mem (f := key) ha) List.not_mem_nil
    obtain ⟨b, hb, hkey⟩ := List.mem_map.mp hfirst
    exact ⟨b, hb, (h b (hsub hb) a ha hkey).trans hp⟩

/-- Elements whose key a test refuses take no part in which other element is the first. -/
theorem firstByKey_filter {α κ : Type} [DecidableEq κ] (key : α → κ) (q : κ → Bool)
    {seen seen' : List κ} (hseen : ∀ k, q k = true → (k ∈ seen ↔ k ∈ seen')) (as : List α) :
    firstByKey key seen (as.filter fun a => q (key a)) =
      (firstByKey key seen' as).filter fun a => q (key a) := by
  induction as generalizing seen seen' with
  | nil => rfl
  | cons a as ih =>
    by_cases hq : q (key a) = true
    · rw [List.filter_cons_of_pos (p := fun a => q (key a)) hq, firstByKey, firstByKey]
      by_cases hmem : key a ∈ seen
      · rw [if_pos hmem, if_pos ((hseen _ hq).mp hmem), ih hseen]
      · rw [if_neg hmem, if_neg fun h => hmem ((hseen _ hq).mpr h),
          List.filter_cons_of_pos (p := fun a => q (key a)) hq, ih]
        intro k hk
        simp [hseen k hk]
    · rw [List.filter_cons_of_neg (p := fun a => q (key a)) hq, firstByKey]
      split_ifs
      · exact ih hseen
      · rw [List.filter_cons_of_neg (p := fun a => q (key a)) hq]
        refine ih fun k hk => ?_
        have hne : k ≠ key a := by
          rintro rfl
          exact hq hk
        simp [hseen k hk, hne]

/-- Of the elements with a key, the first one is left. -/
theorem filter_firstByKey {α κ : Type} [DecidableEq κ] (key : α → κ) (k : κ) (as : List α) :
    (firstByKey key [] as).filter (fun a => decide (key a = k)) =
      (as.find? fun a => decide (key a = k)).toList := by
  have hsame (bs : List α) (hb : ∀ b ∈ bs, key b = k) : firstByKey key [k] bs = [] := by
    induction bs with
    | nil => rfl
    | cons b bs ih =>
      have hmem : key b ∈ [k] := List.mem_singleton.mpr (hb b List.mem_cons_self)
      rw [firstByKey, if_pos hmem]
      exact ih fun c hc => hb c (List.mem_cons_of_mem b hc)
  rw [← firstByKey_filter key (fun x => decide (x = k)) (fun _ _ => Iff.rfl) as,
    ← List.head?_filter]
  cases hf : as.filter fun a => decide (key a = k) with
  | nil => rfl
  | cons a rest =>
    have hkeys : ∀ b ∈ a :: rest, key b = k := by
      intro b hb
      rw [← hf] at hb
      exact of_decide_eq_true (List.mem_filter.mp hb).2
    rw [firstByKey, if_neg List.not_mem_nil, hkeys a List.mem_cons_self,
      hsame rest fun b hb => hkeys b (List.mem_cons_of_mem a hb)]
    rfl

end CampaignCheck

import CampaignCheck.Proofs.Text.Stretch

namespace CampaignCheck.Text

variable {α : Type}

/-- The text with `add i` behind the character at each offset `i`. -/
def inserted (add : Nat → List α) : List α → List α
  | [] => []
  | c :: cs => c :: (add 0 ++ inserted (fun i => add (i + 1)) cs)

/-- How much is put behind each character. -/
def sizes (add : Nat → List α) (i : Nat) : Nat := (add i).length

theorem length_inserted (add : Nat → List α) (cs : List α) :
    (inserted add cs).length = placeOf (sizes add) cs.length := by
  induction cs generalizing add with
  | nil => rfl
  | cons c cs ih =>
    have hplace : placeOf (sizes add) (cs.length + 1) =
        (add 0).length + 1 + placeOf (sizes fun i => add (i + 1)) cs.length :=
      placeOf_succ (sizes add) cs.length
    rw [inserted, List.length_cons, List.length_append, ih, List.length_cons, hplace]
    omega

theorem inserted_congr {add add' : Nat → List α} {cs : List α}
    (h : ∀ i < cs.length, add i = add' i) : inserted add cs = inserted add' cs := by
  induction cs generalizing add add' with
  | nil => rfl
  | cons c cs ih =>
    rw [inserted, inserted, h 0 (Nat.succ_pos _),
      ih fun i hi => h (i + 1) (Nat.succ_lt_succ hi)]

theorem inserted_of_nil {add : Nat → List α} {cs : List α} (h : ∀ i < cs.length, add i = []) :
    inserted add cs = cs := by
  induction cs generalizing add with
  | nil => rfl
  | cons c cs ih =>
    rw [inserted, h 0 (Nat.succ_pos _), ih fun i hi => h (i + 1) (Nat.succ_lt_succ hi),
      List.nil_append]

theorem mem_inserted {add : Nat → List α} {cs : List α} {a : α} (h : a ∈ inserted add cs) :
    a ∈ cs ∨ ∃ i < cs.length, a ∈ add i := by
  induction cs generalizing add with
  | nil => cases h
  | cons c cs ih =>
    rw [inserted, List.mem_cons, List.mem_append] at h
    rcases h with rfl | h | h
    · exact .inl List.mem_cons_self
    · exact .inr ⟨0, Nat.succ_pos _, h⟩
    · rcases ih h with hmem | ⟨i, hlt, hi⟩
      · exact .inl (List.mem_cons_of_mem c hmem)
      · exact .inr ⟨i + 1, Nat.succ_lt_succ hlt, hi⟩

theorem sublist_inserted (add : Nat → List α) (cs : List α) : cs.Sublist (inserted add cs) := by
  induction cs generalizing add with
  | nil => exact List.Sublist.refl _
  | cons c cs ih => exact ((ih _).trans (List.sublist_append_right _ _)).cons_cons c

theorem filter_inserted {p : α → Bool} {add : Nat → List α} (h : ∀ i, ∀ c ∈ add i, p c = false)
    (cs : List α) : (inserted add cs).filter p = cs.filter p := by
  induction cs generalizing add with
  | nil => rfl
  | cons c cs ih =>
    have hnone : (add 0).filter p = [] :=
      List.filter_eq_nil_iff.mpr fun d hd => ne_true_of_eq_false (h 0 d hd)
    rw [inserted, List.filter_cons, List.filter_append, hnone, List.nil_append,
      ih fun i => h (i + 1), List.filter_cons]

theorem head?_inserted (add : Nat → List α) (cs : List α) : (inserted add cs).head? = cs.head? := by
  cases cs <;> rfl

/-- If nothing is put into the text but behind its last character, that stands at the end. -/
theorem inserted_at_end {add : Nat → List α} {cs : List α} {n : Nat} (hn : cs.length = n + 1)
    (h : ∀ i < n, add i = []) : inserted add cs = cs ++ add n := by
  induction cs generalizing add n with
  | nil => cases hn
  | cons c cs ih =>
    rw [inserted]
    cases n with
    | zero =>
      obtain rfl : cs = [] := List.length_eq_zero_iff.mp (Nat.succ.inj hn)
      rw [inserted, List.append_nil]
      rfl
    | succ n =>
      have hrest := ih (Nat.succ.inj hn) fun i hi => h (i + 1) (Nat.succ_lt_succ hi)
      rw [h 0 (Nat.succ_pos n), hrest, List.nil_append]
      rfl

theorem inserted_append (add : Nat → List α) (as bs : List α) :
    inserted add (as ++ bs) = inserted add as ++ inserted (fun i => add (as.length + i)) bs := by
  induction as generalizing add with
  | nil => simp [inserted]
  | cons a as ih =>
    have hshift (i : Nat) : as.length + i + 1 = (a :: as).length + i := by
      rw [List.length_cons]
      omega
    rw [List.cons_append, inserted, ih, inserted, List.cons_append, List.append_assoc]
    simp only [hshift]

/-- What is put behind the last character stands at the end. -/
theorem inserted_last (add : Nat → List α) {cs : List α} {n : Nat} (hn : cs.length = n + 1) :
    inserted add cs = inserted (fun i => if i = n then [] else add i) cs ++ add n := by
  rcases List.eq_nil_or_concat cs with rfl | ⟨front, c, rfl⟩
  · cases hn
  · rw [List.concat_eq_append, List.length_append] at hn
    obtain rfl : front.length = n := Nat.succ.inj hn
    have hfront : inserted add front =
        inserted (fun i => if i = front.length then [] else add i) front :=
      inserted_congr fun i hi => (if_neg (Nat.ne_of_lt hi)).symm
    rw [List.concat_eq_append, inserted_append, inserted_append, hfront]
    simp [inserted]

theorem inserted_append_of_nil {add : Nat → List α} {as : List α} (h : ∀ i < as.length, add i = [])
    (bs : List α) : inserted add (as ++ bs) = as ++ inserted (fun i => add (as.length + i)) bs := by
  rw [inserted_append, inserted_of_nil h]

theorem inserted_from_cons (add : Nat → List α) (i : Nat) (a : α) (as : List α) :
    inserted (fun j => add (i + j)) (a :: as) =
      a :: (add i ++ inserted (fun j => add (i + 1 + j)) as) := by
  have hshift : (fun j => add (i + (j + 1))) = fun j => add (i + 1 + j) := by
    funext j
    rw [Nat.add_right_comm, Nat.add_assoc]
  rw [inserted, hshift]
  rfl

theorem inserted_split (add : Nat → List α) {i : Nat} {cs : List α} (h : i ≤ cs.length) :
    (inserted add (cs.take i)).length = placeOf (sizes add) i ∧ inserted add cs =
      inserted add (cs.take i) ++ inserted (fun j => add (i + j)) (cs.drop i) := by
  have happend := inserted_append add (cs.take i) (cs.drop i)
  rw [List.take_append_drop, List.length_take_of_le h] at happend
  exact ⟨by rw [length_inserted, List.length_take_of_le h], happend⟩

theorem length_inserted_le {add : Nat → List α} {i : Nat} {cs : List α} (h : cs.length ≤ i) :
    (inserted add cs).length ≤ placeOf (sizes add) i := by
  rw [length_inserted]
  exact placeOf_le_iff.mpr h

theorem drop_inserted (add : Nat → List α) (i : Nat) (cs : List α) :
    (inserted add cs).drop (placeOf (sizes add) i) =
      inserted (fun j => add (i + j)) (cs.drop i) := by
  rcases Nat.le_total i cs.length with hle | hle
  · obtain ⟨hlength, hsplit⟩ := inserted_split add hle
    rw [hsplit, List.drop_left' hlength]
  · rw [List.drop_of_length_le hle, List.drop_of_length_le (length_inserted_le hle)]
    rfl

/-- What follows from within the characters that are put behind one. -/
theorem drop_between {add : Nat → List α} {cs : List α} {i r : Nat} (hi : i < cs.length)
    (hr : 0 < r) (hr' : r ≤ sizes add i) :
    ∃ a ∈ add i, ∃ rest, (inserted add cs).drop (placeOf (sizes add) i + r) = a :: rest := by
  obtain ⟨r, rfl⟩ := Nat.exists_eq_succ_of_ne_zero (Nat.ne_of_gt hr)
  rw [← List.drop_drop, drop_inserted, List.drop_eq_getElem_cons hi, inserted_from_cons,
    List.drop_succ_cons, List.drop_append_of_le_length (Nat.le_of_succ_le hr'),
    List.drop_eq_getElem_cons hr']
  exact ⟨_, List.getElem_mem hr', _, rfl⟩

theorem take_inserted (add : Nat → List α) (i : Nat) (cs : List α) :
    (inserted add cs).take (placeOf (sizes add) i) = inserted add (cs.take i) := by
  rcases Nat.le_total i cs.length with hle | hle
  · obtain ⟨hlength, hsplit⟩ := inserted_split add hle
    rw [hsplit, List.take_left' hlength]
  · rw [List.take_of_length_le hle, List.take_of_length_le (length_inserted_le hle)]

end CampaignCheck.Text

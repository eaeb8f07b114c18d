import CampaignCheck.Text.Blank
import CampaignCheck.Text.Casing
import CampaignCheck.Text.Word
import Mathlib.Tactic.SplitIfs
import Mathlib.Data.List.Basic

namespace CampaignCheck.Text

theorem toNat_of_ofNat_eq {n : Nat} {c : Char} (h : Char.ofNat n = c) (hc : c ≠ '\x00') :
    c.toNat = n := by
  by_cases hvalid : n.isValidChar
  · rw [Char.ofNat, dif_pos hvalid] at h
    rw [← h]
    rfl
  · rw [Char.ofNat, dif_neg hvalid] at h
    exact absurd h.symm hc

theorem mem_casings_of_plain {c : Char} (h : c.val < 128) : c ∈ casings c.toLower := by
  have hall : ∀ n < 128, Char.ofNat n ∈ casings (Char.ofNat n).toLower := by decide +kernel
  have hc := hall c.toNat (UInt32.lt_iff_toNat_lt.mp h)
  rwa [Char.ofNat_toNat] at hc

/-- A character is among those that have its lower-case form. -/
theorem mem_casings {c l : Char} (h : lowerChar c = l) (hl : l ≠ '\x00') : c ∈ casings l := by
  unfold lowerChar at h
  split_ifs at h with hplain
  · rw [← h]
    exact mem_casings_of_plain hplain
  · unfold shifted at h
    split at h
    · next r hr =>
      have hholds := List.find?_some hr
      have hmem : r ∈ lowerRuns := List.mem_of_find?_eq_some hr
      have hcode := toNat_of_ofNat_eq h hl
      have hpos : l.toNat ≠ 0 := fun hzero => hl (by rw [← Char.ofNat_toNat l, hzero])
      have hback : ((l.toNat : Int) - r.shift).toNat = c.toNat := by omega
      have hsum : (c.toNat : Int) + r.shift = l.toNat := by omega
      refine List.mem_cons_of_mem _ (List.mem_filterMap.mpr ⟨r, hmem, ?_⟩)
      simp [hback, hholds, hsum, Char.ofNat_toNat]
    · rw [Char.ofNat_toNat] at h
      rw [h]
      exact List.mem_cons_self

theorem lt_of_isAlpha {a : Char} (h : a.isAlpha = true) : a.toNat < 128 := by
  have hcode : a.toNat = a.val.toNat := rfl
  have hbounds : ('Z'.val.toNat = 90 ∧ 'z'.val.toNat = 122) := by decide
  have hranges : (decide (a.val ≥ 'A'.val ∧ a.val ≤ 'Z'.val) ||
      decide (a.val ≥ 'a'.val) && decide (a.val ≤ 'z'.val)) = true := h
  simp only [Bool.or_eq_true, Bool.and_eq_true, decide_eq_true_eq, ge_iff_le,
    UInt32.le_iff_toNat_le] at hranges
  omega

/-- What counts as a plain Latin letter is listed among its forms. -/
theorem mem_letterForms {a c : Char} (ha : a.isAlpha = true) (h : sameLetter a c = true) :
    c ∈ letterForms a := by
  have hall : ∀ n < 128, (Char.ofNat n).isAlpha = true →
      (lowerChar (Char.ofNat n) :: variantsOf (lowerChar (Char.ofNat n))).all (· != '\x00')
        = true := by
    decide +kernel
  have hforms := hall a.toNat (lt_of_isAlpha ha)
  rw [Char.ofNat_toNat] at hforms
  have hlower : lowerChar c ∈ lowerChar a :: variantsOf (lowerChar a) := by
    simp only [sameLetter, Bool.or_eq_true, beq_iff_eq, List.contains_iff_mem] at h
    rcases h with h | h
    · rw [h]
      exact List.mem_cons_self
    · exact List.mem_cons_of_mem _ h
  rw [letterForms, if_neg (by simp [ha])]
  have hne := List.all_eq_true.mp (hforms ha) _ hlower
  exact List.mem_flatMap.mpr ⟨_, hlower, mem_casings rfl (by simpa using hne)⟩

/-- What counts as a plain Latin letter is a word character. -/
theorem isWord_of_sameLetter {a c : Char} (ha : a.isAlpha = true) (h : sameLetter a c = true) :
    isWord c = true := by
  have hall : ∀ n < 128, (Char.ofNat n).isAlpha = true →
      (letterForms (Char.ofNat n)).all isWord = true := by
    decide +kernel
  have hforms := hall a.toNat (lt_of_isAlpha ha)
  rw [Char.ofNat_toNat] at hforms
  exact List.all_eq_true.mp (hforms ha) c (mem_letterForms ha h)

/-- First and last code points of the runs of blanks beyond the first 128. -/
def blankRuns : List (Nat × Nat) := [
  (0x85, 0x85), (0xA0, 0xA0), (0x1680, 0x1680), (0x2000, 0x200A), (0x2028, 0x2029),
  (0x202F, 0x202F), (0x205F, 0x205F), (0x3000, 0x3000)]

theorem exists_blankRun {c : Char} (h : isBlank c = true) (hc : 128 ≤ c.toNat) :
    ∃ b ∈ blankRuns, b.1 ≤ c.toNat ∧ c.toNat ≤ b.2 := by
  simp only [isBlank, Bool.or_eq_true, Bool.and_eq_true, decide_eq_true_eq, beq_iff_eq] at h
  simp only [blankRuns, List.mem_cons, exists_eq_or_imp, List.not_mem_nil, or_false,
    exists_eq_left]
  omega

theorem isWord_of_plainBlank {c : Char} (h : isBlank c = true) (hc : c.toNat < 128) :
    isWord c = false := by
  have hall : ∀ n < 128, isBlank (Char.ofNat n) = true → isWord (Char.ofNat n) = false := by
    decide +kernel
  have hplain := hall c.toNat hc
  rw [Char.ofNat_toNat] at hplain
  exact hplain h

/-- No run of letters meets a run of blanks. -/
theorem letterRuns_apart :
    (letterRuns.all fun r => blankRuns.all fun b => Nat.blt r.2 b.1 || Nat.blt b.2 r.1) = true := by
  decide +kernel

theorem isWord_of_isBlank {c : Char} (h : isBlank c = true) : isWord c = false := by
  rcases Nat.lt_or_ge c.toNat 128 with hplain | hbeyond
  · exact isWord_of_plainBlank h hplain
  · obtain ⟨b, hb, hfirst, hlast⟩ := exists_blankRun h hbeyond
    have hruns : (letterRuns.any fun r => r.1 ≤ c.toNat && c.toNat ≤ r.2) = false := by
      rw [List.any_eq_false]
      intro r hr
      have hapart := List.all_eq_true.mp (List.all_eq_true.mp letterRuns_apart r hr) b hb
      simp only [Bool.or_eq_true, Nat.blt_eq] at hapart
      simp only [Bool.and_eq_true, decide_eq_true_eq, not_and, Nat.not_le]
      omega
    have hcode : ¬ c.val < 128 := fun hlt =>
      absurd (UInt32.lt_iff_toNat_lt.mp hlt) (Nat.not_lt.mpr hbeyond)
    have hline : (c == '_') = false := by
      refine beq_false_of_ne fun heq => ?_
      subst heq
      exact absurd hbeyond (by decide)
    rw [isWord, isAlphanumeric, if_neg hcode, hruns, hline]
    rfl

theorem toList_toString_nat (n : Nat) : (toString n).toList = Nat.toDigits 10 n := by
  rw [Nat.toString_eq_repr, Nat.toList_repr]

theorem toString_natCast (n : Nat) : toString (n : Int) = toString n := rfl

theorem not_mem_toDigits {c : Char} (hc : c.isDigit = false) (n : Nat) : c ∉ Nat.toDigits 10 n := by
  intro h
  have hdigit := Nat.isDigit_of_mem_toDigits (b := 10) (by decide) (by decide) h
  rw [hc] at hdigit
  cases hdigit

theorem toDigits_inj {m n : Nat} (h : Nat.toDigits 10 m = Nat.toDigits 10 n) : m = n := by
  have hread := congrArg (fun ds => Nat.ofDigitChars 10 ds 0) h
  simpa using hread

/-- A text is told apart at the last separator. -/
theorem append_sep_inj {α : Type} {sep : α} {a b c d : List α} (hb : sep ∉ b) (hd : sep ∉ d)
    (h : a ++ sep :: b = c ++ sep :: d) : a = c ∧ b = d := by
  rcases List.append_eq_append_iff.mp h with ⟨e, rfl, he⟩ | ⟨e, rfl, he⟩
  · cases e with
    | nil => simpa using he
    | cons x e =>
      obtain ⟨rfl, rfl⟩ := List.cons.inj he
      exact absurd (List.mem_append_right e List.mem_cons_self) hb
  · cases e with
    | nil => simpa [eq_comm] using he
    | cons x e =>
      obtain ⟨rfl, rfl⟩ := List.cons.inj he
      exact absurd (List.mem_append_right e List.mem_cons_self) hd

end CampaignCheck.Text

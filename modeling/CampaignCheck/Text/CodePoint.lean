namespace CampaignCheck.Text

/-- The code is a sixteen-bit unit that is only half of a character. -/
def isHalf (code : Nat) : Bool := decide (0xD800 ≤ code ∧ code ≤ 0xDFFF)

/-- The character with a code. A text from outside may hold half of a character, which no character
of its own stands for; one of the characters of plane thirteen, where none is assigned, takes its
place. -/
def ofCode (code : Nat) : Char :=
  if isHalf code then Char.ofNat (0xD0000 + code) else Char.ofNat code

/-- The character takes the place of half of one. -/
def standsForHalf (c : Char) : Bool :=
  decide (0xD0000 ≤ c.toNat) && isHalf (c.toNat - 0xD0000)

def codeOf (c : Char) : Nat := if standsForHalf c then c.toNat - 0xD0000 else c.toNat

/-- A code below those of halves is that of the character itself. -/
theorem toNat_eq_codeOf {c : Char} (h : codeOf c < 0xD800) : c.toNat = codeOf c := by
  unfold codeOf at h ⊢
  split at h
  · next hhalf =>
    have hcode := (decide_eq_true_iff.mp (Bool.and_eq_true_iff.mp hhalf).2).1
    exact absurd hcode (Nat.not_le.mpr h)
  · next hwhole => rw [if_neg hwhole]

/-- No half is taken for another character or for another half. -/
theorem codeOf_ofCode {code : Nat} (h : code < 0xD0000) : codeOf (ofCode code) = code := by
  unfold ofCode
  split
  · next hhalf =>
    have hbounds := decide_eq_true_iff.mp hhalf
    have hvalid : (0xD0000 + code).isValidChar := .inr ⟨by omega, by omega⟩
    have hplace : (Char.ofNat (0xD0000 + code)).toNat = 0xD0000 + code := by
      rw [Char.ofNat, dif_pos hvalid]
      rfl
    rw [codeOf, if_pos, hplace, Nat.add_sub_cancel_left]
    rw [standsForHalf, hplace, Nat.add_sub_cancel_left, hhalf]
    simp
  · next hwhole =>
    have hbounds : ¬(0xD800 ≤ code ∧ code ≤ 0xDFFF) := fun h => hwhole (decide_eq_true h)
    have hvalid : code.isValidChar := by
      unfold Nat.isValidChar
      omega
    have hplace : (Char.ofNat code).toNat = code := by
      rw [Char.ofNat, dif_pos hvalid]
      rfl
    rw [codeOf, if_neg, hplace]
    rw [standsForHalf, hplace, decide_eq_false (by omega), Bool.false_and]
    exact Bool.false_ne_true

end CampaignCheck.Text

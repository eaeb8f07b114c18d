import CampaignCheck.Schema.Scalar

namespace CampaignCheck.Schema

variable {α β : Type}

namespace Checked

theorem eq_ok_of_map {f : α → β} {c : Checked α} {b : β} (h : c.map f = .ok b) :
    ∃ a, c = .ok a ∧ f a = b := by
  cases c with
  | ok a => exact ⟨a, rfl, Checked.ok.inj h⟩
  | faults fs => cases h

theorem eq_ok_of_seq {f : Checked (α → β)} {c : Checked α} {b : β} (h : f <*> c = .ok b) :
    ∃ g a, f = .ok g ∧ c = .ok a ∧ g a = b := by
  change apply f c = .ok b at h
  cases f with
  | ok g =>
    cases c with
    | ok a => exact ⟨g, a, rfl, rfl, Checked.ok.inj h⟩
    | faults fs => cases h
  | faults fs => cases c <;> cases h

theorem eq_ok_of_andThen {c : Checked α} {f : α → Checked β} {b : β} (h : c.andThen f = .ok b) :
    ∃ a, c = .ok a ∧ f a = .ok b := by
  cases c with
  | ok a => exact ⟨a, rfl, h⟩
  | faults fs => cases h

theorem andThen_eq_ok_iff {c : Checked α} {f : α → Checked β} {b : β} :
    c.andThen f = .ok b ↔ ∃ a, c = .ok a ∧ f a = .ok b := by
  constructor
  · exact eq_ok_of_andThen
  · rintro ⟨a, rfl, h⟩
    exact h

theorem eq_ok_of_within {step : Step} {c : Checked α} {a : α} (h : c.within step = .ok a) :
    c = .ok a := by
  cases c with
  | ok b => exact h
  | faults fs => cases h

theorem exists_map_ok {f : α → β} {c : Checked α} {p : β → Prop} :
    (∃ b, f <$> c = .ok b ∧ p b) ↔ ∃ a, c = .ok a ∧ p (f a) := by
  constructor
  · rintro ⟨b, h, hp⟩
    obtain ⟨a, hc, rfl⟩ := eq_ok_of_map h
    exact ⟨a, hc, hp⟩
  · rintro ⟨a, rfl, hp⟩
    exact ⟨f a, rfl, hp⟩

theorem exists_seq_ok {f : Checked (α → β)} {c : Checked α} {p : β → Prop} :
    (∃ b, f <*> c = .ok b ∧ p b) ↔ ∃ g, f = .ok g ∧ ∃ a, c = .ok a ∧ p (g a) := by
  constructor
  · rintro ⟨b, h, hp⟩
    obtain ⟨g, a, hf, hc, rfl⟩ := eq_ok_of_seq h
    exact ⟨g, hf, a, hc, hp⟩
  · rintro ⟨g, rfl, a, rfl, hp⟩
    exact ⟨g a, rfl, hp⟩

/-- What a record is read as, in the form that `exists_map_ok` and `exists_seq_ok` take apart into
its fields. -/
theorem eq_ok_iff {c : Checked α} {a : α} : c = .ok a ↔ ∃ b, c = .ok b ∧ a = b := by
  constructor
  · exact fun h => ⟨a, h, rfl⟩
  · rintro ⟨b, h, rfl⟩
    exact h

end Checked

theorem read_of_withDefault {fs : Fields} {name : String} {default a : α}
    {read : Value → Checked α} (h : withDefault fs name default read = .ok a) :
    a = default ∨ ∃ v, fs.get? name = some v ∧ read v = .ok a := by
  unfold withDefault at h
  split at h
  · next v hv => exact .inr ⟨v, hv, Checked.eq_ok_of_within h⟩
  · exact .inl (Checked.ok.inj h).symm

theorem read_of_maybe {read : Value → Checked α} {v : Value} {a : α}
    (h : maybe read v = .ok (some a)) : read v = .ok a := by
  unfold maybe at h
  split at h
  · cases h
  · obtain ⟨b, hb, he⟩ := Checked.eq_ok_of_map h
    rw [hb, Option.some.inj he]

theorem pos_of_positive {v : Value} {n : Nat} (h : positive v = .ok n) : 0 < n := by
  obtain ⟨k, -, hk⟩ := Checked.eq_ok_of_andThen h
  split at hk
  · cases hk
  · next hle =>
    obtain rfl := Checked.ok.inj hk
    omega

end CampaignCheck.Schema

import CampaignCheck.Proofs.Schema.Reading
import CampaignCheck.Schema.Encode
import CampaignCheck.Schema.Record
import CampaignCheck.Schema.Request

namespace CampaignCheck.Schema

variable {α : Type} {read : Value → Checked α} {write : α → Value}

/-- Whatever is read is read again as the same once it is written. -/
def Rereads (read : Value → Checked α) (write : α → Value) : Prop :=
  ∀ v a, read v = .ok a → read (write a) = .ok a

/-- Where there is only one way to give a value, it is written as it was given. -/
theorem Rereads.of_unique (h : ∀ v a, read v = .ok a → write a = v) : Rereads read write := by
  intro v a hread
  rw [h v a hread]
  exact hread

theorem rereads_text : Rereads text .text := fun _ _ _ => rfl

theorem rereads_integer : Rereads integer .int := fun _ _ _ => rfl

theorem rereads_switch : Rereads switch .bool := fun _ _ _ => rfl

theorem rereads_filledText : Rereads filledText .text := by
  refine Rereads.of_unique fun v s h => ?_
  cases v with
  | text t =>
    rw [filledText] at h
    split at h
    · cases h
    · split at h
      · cases h
      · rw [Checked.ok.inj h]
  | _ => cases h

theorem rereads_chars : Rereads chars .ofChars := by
  refine Rereads.of_unique fun v cs h => ?_
  obtain ⟨s, hs, rfl⟩ := Checked.eq_ok_of_map h
  cases v with
  | text t =>
    obtain rfl := Checked.ok.inj hs
    rw [Value.ofChars, String.ofList_toList]
  | _ => cases hs

theorem rereads_oneOf (values : List α) (name : α → String) :
    Rereads (oneOf values name) fun a => .text (name a) := by
  refine Rereads.of_unique fun v a h => ?_
  cases v with
  | text s =>
    rw [oneOf] at h
    split at h
    · next b hb =>
      obtain rfl := Checked.ok.inj h
      have hname : name b = s := by simpa using List.find?_some hb
      rw [hname]
    · cases h
  | _ => cases h

theorem le_of_naturalFrom {bound n : Nat} {v : Value} (h : naturalFrom bound v = .ok n) :
    bound ≤ n := by
  obtain ⟨k, -, hk⟩ := Checked.eq_ok_of_andThen h
  split at hk
  · cases hk
  · next hle =>
    obtain rfl := Checked.ok.inj hk
    omega

theorem rereads_naturalFrom (bound : Nat) : Rereads (naturalFrom bound) .ofNat := by
  intro v n h
  have hle : ¬ (n : Int) < bound := by
    have := le_of_naturalFrom h
    omega
  change (if (n : Int) < bound then _ else Checked.ok n) = _
  rw [if_neg hle]

theorem rereads_positive : Rereads positive .ofNat := by
  intro v n h
  have hpos : ¬ (n : Int) ≤ 0 := by
    have := pos_of_positive h
    omega
  change (if (n : Int) ≤ 0 then _ else Checked.ok n) = _
  rw [if_neg hpos]

/-- Nothing is written as nothing, and nothing else is. -/
theorem rereads_maybe (h : Rereads read write) (hwrite : ∀ a, write a ≠ .null) :
    Rereads (maybe read) fun x => (x.map write).getD .null := by
  intro v x hx
  cases x with
  | none => rfl
  | some a =>
    change maybe read (write a) = _
    rw [maybe.eq_2 _ _ (hwrite a), h v a (read_of_maybe hx)]
    rfl

/-- A list is read item by item. -/
theorem all_itemsFrom_map {items : List α} (h : ∀ a ∈ items, read (write a) = .ok a) (index : Nat) :
    Checked.all (itemsFrom read index (items.map write)) = .ok items := by
  induction items generalizing index with
  | nil => rfl
  | cons a items ih =>
    have htail := ih (fun b hb => h b (List.mem_cons_of_mem _ hb)) (index + 1)
    rw [List.map_cons, itemsFrom, h a List.mem_cons_self, Checked.all, htail]
    rfl

theorem read_of_mem_all {vs : List Value} {items : List α} {index : Nat}
    (h : Checked.all (itemsFrom read index vs) = .ok items) :
    ∀ a ∈ items, ∃ v ∈ vs, read v = .ok a := by
  induction vs generalizing index items with
  | nil =>
    obtain rfl := Checked.ok.inj h
    intro a ha
    cases ha
  | cons v vs ih =>
    obtain ⟨_, rest, hhead, hrest, rfl⟩ := Checked.eq_ok_of_seq (f := Checked.map List.cons _) h
    obtain ⟨b, hb, rfl⟩ := Checked.eq_ok_of_map hhead
    intro a ha
    rcases List.mem_cons.mp ha with rfl | ha
    · exact ⟨v, List.mem_cons_self, Checked.eq_ok_of_within hb⟩
    · obtain ⟨w, hw, hread⟩ := ih hrest a ha
      exact ⟨w, List.mem_cons_of_mem _ hw, hread⟩

theorem rereads_list (h : Rereads read write) :
    Rereads (list read) fun items => .list (items.map write) := by
  intro v items hitems
  cases v with
  | list vs =>
    refine all_itemsFrom_map (fun a ha => ?_) 0
    obtain ⟨w, -, hw⟩ := read_of_mem_all hitems a ha
    exact h w a hw
  | _ => cases hitems

section Fields

variable {fs gs : Fields} {name : String} {a default : α}

theorem required_again (h : Rereads read write) (hfs : required fs name read = .ok a)
    (hgs : gs.get? name = some (write a)) : required gs name read = .ok a := by
  rw [required] at hfs
  split at hfs
  · next v hv =>
    rw [required, hgs]
    change (read (write a)).within _ = _
    rw [h v a (Checked.eq_ok_of_within hfs)]
    rfl
  · cases hfs

/-- A field that was left out is written with its default, which has to pass the check of the
field. -/
theorem withDefault_again (h : Rereads read write) (hdefault : read (write default) = .ok default)
    (hfs : withDefault fs name default read = .ok a) (hgs : gs.get? name = some (write a)) :
    withDefault gs name default read = .ok a := by
  have hread : read (write a) = .ok a := by
    rcases read_of_withDefault hfs with rfl | ⟨v, -, hv⟩
    · exact hdefault
    · exact h v a hv
  rw [withDefault, hgs]
  change (read (write a)).within _ = _
  rw [hread]
  rfl

end Fields

theorem object_of_record {name : String} {ofFields : Fields → Checked α} {v : Value} {a : α}
    (h : record name ofFields v = .ok a) : ∃ fs, v = .object fs ∧ ofFields fs = .ok a := by
  cases v with
  | object fs => exact ⟨fs, rfl, h⟩
  | _ => cases h

end CampaignCheck.Schema

import CampaignCheck.Ampscript.Fixers
import CampaignCheck.Proofs.Pattern.Ways
import CampaignCheck.Proofs.Text.Slices
import Mathlib.Data.List.Infix

/-!
The weight of a line: what the fixers of AMPscript still have to do in it. It counts the output
blocks without an end, and in front of the last letter the lone equals signs and the doubled percent
signs that a fixer may take for the end of an output block. No edit that a fixer makes adds to it.
-/

namespace CampaignCheck.Ampscript

open Text

/-- The sum over the places of a text of what a place with the text behind it counts, given the
character before it. -/
def tally (w : Option Char → List Char → Nat) : Option Char → List Char → Nat
  | _, [] => 0
  | prev, c :: cs => w prev (c :: cs) + tally w (some c) cs

/-- The last character of a text, or the one before the text if it is empty. -/
def lastOf (prev : Option Char) (cs : List Char) : Option Char := cs.getLast?.or prev

@[simp] theorem lastOf_nil (prev : Option Char) : lastOf prev [] = prev := by
  simp [lastOf]

@[simp] theorem lastOf_cons (prev : Option Char) (c : Char) (cs : List Char) :
    lastOf prev (c :: cs) = lastOf (some c) cs := by
  cases cs <;> simp [lastOf, List.getLast?_cons]

/-- An output block starts here that has no end. -/
def openOutput (prev : Option Char) (cs : List Char) : Nat :=
  if "%%=".toList <+: cs ∧ prev ≠ some '=' ∧ ¬ "=%%".toList <:+: cs.drop 3 then 1 else 0

/-- A delimiter is made of these, and a fixer appends no others. -/
def isWeak (c : Char) : Bool := ['=', '%', '[', ']', ' '].contains c

/-- A lone equals sign, or percent signs that may be taken for the end of an output block. -/
def IsLoose (prev : Option Char) (cs : List Char) : Prop :=
  prev ≠ some '=' ∧ (cs[0]? = some '=' ∧ cs[1]? ≠ some '=' ∨
    cs[0]? = some '%' ∧ cs[1]? = some '%' ∧ cs[2]? ≠ some '[')

instance (prev : Option Char) (cs : List Char) : Decidable (IsLoose prev cs) :=
  inferInstanceAs (Decidable (_ ∧ _))

def looseSign (prev : Option Char) (cs : List Char) : Nat :=
  if cs.all isWeak = false ∧ IsLoose prev cs then 1 else 0

def weight (line : List Char) : Nat := tally openOutput none line + tally looseSign none line

section Tally

variable {w : Option Char → List Char → Nat} {a x y : List Char}

/-- With the end `x` a text counts at no place more than with the end `y`. -/
structure NoHeavier (w : Option Char → List Char → Nat) (prev : Option Char)
    (a x y : List Char) : Prop where
  places : ∀ pre c rest, a = pre ++ c :: rest →
    w (lastOf prev pre) (c :: rest ++ x) ≤ w (lastOf prev pre) (c :: rest ++ y)
  ends : tally w (lastOf prev a) x ≤ tally w (lastOf prev a) y

theorem NoHeavier.tail {prev : Option Char} {c : Char} (h : NoHeavier w prev (c :: a) x y) :
    NoHeavier w (some c) a x y := by
  refine ⟨?_, ?_⟩
  · intro pre d rest ha
    have hlater := h.places (c :: pre) d rest (by rw [ha]; rfl)
    rwa [lastOf_cons] at hlater
  · have hends := h.ends
    rwa [lastOf_cons] at hends

theorem NoHeavier.le {prev : Option Char} (h : NoHeavier w prev a x y) :
    tally w prev (a ++ x) ≤ tally w prev (a ++ y) := by
  induction a generalizing prev with
  | nil => simpa using h.ends
  | cons c a ih =>
    have hhere := h.places [] c a rfl
    have hrest := ih h.tail
    simp only [List.cons_append, tally, lastOf_nil] at hhere ⊢
    omega

theorem NoHeavier.lt {prev : Option Char} {pre rest : List Char} {c : Char}
    (h : NoHeavier w prev (pre ++ c :: rest) x y)
    (hlt : w (lastOf prev pre) (c :: rest ++ x) < w (lastOf prev pre) (c :: rest ++ y)) :
    tally w prev (pre ++ c :: rest ++ x) < tally w prev (pre ++ c :: rest ++ y) := by
  induction pre generalizing prev with
  | nil =>
    have hrest := h.tail.le
    simp only [List.nil_append, List.cons_append, tally, lastOf_nil] at hlt ⊢
    omega
  | cons d pre ih =>
    have hhere := h.places [] d (pre ++ c :: rest) rfl
    rw [lastOf_cons] at hlt
    have hrest := ih h.tail hlt
    simp only [List.cons_append, tally, lastOf_nil] at hhere hrest ⊢
    omega

theorem tally_eq_zero {prev : Option Char} (h : ∀ p cs, cs <:+ a → w p cs = 0) :
    tally w prev a = 0 := by
  induction a generalizing prev with
  | nil => rfl
  | cons c a ih =>
    have hrest := @ih (some c) fun p cs hcs => h p cs (hcs.trans (List.suffix_cons c a))
    rw [tally, h prev (c :: a) List.suffix_rfl, hrest]

/-- The character before a text matters only if it is an equals sign. -/
theorem tally_of_ne {p q : Option Char} (h : ∀ cs, w p cs = w q cs) (cs : List Char) :
    tally w p cs = tally w q cs := by
  cases cs with
  | nil => rfl
  | cons c cs => rw [tally, tally, h]

end Tally

theorem openOutput_le_iff {p q : Option Char} {cs ds : List Char} :
    openOutput p cs ≤ openOutput q ds ↔ (0 < openOutput p cs → 0 < openOutput q ds) := by
  simp only [openOutput]
  split_ifs <;> simp

theorem openOutput_pos_iff {prev : Option Char} {cs : List Char} :
    0 < openOutput prev cs ↔
      "%%=".toList <+: cs ∧ prev ≠ some '=' ∧ ¬ "=%%".toList <:+: cs.drop 3 := by
  rw [openOutput]
  split_ifs with h
  · exact iff_of_true Nat.one_pos h
  · exact iff_of_false (Nat.lt_irrefl 0) h

theorem looseSign_pos_iff {prev : Option Char} {cs : List Char} :
    0 < looseSign prev cs ↔ cs.all isWeak = false ∧ IsLoose prev cs := by
  rw [looseSign]
  split_ifs with h
  · exact iff_of_true Nat.one_pos h
  · exact iff_of_false (Nat.lt_irrefl 0) h

theorem looseSign_le_iff {p q : Option Char} {cs ds : List Char} :
    looseSign p cs ≤ looseSign q ds ↔ (0 < looseSign p cs → 0 < looseSign q ds) := by
  simp only [looseSign]
  split_ifs <;> simp

theorem openOutput_of_ne {p q : Option Char} (hp : p ≠ some '=') (hq : q ≠ some '=')
    (cs : List Char) : openOutput p cs = openOutput q cs := by
  simp [openOutput, hp, hq]

theorem looseSign_of_ne {p q : Option Char} (hp : p ≠ some '=') (hq : q ≠ some '=')
    (cs : List Char) : looseSign p cs = looseSign q cs := by
  simp [looseSign, IsLoose, hp, hq]

section WeakEnds

variable {x : List Char} (hx : x.all isWeak = true)
include hx

theorem looseSign_append_weak (prev : Option Char) (cs : List Char) :
    looseSign prev (cs ++ x) = looseSign prev cs := by
  have hsame : (cs ++ x).all isWeak = cs.all isWeak := by
    rw [List.all_append, hx, Bool.and_true]
  cases hweak : cs.all isWeak with
  | true => simp [looseSign, hsame, hweak]
  | false =>
    have hloose : IsLoose prev (cs ++ x) ↔ IsLoose prev cs := by
      match cs, hweak with
      | [c], hweak =>
        have hc : c ≠ '=' ∧ c ≠ '%' := by
          constructor <;> rintro rfl <;> simp [isWeak] at hweak
        simp [IsLoose, hc.1, hc.2]
      | [c, d], hweak =>
        have hcd : ¬ (c = '%' ∧ d = '%') := by
          rintro ⟨rfl, rfl⟩
          simp [isWeak] at hweak
        have hpair (p : Prop) : ¬ (c = '%' ∧ d = '%' ∧ p) := fun h => hcd ⟨h.1, h.2.1⟩
        simp [IsLoose, hpair]
        tauto
      | _ :: _ :: _ :: _, _ => simp [IsLoose]
    simp [looseSign, hsame, hweak, hloose]

theorem tally_looseSign_append (prev : Option Char) (cs : List Char) :
    tally looseSign prev (cs ++ x) = tally looseSign prev cs := by
  induction cs generalizing prev with
  | nil =>
    refine tally_eq_zero fun p ds hds => ?_
    have hweak : ds.all isWeak = true := by
      rw [List.all_eq_true] at hx ⊢
      exact fun c hc => hx c (hds.mem hc)
    simp [looseSign, hweak]
  | cons c cs ih =>
    have hhere := looseSign_append_weak hx prev (c :: cs)
    rw [List.cons_append] at hhere ⊢
    rw [tally, tally, ih, hhere]

end WeakEnds

/-- An output block without an end starts at an index of a line. -/
def OpenAt (line : List Char) (i : Nat) : Prop :=
  ∃ pre rest, line = pre ++ '%' :: '%' :: '=' :: rest ∧ pre.length = i ∧
    pre.getLast? ≠ some '=' ∧ ¬ "=%%".toList <:+: rest

theorem openOutput_open {pre rest : List Char} (hlast : pre.getLast? ≠ some '=')
    (hopen : ¬ "=%%".toList <:+: rest) :
    0 < openOutput (lastOf none pre) ('%' :: '%' :: '=' :: rest) := by
  rw [openOutput_pos_iff]
  refine ⟨⟨rest, rfl⟩, ?_, hopen⟩
  rwa [lastOf, Option.or_none]

/-- Two characters between a text and a text that a fixer takes for the end of an output block. -/
inductive IsBrokenEnd (a b : List Char) : List Char → Prop
  | half (hb : b[0]? ≠ some '%') : IsBrokenEnd a b ['=', '%']
  | bare (ha : a.getLast? ≠ some '=') (hb : b[0]? ≠ some '[') : IsBrokenEnd a b ['%', '%']

section Ends

variable {a x b : List Char}

theorem IsBrokenEnd.all_isWeak (hx : IsBrokenEnd a b x) : x.all isWeak = true := by
  cases hx <;> decide

theorem looseSign_equals (cs : List Char) : looseSign (some '=') cs = 0 := by
  simp [looseSign, IsLoose]

theorem looseSign_end (hx : IsBrokenEnd a b x) :
    NoHeavier looseSign none a ("=%%".toList ++ b) (x ++ b) := by
  have hend : "=%%".toList = ['=', '%', '%'] := rfl
  have hall (cs : List Char) :
      (cs ++ ("=%%".toList ++ b)).all isWeak = (cs ++ (x ++ b)).all isWeak := by
    have hweak : "=%%".toList.all isWeak = true := by decide
    simp only [List.all_append, hx.all_isWeak, hweak]
  refine ⟨?_, ?_⟩
  · intro pre c rest ha
    rw [looseSign_le_iff, looseSign_pos_iff, looseSign_pos_iff, hall]
    refine And.imp_right ?_
    cases hx with
    | half hb =>
      match rest with
      | [] => simp [IsLoose]
      | [d] => simp [IsLoose]
      | d :: e :: rest => simp [IsLoose]
    | bare hlast hb =>
      match rest with
      | [] =>
        have hc : c ≠ '=' := by
          rintro rfl
          simp [ha] at hlast
        simp [IsLoose, hc]
      | [d] => simp [IsLoose]
      | d :: e :: rest => simp [IsLoose]
  · rw [hend]
    cases hx with
    | half hb =>
      have hlast : looseSign (some '%') ('%' :: b) = 0 := by simp [looseSign, IsLoose, hb]
      have hfirst : looseSign (lastOf none a) ('=' :: '%' :: '%' :: b) ≤
          looseSign (lastOf none a) ('=' :: '%' :: b) := by
        rw [looseSign_le_iff, looseSign_pos_iff, looseSign_pos_iff]
        simp [IsLoose, isWeak]
      simp only [List.cons_append, List.nil_append, tally, looseSign_equals, hlast]
      omega
    | bare hlast hb =>
      have hfirst : looseSign (lastOf none a) ('=' :: '%' :: '%' :: b) ≤
          looseSign (lastOf none a) ('%' :: '%' :: b) := by
        rw [looseSign_le_iff, looseSign_pos_iff, looseSign_pos_iff]
        simp [IsLoose, isWeak, hb]
      simp only [List.cons_append, List.nil_append, tally, looseSign_equals]
      omega

/-- Percent signs that end a text are the end of an output block. -/
def EndsClosed (a : List Char) : Prop := ∀ pre, a = pre ++ ['%', '%'] → pre.getLast? = some '='

/-- With the end of an output block behind it, no earlier place is an open one. -/
theorem EndsClosed.openOutput_end (ha : EndsClosed a) {pre rest : List Char} {c : Char}
    (hsplit : a = pre ++ c :: rest) (b : List Char) :
    openOutput (lastOf none pre) (c :: rest ++ ("=%%".toList ++ b)) = 0 := by
  refine Nat.eq_zero_of_not_pos ?_
  rw [openOutput_pos_iff]
  rintro ⟨hstart, hprev, hopen⟩
  match rest with
  | [] => simp at hstart
  | [d] =>
    obtain ⟨rfl, rfl⟩ : '%' = c ∧ '%' = d := by simpa using hstart
    have hequals := ha pre hsplit
    simp [lastOf, hequals] at hprev
  | d :: e :: rest => exact hopen ⟨rest, b, by simp⟩

theorem openOutput_end (hx : IsBrokenEnd a b x) (ha : EndsClosed a) :
    NoHeavier openOutput none a ("=%%".toList ++ b) (x ++ b) := by
  have hend : "=%%".toList = ['=', '%', '%'] := rfl
  refine ⟨?_, ?_⟩
  · intro pre c rest hsplit
    rw [ha.openOutput_end hsplit b]
    exact Nat.zero_le _
  · have hsign (p : Option Char) (cs : List Char) : openOutput p ('=' :: cs) = 0 := by
      simp [openOutput]
    have hequals (cs : List Char) : openOutput (some '=') cs = 0 := by simp [openOutput]
    rw [hend]
    cases hx with
    | half hb =>
      have hlast : openOutput (some '%') ('%' :: b) = 0 := by
        refine Nat.eq_zero_of_not_pos ?_
        rw [openOutput_pos_iff]
        rintro ⟨⟨t, ht⟩, -⟩
        refine hb ?_
        obtain rfl : '%' :: '=' :: t = b := by simpa using ht
        rfl
      simp only [List.cons_append, List.nil_append, tally, hequals, hsign, hlast]
      omega
    | bare hlast hb =>
      simp only [List.cons_append, List.nil_append, tally, hequals, hsign]
      omega

theorem weight_end_le (hx : IsBrokenEnd a b x) (ha : EndsClosed a) :
    weight (a ++ ("=%%".toList ++ b)) ≤ weight (a ++ (x ++ b)) :=
  Nat.add_le_add (openOutput_end hx ha).le (looseSign_end hx).le

theorem weight_end_lt (hx : IsBrokenEnd a b x) (ha : EndsClosed a) {i : Nat}
    (hopen : OpenAt (a ++ (x ++ b)) i) (hi : i + 3 ≤ a.length) :
    weight (a ++ ("=%%".toList ++ b)) < weight (a ++ (x ++ b)) := by
  obtain ⟨pre, rest, hsplit, rfl, hlast, hrest⟩ := hopen
  obtain ⟨inner, rfl⟩ : ∃ inner, a = pre ++ '%' :: '%' :: '=' :: inner := by
    have hstart : pre ++ ['%', '%', '='] <+: a := by
      refine List.prefix_of_prefix_length_le ?_ (List.prefix_append a (x ++ b)) (by simpa using hi)
      exact ⟨rest, by rw [hsplit]; simp⟩
    obtain ⟨inner, hinner⟩ := hstart
    exact ⟨inner, by rw [← hinner]; simp⟩
  obtain rfl : rest = inner ++ (x ++ b) := by simpa using hsplit.symm
  have hplace : openOutput (lastOf none pre)
      ('%' :: '%' :: '=' :: inner ++ ("=%%".toList ++ b)) <
      openOutput (lastOf none pre) ('%' :: '%' :: '=' :: inner ++ (x ++ b)) := by
    rw [ha.openOutput_end rfl b]
    exact openOutput_open hlast hrest
  exact Nat.add_lt_add_of_lt_of_le ((openOutput_end hx ha).lt hplace) (looseSign_end hx).le

end Ends

section Trimmed

variable {t s : List Char} (hs : s.all isBlank = true)
include hs

theorem head_ne_of_blank {c : Char} (hc : isBlank c = false) : s[0]? ≠ some c := by
  intro hhead
  have hblank := List.all_eq_true.mp hs c (List.mem_of_getElem? hhead)
  rw [hc] at hblank
  cases hblank

/-- Blanks at the end do not make less of what is loose before them. -/
theorem looseSign_blank (t : List Char) : NoHeavier looseSign none t [] s := by
  refine ⟨?_, Nat.zero_le _⟩
  intro pre c rest _
  rw [looseSign_le_iff, looseSign_pos_iff, looseSign_pos_iff, List.append_nil]
  rintro ⟨hletter, hprev, hsigns⟩
  refine ⟨by rw [List.all_append, hletter, Bool.false_and], hprev, ?_⟩
  match rest with
  | [] =>
    rcases hsigns with ⟨hsign, -⟩ | hsigns
    · exact .inl ⟨hsign, head_ne_of_blank hs (by decide)⟩
    · simp at hsigns
  | [d] =>
    rcases hsigns with hsigns | ⟨hsign, hnext, -⟩
    · exact .inl hsigns
    · exact .inr ⟨hsign, hnext, head_ne_of_blank hs (by decide)⟩
  | d :: e :: rest => exact hsigns

theorem isInfix_of_append_blank {cs : List Char} (h : "=%%".toList <:+: cs ++ s) :
    "=%%".toList <:+: cs := by
  induction s using List.reverseRecOn with
  | nil => simpa using h
  | append_singleton s c ih =>
    simp only [List.all_append, List.all_cons, List.all_nil, Bool.and_true, Bool.and_eq_true] at hs
    rw [← List.append_assoc, List.infix_concat_iff] at h
    rcases h with h | h
    · rw [List.suffix_concat_iff] at h
      obtain h | ⟨u, hu, -⟩ := h
      · cases h
      · have hlast : '%' = c := by simpa using congrArg List.getLast? hu
        rw [← hlast] at hs
        exact absurd hs.2 (by decide)
    · exact ih hs.1 h

/-- An open output block starts before the blanks at the end. -/
theorem OpenAt.split {i : Nat} (h : OpenAt (t ++ s) i) :
    ∃ pre rest, t = pre ++ '%' :: '%' :: '=' :: rest ∧ pre.length = i ∧
      pre.getLast? ≠ some '=' ∧ ¬ "=%%".toList <:+: rest := by
  obtain ⟨pre, rest, hsplit, hlength, hlast, hopen⟩ := h
  have hstart : pre ++ '%' :: '%' :: '=' :: rest = (pre ++ ['%', '%', '=']) ++ rest := by simp
  rw [hstart, List.append_eq_append_iff] at hsplit
  rcases hsplit with ⟨u, hu, hrest⟩ | ⟨u, hu, hrest⟩
  · have hnil : u = [] := by
      rcases List.eq_nil_or_concat u with hnil | ⟨v, c, rfl⟩
      · exact hnil
      · have hsign : '=' = c := by simpa using congrArg List.getLast? hu
        have hmem : c ∈ s := by simp [hrest]
        have hblank := List.all_eq_true.mp hs c hmem
        rw [← hsign] at hblank
        exact absurd hblank (by decide)
    rw [hnil, List.append_nil] at hu
    refine ⟨pre, [], hu.symm, hlength, hlast, by decide⟩
  · refine ⟨pre, u, by rw [hu]; simp, hlength, hlast, ?_⟩
    intro hclosed
    rw [hrest] at hopen
    exact hopen (hclosed.trans (List.prefix_append u s).isInfix)

theorem openOutput_close (t : List Char) : NoHeavier openOutput none t " ]%%".toList s := by
  have htail : " ]%%".toList = [' ', ']', '%', '%'] := rfl
  refine ⟨?_, ?_⟩
  · intro pre c rest _
    rw [openOutput_le_iff, openOutput_pos_iff, openOutput_pos_iff, htail]
    rintro ⟨hstart, hprev, hopen⟩
    match rest with
    | [] => simp at hstart
    | [d] => simp at hstart
    | d :: e :: rest =>
      refine ⟨by simpa using hstart, hprev, ?_⟩
      intro hclosed
      exact hopen ((isInfix_of_append_blank hs hclosed).trans (List.prefix_append rest _).isInfix)
  · simp [htail, tally, openOutput]

theorem weight_close : weight (t ++ " ]%%".toList) ≤ weight (t ++ s) := by
  have hopens := (openOutput_close hs t).le
  have hlooses := (looseSign_blank hs t).le
  rw [List.append_nil] at hlooses
  rw [weight, weight, tally_looseSign_append (by decide)]
  omega

omit hs in
theorem openOutput_trim (ht : EndsClosed t) : NoHeavier openOutput none t "=%%".toList s := by
  have htail : "=%%".toList = ['=', '%', '%'] := rfl
  refine ⟨?_, ?_⟩
  · intro pre c rest hsplit
    have hzero := ht.openOutput_end hsplit []
    rw [List.append_nil] at hzero
    rw [hzero]
    exact Nat.zero_le _
  · simp [htail, tally, openOutput]

theorem weight_trim_le (ht : EndsClosed t) : weight (t ++ "=%%".toList) ≤ weight (t ++ s) := by
  have hopens := (openOutput_trim (s := s) ht).le
  have hlooses := (looseSign_blank hs t).le
  rw [List.append_nil] at hlooses
  rw [weight, weight, tally_looseSign_append (by decide)]
  omega

theorem weight_trim_lt (ht : EndsClosed t) {i : Nat} (hopen : OpenAt (t ++ s) i) :
    weight (t ++ "=%%".toList) < weight (t ++ s) := by
  obtain ⟨pre, rest, rfl, -, hlast, hrest⟩ := hopen.split hs
  have hplace : openOutput (lastOf none pre) ('%' :: '%' :: '=' :: rest ++ "=%%".toList) <
      openOutput (lastOf none pre) ('%' :: '%' :: '=' :: rest ++ s) := by
    have hzero := ht.openOutput_end rfl []
    rw [List.append_nil] at hzero
    rw [hzero]
    exact openOutput_open hlast fun hclosed => hrest (isInfix_of_append_blank hs hclosed)
  have hopens := (openOutput_trim (s := s) ht).lt hplace
  have hlooses := (looseSign_blank hs (pre ++ '%' :: '%' :: '=' :: rest)).le
  rw [List.append_nil] at hlooses
  rw [weight, weight, tally_looseSign_append (by decide)]
  omega

/-- An open output block stays open where a block is closed behind it. -/
theorem OpenAt.close {i : Nat} (h : OpenAt (t ++ s) i) : OpenAt (t ++ " ]%%".toList) i := by
  obtain ⟨pre, rest, rfl, hlength, hlast, hrest⟩ := h.split hs
  refine ⟨pre, rest ++ " ]%%".toList, by simp, hlength, hlast, ?_⟩
  rw [List.infix_append_iff]
  rintro (hclosed | hclosed | ⟨u, v, huv, hu, hv⟩)
  · exact hrest hclosed
  · exact absurd hclosed (by decide)
  · cases v with
    | nil =>
      rw [List.append_nil] at huv
      rw [huv] at hrest
      exact hrest hu.isInfix
    | cons c v =>
      have hblank : c = ' ' := (List.cons_prefix_cons.mp hv).1
      have hmem : c ∈ "=%%".toList := by simp [huv]
      rw [hblank] at hmem
      exact absurd hmem (by decide)

end Trimmed

theorem weight_prefix (line : List Char) : weight ("%%[ ".toList ++ line) ≤ weight line := by
  have hopens : tally openOutput none ("%%[ ".toList ++ line) = tally openOutput none line := by
    rw [← tally_of_ne (openOutput_of_ne (p := some ' ') (by decide) (by decide)) line]
    simp [tally, openOutput]
  have hlooses : tally looseSign none ("%%[ ".toList ++ line) = tally looseSign none line := by
    rw [← tally_of_ne (looseSign_of_ne (p := some ' ') (by decide) (by decide)) line]
    simp [tally, looseSign, IsLoose]
  rw [weight, hopens, hlooses, weight]

/-- A lone equals sign stands at an index. -/
structure LoneAt (prev : Option Char) (cs : List Char) (j : Nat) : Prop where
  sign : cs[j]? = some '='
  before : lastOf prev (cs.take j) ≠ some '='
  behind : cs[j + 1]? ≠ some '='

theorem LoneAt.of_cons {prev : Option Char} {c : Char} {cs : List Char} {j : Nat}
    (h : LoneAt prev (c :: cs) (j + 1)) : LoneAt (some c) cs j := by
  obtain ⟨hsign, hbefore, hbehind⟩ := h
  rw [List.take_succ_cons, lastOf_cons] at hbefore
  exact ⟨hsign, hbefore, hbehind⟩

section Doubled

variable {positions : List Nat}

/-- The text with the equals signs at some offsets doubled. -/
def doubled (positions : List Nat) (i : Nat) (cs : List Char) : List Char :=
  Fix.substituteFrom positions "==".toList i cs

theorem doubled_cons_of_mem {i : Nat} (h : i ∈ positions) (c : Char) (cs : List Char) :
    doubled positions i (c :: cs) = '=' :: '=' :: doubled positions (i + 1) cs := by
  simp [doubled, Fix.substituteFrom, h]

theorem doubled_cons_of_not_mem {i : Nat} (h : i ∉ positions) (c : Char) (cs : List Char) :
    doubled positions i (c :: cs) = c :: doubled positions (i + 1) cs := by
  simp [doubled, Fix.substituteFrom, h]

/-- The offsets are those of lone equals signs. -/
def AllLone (positions : List Nat) (i : Nat) (prev : Option Char) (cs : List Char) : Prop :=
  ∀ j, i + j ∈ positions → LoneAt prev cs j

theorem AllLone.of_cons {i : Nat} {prev : Option Char} {c : Char} {cs : List Char}
    (h : AllLone positions i prev (c :: cs)) : AllLone positions (i + 1) (some c) cs := by
  intro j hj
  have hshift : i + 1 + j = i + (j + 1) := by omega
  rw [hshift] at hj
  exact (h (j + 1) hj).of_cons

theorem head?_doubled (i : Nat) {prev : Option Char} {cs : List Char}
    (h : AllLone positions i prev cs) : (doubled positions i cs)[0]? = cs[0]? := by
  cases cs with
  | nil => rfl
  | cons c cs =>
    by_cases hi : i ∈ positions
    · have hc : c = '=' := by simpa using (h 0 hi).sign
      rw [doubled_cons_of_mem hi, hc]
      rfl
    · rw [doubled_cons_of_not_mem hi]
      rfl

theorem doubled_cons_of_ne {i : Nat} {prev : Option Char} {c : Char} {cs : List Char}
    (h : AllLone positions i prev (c :: cs)) (hc : c ≠ '=') :
    doubled positions i (c :: cs) = c :: doubled positions (i + 1) cs := by
  refine doubled_cons_of_not_mem (fun hi => hc ?_) c cs
  simpa using (h 0 hi).sign

theorem all_isWeak_doubled {i : Nat} {prev : Option Char} {cs : List Char}
    (h : AllLone positions i prev cs) : (doubled positions i cs).all isWeak = cs.all isWeak := by
  induction cs generalizing i prev with
  | nil => rfl
  | cons c cs ih =>
    have hrest := ih h.of_cons
    by_cases hi : i ∈ positions
    · have hc : c = '=' := by simpa using (h 0 hi).sign
      rw [doubled_cons_of_mem hi, hc]
      simp [hrest, isWeak]
    · rw [doubled_cons_of_not_mem hi]
      simp [hrest]

theorem isInfix_doubled {i : Nat} {prev : Option Char} {cs : List Char}
    (h : AllLone positions i prev cs) (hclosed : "=%%".toList <:+: cs) :
    "=%%".toList <:+: doubled positions i cs := by
  induction cs generalizing i prev with
  | nil => exact hclosed
  | cons c cs ih =>
    have hgrow : doubled positions (i + 1) cs <:+ doubled positions i (c :: cs) := by
      by_cases hi : i ∈ positions
      · rw [doubled_cons_of_mem hi]
        exact ⟨['=', '='], rfl⟩
      · rw [doubled_cons_of_not_mem hi]
        exact ⟨[c], rfl⟩
    rcases List.infix_cons_iff.mp hclosed with hstart | hrest
    · obtain ⟨v, hv⟩ := hstart
      obtain ⟨rfl, rfl⟩ : '=' = c ∧ '%' :: '%' :: v = cs := by simpa using hv
      have hsigns : doubled positions (i + 1) ('%' :: '%' :: v) =
          '%' :: '%' :: doubled positions (i + 1 + 1 + 1) v := by
        rw [doubled_cons_of_ne h.of_cons (by decide),
          doubled_cons_of_ne h.of_cons.of_cons (by decide)]
      by_cases hi : i ∈ positions
      · rw [doubled_cons_of_mem hi, hsigns]
        exact ⟨['='], _, rfl⟩
      · rw [doubled_cons_of_not_mem hi, hsigns]
        exact ⟨[], _, rfl⟩
    · exact (ih h.of_cons hrest).trans hgrow.isInfix

theorem openOutput_doubled {i : Nat} {prev : Option Char} {c : Char} {cs : List Char}
    (h : AllLone positions i prev (c :: cs)) :
    openOutput prev (c :: doubled positions (i + 1) cs) ≤ openOutput prev (c :: cs) := by
  rw [openOutput_le_iff, openOutput_pos_iff, openOutput_pos_iff]
  rintro ⟨⟨u, hstart⟩, hprev, hopen⟩
  obtain ⟨rfl, hu⟩ : '%' = c ∧ '%' :: '=' :: u = doubled positions (i + 1) cs := by
    simpa using hstart
  have hfirst := head?_doubled (i + 1) h.of_cons
  rw [← hu] at hfirst
  obtain ⟨cs, rfl⟩ : ∃ ds, cs = '%' :: ds := by
    cases cs with
    | nil => simp at hfirst
    | cons d ds => exact ⟨ds, by simpa using hfirst.symm⟩
  rw [doubled_cons_of_ne h.of_cons (by decide), List.cons.injEq] at hu
  have hsecond := head?_doubled (i + 1 + 1) h.of_cons.of_cons
  rw [← hu.2] at hsecond
  obtain ⟨cs, rfl⟩ : ∃ ds, cs = '=' :: ds := by
    cases cs with
    | nil => simp at hsecond
    | cons d ds => exact ⟨ds, by simpa using hsecond.symm⟩
  refine ⟨⟨cs, rfl⟩, hprev, fun hclosed => hopen ?_⟩
  have hkept := isInfix_doubled h.of_cons.of_cons.of_cons hclosed
  rw [doubled_cons_of_ne h.of_cons (by decide)]
  by_cases hi : i + 1 + 1 ∈ positions
  · rw [doubled_cons_of_mem hi]
    exact hkept.trans (List.suffix_cons '=' _).isInfix
  · rw [doubled_cons_of_not_mem hi]
    exact hkept

theorem looseSign_doubled {i : Nat} {prev : Option Char} {c : Char} {cs : List Char}
    (h : AllLone positions i prev (c :: cs)) :
    looseSign prev (c :: doubled positions (i + 1) cs) ≤ looseSign prev (c :: cs) := by
  have hfirst := head?_doubled (i + 1) h.of_cons
  have hweak := all_isWeak_doubled h.of_cons
  rw [looseSign_le_iff, looseSign_pos_iff, looseSign_pos_iff]
  rintro ⟨hletter, hprev, hsigns⟩
  refine ⟨by simpa [hweak] using hletter, hprev, ?_⟩
  rcases hsigns with ⟨hsign, hnext⟩ | ⟨hsign, hnext, hlast⟩
  · refine .inl ⟨hsign, ?_⟩
    simpa [hfirst] using hnext
  · refine .inr ⟨hsign, ?_⟩
    obtain ⟨cs, rfl⟩ : ∃ ds, cs = '%' :: ds := by
      simp only [List.getElem?_cons_succ, hfirst] at hnext
      cases cs with
      | nil => simp at hnext
      | cons d ds => exact ⟨ds, by simpa using hnext⟩
    rw [doubled_cons_of_ne h.of_cons (by decide)] at hlast
    have hsecond := head?_doubled (i + 1 + 1) h.of_cons.of_cons
    simpa [hsecond] using hlast

/-- Doubling adds nothing to a weight that a pair of equals signs does not have. -/
theorem tally_doubled_le {w : Option Char → List Char → Nat}
    (hpair : ∀ prev cs, w prev ('=' :: '=' :: cs) = 0)
    (hsecond : ∀ cs, w (some '=') ('=' :: cs) = 0)
    (hstep : ∀ {i prev c cs}, AllLone positions i prev (c :: cs) →
      w prev (c :: doubled positions (i + 1) cs) ≤ w prev (c :: cs))
    {i : Nat} {prev : Option Char} {cs : List Char} (h : AllLone positions i prev cs) :
    tally w prev (doubled positions i cs) ≤ tally w prev cs := by
  induction cs generalizing i prev with
  | nil => exact Nat.le_refl _
  | cons c cs ih =>
    have hrest := ih h.of_cons
    by_cases hi : i ∈ positions
    · obtain rfl : c = '=' := by simpa using (h 0 hi).sign
      rw [doubled_cons_of_mem hi]
      simp only [tally, hpair, hsecond]
      omega
    · have hhere := hstep h
      rw [doubled_cons_of_not_mem hi]
      simp only [tally]
      omega

theorem tally_openOutput_doubled {i : Nat} {prev : Option Char} {cs : List Char}
    (h : AllLone positions i prev cs) :
    tally openOutput prev (doubled positions i cs) ≤ tally openOutput prev cs := by
  have hsign (p : Option Char) (ds : List Char) : openOutput p ('=' :: ds) = 0 := by
    simp [openOutput]
  exact tally_doubled_le (fun p _ => hsign p _) (hsign _) openOutput_doubled h

theorem looseSign_pair (prev : Option Char) (cs : List Char) :
    looseSign prev ('=' :: '=' :: cs) = 0 := by
  simp [looseSign, IsLoose]

theorem tally_looseSign_doubled {i : Nat} {prev : Option Char} {cs : List Char}
    (h : AllLone positions i prev cs) :
    tally looseSign prev (doubled positions i cs) ≤ tally looseSign prev cs :=
  tally_doubled_le looseSign_pair (fun _ => looseSign_equals _) looseSign_doubled h

/-- Doubling a lone equals sign in front of a letter leaves less to do. -/
theorem tally_looseSign_doubled_lt {i j : Nat} {prev : Option Char} {cs : List Char}
    (h : AllLone positions i prev cs) (hj : i + j ∈ positions)
    (hletter : (cs.drop j).all isWeak = false) :
    tally looseSign prev (doubled positions i cs) < tally looseSign prev cs := by
  induction cs generalizing i j prev with
  | nil => simpa using (h j hj).sign
  | cons c cs ih =>
    have hle := tally_looseSign_doubled h.of_cons
    by_cases hi : i ∈ positions
    · obtain ⟨hsign, hbefore, hbehind⟩ := h 0 hi
      obtain rfl : c = '=' := by simpa using hsign
      have hweak : ('=' :: cs).all isWeak = false := by
        rw [List.all_eq_false] at hletter ⊢
        obtain ⟨d, hd, hweak⟩ := hletter
        exact ⟨d, List.mem_of_mem_drop hd, hweak⟩
      have hloose : 0 < looseSign prev ('=' :: cs) := by
        rw [looseSign_pos_iff]
        exact ⟨hweak, by simpa using hbefore, .inl ⟨rfl, by simpa using hbehind⟩⟩
      rw [doubled_cons_of_mem hi]
      simp only [tally, looseSign_pair, looseSign_equals]
      omega
    · cases j with
      | zero => exact absurd hj hi
      | succ j =>
        have hhere := looseSign_doubled h
        have hshift : i + (j + 1) = i + 1 + j := by omega
        rw [hshift] at hj
        have hrest := ih h.of_cons hj hletter
        rw [doubled_cons_of_not_mem hi]
        simp only [tally]
        omega

theorem weight_doubled_le {line : List Char} (h : AllLone positions 0 none line) :
    weight (doubled positions 0 line) ≤ weight line :=
  Nat.add_le_add (tally_openOutput_doubled h) (tally_looseSign_doubled h)

theorem weight_doubled_lt {line : List Char} (h : AllLone positions 0 none line) {j : Nat}
    (hj : j ∈ positions) (hletter : (line.drop j).all isWeak = false) :
    weight (doubled positions 0 line) < weight line := by
  have hj' : 0 + j ∈ positions := by rwa [Nat.zero_add]
  exact Nat.add_lt_add_of_le_of_lt (tally_openOutput_doubled h)
    (tally_looseSign_doubled_lt h hj' hletter)

end Doubled

end CampaignCheck.Ampscript

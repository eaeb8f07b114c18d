import CampaignCheck.Proofs.Lexical.Contexts
import CampaignCheck.Proofs.Pattern.Stretched
import CampaignCheck.Sql.Grammar

namespace CampaignCheck.Sql

open Text Pattern

/-- Two equals signs that are part of no longer operator. -/
structure Doubled (cs : List Char) (pos : Nat) : Prop where
  before : preceded (.chars "<>!=") cs pos = false
  first : cs[pos]? = some '='
  second : cs[pos + 1]? = some '='
  third : sees (.char '=') cs (pos + 2) = false

theorem doubleEquals_eq : doubleEquals =
    seq (seq (behind false 1 (one (.chars "<>!="))) (seq (one (.char '=')) (one (.char '='))))
      (ahead false (one (.char '='))) := rfl

theorem simple_doubleEquals : Simple doubleEquals := by
  rw [doubleEquals_eq]
  repeat' constructor

theorem hit?_doubleEquals {cs : List Char} {pos stop : Nat} :
    doubleEquals.hit? cs pos = some stop ↔ Doubled cs pos ∧ stop = pos + 2 := by
  rw [doubleEquals_eq, hit?, ends, ends, ends_unless_behind, ends, ends_one, ends_one,
    ends_unless_ahead]
  constructor
  · intro h
    split_ifs at h with hbefore hfirst hsecond hthird
    rw [Bool.not_eq_true] at hbefore hthird
    exact ⟨⟨hbefore, (sees_char _ _ _).mp hfirst, (sees_char _ _ _).mp hsecond, hthird⟩,
      (Option.some.inj h).symm⟩
  · rintro ⟨⟨hbefore, hfirst, hsecond, hthird⟩, rfl⟩
    simp [hbefore, (sees_char _ _ _).mpr hfirst, (sees_char _ _ _).mpr hsecond, hthird]

theorem full_doubleEquals (cs : List Char) : doubleEquals.Full cs := by
  intro pos stop h
  obtain ⟨-, rfl⟩ := hit?_doubleEquals.mp h
  omega

theorem exists_find?_doubleEquals {cs : List Char} :
    (∃ m, doubleEquals.find? cs = some m) ↔ ∃ pos, Doubled cs pos := by
  rw [exists_find?_iff simple_doubleEquals]
  constructor
  · rintro ⟨pos, -, stop, hhit⟩
    exact ⟨pos, (hit?_doubleEquals.mp hhit).1⟩
  · rintro ⟨pos, hd⟩
    have hlt := (List.getElem?_eq_some_iff.mp hd.first).1
    exact ⟨pos, Nat.le_of_lt hlt, pos + 2, hit?_doubleEquals.mpr ⟨hd, rfl⟩⟩

/-- The line with one equals sign for two. -/
def squeezed (line : List Char) : List Char := doubleEquals.replaceAll (fun _ => ['=']) line

/-- The counts tell which equals signs stand for two in the text. -/
structure Squeezes (cs : List Char) (pos : Nat) (rest : List Char) (k : Nat → Nat) : Prop where
  stretch_eq : stretch k rest = cs.drop pos
  elastic : Elastic k rest
  once : ∀ i, k i ≤ 1
  twice_iff : ∀ i, 0 < k i ↔ Doubled cs (pos + placeOf k i)

theorem Squeezes.cons {cs rest : List Char} {pos n : Nat} {k : Nat → Nat} {c : Char}
    (h : Squeezes cs (pos + (n + 1)) rest k) (hn : n ≤ 1) (hc : 0 < n → c = '=')
    (hdrop : cs.drop pos = List.replicate (n + 1) c ++ cs.drop (pos + (n + 1)))
    (htwice : 0 < n ↔ Doubled cs pos) : Squeezes cs pos (c :: rest) (countsFrom n k) := by
  constructor
  · rw [stretch_countsFrom, h.stretch_eq, hdrop]
  · intro i hi
    cases i with
    | zero => rw [hc hi, List.getElem?_cons_zero]
    | succ i => exact h.elastic i hi
  · intro i
    cases i with
    | zero => exact hn
    | succ i => exact h.once i
  · intro i
    cases i with
    | zero => exact htwice
    | succ i =>
      rw [placeOf_countsFrom, ← Nat.add_assoc]
      exact h.twice_iff i

theorem exists_squeezes {cs rest : List Char} {pos : Nat}
    (h : Replaced doubleEquals ['='] cs pos rest) : ∃ k, Squeezes cs pos rest k := by
  induction h with
  | done =>
    refine ⟨fun _ => 0, by simp [stretch], .zero [], by simp, ?_⟩
    intro i
    refine ⟨fun hi => absurd hi (Nat.lt_irrefl 0), fun hd => ?_⟩
    have hlt := (List.getElem?_eq_some_iff.mp hd.first).1
    omega
  | @keep pos c rest hnone hc _ ih =>
    obtain ⟨k, hk⟩ := ih
    obtain ⟨hlt, rfl⟩ := List.getElem?_eq_some_iff.mp hc
    have hnot : ¬Doubled cs pos := fun hd => by
      rw [hit?_doubleEquals.mpr ⟨hd, rfl⟩] at hnone
      cases hnone
    have hzero : 0 < 0 ↔ Doubled cs pos := iff_of_false (Nat.lt_irrefl 0) hnot
    exact ⟨_, Squeezes.cons hk (Nat.zero_le 1) (fun h => absurd h (Nat.lt_irrefl 0))
      (List.drop_eq_getElem_cons hlt) hzero⟩
  | @change pos stop rest hhit _ ih =>
    obtain ⟨hd, rfl⟩ := hit?_doubleEquals.mp hhit
    obtain ⟨k, hk⟩ := ih
    obtain ⟨hlt, hfirst⟩ := List.getElem?_eq_some_iff.mp hd.first
    obtain ⟨hlt', hsecond⟩ := List.getElem?_eq_some_iff.mp hd.second
    have hdrop : cs.drop pos = '=' :: '=' :: cs.drop (pos + 2) := by
      rw [List.drop_eq_getElem_cons hlt, List.drop_eq_getElem_cons hlt', hfirst, hsecond]
    exact ⟨_, Squeezes.cons hk (Nat.le_refl 1) (fun _ => rfl) hdrop
      (iff_of_true Nat.one_pos hd)⟩

theorem exists_squeezed (line : List Char) :
    ∃ k, stretch k (squeezed line) = line ∧ Elastic k (squeezed line) ∧ (∀ i, k i ≤ 1) ∧
      ∀ i, 0 < k i ↔ Doubled line (placeOf k i) := by
  obtain ⟨k, hk⟩ :=
    exists_squeezes (replaced_replaceAll simple_doubleEquals (full_doubleEquals line))
  have htwice := hk.twice_iff
  simp only [Nat.zero_add] at htwice
  exact ⟨k, hk.stretch_eq, hk.elastic, hk.once, htwice⟩

theorem squeezed_of_not_doubled {line : List Char} (h : ∀ pos, ¬Doubled line pos) :
    squeezed line = line := by
  obtain ⟨k, hstretch, -, -, htwice⟩ := exists_squeezed line
  obtain rfl : k = fun _ => 0 := by
    funext i
    by_contra hne
    exact h _ ((htwice i).mp (Nat.pos_of_ne_zero hne))
  rwa [stretch_zero] at hstretch

/-- No two equals signs are left that are part of no longer operator. -/
theorem not_doubled_squeezed (line : List Char) (pos : Nat) : ¬Doubled (squeezed line) pos := by
  obtain ⟨k, hstretch, -, honce, htwice⟩ := exists_squeezed line
  rintro ⟨hbefore, hfirst, hsecond, hthird⟩
  have hequals (set : CharSet) (hset : set.mem '=' = true) {i : Nat}
      (hi : (squeezed line)[i]? = some '=') : sees set (squeezed line) i = true := by
    simp [sees, hi, hset]
  -- A sign that stands for two is not followed by another, nor does one that follows.
  have hstay : k pos = 0 := by
    by_contra hne
    have hd := (htwice pos).mp (Nat.pos_of_ne_zero hne)
    have hone : k pos = 1 := by
      have hle := honce pos
      omega
    have hplace : placeOf k pos + 2 = placeOf k (pos + 1) := by rw [placeOf, hone]
    have hthird' := hd.third
    rw [hplace, ← hstretch, sees_placeOf, hequals _ (by decide) hsecond] at hthird'
    cases hthird'
  have hstay' : k (pos + 1) = 0 := by
    by_contra hne
    have hbefore' := ((htwice (pos + 1)).mp (Nat.pos_of_ne_zero hne)).before
    rw [← hstretch, preceded_stretch, preceded, hequals _ (by decide) hfirst] at hbefore'
    cases hbefore'
  have hnext := placeOf_succ_of_once hstay
  have hlast : placeOf k pos + 2 = placeOf k (pos + 2) := by
    rw [placeOf_succ_of_once hstay', hnext]
  have hd : Doubled line (placeOf k pos) := by
    rw [← hstretch]
    constructor
    · rw [preceded_stretch, hbefore]
    · rw [getElem?_placeOf, hfirst]
    · rw [← hnext, getElem?_placeOf, hsecond]
    · rw [hlast, sees_placeOf, hthird]
  have hpos := (htwice pos).mpr hd
  omega

section Inside

variable {c : Mask.Context} (hc : c.Of (.of .sql)) {line : List Char} {pos : Nat}
include hc

theorem doubled_of_inside (h : Doubled (Mask.inside (.of .sql) c line) pos) : Doubled line pos := by
  obtain ⟨hbefore, hfirst, hsecond, hthird⟩ := h
  have hend : ∀ m ∈ (Lexicon.of .sql).blockComment, m.2 = ['*', '/'] := by simp [Lexicon.of]
  have hbeside := Mask.inside_beside_kept (Lexicon.of_skipsBlanks .sql) hend
    (Lexicon.of_ignoresPliant .sql) hc line
  refine ⟨?_, Mask.equals_of_inside hfirst, Mask.equals_of_inside hsecond, ?_⟩
  · cases pos with
    | zero => rfl
    | succ pos =>
      rw [preceded, sees] at hbefore ⊢
      rcases (hbeside pos).1 hfirst with hkept | hslash
      · rw [← hkept, hbefore]
      · rw [hslash]
        rfl
  · by_contra hsees
    rw [Bool.not_eq_false, sees_char] at hsees
    have hkept := (hbeside (pos + 1)).2 hsecond hsees
    rw [(sees_char _ _ _).mpr hkept] at hthird
    cases hthird

/-- A doubled equals sign is one of the code if its first sign is kept. -/
theorem doubled_inside_iff : Doubled (Mask.inside (.of .sql) c line) pos ↔
    Doubled line pos ∧ (Mask.inside (.of .sql) c line)[pos]? = some '=' := by
  refine ⟨fun hd => ⟨doubled_of_inside hc hd, hd.first⟩, ?_⟩
  rintro ⟨⟨hbefore, -, hsecond, hthird⟩, hkept⟩
  have hend : ∀ m ∈ (Lexicon.of .sql).blockComment, m.2 = ['*', '/'] := by simp [Lexicon.of]
  have hbeside := Mask.inside_beside_kept (Lexicon.of_skipsBlanks .sql) hend
    (Lexicon.of_ignoresPliant .sql) hc line
  have hsigns {set : CharSet} (hset : set.mem ' ' = false) {i : Nat}
      (hsees : sees set line i = false) : sees set (Mask.inside (.of .sql) c line) i = false := by
    unfold sees at hsees ⊢
    cases hview : (Mask.inside (.of .sql) c line)[i]? with
    | none => rfl
    | some d =>
      by_cases hblank : d = ' '
      · rw [hblank, Option.map_some, Option.getD_some, hset]
      · rwa [(Mask.inside_shows (.of .sql) c line).getElem?_of_ne hblank hview] at hsees
  refine ⟨?_, hkept, (hbeside pos).2 hkept hsecond, hsigns (by decide) hthird⟩
  cases pos with
  | zero => rfl
  | succ pos => exact hsigns (by decide) hbefore

end Inside

/-- Masking a line does not make two equals signs out of a longer operator. -/
theorem not_doubled_inside {line : List Char} (h : ∀ pos, ¬Doubled line pos)
    {c : Mask.Context} (hc : c.Of (.of .sql)) (pos : Nat) :
    ¬Doubled (Mask.inside (.of .sql) c line) pos :=
  fun hd => h pos (doubled_of_inside hc hd)

end CampaignCheck.Sql

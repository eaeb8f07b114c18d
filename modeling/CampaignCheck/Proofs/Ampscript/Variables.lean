import CampaignCheck.Proofs.Ampscript.Declarations
import CampaignCheck.Proofs.Placement.Ampscript
import Mathlib.Data.List.Nodup

namespace CampaignCheck.Ampscript

open Text Pattern

/-- An occurrence of a variable: its place, its name as written, and if it is declared there. -/
structure Occurrence where
  line : Nat
  column : Nat
  name : List Char
  declares : Bool
deriving DecidableEq, Repr, Inhabited

namespace Occurrence

def key (o : Occurrence) : List Char := lower o.name

def declared (o : Occurrence) : Declared := ⟨o.key, o.line, o.column, o.name⟩

/-- The occurrence comes first in reading order. -/
def Before (o p : Occurrence) : Prop := o.line < p.line ∨ o.line = p.line ∧ o.column < p.column

end Occurrence

def occurrencesIn (l : Line) : List Occurrence :=
  (variableName.findAll l.masked).map fun m =>
    ⟨l.number, m.start, m.text l.masked, (declarationColumns l.masked).contains m.start⟩

def occurrences (ls : List Line) : List Occurrence := ls.flatMap occurrencesIn

def DeclaredIn (os : List Occurrence) (key : List Char) : Prop :=
  ∃ o ∈ os, o.declares = true ∧ o.key = key

def UsedIn (os : List Occurrence) (key : List Char) : Prop :=
  ∃ o ∈ os, o.declares = false ∧ o.key = key

/-- A use of a variable that no declaration comes before. -/
def undefinedVariable (o : Occurrence) : Finding :=
  let shown := String.ofList o.name
  .report o.line (some o.column) "ampscript-undefined-variable"
    ("Variable " ++ shown ++ " used before declaration") .semantic .warning
    ("Declare " ++ shown ++ " with VAR or SET before using it")

section Picked

variable {α : Type} (p : List α → α → Bool)

/-- The elements that the test accepts together with all that comes before them. -/
def picked : List α → List α → List α
  | _, [] => []
  | before, a :: as => (if p before a then [a] else []) ++ picked (before ++ [a]) as

theorem picked_append (before as bs : List α) :
    picked p before (as ++ bs) = picked p before as ++ picked p (before ++ as) bs := by
  induction as generalizing before with
  | nil => simp [picked]
  | cons a as ih => simp [picked, ih]

theorem picked_snoc (as : List α) (a : α) :
    picked p [] (as ++ [a]) = picked p [] as ++ if p as a then [a] else [] := by
  rw [picked_append, List.nil_append, picked, picked, List.append_nil]

theorem picked_sublist (before as : List α) : (picked p before as).Sublist as := by
  induction as generalizing before with
  | nil => exact List.Sublist.refl []
  | cons a as ih =>
    rw [picked]
    split_ifs
    · exact (ih _).cons_cons a
    · exact (ih _).cons a

variable {p} in
theorem accepted_of_mem_picked {before as : List α} {a : α} (h : a ∈ picked p before as) :
    ∃ front, p front a = true := by
  induction as generalizing before with
  | nil => cases h
  | cons b as ih =>
    rw [picked, List.mem_append] at h
    rcases h with h | h
    · split_ifs at h with hp
      · rw [List.mem_singleton.mp h]
        exact ⟨before, hp⟩
      · cases h
    · exact ih h

/-- An element that occurs once is picked if the test accepts it. -/
theorem mem_picked_iff {front back : List α} {a : α} (h : (front ++ a :: back).Nodup) :
    a ∈ picked p [] (front ++ a :: back) ↔ p front a = true := by
  obtain ⟨-, hback, hapart⟩ := List.nodup_append.mp h
  have hfront : a ∉ picked p [] front := fun hmem =>
    hapart a ((picked_sublist p [] front).mem hmem) a List.mem_cons_self rfl
  have hbehind : a ∉ picked p (front ++ [a]) back := fun hmem =>
    (List.nodup_cons.mp hback).1 ((picked_sublist p _ back).mem hmem)
  rw [picked_append, List.nil_append, picked]
  split_ifs with hp <;> simp [hp, hfront, hbehind]

end Picked

def unknown (before : List Occurrence) (o : Occurrence) : Bool :=
  !before.any fun p => p.declares && p.key == o.key

theorem unknown_iff {before : List Occurrence} {o : Occurrence} :
    unknown before o = true ↔ ¬ DeclaredIn before o.key := by
  simp [unknown, DeclaredIn]

def undefinedUses (os : List Occurrence) : List Occurrence :=
  picked (fun before o => !o.declares && unknown before o) [] os

def firstDeclarations (os : List Occurrence) : List Occurrence :=
  picked (fun before o => o.declares && unknown before o) [] os

theorem undefinedUses_snoc (os : List Occurrence) (o : Occurrence) :
    undefinedUses (os ++ [o]) =
      undefinedUses os ++ if !o.declares && unknown os o then [o] else [] := picked_snoc _ _ _

theorem firstDeclarations_snoc (os : List Occurrence) (o : Occurrence) :
    firstDeclarations (os ++ [o]) =
      firstDeclarations os ++ if o.declares && unknown os o then [o] else [] := picked_snoc _ _ _

theorem declaredIn_snoc {os : List Occurrence} {o : Occurrence} {key : List Char} :
    DeclaredIn (os ++ [o]) key ↔ DeclaredIn os key ∨ o.declares = true ∧ o.key = key := by
  simp [DeclaredIn, or_and_right, exists_or]

theorem usedIn_snoc {os : List Occurrence} {o : Occurrence} {key : List Char} :
    UsedIn (os ++ [o]) key ↔ UsedIn os key ∨ o.declares = false ∧ o.key = key := by
  simp [UsedIn, or_and_right, exists_or]

/-- Every name that is declared has one first declaration. -/
theorem keys_firstDeclarations (os : List Occurrence) :
    ((firstDeclarations os).map (·.key)).Nodup ∧
      ∀ key, key ∈ (firstDeclarations os).map (·.key) ↔ DeclaredIn os key := by
  induction os using List.reverseRecOn with
  | nil => simp [firstDeclarations, picked, DeclaredIn]
  | append_singleton os o ih =>
    obtain ⟨hnodup, hmem⟩ := ih
    simp only [firstDeclarations_snoc, declaredIn_snoc]
    split_ifs with hnew <;> rw [Bool.and_eq_true, unknown_iff] at hnew
    · obtain ⟨hdeclares, hnot⟩ := hnew
      rw [← hmem] at hnot
      refine ⟨?_, fun key => ?_⟩
      · rw [List.map_append, List.map_singleton, List.nodup_append]
        refine ⟨hnodup, List.nodup_singleton _, fun a ha b hb => ?_⟩
        rw [List.mem_singleton.mp hb]
        exact fun he => hnot (he ▸ ha)
      · rw [List.map_append, List.map_singleton, List.mem_append, List.mem_singleton, hmem]
        simp [hdeclares, eq_comm]
    · rw [List.append_nil]
      refine ⟨hnodup, fun key => (hmem key).trans ⟨.inl, ?_⟩⟩
      rintro (hbefore | ⟨hdeclares, rfl⟩)
      · exact hbefore
      · by_contra hnot
        exact hnew ⟨hdeclares, hnot⟩

def Tracking.step (t : Tracking) (o : Occurrence) : Tracking :=
  t.occurrence o.line o.column o.name o.declares

theorem Tracking.line_eq (t : Tracking) (l : Line) :
    t.line l = (occurrencesIn l).foldl Tracking.step t := by
  rw [Tracking.line, occurrencesIn, List.foldl_map]
  rfl

theorem Tracking.lines_eq (t : Tracking) (ls : List Line) :
    ls.foldl Tracking.line t = (occurrences ls).foldl Tracking.step t := by
  induction ls generalizing t with
  | nil => rfl
  | cons l ls ih =>
    rw [List.foldl_cons, ih, Tracking.line_eq, occurrences, occurrences, List.flatMap_cons,
      List.foldl_append]

/-- What the tracker holds after some occurrences. -/
structure Tracks (seen : List Occurrence) (t : Tracking) : Prop where
  declared : t.declared = (firstDeclarations seen).map (·.declared)
  used : ∀ key, key ∈ t.used ↔ UsedIn seen key
  found : t.found = (undefinedUses seen).map undefinedVariable

theorem Tracks.start : Tracks [] ⟨[], [], []⟩ := ⟨rfl, by simp [UsedIn], rfl⟩

section Tracks

variable {seen : List Occurrence} {t : Tracking} (h : Tracks seen t)
include h

theorem Tracks.known (o : Occurrence) :
    t.declared.any (·.key == o.key) = !unknown seen o := by
  rw [h.declared, Bool.eq_iff_iff, Bool.not_eq_true', ← Bool.not_eq_true, unknown_iff, not_not,
    ← (keys_firstDeclarations seen).2]
  simp [Occurrence.declared]

/-- One more occurrence. -/
theorem Tracks.step (o : Occurrence) : Tracks (seen ++ [o]) (t.step o) := by
  have hknown := h.known o
  rw [Occurrence.key] at hknown
  simp only [Tracking.step, Tracking.occurrence, hknown]
  constructor
  case declared =>
    rw [firstDeclarations_snoc, List.map_append, ← h.declared]
    cases o.declares <;> cases unknown seen o <;> simp [Occurrence.declared, Occurrence.key]
  case used =>
    intro key
    rw [usedIn_snoc, ← h.used]
    cases o.declares <;> cases unknown seen o <;>
      simp [Occurrence.key, or_comm, eq_comm]
  case found =>
    rw [undefinedUses_snoc, List.map_append, ← h.found]
    cases o.declares <;> cases unknown seen o <;> simp [undefinedVariable]

theorem Tracks.run (os : List Occurrence) : Tracks (seen ++ os) (os.foldl Tracking.step t) := by
  induction os generalizing seen t with
  | nil => rwa [List.append_nil]
  | cons o os ih =>
    have hrest := ih (h.step o)
    rwa [List.append_assoc] at hrest

end Tracks

theorem tracks_lines (ls : List Line) :
    Tracks (occurrences ls) (ls.foldl Tracking.line ⟨[], [], []⟩) := by
  rw [Tracking.lines_eq]
  exact Tracks.start.run (occurrences ls)

/-- The first declarations of names that are used nowhere. -/
def unusedDeclarations (os : List Occurrence) : List Occurrence :=
  (firstDeclarations os).filter fun o => os.all fun p => p.declares || p.key != o.key

theorem not_usedIn_iff {os : List Occurrence} {key : List Char} :
    (os.all fun p => p.declares || p.key != key) = true ↔ ¬ UsedIn os key := by
  simp [UsedIn, or_iff_not_imp_left]

/-- What is reported of variables. -/
theorem variableFindings_eq (ls : List Line) : variableFindings ls =
    (undefinedUses (occurrences ls)).map undefinedVariable ++
      (unusedDeclarations (occurrences ls)).map fun o => unusedVariable o.declared := by
  have hrun := tracks_lines ls
  have hunused (o : Occurrence) :
      (!(ls.foldl Tracking.line ⟨[], [], []⟩).used.contains o.key) =
        (occurrences ls).all fun p => p.declares || p.key != o.key := by
    rw [Bool.eq_iff_iff, not_usedIn_iff, ← hrun.used]
    simp
  simp only [variableFindings, hrun.found, hrun.declared, List.filter_map, List.map_map]
  congr 2
  exact List.filter_congr fun o _ => hunused o

theorem occurrencesIn_ordered (l : Line) : (occurrencesIn l).Pairwise Occurrence.Before := by
  rw [occurrencesIn, List.pairwise_map]
  refine (findAll_apart rfl l.masked).imp fun {m m'} hapart => .inr ⟨rfl, ?_⟩
  have hwidth : variableName.leastWidth = 2 := rfl
  rw [hwidth] at hapart
  exact Nat.lt_of_succ_lt hapart

theorem occurrences_ordered {ls : List Line}
    (h : ls.Pairwise fun l k => l.number < k.number) :
    (occurrences ls).Pairwise Occurrence.Before := by
  rw [occurrences, List.pairwise_flatMap]
  refine ⟨fun l _ => occurrencesIn_ordered l, h.imp fun hlt o ho p hp => .inl ?_⟩
  obtain ⟨m, -, rfl⟩ := List.mem_map.mp ho
  obtain ⟨m', -, rfl⟩ := List.mem_map.mp hp
  exact hlt

theorem nodup_of_ordered {os : List Occurrence} (h : os.Pairwise Occurrence.Before) : os.Nodup := by
  refine h.imp fun {o p} hbefore he => ?_
  rw [he, Occurrence.Before] at hbefore
  omega

/-- The occurrences in a line are all names of variables in it. -/
theorem exists_occurrence_iff {l : Line} {column : Nat} :
    (∃ o ∈ occurrencesIn l, o.column = column) ↔ NameAt l.masked column := by
  rw [← mem_starts_variableName]
  simp [occurrencesIn]

theorem declares_iff {l : Line} {o : Occurrence} (ho : o ∈ occurrencesIn l) :
    o.declares = true ↔ Declares l.masked o.column := by
  have hname := exists_occurrence_iff.mp ⟨o, ho, rfl⟩
  obtain ⟨m, -, rfl⟩ := List.mem_map.mp ho
  exact List.contains_iff_mem.trans (mem_declarationColumns hname)

/-- Of the occurrences, the uses `us` are reported as undefined and the declarations `ds` as unused,
each once and in reading order. -/
structure Judged (os us ds : List Occurrence) : Prop where
  uses : us.Sublist os
  declarations : ds.Sublist os
  undefined : ∀ front o back, os = front ++ o :: back →
    (o ∈ us ↔ o.declares = false ∧ ¬ DeclaredIn front o.key)
  unused : ∀ front o back, os = front ++ o :: back →
    (o ∈ ds ↔ o.declares = true ∧ ¬ DeclaredIn front o.key ∧ ¬ UsedIn os o.key)
  once : (ds.map (·.key)).Nodup
  names : ∀ key, key ∈ ds.map (·.key) ↔ DeclaredIn os key ∧ ¬ UsedIn os key
  apart : ∀ u ∈ us, ∀ d ∈ ds, u.key ≠ d.key

theorem judged {os : List Occurrence} (hos : os.Nodup) :
    Judged os (undefinedUses os) (unusedDeclarations os) where
  uses := picked_sublist _ _ _
  declarations := List.filter_sublist.trans (picked_sublist _ _ _)
  undefined front o back hsplit := by
    rw [hsplit] at hos
    rw [hsplit, undefinedUses, mem_picked_iff _ hos, Bool.and_eq_true, unknown_iff,
      Bool.not_eq_true']
  unused front o back hsplit := by
    rw [unusedDeclarations, List.mem_filter, not_usedIn_iff, ← and_assoc]
    refine and_congr_left fun _ => ?_
    rw [hsplit] at hos
    rw [hsplit, firstDeclarations, mem_picked_iff _ hos, Bool.and_eq_true, unknown_iff]
  once := (keys_firstDeclarations os).1.sublist (List.filter_sublist.map _)
  names key := by
    rw [← (keys_firstDeclarations os).2]
    simp only [unusedDeclarations, List.mem_map, List.mem_filter, not_usedIn_iff]
    constructor
    · rintro ⟨o, ⟨ho, hnot⟩, rfl⟩
      exact ⟨⟨o, ho, rfl⟩, hnot⟩
    · rintro ⟨⟨o, ho, rfl⟩, hnot⟩
      exact ⟨o, ⟨ho, hnot⟩, rfl⟩
  apart u hu d hd hkey := by
    obtain ⟨front, hfront⟩ := accepted_of_mem_picked hu
    rw [Bool.and_eq_true, Bool.not_eq_true'] at hfront
    have hnot := not_usedIn_iff.mp (List.mem_filter.mp hd).2
    exact hnot ⟨u, (picked_sublist _ _ _).mem hu, hfront.1, hkey⟩

/-- The occurrences are the names of variables in the masked script, in reading order; one declares
its variable if it stands in a list after VAR or is assigned by SET or counted by FOR. A use is
reported as undefined if no declaration of the name comes before it; of each name that is declared
and not used anywhere the first declaration is reported as unused; nothing else is reported, and no
name both as undefined and as unused. -/
theorem variables_tracked (code : List Char) :
    let ls := (Source.of code).lines
    let os := occurrences ls
    os.Pairwise Occurrence.Before ∧
      (∀ l ∈ ls, ∀ column,
        (∃ o ∈ occurrencesIn l, o.column = column) ↔ NameAt l.masked column) ∧
      (∀ l ∈ ls, ∀ o ∈ occurrencesIn l, o.declares = true ↔ Declares l.masked o.column) ∧
      ∃ us ds, Judged os us ds ∧ variableFindings ls =
        us.map undefinedVariable ++ ds.map fun o => unusedVariable o.declared := by
  intro ls os
  have hordered : os.Pairwise Occurrence.Before := occurrences_ordered (source_ordered code)
  exact ⟨hordered, fun _ _ _ => exists_occurrence_iff, fun _ _ _ => declares_iff, _, _,
    judged (nodup_of_ordered hordered), variableFindings_eq ls⟩

example : (variableFindings (Source.of "%%[ VAR @a, @b SET @A = @c ]%%".toList).lines).map
    (fun f => (f.rule, f.column)) = [("ampscript-undefined-variable", some 24),
      ("ampscript-unused-variable", some 8), ("ampscript-unused-variable", some 12)] := by
  decide +kernel

end CampaignCheck.Ampscript

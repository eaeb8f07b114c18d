import CampaignCheck.Ampscript.Cost
import CampaignCheck.Ampscript.Grammar
import CampaignCheck.Ampscript.Meaning
import CampaignCheck.Proofs.Placement.Basic

namespace CampaignCheck.Ampscript

open Text Pattern

theorem rule_issues_pointsInto {ls : List (List Char)} {number i : Nat}
    (h : Position.Within ⟨number, i⟩ ls) (raw : List Char) (zone : Zone) (cs : List Char) :
    ∀ f ∈ (rule raw number i zone cs).issues, f.PointsInto ls := by
  have hnone : ∀ f ∈ ([] : List Finding), f.PointsInto ls := by simp
  have hissue (rule message hint : String) :
      ∀ f ∈ [delimiterIssue number i rule message hint], f.PointsInto ls := by
    exact List.forall_mem_singleton.mpr (report_pointsInto h ..)
  cases zone with
  | script =>
    simp only [rule]
    split <;> exact hnone
  | block opened =>
    simp only [rule]
    split_ifs
    · exact hnone
    · exact hissue _ _ _
    · exact hnone
  | outside =>
    simp only [rule]
    split_ifs
    · exact hnone
    · split
      · exact hnone
      · exact hissue _ _ _
    · exact hissue _ _ _
    · exact hissue _ _ _
    · split <;> exact hnone

theorem regionChars_issues_pointsInto {ls : List (List Char)} (raw : List Char) (number i : Nat)
    (keep : List Bool) (zone : Zone) (cs : List Char)
    (h : Position.Within ⟨number, i + cs.length⟩ ls) :
    ∀ f ∈ (regionChars raw number i keep zone cs).2.2, f.PointsInto ls := by
  induction cs generalizing i keep zone with
  | nil => cases keep <;> simp [regionChars]
  | cons c cs ih =>
    cases keep with
    | cons b keep => exact ih (i + 1) keep zone h.next
    | nil =>
      intro f hf
      rcases List.mem_append.mp hf with hf | hf
      · exact rule_issues_pointsInto (h.shrink (Nat.le_add_right _ _)) raw zone (c :: cs) f hf
      · exact ih (i + 1) _ _ h.next f hf

/-- The issues of lines; those before have been read. -/
theorem regionLines_issues_pointsInto (done ls : List (List Char)) (zone : Zone) :
    ∀ f ∈ (regionLines (done.length + 1) zone ls).2.2, f.PointsInto (done ++ ls) := by
  induction ls generalizing done zone with
  | nil => simp [regionLines]
  | cons raw rest ih =>
    have here := Position.within_here done rest (Nat.le_of_eq (Nat.zero_add raw.length))
    intro f hf
    rcases List.mem_append.mp hf with hf | hf
    · exact regionChars_issues_pointsInto raw _ 0 [] zone raw here f hf
    · rw [List.append_cons]
      exact ih (done ++ [raw]) _ f (by simpa using hf)

theorem lastNonblank_within (done ls : List (List Char)) {default : Nat}
    (h : Position.Within ⟨default, 0⟩ (done ++ ls)) :
    Position.Within ⟨lastNonblank (done.length + 1) default ls, 0⟩ (done ++ ls) := by
  induction ls generalizing done default with
  | nil => exact h
  | cons l ls ih =>
    have hdefault : Position.Within ⟨if allBlank l then default else done.length + 1, 0⟩
        (done ++ l :: ls) := by
      split_ifs
      · exact h
      · exact Position.within_here done ls (Nat.zero_le _)
    rw [List.append_cons] at hdefault ⊢
    simpa [lastNonblank] using ih (done ++ [l]) hdefault

theorem regions_issues_pointsInto {ls : List (List Char)} (hne : ls ≠ []) :
    ∀ f ∈ (Regions.of ls).issues, f.PointsInto ls := by
  have hlines := regionLines_issues_pointsInto [] ls .outside
  have hfirst : Position.Within ⟨1, 0⟩ ([] ++ ls) := by
    obtain ⟨l, rest, rfl⟩ := List.exists_cons_of_ne_nil hne
    exact ⟨Nat.le_refl 1, l, rfl, Nat.zero_le _⟩
  have hlast := lastNonblank_within [] ls hfirst
  unfold Regions.of
  split_ifs
  · simp
  · simp only
    split
    · intro f hf
      rcases List.mem_append.mp hf with hf | hf
      · exact hlines f hf
      · rw [List.mem_singleton.mp hf]
        exact report_line_pointsInto hlast ..
    · exact hlines

theorem of_mem_source {code : List Char} {l : Line} (h : l ∈ (Source.of code).lines) :
    l.Of (lines code) :=
  of_mem_masked _ (regions_shows _) h

theorem withRaw_numbers (ls : List Line) (raws : List (List Char)) :
    ((withRaw ls raws).map (·.number)).Sublist (ls.map (·.number)) := by
  induction ls generalizing raws with
  | nil => simp [withRaw]
  | cons l ls ih =>
    cases raws with
    | nil => simp [withRaw]
    | cons raw raws => exact (ih raws).cons_cons l.number

theorem source_ordered (code : List Char) :
    (Source.of code).lines.Pairwise fun l k => l.number < k.number := by
  have hrange :=
    Mask.linesFrom_numbers (.of .ampscript) 1 .code (Regions.of (Text.lines code)).lines
  rw [← List.pairwise_map]
  exact (hrange ▸ List.pairwise_lt_range').sublist (withRaw_numbers _ _)

theorem unknownFunctions_pointsInto : PointsIntoLines unknownFunctions := by
  intro ls l hl f hf
  obtain ⟨m, hm, hf⟩ := List.mem_filterMap.mp hf
  simp only at hf
  split_ifs at hf
  cases hf
  exact report_pointsInto (hl.startOf (finds_of_mem_findAll hm) 1) ..

theorem assignedConditions_pointsInto : PointsIntoLines assignedConditions := by
  intro ls l hl f hf
  obtain ⟨m, hm, hf⟩ := List.mem_filterMap.mp hf
  obtain ⟨e, he, rfl⟩ := Option.map_eq_some_iff.mp hf
  have hgroup := (finds_of_mem_findAll hm).startOf_add_group_le 1
  have hstart := (finds_of_find? he).1
  exact report_pointsInto (hl.within (by omega)) ..

theorem dataOperations_pointsInto : PointsIntoLines dataOperations := by
  intro ls l hl f hf
  obtain ⟨m, hm, hf⟩ := List.mem_filterMap.mp hf
  have hstart := hl.startOf (finds_of_mem_findAll hm) 1
  simp only at hf
  split at hf
  · split at hf
    · cases hf
    · split_ifs at hf
      cases hf
      exact report_pointsInto hstart ..
  · split_ifs at hf
    cases hf
    exact report_pointsInto hstart ..

theorem credentials_pointsInto : PointsIntoLines credentials := by
  intro ls l hl f hf
  obtain ⟨column, hc, rfl⟩ := List.mem_map.mp hf
  obtain ⟨p, -, hp⟩ := List.exists_of_findSome?_eq_some (Option.mem_toList.mp hc)
  obtain ⟨m, hm, hp⟩ := Option.bind_eq_some_iff.mp hp
  split_ifs at hp
  cases hp
  exact report_pointsInto (hl.within_raw (finds_of_find? hm).1) ..

theorem callsInLoops_pointsInto (blocks : BlockMap) : PointsIntoLines (callsInLoops blocks) := by
  intro ls l hl f hf
  obtain ⟨m, hm, hf⟩ := List.mem_filterMap.mp hf
  simp only at hf
  split at hf
  · cases hf
  · cases hf
    exact report_pointsInto (hl.startOf (finds_of_mem_findAll hm) 1) ..

theorem unfilteredLookups_pointsInto : PointsIntoLines unfilteredLookups := by
  intro ls l hl f hf
  obtain ⟨m, hm, hf⟩ := List.mem_filterMap.mp hf
  simp only at hf
  split at hf
  · split_ifs at hf
    all_goals
      cases hf
      exact report_pointsInto (hl.startOf (finds_of_mem_findAll hm) 1) ..
  · cases hf

theorem manyConcats_pointsInto : PointsIntoLines manyConcats := by
  intro ls l hl
  unfold manyConcats
  simp only
  split_ifs
  · exact List.forall_mem_singleton.mpr (report_line_pointsInto (hl.within (Nat.zero_le _)) ..)
  · simp

/-- Variables were declared in the lines, and the findings on them point there. -/
def Tracking.Within (ls : List (List Char)) (t : Tracking) : Prop :=
  (∀ d ∈ t.declared, Position.Within ⟨d.line, d.column⟩ ls) ∧ ∀ f ∈ t.found, f.PointsInto ls

theorem occurrence_within {ls : List (List Char)} {t : Tracking} {number column : Nat}
    (ht : t.Within ls) (h : Position.Within ⟨number, column⟩ ls) (name : List Char)
    (declares : Bool) : (t.occurrence number column name declares).Within ls := by
  unfold Tracking.occurrence
  simp only
  split_ifs
  · exact ht
  · refine ⟨?_, ht.2⟩
    intro d hd
    rcases List.mem_append.mp hd with hd | hd
    · exact ht.1 d hd
    · rw [List.mem_singleton.mp hd]
      exact h
  · exact ht
  · refine ⟨ht.1, ?_⟩
    intro f hf
    rcases List.mem_append.mp hf with hf | hf
    · exact ht.2 f hf
    · rw [List.mem_singleton.mp hf]
      exact report_pointsInto h ..

theorem line_within {ls : List (List Char)} {t : Tracking} {l : Line} (ht : t.Within ls)
    (hl : l.Of ls) : (t.line l).Within ls := by
  have hfold (ms : List Match) (hm : ∀ m ∈ ms, m.start ≤ l.masked.length) (t : Tracking)
      (ht : t.Within ls) : Tracking.Within ls (ms.foldl (fun t m => t.occurrence l.number m.start
        (m.text l.masked) ((declarationColumns l.masked).contains m.start)) t) := by
    induction ms generalizing t with
    | nil => exact ht
    | cons m ms ih =>
      apply ih (fun k hk => hm k (by simp [hk]))
      exact occurrence_within ht (hl.within (hm m (by simp))) ..
  exact hfold _ (fun m hm => (finds_of_mem_findAll hm).1) t ht

theorem tracking_within {ls : List (List Char)} {lines : List Line} (hl : ∀ l ∈ lines, l.Of ls)
    {t : Tracking} (ht : t.Within ls) : (lines.foldl Tracking.line t).Within ls := by
  induction lines generalizing t with
  | nil => exact ht
  | cons l rest ih => exact ih (fun k hk => hl k (by simp [hk])) (line_within ht (hl l (by simp)))

theorem variableFindings_pointsInto {ls : List (List Char)} {lines : List Line}
    (hl : ∀ l ∈ lines, l.Of ls) : ∀ f ∈ variableFindings lines, f.PointsInto ls := by
  have ht := tracking_within hl (t := ⟨[], [], []⟩) ⟨by simp, by simp⟩
  intro f hf
  rcases List.mem_append.mp hf with hf | hf
  · exact ht.2 f hf
  · obtain ⟨d, hd, rfl⟩ := List.mem_map.mp hf
    exact report_pointsInto (ht.1 d (List.mem_of_mem_filter hd)) ..

theorem unencodedOutput_pointsInto {ls : List (List Char)} {number column : Nat}
    (h : Position.Within ⟨number, column⟩ ls) (tainted : List (List Char)) (expr : List Char) :
    ∀ f ∈ unencodedOutput tainted number column expr, f.PointsInto ls := by
  unfold unencodedOutput
  simp only
  split_ifs
  · simp
  · exact List.forall_mem_singleton.mpr (report_pointsInto h ..)
  · simp

theorem callFlow_pointsInto {ls : List (List Char)} {l : Line} (hl : l.Of ls) {m : Match}
    (hm : call.Finds l.masked m) (tainted : List (List Char)) :
    ∀ f ∈ callFlow tainted l m, f.PointsInto ls := by
  have hstart := hl.startOf hm 1
  unfold callFlow
  simp only
  split
  · simp
  · intro f hf
    rcases List.mem_append.mp hf with hf | hf
    · split_ifs at hf
      · cases hf
      · rw [List.mem_singleton.mp hf]
        exact report_pointsInto hstart ..
      · rw [List.mem_singleton.mp hf]
        exact report_pointsInto hstart ..
      · cases hf
    · split_ifs at hf
      · exact unencodedOutput_pointsInto hstart _ _ f hf
      · cases hf

theorem bareOutputs_pointsInto (tainted : List (List Char)) :
    PointsIntoLines (bareOutputs tainted) := by
  intro ls l hl f hf
  obtain ⟨m, hm, hf⟩ := List.mem_flatMap.mp hf
  simp only at hf
  split_ifs at hf
  · exact unencodedOutput_pointsInto (hl.within_raw (finds_of_mem_findAll hm).1) _ _ f hf
  · cases hf

theorem requestFlow_pointsInto {ls : List (List Char)} {lines : List Line}
    (hl : ∀ l ∈ lines, l.Of ls) (tainted : List (List Char)) :
    ∀ f ∈ requestFlow tainted lines, f.PointsInto ls := by
  induction lines generalizing tainted with
  | nil => simp [requestFlow]
  | cons l rest ih =>
    have here := hl l (by simp)
    intro f hf
    simp only [requestFlow, List.mem_append, List.mem_flatMap] at hf
    rcases hf with (⟨m, hm, hf⟩ | hf) | hf
    · exact callFlow_pointsInto here (finds_of_mem_findAll hm) _ f hf
    · exact bareOutputs_pointsInto _ ls l here f hf
    · exact ih (fun k hk => hl k (by simp [hk])) _ f hf

theorem lookupTargets_within {ls : List (List Char)} {lines : List Line}
    (hl : ∀ l ∈ lines, l.Of ls) {n : List Char} {ps : List Position}
    (h : (n, ps) ∈ lookupTargets lines) : ∀ p ∈ ps, p.Within ls := by
  intro p hp
  obtain ⟨o, ho, rfl⟩ := mem_of_mem_groupSites h hp
  obtain ⟨l, hl', ho⟩ := List.mem_flatMap.mp ho
  obtain ⟨m, hm, ho⟩ := List.mem_filterMap.mp ho
  split at ho
  · simp only at ho
    split_ifs at ho
    cases ho
    exact (hl l hl').start (finds_of_mem_findAll hm)
  · cases ho

theorem repeatedLookups_pointsInto {ls : List (List Char)} {lines : List Line}
    (hl : ∀ l ∈ lines, l.Of ls) : ∀ f ∈ repeatedLookups lines, f.PointsInto ls := by
  intro f hf
  obtain ⟨⟨n, ps⟩, hg, hf⟩ := List.mem_filterMap.mp hf
  have hw := lookupTargets_within hl hg
  split at hf
  · next second _ he =>
    cases he
    cases hf
    exact report_pointsInto (hw second (by simp)) ..
  · cases hf

theorem grammarFindings_pointsInto (code : List Char) :
    ∀ f ∈ grammarFindings code, f.PointsInto (lines code) := by
  have hlines : ∀ l ∈ (Source.of code).lines, l.Of (lines code) := fun _ => of_mem_source
  have hblocks := blockMap_within .ampscript hlines
  intro f hf
  simp only [grammarFindings, List.mem_append, List.mem_map] at hf
  rcases hf with (((hf | hf) | ⟨b, hb, rfl⟩) | ⟨c, hc, rfl⟩) | ⟨p, hp, rfl⟩
  · exact regions_issues_pointsInto (lines_ne_nil code) f hf
  · refine perLine_pointsInto ?_ hlines f hf
    simp [unknownFunctions_pointsInto, assignedConditions_pointsInto]
  · simp only [unclosedBlock]
    split_ifs <;> exact report_pointsInto (hblocks.1 b hb) ..
  · simp only [strayBlockEnd]
    split_ifs <;> exact report_pointsInto (hblocks.2 c hc) ..
  · exact report_pointsInto (unclosed_within _ (regions_shows _) p hp) ..

theorem meaningFindings_pointsInto (code : List Char) :
    ∀ f ∈ meaningFindings code, f.PointsInto (lines code) := by
  have hlines : ∀ l ∈ (Source.of code).lines, l.Of (lines code) := fun _ => of_mem_source
  intro f hf
  simp only [meaningFindings, List.mem_append] at hf
  rcases hf with (hf | hf) | hf
  · exact variableFindings_pointsInto hlines f hf
  · refine perLine_pointsInto ?_ hlines f hf
    simp [dataOperations_pointsInto, credentials_pointsInto]
  · exact requestFlow_pointsInto hlines [] f hf

theorem costFindings_pointsInto (code : List Char) :
    ∀ f ∈ costFindings code, f.PointsInto (lines code) := by
  have hlines : ∀ l ∈ (Source.of code).lines, l.Of (lines code) := fun _ => of_mem_source
  intro f hf
  simp only [costFindings, List.mem_append] at hf
  rcases hf with hf | hf
  · refine perLine_pointsInto ?_ hlines f hf
    simp [callsInLoops_pointsInto, unfilteredLookups_pointsInto, manyConcats_pointsInto]
  · exact repeatedLookups_pointsInto hlines f hf

end CampaignCheck.Ampscript

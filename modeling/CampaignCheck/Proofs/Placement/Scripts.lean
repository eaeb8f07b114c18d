import CampaignCheck.Javascript.Cost
import CampaignCheck.Javascript.Grammar
import CampaignCheck.Javascript.Meaning
import CampaignCheck.Proofs.Placement.Basic
import CampaignCheck.Ssjs.Cost
import CampaignCheck.Ssjs.Grammar
import CampaignCheck.Ssjs.Meaning

namespace CampaignCheck

open Text Pattern

namespace Script

/-- A match of at least one character in a part of a text, counted from the start of the text. -/
theorem add_start_le_of_finds_slice {p : Pattern} {cs : List Char} {start stop : Nat} {m : Match}
    (hm : p.Finds (slice cs start stop) m) (hp : p.isPossessive = false) (hw : 0 < p.leastWidth) :
    start + m.start ≤ cs.length := by
  have hlen : (slice cs start stop).length = min stop cs.length - start := by simp [slice]
  have hwide := hm.start_add_le hp
  have hstop := hm.stop_le
  omega

theorem assignedColumns_le {masked : List Char} {column : Nat}
    (h : column ∈ assignedColumns masked) : column ≤ masked.length := by
  obtain ⟨m, -, h⟩ := List.mem_filterMap.mp h
  obtain ⟨e, -, h⟩ := Option.bind_eq_some_iff.mp h
  obtain ⟨a, ha, rfl⟩ := Option.map_eq_some_iff.mp h
  exact add_start_le_of_finds_slice (finds_of_find? ha) (by decide) (by decide)

/-- A check that reports the assignments inside a condition. -/
theorem assigned_pointsInto {rule message : String} {category : Category} {severity : Severity}
    {hint : String} :
    PointsIntoLines fun l => (assignedColumns l.masked).map fun column =>
      .report l.number (some column) rule message category severity hint := by
  intro ls l hl f hf
  obtain ⟨column, hc, rfl⟩ := List.mem_map.mp hf
  exact report_pointsInto (hl.within (assignedColumns_le hc)) ..

end Script

/-- The first occurrence of a text starts at most at the end. -/
theorem Text.find?_le {needle cs : List Char} {n : Nat} (h : Text.find? needle cs = some n) :
    n ≤ cs.length := by
  induction cs generalizing n with
  | nil =>
    simp only [Text.find?] at h
    split_ifs at h
    cases h
    exact Nat.le_refl 0
  | cons c cs ih =>
    rw [Text.find?] at h
    split_ifs at h
    · cases h
      exact Nat.zero_le _
    · obtain ⟨k, hk, rfl⟩ := Option.map_eq_some_iff.mp h
      exact Nat.succ_le_succ (ih hk)

namespace Javascript

theorem assignedConditions_pointsInto : PointsIntoLines assignedConditions :=
  Script.assigned_pointsInto

theorem bareConstants_pointsInto : PointsIntoLines bareConstants := first_pointsInto

theorem evaluations_pointsInto : PointsIntoLines evaluations := first_pointsInto

theorem markupWrites_pointsInto : PointsIntoLines markupWrites := first_pointsInto

theorem functionScoped_pointsInto : PointsIntoLines functionScoped := first_pointsInto

theorem lengthLoops_pointsInto : PointsIntoLines lengthLoops := first_pointsInto

theorem looseComparisons_pointsInto : PointsIntoLines looseComparisons := by
  intro ls l hl f hf
  obtain ⟨m, hm, rfl⟩ := List.mem_map.mp hf
  exact report_pointsInto (hl.start (finds_of_mem_findAll hm)) ..

theorem pageInLoops_pointsInto (blocks : BlockMap) : PointsIntoLines (pageInLoops blocks) := by
  intro ls l hl f hf
  obtain ⟨m, hm, hf⟩ := List.mem_filterMap.mp hf
  obtain ⟨p, -, hm⟩ := List.mem_flatMap.mp hm
  split_ifs at hf
  cases hf
  exact report_pointsInto (hl.start (finds_of_mem_findAll hm)) ..

theorem awaitColumns_lt (awaits : List Nat) (column : Nat) (s : AwaitState) (cs : List Char) :
    ∀ c ∈ (awaitColumns awaits column s cs).1, c < column + cs.length := by
  induction cs generalizing column s with
  | nil => simp [awaitColumns]
  | cons c cs ih =>
    intro k hk
    simp only [awaitColumns] at hk
    have hrest (h : k ∈ (awaitColumns awaits (column + 1) (s.step c) cs).1) :
        k < column + (c :: cs).length := by
      have hlt := ih (column + 1) (s.step c) k h
      simp only [List.length_cons]
      omega
    split_ifs at hk
    · rcases List.mem_cons.mp hk with rfl | hk
      · simp
      · exact hrest hk
    · exact hrest hk

theorem strayAwaits_pointsInto {ls : List (List Char)} {lines : List Line}
    (hl : ∀ l ∈ lines, l.Of ls) (s : AwaitState) : ∀ f ∈ strayAwaits s lines, f.PointsInto ls := by
  induction lines generalizing s with
  | nil => simp [strayAwaits]
  | cons l rest ih =>
    intro f hf
    simp only [strayAwaits, List.mem_append, List.mem_map] at hf
    rcases hf with ⟨column, hc, rfl⟩ | hf
    · have hlt := awaitColumns_lt _ _ _ _ column hc
      exact report_pointsInto ((hl l (by simp)).within (by omega)) ..
    · exact ih (fun k hk => hl k (by simp [hk])) _ f hf

theorem promiseFindings_pointsInto {cs : List Char} {ls : List (List Char)}
    (h : ∀ offset, (positionAt cs offset).Within ls) (covered : Nat) (ms : List Match) :
    ∀ f ∈ promiseFindings cs covered ms, f.PointsInto ls := by
  induction ms generalizing covered with
  | nil => simp [promiseFindings]
  | cons m ms ih =>
    intro f hf
    rw [promiseFindings] at hf
    split_ifs at hf
    · exact ih covered f hf
    · rcases List.mem_append.mp hf with hf | hf
      · split_ifs at hf
        · cases hf
        · rw [List.mem_singleton.mp hf]
          exact report_pointsInto (h m.start) ..
      · exact ih _ f hf

theorem secondSearches_subset (seen ss : List PageSearch) : secondSearches seen ss ⊆ ss := by
  induction ss generalizing seen with
  | nil => simp [secondSearches]
  | cons s ss ih =>
    rw [secondSearches]
    split_ifs
    · exact List.cons_subset_cons s (ih _)
    · exact fun _ hx => List.mem_cons_of_mem s (ih _ hx)

theorem repeatedSearches_pointsInto {ls : List (List Char)} {lines : List Line}
    (hl : ∀ l ∈ lines, l.Of ls) : ∀ f ∈ repeatedSearches lines, f.PointsInto ls := by
  intro f hf
  obtain ⟨s, hs, rfl⟩ := List.mem_map.mp hf
  obtain ⟨l, hl', hs⟩ := List.mem_flatMap.mp (secondSearches_subset _ _ hs)
  obtain ⟨m, hm, hs⟩ := List.mem_filterMap.mp hs
  obtain ⟨e, -, rfl⟩ := Option.map_eq_some_iff.mp hs
  exact report_pointsInto ((hl l hl').start (finds_of_mem_findAll hm)) ..

theorem lastingListeners_pointsInto {ls : List (List Char)} {lines : List Line}
    (hl : ∀ l ∈ lines, l.Of ls) : ∀ f ∈ lastingListeners lines, f.PointsInto ls := by
  unfold lastingListeners
  split_ifs
  · simp
  · intro f hf
    obtain ⟨⟨k, column⟩, hk, rfl⟩ := List.mem_map.mp hf
    obtain ⟨l, hl', he⟩ := List.exists_of_findSome?_eq_some (Option.mem_toList.mp hk)
    obtain ⟨n, hn, he⟩ := Option.map_eq_some_iff.mp he
    cases he
    exact report_pointsInto ((hl _ hl').within (Text.find?_le hn)) ..

theorem grammarFindings_pointsInto (code : List Char) :
    ∀ f ∈ grammarFindings code, f.PointsInto (lines code) := by
  have hlines : ∀ l ∈ (Source.of code).masked.lines, l.Of (lines code) := fun _ => of_mem_ofCode
  intro f hf
  simp only [grammarFindings, List.mem_append, List.mem_flatMap, List.mem_map] at hf
  rcases hf with (⟨⟨pair, rule⟩, -, i, hi, rfl⟩ | ⟨p, hp, rfl⟩) | hf
  · exact report_pointsInto (Delimiters.imbalances_within _ hlines i hi) ..
  · exact report_pointsInto (unclosed_within _ (shows_lines_refl _) p hp) ..
  · refine perLine_pointsInto ?_ hlines f hf
    simp [assignedConditions_pointsInto, bareConstants_pointsInto]

theorem meaningFindings_pointsInto (code : List Char) :
    ∀ f ∈ meaningFindings code, f.PointsInto (lines code) := by
  have hlines : ∀ l ∈ (Source.of code).masked.lines, l.Of (lines code) := fun _ => of_mem_ofCode
  intro f hf
  simp only [meaningFindings, List.mem_append] at hf
  rcases hf with (hf | hf) | hf
  · refine perLine_pointsInto ?_ hlines f hf
    simp [evaluations_pointsInto, markupWrites_pointsInto, looseComparisons_pointsInto,
      functionScoped_pointsInto]
  · exact strayAwaits_pointsInto hlines _ f hf
  · exact promiseFindings_pointsInto (positionAt_masked_within .javascript code) _ _ f hf

theorem costFindings_pointsInto (code : List Char) :
    ∀ f ∈ costFindings code, f.PointsInto (lines code) := by
  have hlines : ∀ l ∈ (Source.of code).masked.lines, l.Of (lines code) := fun _ => of_mem_ofCode
  intro f hf
  simp only [costFindings, List.mem_append] at hf
  rcases hf with (hf | hf) | hf
  · refine perLine_pointsInto ?_ hlines f hf
    simp [pageInLoops_pointsInto, lengthLoops_pointsInto]
  · exact repeatedSearches_pointsInto hlines f hf
  · exact lastingListeners_pointsInto hlines f hf

end Javascript

namespace Ssjs

theorem of_mem_source {code : List Char} {l : Line} (h : l ∈ (Source.of code).lines) :
    l.Of (lines code) :=
  of_mem_masked _ (view_shows _) h

theorem clientScriptTag_pointsInto : PointsIntoLines clientScriptTag := by
  intro ls l hl
  unfold clientScriptTag
  split
  · next m hm =>
    split_ifs
    · simp
    · exact List.forall_mem_singleton.mpr
        (report_pointsInto (hl.within_raw (finds_of_find? hm).1) ..)
  · simp

theorem assignedConditions_pointsInto : PointsIntoLines assignedConditions :=
  Script.assigned_pointsInto

theorem constructorUse_pointsInto : PointsIntoLines constructorUse := first_pointsInto

theorem evalFindings_pointsInto : PointsIntoLines evalFindings := first_pointsInto

theorem missingSemicolons_pointsInto {ls : List (List Char)} {lines : List Line}
    (hl : ∀ l ∈ lines, l.Of ls) (depth : Nat) :
    ∀ f ∈ missingSemicolons depth lines, f.PointsInto ls := by
  induction lines generalizing depth with
  | nil => simp [missingSemicolons]
  | cons l rest ih =>
    intro f hf
    unfold missingSemicolons at hf
    rcases List.mem_append.mp hf with hf | hf
    · split_ifs at hf
      · rw [List.mem_singleton.mp hf]
        exact report_pointsInto ((hl l (by simp)).within (length_dropEndWhile_le _ _)) ..
      · cases hf
    · exact ih (fun k hk => hl k (by simp [hk])) _ f hf

theorem declaredIn_within {ls : List (List Char)} {l : Line} (hl : l.Of ls) :
    ∀ d ∈ declaredIn l, d.site.Within ls := by
  intro d hd
  rcases List.mem_append.mp hd with hd | hd
  · obtain ⟨m, hm, rfl⟩ := List.mem_map.mp hd
    exact hl.startOf (finds_of_mem_findAll hm) 1
  · obtain ⟨m, hm, hd⟩ := List.mem_filterMap.mp hd
    obtain ⟨b, hb, rfl⟩ := Option.map_eq_some_iff.mp hd
    exact hl.within ((finds_of_mem_findAll hm).bounds hb).1

theorem firstOfEach_subset (ds : List Declared) : firstOfEach ds ⊆ ds := by
  induction ds with
  | nil => simp [firstOfEach]
  | cons d ds ih =>
    apply List.cons_subset_cons d
    exact fun x hx => ih (List.mem_of_mem_filter hx)

theorem undeclaredIn_pointsInto (declared : List Declared) :
    PointsIntoLines (undeclaredIn declared) := by
  intro ls l hl
  unfold undeclaredIn
  split
  · next m hm =>
    simp only
    split_ifs
    · simp
    · exact List.forall_mem_singleton.mpr
        (report_pointsInto (hl.startOf (finds_of_matchAt? hm) 1) ..)
  · simp

theorem variableFindings_pointsInto {ls : List (List Char)} {lines : List Line}
    (hl : ∀ l ∈ lines, l.Of ls) : ∀ f ∈ variableFindings lines, f.PointsInto ls := by
  intro f hf
  rcases List.mem_append.mp hf with hf | hf
  · obtain ⟨l, hl', hf⟩ := List.mem_flatMap.mp hf
    exact undeclaredIn_pointsInto _ ls l (hl l hl') f hf
  · obtain ⟨d, hd, rfl⟩ := List.mem_map.mp hf
    have hd := firstOfEach_subset _ (List.mem_of_mem_filter hd)
    obtain ⟨l, hl', hd⟩ := List.mem_flatMap.mp hd
    exact report_pointsInto (declaredIn_within (hl l hl') d hd) ..

theorem loadFindings_pointsInto {ls : List (List Char)} {l : Line} (hl : l.Of ls) {m : Match}
    (hm : libraryLoad.Finds l.masked m) (numbers : List Nat) :
    ∀ f ∈ loadFindings numbers l m, f.PointsInto ls := by
  intro f hf
  rcases List.mem_append.mp hf with hf | hf
  · split_ifs at hf
    · rw [List.mem_singleton.mp hf]
      exact report_pointsInto (hl.start hm) ..
    · cases hf
  · split_ifs at hf
    · cases hf
    · rw [List.mem_singleton.mp hf]
      exact report_pointsInto (hl.start hm) ..

theorem libraryFindings_pointsInto {ls : List (List Char)} {lines : List Line}
    (hl : ∀ l ∈ lines, l.Of ls) : ∀ f ∈ libraryFindings lines, f.PointsInto ls := by
  intro f hf
  simp only [libraryFindings] at hf
  split_ifs at hf
  · obtain ⟨l, hl', rfl⟩ := List.mem_map.mp hf
    have hmem := List.mem_of_find?_eq_some (Option.mem_toList.mp hl')
    exact report_line_pointsInto ((hl l hmem).within (Nat.zero_le _)) ..
  · obtain ⟨⟨l, m⟩, hlm, hf⟩ := List.mem_flatMap.mp hf
    obtain ⟨k, hk, he⟩ := List.mem_filterMap.mp hlm
    obtain ⟨n, hn, he⟩ := Option.map_eq_some_iff.mp he
    cases he
    exact loadFindings_pointsInto (hl _ hk) (finds_of_find? hn) _ f hf

theorem initFindings_pointsInto : PointsIntoLines initFindings := by
  intro ls l hl f hf
  obtain ⟨m, hm, hf⟩ := List.mem_flatMap.mp hf
  have hstart := hl.start (finds_of_mem_findAll hm)
  rcases List.mem_append.mp hf with hf | hf
  · split at hf
    · rw [List.mem_singleton.mp hf]
      exact report_pointsInto hstart ..
    · cases hf
  · split_ifs at hf
    · cases hf
    · rw [List.mem_singleton.mp hf]
      exact report_pointsInto hstart ..

theorem proxyFindings_pointsInto : PointsIntoLines proxyFindings := by
  intro ls l hl
  unfold proxyFindings
  split
  · next m hm =>
    split
    · simp
    · exact List.forall_mem_singleton.mpr (report_pointsInto (hl.start (finds_of_find? hm)) ..)
  · simp

theorem injectionFindings_pointsInto : PointsIntoLines injectionFindings := by
  intro ls l hl f hf
  obtain ⟨m, hm, hf⟩ := List.mem_filterMap.mp hf
  obtain ⟨e, -, hf⟩ := Option.bind_eq_some_iff.mp hf
  split_ifs at hf
  cases hf
  exact report_pointsInto (hl.start (finds_of_mem_findAll hm)) ..

theorem credentialFindings_pointsInto : PointsIntoLines credentialFindings := by
  intro ls l hl
  unfold credentialFindings
  split
  · next m hm =>
    split_ifs
    · simp
    · exact List.forall_mem_singleton.mpr
        (report_pointsInto (hl.within_raw (finds_of_find? hm).1) ..)
  · simp

theorem outputsIn_pointsInto (tainted : List (List Char)) :
    PointsIntoLines (outputsIn tainted) := by
  intro ls l hl f hf
  obtain ⟨m, hm, hf⟩ := List.mem_filterMap.mp hf
  obtain ⟨e, -, hf⟩ := Option.bind_eq_some_iff.mp hf
  simp only at hf
  split_ifs at hf
  cases hf
  exact report_pointsInto (hl.start (finds_of_mem_findAll hm)) ..

theorem outputFindings_pointsInto {ls : List (List Char)} {lines : List Line}
    (hl : ∀ l ∈ lines, l.Of ls) (tainted : List (List Char)) :
    ∀ f ∈ outputFindings tainted lines, f.PointsInto ls := by
  induction lines generalizing tainted with
  | nil => simp [outputFindings]
  | cons l rest ih =>
    intro f hf
    rcases List.mem_append.mp hf with hf | hf
    · exact outputsIn_pointsInto _ ls l (hl l (by simp)) f hf
    · exact ih (fun k hk => hl k (by simp [hk])) _ f hf

theorem finds_of_mem_expensiveIn {l : Line} {m : Match} (h : m ∈ expensiveIn l) :
    ∃ p : Pattern, p.Finds l.masked m := by
  have hfold (ms kept : List Match)
      (h : m ∈ ms.foldl (fun ms m => if ms.any (·.start == m.start) then ms else ms ++ [m]) kept) :
      m ∈ kept ∨ m ∈ ms := by
    induction ms generalizing kept with
    | nil => exact .inl h
    | cons k ms ih =>
      rcases ih _ h with h | h
      · simp only at h
        split_ifs at h
        · exact .inl h
        · rcases List.mem_append.mp h with h | h
          · exact .inl h
          · exact .inr (by simp [List.mem_singleton.mp h])
      · exact .inr (List.mem_cons_of_mem k h)
  rcases hfold _ [] h with h | h
  · cases h
  · obtain ⟨p, -, h⟩ := List.mem_flatMap.mp h
    exact ⟨p, finds_of_mem_findAll h⟩

theorem callsInLoops_pointsInto (blocks : BlockMap) : PointsIntoLines (callsInLoops blocks) := by
  intro ls l hl f hf
  obtain ⟨m, hm, hf⟩ := List.mem_filterMap.mp hf
  obtain ⟨p, hp⟩ := finds_of_mem_expensiveIn hm
  simp only at hf
  split at hf
  · cases hf
  · cases hf
    exact report_pointsInto (hl.start hp) ..

/-- The character behind the first of a match is still in the line. -/
theorem succ_start_within {ls : List (List Char)} {l : Line} (hl : l.Of ls) {p : Pattern}
    {m : Match} (hm : p.Finds l.masked m) (hp : p.isPossessive = false) (hw : 0 < p.leastWidth) :
    Position.Within ⟨l.number, m.start + 1⟩ ls := by
  have hwide := hm.start_add_le hp
  have hstop := hm.stop_le
  exact hl.within (by omega)

theorem unfilteredReads_pointsInto : PointsIntoLines unfilteredReads := by
  intro ls l hl f hf
  rcases List.mem_append.mp hf with hf | hf
  · obtain ⟨m, hm, hf⟩ := List.mem_filterMap.mp hf
    have hnext := succ_start_within hl (finds_of_mem_findAll hm) (by decide) (by decide)
    split at hf
    · cases hf
      exact report_pointsInto hnext ..
    · cases hf
  · obtain ⟨m, hm, hf⟩ := List.mem_filterMap.mp hf
    have hnext := succ_start_within hl (finds_of_mem_findAll hm) (by decide) (by decide)
    split at hf
    · split_ifs at hf
      cases hf
      exact report_pointsInto hnext ..
    · cases hf

theorem concatInLoops_pointsInto (blocks : BlockMap) : PointsIntoLines (concatInLoops blocks) := by
  intro ls l hl
  unfold concatInLoops
  split
  · next m hm =>
    split_ifs
    · simp
    · exact List.forall_mem_singleton.mpr (report_pointsInto (hl.start (finds_of_find? hm)) ..)
  · simp

theorem repeatedLookups_pointsInto {ls : List (List Char)} {lines : List Line}
    (hl : ∀ l ∈ lines, l.Of ls) : ∀ f ∈ repeatedLookups lines, f.PointsInto ls := by
  intro f hf
  obtain ⟨⟨n, ps⟩, hg, hf⟩ := List.mem_filterMap.mp hf
  have hw : ∀ p ∈ ps, p.Within ls := by
    intro p hp
    obtain ⟨o, ho, rfl⟩ := mem_of_mem_groupSites hg hp
    obtain ⟨l, hl', ho⟩ := List.mem_flatMap.mp ho
    obtain ⟨m, hm, rfl⟩ := List.mem_map.mp ho
    exact (hl l hl').start (finds_of_mem_findAll hm)
  split at hf
  · next second _ he =>
    cases he
    cases hf
    exact report_pointsInto (hw second (by simp)) ..
  · cases hf

theorem grammarFindings_pointsInto (code : List Char) :
    ∀ f ∈ grammarFindings code, f.PointsInto (lines code) := by
  have hlines : ∀ l ∈ (Source.of code).lines, l.Of (lines code) := fun _ => of_mem_source
  intro f hf
  simp only [grammarFindings, List.mem_append, List.mem_map] at hf
  rcases hf with ((hf | hf) | ⟨i, hi, rfl⟩) | ⟨p, hp, rfl⟩
  · refine perLine_pointsInto ?_ hlines f hf
    simp [clientScriptTag_pointsInto, assignedConditions_pointsInto, constructorUse_pointsInto]
  · exact missingSemicolons_pointsInto (fun l hl => hlines l (List.mem_of_mem_filter hl)) 0 f hf
  · exact report_pointsInto (Delimiters.imbalances_within _ hlines i hi) ..
  · exact report_pointsInto (unclosed_within _ (view_shows _) p hp) ..

theorem meaningFindings_pointsInto (code : List Char) :
    ∀ f ∈ meaningFindings code, f.PointsInto (lines code) := by
  have hlines : ∀ l ∈ (Source.of code).lines, l.Of (lines code) := fun _ => of_mem_source
  intro f hf
  simp only [meaningFindings, List.mem_append] at hf
  rcases hf with ((hf | hf) | hf) | hf
  · exact variableFindings_pointsInto hlines f hf
  · exact libraryFindings_pointsInto hlines f hf
  · refine perLine_pointsInto ?_ hlines f hf
    simp [initFindings_pointsInto, proxyFindings_pointsInto, injectionFindings_pointsInto,
      credentialFindings_pointsInto, evalFindings_pointsInto]
  · exact outputFindings_pointsInto hlines [] f hf

theorem costFindings_pointsInto (code : List Char) :
    ∀ f ∈ costFindings code, f.PointsInto (lines code) := by
  have hlines : ∀ l ∈ (Source.of code).lines, l.Of (lines code) := fun _ => of_mem_source
  intro f hf
  simp only [costFindings, List.mem_append] at hf
  rcases hf with hf | hf
  · refine perLine_pointsInto ?_ hlines f hf
    simp [callsInLoops_pointsInto, unfilteredReads_pointsInto, concatInLoops_pointsInto]
  · exact repeatedLookups_pointsInto hlines f hf

end Ssjs

end CampaignCheck

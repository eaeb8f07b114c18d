import CampaignCheck.Css.Checks
import CampaignCheck.Html.Cost
import CampaignCheck.Html.Grammar
import CampaignCheck.Html.Meaning
import CampaignCheck.Proofs.Placement.Basic

namespace CampaignCheck

open Text Pattern

namespace Html

/-- The character at the offset is neither a blank nor part of a line end. -/
def Visible (cs : List Char) (offset : Nat) : Prop :=
  ∃ c, cs[offset]? = some c ∧ c ≠ ' ' ∧ c ≠ '\n' ∧ c ≠ '\r'

/-- A view with the line feeds of its source has the same places. -/
theorem positionAt_of_showsLines {view source : List Char} (h : ShowsLines view source)
    (offset : Nat) : positionAt view offset = positionAt source offset := by
  have hfold (p : Position) : (view.take offset).foldl Position.advance p =
      (source.take offset).foldl Position.advance p := by
    unfold ShowsLines at h
    induction h generalizing offset p with
    | nil => rfl
    | @cons d c ds cs hd _ ih =>
      cases offset with
      | zero => rfl
      | succ offset =>
        have hstep : p.advance d = p.advance c := by simp only [Position.advance, hd.2]
        rw [List.take_succ_cons, List.take_succ_cons, List.foldl_cons, List.foldl_cons, hstep]
        exact ih offset _
  exact hfold _

theorem getElem?_of_showsLines {view source : List Char} (h : ShowsLines view source) {i : Nat}
    {c : Char} (hc : view[i]? = some c) (hne : c ≠ ' ') : source[i]? = some c := by
  unfold ShowsLines at h
  induction h generalizing i with
  | nil => simp at hc
  | cons hd _ ih =>
    cases i with
    | zero =>
      cases hc
      rcases hd.1 with rfl | rfl
      · rfl
      · exact absurd rfl hne
    | succ i => exact ih hc

theorem visible_within {view source : List Char} (h : ShowsLines view source) {offset : Nat}
    (hv : Visible view offset) : (positionAt view offset).Within (lines source) := by
  obtain ⟨c, hc, hblank, hfeed, hreturn⟩ := hv
  rw [positionAt_of_showsLines h]
  exact positionAt_within_lines (getElem?_of_showsLines h hc hblank) hfeed hreturn

theorem reportAt_pointsInto {view source : List Char} (h : ShowsLines view source) {offset : Nat}
    (hv : Visible view offset) (rule message : String) (category : Category) (severity : Severity)
    (hint : String) :
    (reportAt view offset rule message category severity hint).PointsInto (lines source) :=
  report_pointsInto (visible_within h hv) ..

theorem visible_of_head {p : Pattern} {cs : List Char} {m : Match} (hm : p.Finds cs m)
    {set : CharSet} (hp : p.headSet? = some set)
    (hs : set.mem ' ' = false ∧ set.mem '\n' = false ∧ set.mem '\r' = false) :
    Visible cs m.start := by
  obtain ⟨c, hc, hmem⟩ := hm.head hp
  refine ⟨c, hc, ?_, ?_, ?_⟩
  all_goals
    rintro rfl
    simp [hmem] at hs

theorem getElem?_group {m : Match} {cs : List Char} {n i : Nat} {c : Char}
    (h : (m.group cs n)[i]? = some c) : cs[m.startOf n + i]? = some c := by
  unfold Match.group Match.group? at h
  unfold Match.startOf
  cases hb : m.bounds? n with
  | none => simp [hb] at h
  | some b =>
    simp only [hb, Option.map_some, Option.getD_some, slice, List.getElem?_drop] at h ⊢
    rw [List.getElem?_take] at h
    split_ifs at h
    exact h

def Tag.Visible (cs : List Char) (t : Tag) : Prop :=
  Html.Visible cs t.start ∧ ∀ a ∈ t.attributes, Html.Visible cs a.offset

theorem visible_of_mem_attributesIn {cs : List Char} {a : Attribute} {base : Nat}
    (h : a ∈ attributesIn base cs) : ∃ i, Visible cs i ∧ a.offset = base + i := by
  obtain ⟨m, hm, rfl⟩ := List.mem_map.mp h
  have hfind := finds_of_mem_findAll hm
  refine ⟨m.start, visible_of_head hfind rfl (by decide), ?_⟩
  have hstart : m.startOf 1 = m.start := hfind.startOf_leading (by decide) (by decide)
  simp only [hstart]

theorem visible_of_mem_tagsIn {cs : List Char} {t : Tag} (h : t ∈ tagsIn cs) : t.Visible cs := by
  obtain ⟨m, hm, rfl⟩ := List.mem_map.mp h
  refine ⟨visible_of_head (finds_of_mem_findAll hm) rfl (by decide), ?_⟩
  intro a ha
  obtain ⟨i, ⟨c, hc, hne⟩, he⟩ := visible_of_mem_attributesIn ha
  exact ⟨c, by rw [he]; exact getElem?_group hc, hne⟩

/-- Open elements start with visible characters, and the findings on them point into the source. -/
def Nesting.Within (view source : List Char) (s : Nesting) : Prop :=
  (∀ e ∈ s.stack, Visible view e.offset) ∧ ∀ f ∈ s.found, f.PointsInto (lines source)

section

variable {view source : List Char} (h : ShowsLines view source)
include h

theorem closeUpTo_pointsInto (name : List Char) {stack : List OpenElement}
    (hs : ∀ e ∈ stack, Visible view e.offset) :
    (∀ f ∈ (closeUpTo view name stack).1, f.PointsInto (lines source)) ∧
      (closeUpTo view name stack).2 ⊆ stack := by
  induction stack with
  | nil => simp [closeUpTo]
  | cons e es ih =>
    obtain ⟨hfound, hrest⟩ := ih fun x hx => hs x (by simp [hx])
    have hkeep : (closeUpTo view name es).2 ⊆ e :: es :=
      fun x hx => List.mem_cons_of_mem e (hrest hx)
    simp only [closeUpTo]
    split_ifs
    · exact ⟨by simp, List.subset_cons_self e es⟩
    · exact ⟨hfound, hkeep⟩
    · refine ⟨List.forall_mem_cons.mpr ⟨?_, hfound⟩, hkeep⟩
      exact reportAt_pointsInto h (hs e (by simp)) ..

theorem enter_within {s : Nesting} {t : Tag} (ht : Visible view t.start)
    (hs : s.Within view source) : (s.enter view t).Within view source := by
  have hpush : ∀ e ∈ (⟨t.name, t.start⟩ : OpenElement) :: s.stack, Visible view e.offset :=
    List.forall_mem_cons.mpr ⟨ht, hs.1⟩
  unfold Nesting.enter
  simp only
  split
  · next top rest he =>
    have hrest : ∀ e ∈ rest, Visible view e.offset := fun e hmem => hs.1 e (by simp [he, hmem])
    rw [he] at hpush
    split_ifs
    · exact ⟨List.forall_mem_cons.mpr ⟨ht, hrest⟩, hs.2⟩
    · refine ⟨by rw [he]; exact hpush, List.forall_mem_append.mpr ⟨hs.2, ?_⟩⟩
      exact List.forall_mem_singleton.mpr (reportAt_pointsInto h ht ..)
    · exact ⟨by rw [he]; exact hpush, hs.2⟩
    · exact ⟨by rw [he]; exact hpush, hs.2⟩
  · exact ⟨List.forall_mem_singleton.mpr ht, hs.2⟩

theorem leave_within {s : Nesting} {t : Tag} (ht : Visible view t.start)
    (hs : s.Within view source) : (s.leave view t).Within view source := by
  obtain ⟨hfound, hrest⟩ := closeUpTo_pointsInto h t.name hs.1
  unfold Nesting.leave
  split_ifs
  · exact ⟨fun e he => hs.1 e (hrest he), List.forall_mem_append.mpr ⟨hs.2, hfound⟩⟩
  · refine ⟨hs.1, List.forall_mem_append.mpr ⟨hs.2, ?_⟩⟩
    exact List.forall_mem_singleton.mpr (reportAt_pointsInto h ht ..)

theorem nesting_step_within {s : Nesting} {t : Tag} (ht : Visible view t.start)
    (hs : s.Within view source) : (s.step view t).Within view source := by
  unfold Nesting.step
  split_ifs
  · refine ⟨hs.1, List.forall_mem_append.mpr ⟨hs.2, ?_⟩⟩
    exact List.forall_mem_singleton.mpr (reportAt_pointsInto h ht ..)
  · exact hs
  · exact hs
  · exact leave_within h ht hs
  · exact enter_within h ht hs

theorem nesting_within {tags : List Tag} (ht : ∀ t ∈ tags, t.Visible view) {s : Nesting}
    (hs : s.Within view source) : (tags.foldl (Nesting.step view) s).Within view source := by
  induction tags generalizing s with
  | nil => exact hs
  | cons t ts ih =>
    exact ih (fun k hk => ht k (by simp [hk])) (nesting_step_within h (ht t (by simp)).1 hs)

theorem structureFindings_pointsInto {tags : List Tag} (ht : ∀ t ∈ tags, t.Visible view) :
    ∀ f ∈ structureFindings view tags, f.PointsInto (lines source) := by
  have hs := nesting_within h ht (s := ⟨[], []⟩) ⟨by simp, by simp⟩
  refine List.forall_mem_append.mpr ⟨hs.2, ?_⟩
  intro f hf
  obtain ⟨e, he, hf⟩ := List.mem_flatMap.mp hf
  unfold neverClosed at hf
  split_ifs at hf
  · cases hf
  · rw [List.mem_singleton.mp hf]
    exact reportAt_pointsInto h (hs.1 e (List.mem_reverse.mp he)) ..

theorem attributeFindings_pointsInto (t : Tag) {as : List Attribute}
    (ha : ∀ a ∈ as, Visible view a.offset) (seen : List (List Char)) :
    ∀ f ∈ attributeFindings view t seen as, f.PointsInto (lines source) := by
  induction as generalizing seen with
  | nil => simp [attributeFindings]
  | cons a as ih =>
    have here := ha a (by simp)
    intro f hf
    simp only [attributeFindings, List.mem_append] at hf
    rcases hf with (hf | hf) | hf
    · split_ifs at hf
      · rw [List.mem_singleton.mp hf]
        exact reportAt_pointsInto h here ..
      · cases hf
    · split at hf
      · split_ifs at hf
        · cases hf
        · rw [List.mem_singleton.mp hf]
          exact reportAt_pointsInto h here ..
      · cases hf
    · exact ih (fun k hk => ha k (by simp [hk])) _ f hf

end

theorem firstNonblank_within (done ls : List (List Char)) (hne : done ++ ls ≠ []) :
    Position.Within ⟨firstNonblank (done.length + 1) ls, 0⟩ (done ++ ls) := by
  induction ls generalizing done with
  | nil =>
    obtain ⟨l, rest, he⟩ := List.exists_cons_of_ne_nil hne
    rw [he]
    exact ⟨Nat.le_refl 1, l, rfl, Nat.zero_le _⟩
  | cons l ls ih =>
    rw [firstNonblank]
    split_ifs
    · rw [List.append_cons]
      simpa using ih (done ++ [l]) (by simp)
    · exact Position.within_here done ls (Nat.zero_le _)

/-- The first line that is not blank exists, also without the carriage returns. -/
theorem firstNonblank_cut_within (code : List Char) :
    Position.Within ⟨firstNonblank 1 (cut '\n' code), 0⟩ (lines code) := by
  obtain ⟨first, rest, he⟩ := cut_eq_cons '\n' code
  obtain ⟨hline, l, hl, -⟩ := firstNonblank_within [] (cut '\n' code) (by simp [he])
  refine ⟨hline, dropEndWhile (· == '\r') l, ?_, Nat.zero_le _⟩
  rw [lines, List.getElem?_map]
  exact Option.map_eq_some_iff.mpr ⟨l, hl, rfl⟩

theorem documentFindings_pointsInto (code : List Char) (tags : List Tag) :
    ∀ f ∈ documentFindings code tags, f.PointsInto (lines code) := by
  have hfirst := firstNonblank_cut_within code
  intro f hf
  unfold documentFindings at hf
  split at hf
  · cases hf
  · rcases List.mem_append.mp hf with hf | hf
    · split_ifs at hf
      · cases hf
      · rw [List.mem_singleton.mp hf]
        exact report_pointsInto hfirst ..
    · obtain ⟨required, -, hf⟩ := List.mem_filterMap.mp hf
      split_ifs at hf
      cases hf
      exact report_pointsInto hfirst ..

section

variable {view source : List Char} (h : ShowsLines view source)
include h

theorem imageFindings_pointsInto {t : Tag} (ht : Visible view t.start) :
    ∀ f ∈ imageFindings view t, f.PointsInto (lines source) := by
  unfold imageFindings
  split_ifs
  · exact List.forall_mem_singleton.mpr (reportAt_pointsInto h ht ..)
  · simp

theorem inputFindings_pointsInto {t : Tag} (ht : Visible view t.start)
    (targets : List (List Char)) (depth : Nat) :
    ∀ f ∈ inputFindings view targets depth t, f.PointsInto (lines source) := by
  unfold inputFindings
  simp only
  split_ifs
  · exact List.forall_mem_singleton.mpr (reportAt_pointsInto h ht ..)
  · simp

theorem accessibilityFindings_pointsInto (targets : List (List Char)) {tags : List Tag}
    (ht : ∀ t ∈ tags, t.Visible view) (depth : Nat) :
    ∀ f ∈ accessibilityFindings view targets depth tags, f.PointsInto (lines source) := by
  induction tags generalizing depth with
  | nil => simp [accessibilityFindings]
  | cons t ts ih =>
    have here := (ht t (by simp)).1
    have hrest := ih fun k hk => ht k (by simp [hk])
    unfold accessibilityFindings
    split
    · exact hrest _
    · split
      · exact hrest depth
      · exact List.forall_mem_append.mpr ⟨List.forall_mem_append.mpr
          ⟨imageFindings_pointsInto h here, inputFindings_pointsInto h here targets depth⟩,
          hrest depth⟩

theorem requiredFindings_pointsInto {t : Tag} (ht : Visible view t.start) :
    ∀ f ∈ requiredFindings view t, f.PointsInto (lines source) := by
  intro f hf
  obtain ⟨missing, -, rfl⟩ := List.mem_map.mp hf
  exact reportAt_pointsInto h ht ..

theorem headFindings_pointsInto {starts : List Tag} (ht : ∀ t ∈ starts, t.Visible view) :
    ∀ f ∈ headFindings view starts, f.PointsInto (lines source) := by
  unfold headFindings
  split
  · simp
  · next head hfind =>
    have hhead := (ht head (List.mem_of_find?_eq_some hfind)).1
    intro f hf
    rcases List.mem_append.mp hf with hf | hf
    all_goals
      split_ifs at hf
      · cases hf
      · rw [List.mem_singleton.mp hf]
        exact reportAt_pointsInto h hhead ..

theorem deprecatedFindings_pointsInto {t : Tag} (ht : Visible view t.start) :
    ∀ f ∈ deprecatedFindings view t, f.PointsInto (lines source) := by
  intro f hf
  obtain ⟨severity, -, rfl⟩ := List.mem_map.mp hf
  exact reportAt_pointsInto h ht ..

theorem handlerFindings_pointsInto {t : Tag} (ht : t.Visible view) :
    ∀ f ∈ handlerFindings view t, f.PointsInto (lines source) := by
  intro f hf
  obtain ⟨a, ha, hf⟩ := List.mem_filterMap.mp hf
  split_ifs at hf
  cases hf
  exact reportAt_pointsInto h (ht.2 a ha) ..

theorem scriptFindings_pointsInto {m : Match} (hm : Visible view m.start) :
    ∀ f ∈ scriptFindings view m, f.PointsInto (lines source) := by
  unfold scriptFindings
  simp only
  split_ifs
  · simp
  · exact List.forall_mem_singleton.mpr (reportAt_pointsInto h hm ..)
  · exact List.forall_mem_singleton.mpr (reportAt_pointsInto h hm ..)
  · simp

theorem loadingFindings_pointsInto {t : Tag} (ht : Visible view t.start) :
    ∀ f ∈ loadingFindings view t, f.PointsInto (lines source) := by
  unfold loadingFindings
  split_ifs
  · exact List.forall_mem_singleton.mpr (reportAt_pointsInto h ht ..)
  · simp

end

theorem grammarFindings_pointsInto (code : List Char) :
    ∀ f ∈ grammarFindings code, f.PointsInto (lines code) := by
  have h := tagText_showsLines code
  have htags : ∀ t ∈ tagsIn (tagText code), t.Visible (tagText code) :=
    fun _ => visible_of_mem_tagsIn
  intro f hf
  simp only [grammarFindings, List.mem_append, List.mem_flatMap] at hf
  rcases hf with (hf | ⟨t, ht, hf⟩) | hf
  · exact structureFindings_pointsInto h htags f hf
  · exact attributeFindings_pointsInto h t (htags t (List.mem_of_mem_filter ht)).2 [] f hf
  · exact documentFindings_pointsInto code _ f hf

theorem meaningFindings_pointsInto (code : List Char) :
    ∀ f ∈ meaningFindings code, f.PointsInto (lines code) := by
  have h := tagText_showsLines code
  have htags : ∀ t ∈ tagsIn (tagText code), t.Visible (tagText code) :=
    fun _ => visible_of_mem_tagsIn
  have hstarts : ∀ t ∈ (tagsIn (tagText code)).filter (!·.closing), t.Visible (tagText code) :=
    fun t ht => htags t (List.mem_of_mem_filter ht)
  intro f hf
  simp only [meaningFindings, List.mem_append, List.mem_flatMap] at hf
  rcases hf with (((hf | ⟨t, ht, hf⟩) | hf) | ⟨t, ht, hf⟩) | ⟨t, ht, hf⟩
  · exact accessibilityFindings_pointsInto h _ htags 0 f hf
  · exact requiredFindings_pointsInto h (hstarts t ht).1 f hf
  · exact headFindings_pointsInto h hstarts f hf
  · exact deprecatedFindings_pointsInto h (hstarts t ht).1 f hf
  · exact handlerFindings_pointsInto h (hstarts t ht) f hf

theorem costFindings_pointsInto (code : List Char) :
    ∀ f ∈ costFindings code, f.PointsInto (lines code) := by
  intro f hf
  simp only [costFindings, List.mem_append, List.mem_flatMap] at hf
  rcases hf with ⟨m, hm, hf⟩ | ⟨t, ht, hf⟩
  · have hstart := visible_of_head (finds_of_mem_findAll hm) rfl (by decide)
    exact scriptFindings_pointsInto (markup_showsLines code) hstart f hf
  · exact loadingFindings_pointsInto (tagText_showsLines code) (visible_of_mem_tagsIn ht).1 f hf

end Html

namespace Css

section

variable {cs : List Char} {ls : List (List Char)} (h : ∀ offset, (positionAt cs offset).Within ls)
include h

theorem reportAt_pointsInto (offset : Nat) (rule message : String) (category : Category)
    (severity : Severity) (hint : String) :
    (reportAt cs offset rule message category severity hint).PointsInto ls :=
  report_pointsInto (h offset) ..

theorem declarationFindings_pointsInto (r : Rule) :
    ∀ f ∈ declarationFindings cs r, f.PointsInto ls := by
  intro f hf
  rcases List.mem_append.mp hf with hf | hf
  · obtain ⟨offset, -, rfl⟩ := List.mem_map.mp hf
    exact reportAt_pointsInto h ..
  · obtain ⟨⟨offset, text⟩, -, rfl⟩ := List.mem_map.mp hf
    exact reportAt_pointsInto h ..

theorem valueFindings_pointsInto (d : Declaration) :
    ∀ f ∈ valueFindings cs d, f.PointsInto ls := by
  intro f hf
  rcases List.mem_append.mp hf with hf | hf
  all_goals
    obtain ⟨m, -, hf⟩ := List.mem_filterMap.mp hf
    simp only at hf
    split_ifs at hf
    cases hf
    exact reportAt_pointsInto h ..

theorem propertyFindings_pointsInto (r : Rule) :
    ∀ f ∈ propertyFindings cs r, f.PointsInto ls := by
  intro f hf
  unfold propertyFindings at hf
  split_ifs at hf
  · cases hf
  · obtain ⟨d, -, hf⟩ := List.mem_filterMap.mp hf
    simp only at hf
    split_ifs at hf
    cases hf
    exact reportAt_pointsInto h ..

theorem specificityFindings_pointsInto (r : Rule) :
    ∀ f ∈ specificityFindings cs r, f.PointsInto ls := by
  intro f hf
  unfold specificityFindings at hf
  split_ifs at hf
  · cases hf
  · obtain ⟨⟨offset, selector⟩, -, hf⟩ := List.mem_flatMap.mp hf
    simp only [specificityFinding] at hf
    split_ifs at hf
    · rw [List.mem_singleton.mp hf]
      exact reportAt_pointsInto h ..
    · cases hf

theorem outlineFindings_pointsInto (r : Rule) :
    ∀ f ∈ outlineFindings cs r, f.PointsInto ls := by
  unfold outlineFindings
  split
  · split_ifs
    · exact List.forall_mem_singleton.mpr (reportAt_pointsInto h ..)
    · simp
  · simp

theorem declarationCost_pointsInto (d : Declaration) :
    ∀ f ∈ declarationCost cs d, f.PointsInto ls := by
  intro f hf
  rcases List.mem_append.mp hf with hf | hf
  all_goals
    split_ifs at hf
    · rw [List.mem_singleton.mp hf]
      exact reportAt_pointsInto h ..
    · cases hf

theorem ruleCost_pointsInto (r : Rule) :
    ∀ f ∈ ruleCost cs r, f.PointsInto ls := by
  intro f hf
  rcases List.mem_append.mp hf with hf | hf
  · split_ifs at hf
    · rw [List.mem_singleton.mp hf]
      exact reportAt_pointsInto h ..
    · cases hf
  · obtain ⟨d, -, hf⟩ := List.mem_flatMap.mp hf
    exact declarationCost_pointsInto h d f hf

end

theorem importantFindings_pointsInto : PointsIntoLines importantFindings := by
  intro ls l hl f hf
  obtain ⟨m, hm, rfl⟩ := List.mem_map.mp hf
  obtain ⟨hline, k, hk, hc⟩ := report_pointsInto (hl.start (finds_of_mem_findAll hm))
    "css-important" "!important overrides the cascade" .style .info ""
  exact ⟨hline, k, hk, hc⟩

theorem grammarFindings_pointsInto (code : List Char) :
    ∀ f ∈ grammarFindings code, f.PointsInto (lines code) := by
  have h := positionAt_masked_within .css code
  intro f hf
  simp only [grammarFindings, List.mem_append, List.mem_flatMap, List.mem_map] at hf
  rcases hf with (⟨i, hi, rfl⟩ | ⟨r, -, hf⟩) | ⟨r, -, d, -, hf⟩
  · exact report_pointsInto (Delimiters.imbalances_within _ (fun _ => of_mem_ofCode) i hi) ..
  · exact declarationFindings_pointsInto h r f hf
  · exact valueFindings_pointsInto h d f hf

theorem meaningFindings_pointsInto (code : List Char) :
    ∀ f ∈ meaningFindings code, f.PointsInto (lines code) := by
  have h := positionAt_masked_within .css code
  intro f hf
  simp only [meaningFindings, List.mem_append, List.mem_flatMap] at hf
  rcases hf with ((⟨r, -, hf⟩ | ⟨l, hl, hf⟩) | ⟨r, -, hf⟩) | ⟨r, -, hf⟩
  · exact propertyFindings_pointsInto h r f hf
  · exact importantFindings_pointsInto (lines code) l (of_mem_ofCode hl) f hf
  · exact specificityFindings_pointsInto h r f hf
  · exact outlineFindings_pointsInto h r f hf

theorem costFindings_pointsInto (code : List Char) :
    ∀ f ∈ costFindings code, f.PointsInto (lines code) := by
  intro f hf
  obtain ⟨r, -, hf⟩ := List.mem_flatMap.mp hf
  exact ruleCost_pointsInto (positionAt_masked_within .css code) r f hf

end Css

end CampaignCheck

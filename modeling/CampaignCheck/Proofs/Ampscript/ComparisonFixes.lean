import CampaignCheck.Proofs.Ampscript.StretchedRegions
import CampaignCheck.Proofs.Fix.Repetitions
import CampaignCheck.Proofs.Lexical.Views
import CampaignCheck.Proofs.Text.Positions

namespace CampaignCheck

namespace Text

/-- Lines that are stretched each in its own way make a stretched text. -/
theorem exists_stretch_unlines {ks : Nat → Nat → Nat} {ls : List (List Char)}
    (h : ∀ i l, ls[i]? = some l → Elastic (ks i) l) : ∃ k, Elastic k (unlines ls) ∧
      stretch k (unlines ls) = unlines (ls.mapIdx fun i l => stretch (ks i) l) := by
  induction ls generalizing ks with
  | nil => exact ⟨_, .zero _, rfl⟩
  | cons l rest ih =>
    obtain ⟨k, helastic, heq⟩ := @ih (fun i => ks (i + 1)) fun i l hl => h (i + 1) l hl
    have hfirst : Elastic (ks 0) l := h 0 l rfl
    cases rest with
    | nil => exact ⟨ks 0, by rwa [unlines_singleton], by simp [unlines_singleton]⟩
    | cons m rest =>
      obtain ⟨k', helastic', heq'⟩ := exists_stretch_append (.zero ['\n']) helastic
      obtain ⟨n, hn, hstretch⟩ := exists_stretch_append hfirst helastic'
      rw [heq', stretch_zero, heq] at hstretch
      refine ⟨n, hn, ?_⟩
      simpa [unlines_cons_cons, List.mapIdx_cons] using hstretch

end Text

namespace Ampscript

open Text Pattern

/-- In a run of equals signs a delimiter can start with the last one only. -/
theorem infix_of_infix_replicate {d rest : List Char} (hd : d ∈ delimiters) {m : Nat}
    (h : d <:+: List.replicate (m + 1) '=' ++ rest) : d <+: '=' :: rest ∨ d <:+: rest := by
  induction m with
  | zero => exact List.infix_cons_iff.mp h
  | succ m ih =>
    rw [List.replicate_succ, List.cons_append, List.infix_cons_iff] at h
    rcases h with h | h
    · have htwo : ∀ d ∈ delimiters, ¬ d.take 2 = ['=', '='] ∧ 2 ≤ d.length := by decide
      obtain ⟨hne, hlength⟩ := htwo d hd
      refine absurd ?_ hne
      rw [List.prefix_iff_eq_take.mp h, List.take_take, Nat.min_eq_left hlength]
      rfl
    · exact ih h

theorem infix_of_stretch {k : Nat → Nat} {cs d : List Char} (hk : Elastic k cs)
    (hd : d ∈ delimiters) (h : d <:+: stretch k cs) : d <:+: cs := by
  induction cs generalizing k with
  | nil => exact h
  | cons c cs ih =>
    have htail : Elastic (fun j => k (j + 1)) cs := fun j hj => hk (j + 1) hj
    have hone : Elastic (countsFrom 0 fun j => k (j + 1)) (c :: cs) := by
      intro j hj
      cases j with
      | zero => exact absurd hj (Nat.lt_irrefl 0)
      | succ j => exact hk (j + 1) hj
    have hsame := startsWith_stretch hone rfl hd
    have hparts : d <+: c :: stretch (fun j => k (j + 1)) cs ∨
        d <:+: stretch (fun j => k (j + 1)) cs := by
      rw [stretch] at h
      by_cases hfirst : k 0 = 0
      · rw [hfirst] at h
        exact List.infix_cons_iff.mp h
      · obtain rfl : c = '=' := by simpa using hk 0 (Nat.pos_of_ne_zero hfirst)
        exact infix_of_infix_replicate hd h
    rcases hparts with h | h
    · have hstarts : startsWith (stretch (countsFrom 0 fun j => k (j + 1)) (c :: cs)) d = true :=
        startsWith_iff.mpr h
      rw [hsame] at hstarts
      exact (startsWith_iff.mp hstarts).isInfix
    · exact List.infix_cons (ih htail h)

theorem simple_delimiter : Simple delimiter := by
  simp only [delimiter, litOf, oneOf, lit, List.map]
  repeat' constructor

theorem occursIn_delimiter {cs : List Char} :
    delimiter.occursIn cs = true ↔ ∃ d ∈ delimiters, d <:+: cs := by
  have hhit (i : Nat) : (delimiter.hit? cs i).isSome ↔ ∃ d ∈ delimiters, d <+: cs.drop i := by
    have heq : delimiter = alt (inOrder (("%%[".toList.map CharSet.char).map one))
        (alt (inOrder (("]%%".toList.map CharSet.char).map one))
          (alt (inOrder (("%%=".toList.map CharSet.char).map one))
            (inOrder (("=%%".toList.map CharSet.char).map one)))) := rfl
    rw [heq, isSome_hit?_alt, isSome_hit?_alt, isSome_hit?_alt]
    simp only [isSome_hit?_lit, delimiters, List.mem_cons, List.not_mem_nil, or_false,
      exists_eq_or_imp, exists_eq_left]
  rw [occursIn_iff simple_delimiter]
  simp only [hhit]
  constructor
  · rintro ⟨i, -, d, hd, h⟩
    exact ⟨d, hd, h.isInfix.trans (List.drop_suffix i cs).isInfix⟩
  · rintro ⟨d, hd, pre, post, rfl⟩
    refine ⟨pre.length, by simp, d, hd, ?_⟩
    rw [List.append_assoc, List.drop_left]
    exact List.prefix_append d post

/-- Outside, a line without delimiters and start tags shows nothing. -/
theorem regionChars_plain {raw cs : List Char} {number i : Nat}
    (hclear : ∀ d ∈ delimiters, ¬ d <:+: cs) (htag : ∀ j, scriptOpen.matchAt? raw j = none) :
    '=' ∉ (regionChars raw number i [] .outside cs).1 ∧
      (regionChars raw number i [] .outside cs).2.1 = .outside := by
  induction cs generalizing i with
  | nil => exact ⟨List.not_mem_nil, rfl⟩
  | cons c cs ih =>
    have hrule := @rule_plain raw number i (c :: cs) (fun d hd h => hclear d hd h.isInfix) (htag i)
    obtain ⟨hblank, hzone⟩ := @ih (i + 1) fun d hd h => hclear d hd (List.infix_cons h)
    have hkeep : (dropping 1).drop 1 = [] := rfl
    rw [regionChars_cons, hrule]
    refine ⟨?_, hzone⟩
    rw [List.mem_cons, not_or]
    exact ⟨show ¬ '=' = ' ' by decide, hblank⟩

theorem regionLines_plain {ls : List (List Char)} {number : Nat}
    (hclear : ∀ l ∈ ls, ∀ d ∈ delimiters, ¬ d <:+: l)
    (htag : ∀ l ∈ ls, ∀ j, scriptOpen.matchAt? l j = none) :
    ∀ kept ∈ (regionLines number .outside ls).1, '=' ∉ kept := by
  induction ls generalizing number with
  | nil => simp [regionLines]
  | cons l rest ih =>
    obtain ⟨hblank, hzone⟩ := @regionChars_plain l l number 0 (hclear l List.mem_cons_self)
      (htag l List.mem_cons_self)
    have hrest := @ih (number + 1) (fun m hm => hclear m (List.mem_cons_of_mem l hm))
      fun m hm => htag m (List.mem_cons_of_mem l hm)
    simp only [regionLines, hzone, List.forall_mem_cons]
    exact ⟨hblank, hrest⟩

/-- What is no template is shown as it is, and has neither delimiters nor start tags. -/
theorem plain_of_not_isTemplate {ls : List (List Char)} (h : isTemplate ls = false) :
    (Regions.of ls).lines = ls ∧ (∀ d ∈ delimiters, ¬ d <:+: unlines ls) ∧
      scriptOpen.occursIn (unlines ls) = false := by
  refine ⟨by simp [Regions.of, h], fun d hd hinfix => ?_, ?_⟩
  · have hoccurs := occursIn_delimiter.mpr ⟨d, hd, hinfix⟩
    simp [isTemplate, hoccurs] at h
  · simp only [isTemplate, Bool.or_eq_false_iff] at h
    exact h.2

theorem exists_region {raws : List (List Char)} {i : Nat} {raw : List Char}
    (hraw : raws[i]? = some raw) : ∃ kept, (Regions.of raws).lines[i]? = some kept := by
  have hlength := (regions_shows raws).length_eq
  have hlt := (List.getElem?_eq_some_iff.mp hraw).1
  exact ⟨_, List.getElem?_eq_getElem (by omega)⟩

section Regions

variable {ks : Nat → Nat → Nat} {raws : List (List Char)}
  (h : ∀ i kept, (Regions.of raws).lines[i]? = some kept → Elastic (ks i) kept)
include h

theorem elastic_of_regions {i : Nat} {raw : List Char} (hraw : raws[i]? = some raw) :
    Elastic (ks i) raw := by
  obtain ⟨kept, hkept⟩ := exists_region hraw
  have hshows := shows_of_getElem? (regions_shows raws) hkept hraw
  exact fun j hj => hshows.getElem?_of_ne (by decide) (h i kept hkept j hj)

/-- The regions of a stretched template are its regions, stretched alike. -/
theorem regions_stretch : (Regions.of (raws.mapIdx fun i raw => stretch (ks i) raw)).lines =
    (Regions.of raws).lines.mapIdx fun i kept => stretch (ks i) kept := by
  have hraws (i : Nat) (raw : List Char) (hraw : raws[i]? = some raw) : Elastic (ks i) raw :=
    elastic_of_regions h hraw
  obtain ⟨k, hk, hwhole⟩ := exists_stretch_unlines hraws
  cases htemplate : isTemplate raws with
  | false =>
    obtain ⟨hshown, hclear, htag⟩ := plain_of_not_isTemplate htemplate
    have hplain : isTemplate (raws.mapIdx fun i raw => stretch (ks i) raw) = false := by
      rw [isTemplate, ← hwhole, Bool.or_eq_false_iff, ← Bool.not_eq_true, ← Bool.not_eq_true]
      refine ⟨fun hoccurs => ?_, fun hoccurs => ?_⟩
      · obtain ⟨d, hd, hinfix⟩ := occursIn_delimiter.mp hoccurs
        exact hclear d hd (infix_of_stretch hk hd hinfix)
      · rw [occursIn_of_stretch hk hoccurs] at htag
        cases htag
    rw [hshown, (plain_of_not_isTemplate hplain).1]
  | true =>
    obtain ⟨hshown, -⟩ := regions_of_isTemplate htemplate
    rw [hshown] at h ⊢
    obtain ⟨hfollows, -⟩ := regionLines_follows hraws h
    cases htemplate' : isTemplate (raws.mapIdx fun i raw => stretch (ks i) raw) with
    | true => rw [(regions_of_isTemplate htemplate').1, hfollows]
    | false =>
      obtain ⟨-, hclear, htag⟩ := plain_of_not_isTemplate htemplate'
      have hblank := @regionLines_plain (raws.mapIdx fun i raw => stretch (ks i) raw) 1
        (fun l hl d hd hfound => hclear d hd (hfound.trans (infix_unlines hl)))
        fun l hl j => matchAt?_scriptOpen_eq_none htag (infix_unlines hl) j
      -- Nothing is shown, so that nothing is repeated.
      have hstays (i : Nat) (raw : List Char) (hraw : raws[i]? = some raw) :
          stretch (ks i) raw = raw := by
        obtain ⟨kept, hkept⟩ := exists_region hraw
        rw [hshown] at hkept
        have hmem : stretch (ks i) kept ∈ (regionLines 1 .outside
            (raws.mapIdx fun i raw => stretch (ks i) raw)).1 := by
          rw [hfollows]
          refine List.mem_of_getElem? (i := i) ?_
          rw [List.getElem?_mapIdx, hkept, Option.map_some]
        have hnone : ks i = fun _ => 0 := by
          funext j
          by_contra hne
          have hsign := h i kept hkept j (Nat.pos_of_ne_zero hne)
          exact hblank _ hmem (mem_stretch.mpr (List.mem_of_getElem? hsign))
        rw [hnone, stretch_zero]
      have hsame : (raws.mapIdx fun i raw => stretch (ks i) raw) = raws := by
        refine List.ext_getElem? fun i => ?_
        rw [List.getElem?_mapIdx]
        cases hraw : raws[i]? with
        | none => rfl
        | some raw => rw [Option.map_some, hstays i raw hraw]
      rw [hsame, htemplate] at htemplate'
      cases htemplate'

end Regions

/-- The script of a template, line by line. -/
def script (ls : List (List Char)) : List (List Char) := (Regions.of ls).lines

theorem rule_of_mem_issues {ls : List (List Char)} {f : Finding}
    (h : f ∈ (Regions.of ls).issues) : f.rule ≠ "ampscript-comparison" := by
  obtain ⟨k, -, ⟨raw, -, hreported⟩ | hunclosed⟩ := cases_of_mem_issues h
  · cases hreported with
    | delimiter hrule => simp [hrule]
    | openOutput hrule => simp [hrule]
    | strayEnd hrule => simp [hrule]
  · simp [hunclosed.rule_eq]

theorem of_mem_assignedConditions {l : Line} {f : Finding} (h : f ∈ assignedConditions l) :
    f.rule = "ampscript-comparison" ∧ f.line = max 1 l.number := by
  obtain ⟨m, -, hfound⟩ := List.mem_filterMap.mp h
  obtain ⟨e, -, rfl⟩ := Option.map_eq_some_iff.mp hfound
  exact ⟨rfl, rfl⟩

theorem mem_grammarFindings {code : List Char} {l : Line} (hl : l ∈ (Source.of code).lines)
    {f : Finding} (hf : f ∈ assignedConditions l) : f ∈ grammarFindings code := by
  simp only [grammarFindings, List.mem_append, Checks.mem_perLine]
  exact .inl (.inl (.inl (.inr ⟨l, hl, assignedConditions, by simp, hf⟩)))

/-- The findings of the rule are those of one check, line by line. -/
theorem filter_checks (code : List Char) :
    ((checks code).filter fun f => f.rule == "ampscript-comparison") =
      (Source.of code).lines.flatMap assignedConditions := by
  have hnone {fs : List Finding} (h : ∀ f ∈ fs, f.rule ≠ "ampscript-comparison") :
      (fs.filter fun f => f.rule == "ampscript-comparison") = [] := by
    refine List.filter_eq_nil_iff.mpr fun f hf => ?_
    rw [beq_iff_eq]
    exact h f hf
  have hall (l : Line) : ((assignedConditions l).filter fun f => f.rule == "ampscript-comparison") =
      assignedConditions l :=
    List.filter_eq_self.mpr fun f hf => beq_iff_eq.mpr (of_mem_assignedConditions hf).1
  have hfunctions (l : Line) : ∀ f ∈ unknownFunctions l, f.rule ≠ "ampscript-comparison" := by
    grind [unknownFunctions, Finding.rule_report]
  have hmeaning : ∀ f ∈ meaningFindings code, f.rule ≠ "ampscript-comparison" := by
    intro f hf hrule
    have hmem := rule_of_mem_meaningFindings hf
    rw [hrule] at hmem
    exact absurd hmem (by decide)
  have hissues : ∀ f ∈ (Source.of code).issues, f.rule ≠ "ampscript-comparison" :=
    fun f hf => rule_of_mem_issues hf
  have hunclosed : ∀ f ∈ (Source.of code).blocks.unclosed.map unclosedBlock,
      f.rule ≠ "ampscript-comparison" := by
    grind [unclosedBlock, Finding.rule_report]
  have hstray : ∀ f ∈ (Source.of code).blocks.stray.map strayBlockEnd,
      f.rule ≠ "ampscript-comparison" := by
    grind [strayBlockEnd, Finding.rule_report]
  have hliteral : ∀ f ∈ (Source.of code).unclosed.map unclosedLiteral,
      f.rule ≠ "ampscript-comparison" := by
    simp [unclosedLiteral, Finding.rule_report]
  have hperLine (ls : List Line) : (Checks.perLine [unknownFunctions, assignedConditions] ls).filter
      (fun f => f.rule == "ampscript-comparison") = ls.flatMap assignedConditions := by
    simp [Checks.perLine, Checks.run, Checks.total, List.filter_flatMap, hnone (hfunctions _), hall]
  rw [checks, grammarFindings, List.filter_append, List.filter_append, List.filter_append,
    List.filter_append, List.filter_append, hnone hissues, hperLine, hnone hunclosed,
    hnone hstray, hnone hliteral, hnone hmeaning]
  simp only [List.nil_append, List.append_nil]

theorem findingsOn_comparison (code : List Char) :
    ampscriptValidator.findingsOn "ampscript-comparison" code =
      .ok ((Source.of code).lines.flatMap assignedConditions) :=
  congrArg Except.ok (filter_checks code)

theorem mem_checks_comparison (code : List Char) (f : Finding) :
    (f ∈ checks code ∧ f.rule = "ampscript-comparison") ↔
      ∃ l ∈ (Source.of code).lines, f ∈ assignedConditions l := by
  rw [← List.mem_flatMap, ← filter_checks, List.mem_filter, beq_iff_eq]

theorem watches : Fix.Watches ampscriptValidator "ampscript-comparison"
    (shownLines .ampscript script) ComparesAt :=
  .of_lines assignedConditions (fun _ => rfl) (fun _ => rfl) mem_checks_comparison
    (fun _ _ hl _ hf => mem_grammarFindings hl hf)
    (fun _ _ hf => (of_mem_assignedConditions hf).2)
    (fun _ _ hl => number_pos_of_mem_shownLines hl) fun _ => exists_mem_assignedConditions

theorem repeatsFirst : Fix.RepeatsFirst ampscriptValidator "ampscript-comparison" .ampscript 1
    ComparesAt FirstCompares where
  rewrites raw f hrule := by
    obtain ⟨k, hk, hcounts⟩ := fixComparison_stretch raw f
    exact ⟨k, (rewrite_comparison hrule).trans hk, hcounts⟩
  moves k cs hk pos := comparesAt_stretch_iff hk

/-- What of a line stands where its script is blank. -/
def around (raw kept : List Char) : List Char :=
  ((raw.zip kept).filter fun p => p.2 == ' ').map (·.1)

/-- The text around the script of a template, line by line. -/
def surroundings (ls : List (List Char)) : List (List Char) := List.zipWith around ls (script ls)

theorem around_stretch {k : Nat → Nat} {raw kept : List Char} (hk : Elastic k kept)
    (hlength : raw.length = kept.length) :
    around (stretch k raw) (stretch k kept) = around raw kept := by
  induction kept generalizing k raw with
  | nil =>
    obtain rfl : raw = [] := List.length_eq_zero_iff.mp hlength
    rfl
  | cons d kept ih =>
    cases raw with
    | nil => cases hlength
    | cons c raw =>
      have hrest := @ih (fun i => k (i + 1)) raw (fun i hi => hk (i + 1) hi)
        (Nat.succ.inj hlength)
      have hsame : (List.replicate (k 0 + 1) c).length = (List.replicate (k 0 + 1) d).length := by
        rw [List.length_replicate, List.length_replicate]
      unfold around at hrest ⊢
      rw [stretch, stretch, List.zip_append hsame, List.filter_append, List.map_append, hrest,
        List.zip_cons_cons, List.zip_replicate']
      by_cases hd : d = ' '
      · -- A blank is no equals sign, so that it is not repeated.
        have hstay : k 0 = 0 := by
          by_contra hne
          have hsign : d = '=' := by simpa using hk 0 (Nat.pos_of_ne_zero hne)
          rw [hd] at hsign
          cases hsign
        simp [hstay, hd]
      · simp [hd]

/-- In each line with a finding the regions keep the lone equals signs of the condition that is
first in the line as a whole. -/
def ComparesInScript (code : List Char) : Prop :=
  ∀ i raw kept, (lines code)[i]? = some raw → (script (lines code))[i]? = some kept →
    (∃ pos, ComparesAt (maskedAt .ampscript (script (lines code)) i kept) pos) →
    ∀ j, FirstCompares (Mask.alone (.of .ampscript) raw) j → kept[j]? = some '='

/-- Without delimiters all of the source is script. -/
theorem comparesInScript_of_plain {code : List Char} (h : isTemplate (lines code) = false) :
    ComparesInScript code := by
  intro i raw kept hraw hkept _ j hj
  rw [script, (plain_of_not_isTemplate h).1] at hkept
  obtain rfl : raw = kept := Option.some.inj (hraw.symm.trans hkept)
  exact Mask.equals_of_inside hj.sign

theorem length_script (ls : List (List Char)) : (script ls).length = ls.length :=
  (regions_shows ls).length_eq

/-- What a pass repeats is script just if the conditions that it takes compare in script. -/
theorem elastic_script_iff {code : List Char} {fs : List Finding} {fixed : Fixed}
    {ks : Nat → Nat → Nat} (hfs : ∀ n, (∃ f ∈ fs, f.line = n) ↔
      ∃ l ∈ shownLines .ampscript script code, l.number = n ∧ ∃ pos, ComparesAt l.masked pos)
    (h : Fix.Repeated .ampscript 1 FirstCompares code fs fixed ks) :
    (∀ i kept, (script (lines code))[i]? = some kept → Elastic (ks i) kept) ↔
      ComparesInScript code := by
  constructor
  · intro helastic i raw kept hraw hkept hpos j hj
    have hfound := (Fix.flagged_iff hfs hkept hraw).mpr hpos
    exact helastic i kept hkept j (((h.count i raw hraw j).2).mpr ⟨hfound, hj⟩)
  · intro hscript i kept hkept j hj
    have hlt := (List.getElem?_eq_some_iff.mp hkept).1
    rw [length_script] at hlt
    have hraw := List.getElem?_eq_getElem hlt
    obtain ⟨hfound, hfirst⟩ := (h.count i _ hraw j).2.mp hj
    exact hscript i _ kept hraw hkept ((Fix.flagged_iff hfs hkept hraw).mp hfound) j hfirst

theorem surroundings_stretch {raws : List (List Char)} {ks : Nat → Nat → Nat}
    (h : ∀ i kept, (script raws)[i]? = some kept → Elastic (ks i) kept) :
    surroundings (raws.mapIdx fun i raw => stretch (ks i) raw) = surroundings raws := by
  have hscript : script (raws.mapIdx fun i raw => stretch (ks i) raw) =
      (script raws).mapIdx fun i kept => stretch (ks i) kept := regions_stretch h
  refine List.ext_getElem? fun i => ?_
  rw [surroundings, surroundings, hscript, List.getElem?_zipWith, List.getElem?_zipWith,
    List.getElem?_mapIdx, List.getElem?_mapIdx]
  cases hraw : raws[i]? with
  | none => rfl
  | some raw =>
    cases hkept : (script raws)[i]? with
    | none => rfl
    | some kept =>
      have hlength := (shows_of_getElem? (regions_shows raws) hkept hraw).length_eq
      exact congrArg some (around_stretch (h i kept hkept) hlength.symm)

/-- A pass for comparisons doubles the lone equals signs of the first condition of every line with a
finding and changes nothing else. It touches script only just if these signs are script, and then
the text around the script stays. -/
theorem comparison_fixes_stay_in_script (code : List Char) :
    ∃ fs ks, ampscriptValidator.findingsOn "ampscript-comparison" code = .ok fs ∧
      Fix.Repeated .ampscript 1 FirstCompares code fs (ampscriptValidator.applyFixes code fs) ks ∧
      ((∀ i kept, (script (lines code))[i]? = some kept → Elastic (ks i) kept) ↔
        ComparesInScript code) ∧
      (ComparesInScript code →
        let fixed := lines (Fix.text (ampscriptValidator.applyFixes code fs))
        script fixed = ((script (lines code)).mapIdx fun i kept => stretch (ks i) kept) ∧
          surroundings fixed = surroundings (lines code)) := by
  obtain ⟨fs, hfound, hrule, hfs⟩ := watches.findingsOn code
  obtain ⟨ks, hks⟩ := repeatsFirst.exists_repeated hrule code
  have hiff := elastic_script_iff hfs hks
  refine ⟨fs, ks, hfound, hks, hiff, fun hscript => ?_⟩
  have helastic := hiff.mpr hscript
  simp only [hks.lines_text]
  exact ⟨regions_stretch helastic, surroundings_stretch helastic⟩

def singleEquals (line column : Nat) : Finding :=
  .report line (some column) "ampscript-comparison" "Use == for comparison, not = (assignment)"
    .syntactic .error "Replace = with == for comparison"

theorem comparison_fixes_stay_in_script_greeting :
    ∃ fs, ampscriptValidator.findingsOn "ampscript-comparison"
        "<b id=hi> %%[ IF @x = 1 THEN ]%%".toList = .ok fs ∧
      surroundings (lines (Fix.text (ampscriptValidator.applyFixes
          "<b id=hi> %%[ IF @x = 1 THEN ]%%".toList fs))) =
        surroundings (lines "<b id=hi> %%[ IF @x = 1 THEN ]%%".toList) := by
  obtain ⟨fs, ks, hfound, -, -, hstays⟩ :=
    comparison_fixes_stay_in_script "<b id=hi> %%[ IF @x = 1 THEN ]%%".toList
  refine ⟨fs, hfound, (hstays ?_).2⟩
  have hlines : lines "<b id=hi> %%[ IF @x = 1 THEN ]%%".toList =
      ["<b id=hi> %%[ IF @x = 1 THEN ]%%".toList] := by
    decide +kernel
  have hscript : script ["<b id=hi> %%[ IF @x = 1 THEN ]%%".toList] =
      ["              IF @x = 1 THEN    ".toList] := by
    decide +kernel
  have hfirst : firstCompared (Mask.alone (.of .ampscript)
      "<b id=hi> %%[ IF @x = 1 THEN ]%%".toList) = [20] := by
    decide +kernel
  intro i raw kept hraw hkept _ j hj
  rw [hlines, List.getElem?_singleton] at hraw
  rw [hlines, hscript, List.getElem?_singleton] at hkept
  split_ifs at hraw hkept
  rw [← Option.some.inj hraw, ← mem_firstCompared, hfirst, List.mem_singleton] at hj
  rw [← Option.some.inj hkept, hj]
  decide +kernel

/-- Text before a block that looks like a condition is taken for the condition. -/
theorem comparison_fixed_in_prose :
    ∃ fs, ampscriptValidator.findingsOn "ampscript-comparison"
        "IF a = b THEN %%[ IF @x = 1 THEN SET @y = 1 ENDIF ]%%".toList = .ok fs ∧
      Fix.text (ampscriptValidator.applyFixes
          "IF a = b THEN %%[ IF @x = 1 THEN SET @y = 1 ENDIF ]%%".toList fs) =
        "IF a == b THEN %%[ IF @x = 1 THEN SET @y = 1 ENDIF ]%%".toList ∧
      surroundings ["IF a == b THEN %%[ IF @x = 1 THEN SET @y = 1 ENDIF ]%%".toList] ≠
        surroundings ["IF a = b THEN %%[ IF @x = 1 THEN SET @y = 1 ENDIF ]%%".toList] := by
  have hfound : ampscriptValidator.findingsOn "ampscript-comparison"
      "IF a = b THEN %%[ IF @x = 1 THEN SET @y = 1 ENDIF ]%%".toList = .ok [singleEquals 1 24] := by
    rw [findingsOn_comparison]
    decide +kernel
  refine ⟨_, hfound, ?_, by decide +kernel⟩
  rw [Validator.applyFixes, Fix.run, Fix.order, List.mergeSort_singleton]
  decide +kernel

end Ampscript

end CampaignCheck

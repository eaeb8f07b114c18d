import CampaignCheck.Ampscript.Grammar
import CampaignCheck.Ampscript.Meaning
import CampaignCheck.Proofs.Ampscript.Weight
import CampaignCheck.Proofs.Fix.Idempotence
import CampaignCheck.Proofs.Pattern.Stretched

namespace CampaignCheck

namespace Text

theorem find?_eq_some {needle cs : List Char} {n : Nat} (h : find? needle cs = some n) :
    needle <+: cs.drop n := by
  induction cs generalizing n with
  | nil =>
    rw [find?] at h
    split_ifs at h with hempty
    simp [List.isEmpty_iff.mp hempty]
  | cons c cs ih =>
    rw [find?] at h
    split_ifs at h with hhere
    · cases h
      exact List.isPrefixOf_iff_prefix.mp hhere
    · obtain ⟨k, hk, rfl⟩ := Option.map_eq_some_iff.mp h
      exact ih hk

theorem find?_eq_none {needle cs : List Char} (h : find? needle cs = none) :
    ¬ needle <:+: cs := by
  induction cs with
  | nil =>
    rw [find?] at h
    split_ifs at h with hempty
    simpa [List.infix_nil] using hempty
  | cons c cs ih =>
    rw [find?] at h
    split_ifs at h with hhere
    rw [List.infix_cons_iff, not_or]
    exact ⟨mt List.isPrefixOf_iff_prefix.mpr hhere, ih (Option.map_eq_none_iff.mp h)⟩

theorem startsWith_iff {cs start : List Char} : startsWith cs start = true ↔ start <+: cs :=
  List.isPrefixOf_iff_prefix

end Text

namespace Ampscript

open Text Pattern

def Zone.isBlock : Zone → Bool
  | .block _ => true
  | _ => false

/-- All that the scanner can do at a column of a line, given the characters from there on. -/
inductive Ruled (raw : List Char) (number i : Nat) (cs : List Char) : Zone → Ruling → Prop
  | scriptEnd {m : Match} (h : scriptClose.matchAt? raw i = some m) :
      Ruled raw number i cs .script ⟨dropping (m.stop - i), .outside, []⟩
  | script : Ruled raw number i cs .script ⟨keeping 1, .script, []⟩
  | blockEnd {opened : Nat} (h : "]%%".toList <+: cs) :
      Ruled raw number i cs (.block opened) ⟨dropping 3, .outside, []⟩
  | nested {opened : Nat} (h : "%%[".toList <+: cs) (message : String) :
      Ruled raw number i cs (.block opened) ⟨dropping 3, .block opened,
        [delimiterIssue number i "ampscript-delimiters" message
          "Close the previous block with ]%% before opening a new one"]⟩
  | block {opened : Nat} : Ruled raw number i cs (.block opened) ⟨keeping 1, .block opened, []⟩
  | blockStart (h : "%%[".toList <+: cs) :
      Ruled raw number i cs .outside ⟨dropping 3, .block number, []⟩
  | output {n : Nat} (h : "=%%".toList <+: (cs.drop 3).drop n) :
      Ruled raw number i cs .outside ⟨dropping 3 ++ keeping n ++ dropping 3, .outside, []⟩
  | openOutput (h : "%%=".toList <+: cs) (hopen : ¬ "=%%".toList <:+: cs.drop 3)
      (message hint : String) :
      Ruled raw number i cs .outside ⟨dropping 3 ++ keeping (cs.length - 3), .outside,
        [delimiterIssue number i "ampscript-output-syntax" message hint]⟩
  | stray (h : "]%%".toList <+: cs) (message : String) :
      Ruled raw number i cs .outside ⟨dropping 3, .outside,
        [delimiterIssue number i "ampscript-delimiters" message
          "Add %%[ at the beginning of the block"]⟩
  | strayEnd (h : "=%%".toList <+: cs) (message hint : String) :
      Ruled raw number i cs .outside ⟨dropping 3, .outside,
        [delimiterIssue number i "ampscript-output-syntax" message hint]⟩
  | scriptStart (n : Nat) : Ruled raw number i cs .outside ⟨dropping n, .script, []⟩
  | outside (h : ¬ "=%%".toList <+: cs) :
      Ruled raw number i cs .outside ⟨dropping 1, .outside, []⟩

theorem ruled (raw : List Char) (number i : Nat) (zone : Zone) (cs : List Char) :
    Ruled raw number i cs zone (rule raw number i zone cs) := by
  cases zone with
  | script =>
    simp only [rule]
    split
    · next m hm => exact .scriptEnd hm
    · exact .script
  | block opened =>
    simp only [rule, startsWith_iff]
    split_ifs with hend hstart
    · exact .blockEnd hend
    · exact .nested hstart _
    · exact .block
  | outside =>
    simp only [rule, startsWith_iff]
    split_ifs with hblock houtput hstray hend
    · exact .blockStart hblock
    · split
      · next n hn => exact .output (find?_eq_some hn)
      · next hn => exact .openOutput houtput (find?_eq_none hn) _ _
    · exact .stray hstray _
    · exact .strayEnd hend _ _
    · split
      · exact .scriptStart _
      · exact .outside hend

theorem scriptClose_eq : scriptClose =
    seq (seq (seq (lit "</") (caseless "script")) blanks) (one (.char '>')) := rfl

theorem simple_scriptClose : Simple scriptClose := by
  rw [scriptClose_eq]
  repeat' constructor

/-- The end tag of a script element ends with its bracket. -/
theorem matchAt?_scriptClose {raw : List Char} {i : Nat} {m : Match}
    (h : scriptClose.matchAt? raw i = some m) :
    ∃ p, i ≤ p ∧ m.stop = p + 1 ∧ (raw)[p]? = some '>' := by
  rw [matchAt?] at h
  split_ifs at h
  obtain ⟨rfl, hhit⟩ := hit?_of_tryAt simple_scriptClose h
  have hsimple := simple_scriptClose
  rw [hit?, scriptClose_eq, ends] at hhit
  rw [scriptClose_eq] at hsimple
  cases hsimple with
  | seq hp _ =>
    obtain ⟨p, hp, hbracket⟩ := exists_of_ends hp hhit
    rw [ends_one] at hbracket
    split_ifs at hbracket with hsees
    exact ⟨p, hp, (Option.some.inj hbracket).symm, (sees_char _ _ _).mp hsees⟩

/-- No end of an output block starts right before the offset. -/
def Fresh (raw : List Char) (p : Nat) : Prop := ∀ q, q + 1 = p → ¬ "=%%".toList <+: raw.drop q

theorem fresh_of_getElem? {raw : List Char} {p : Nat} {c : Char} (h : (raw)[p]? = some c)
    (hc : c ≠ '=') : Fresh raw (p + 1) := by
  rintro q hq ⟨rest, hrest⟩
  obtain rfl : q = p := Nat.succ.inj hq
  have hhead : (raw.drop q)[0]? = some '=' := by rw [← hrest]; rfl
  rw [List.getElem?_drop, Nat.add_zero, h, Option.some.injEq] at hhead
  exact hc hhead

/-- Behind a delimiter that ends with a percent sign. -/
theorem fresh_behind {raw delimiter : List Char} {p : Nat} (h : delimiter <+: raw.drop p)
    (hlast : delimiter[2]? = some '%') : Fresh raw (p + 3) := by
  obtain ⟨rest, hrest⟩ := h
  refine fresh_of_getElem? (p := p + 2) (c := '%') ?_ (by decide)
  rw [← List.getElem?_drop, ← hrest,
    List.getElem?_append_left (List.getElem?_eq_some_iff.mp hlast).1]
  exact hlast

theorem Fresh.openAt {raw : List Char} {i : Nat} (hfresh : Fresh raw i)
    (h : "%%=".toList <+: raw.drop i) (hopen : ¬ "=%%".toList <:+: (raw.drop i).drop 3) :
    OpenAt raw i := by
  obtain ⟨rest, hrest⟩ := h
  have hlength : (raw.take i).length = i := by
    refine List.length_take_of_le (Nat.le_of_not_gt fun hlt => ?_)
    rw [List.drop_eq_nil_of_le (Nat.le_of_lt hlt)] at hrest
    simp at hrest
  have hsplit : raw = raw.take i ++ '%' :: '%' :: '=' :: rest := by
    conv_lhs => rw [← List.take_append_drop i raw, ← hrest]
    rfl
  refine ⟨raw.take i, rest, hsplit, hlength, ?_, ?_⟩
  · intro hlast
    obtain ⟨pre, hpre⟩ := List.getLast?_eq_some_iff.mp hlast
    have hsize := congrArg List.length hpre
    rw [hlength, List.length_append, List.length_singleton] at hsize
    refine hfresh pre.length hsize.symm ⟨'=' :: rest, ?_⟩
    rw [hsplit, hpre, List.append_assoc, List.drop_left]
    rfl
  · rwa [← hrest] at hopen

/-- What the scanner reports on a line. -/
inductive Reported (raw : List Char) (f : Finding) : Prop
  | delimiter (hrule : f.rule = "ampscript-delimiters") (hcolumn : f.column ≠ none)
      (hopens : (Fix.changeFor f).message ≠ "Add ]%% at the end")
  | openOutput (hrule : f.rule = "ampscript-output-syntax") (h : OpenAt raw (f.column.getD 0))
  | strayEnd (hrule : f.rule = "ampscript-output-syntax")
      (h : (raw)[f.column.getD 0]? = some '=')

theorem message_changeFor_report {line : Nat} {column : Option Nat} {rule message : String}
    {category : Category} {severity : Severity} {hint : String} (h : hint.isEmpty = false) :
    (Fix.changeFor (.report line column rule message category severity hint)).message = hint := by
  simp [Fix.changeFor, Finding.report, Option.filter, h]

section Line

variable {raw : List Char} {number i : Nat} {zone : Zone} {cs : List Char} {r : Ruling}

theorem Ruled.keep_pos (h : Ruled raw number i cs zone r) (hout : r.zone = .outside) :
    0 < r.keep.length := by
  cases h with
  | scriptEnd h =>
    obtain ⟨p, hp, hstop, -⟩ := matchAt?_scriptClose h
    simp only [dropping, List.length_replicate]
    omega
  | scriptStart => cases hout
  | _ => simp [dropping, keeping]

theorem Ruled.fresh (h : Ruled raw number i cs zone r) (hcs : raw.drop i = cs)
    (hout : r.zone = .outside) : Fresh raw (i + r.keep.length) := by
  cases h with
  | @scriptEnd m h =>
    obtain ⟨p, hp, hstop, hbracket⟩ := matchAt?_scriptClose h
    have hplace : i + (m.stop - i) = p + 1 := by omega
    simp only [dropping, List.length_replicate, hplace]
    exact fresh_of_getElem? hbracket (by decide)
  | blockEnd h =>
    rw [← hcs] at h
    exact fresh_behind h rfl
  | @output n h =>
    rw [← hcs, List.drop_drop, List.drop_drop] at h
    have hplace : i + (dropping 3 ++ keeping n ++ dropping 3).length = i + (3 + n) + 3 := by
      simp only [dropping, keeping, List.length_append, List.length_replicate]
      omega
    rw [hplace]
    exact fresh_behind h rfl
  | openOutput h =>
    have hthree := h.length_le
    have hlength := congrArg List.length hcs
    rw [List.length_drop] at hlength
    simp only [String.length_toList, dropping, keeping, List.length_append,
      List.length_replicate] at hthree ⊢
    rintro q hq hend
    have hlast := hend.length_le
    rw [List.length_drop] at hlast
    have hsize : "=%%".toList.length = 3 := rfl
    have hsize' : "%%=".length = 3 := rfl
    omega
  | stray h | strayEnd h =>
    rw [← hcs] at h
    exact fresh_behind h rfl
  | outside h =>
    rintro q hq hend
    obtain rfl : q = i := Nat.succ.inj hq
    exact h (hcs ▸ hend)
  | script | nested | block | blockStart | scriptStart => cases hout

theorem Ruled.reported (h : Ruled raw number i cs zone r) (hcs : raw.drop i = cs)
    (hfresh : zone = .outside → Fresh raw i) :
    ∀ f ∈ r.issues, Reported raw f ∧ f.line = max 1 number := by
  cases h with
  | nested | stray =>
    refine List.forall_mem_singleton.mpr ⟨.delimiter rfl nofun ?_, rfl⟩
    rw [delimiterIssue, message_changeFor_report (by decide)]
    decide
  | openOutput h hopen =>
    subst hcs
    exact List.forall_mem_singleton.mpr ⟨.openOutput rfl ((hfresh rfl).openAt h hopen), rfl⟩
  | strayEnd h =>
    obtain ⟨rest, hrest⟩ := h
    refine List.forall_mem_singleton.mpr ⟨.strayEnd rfl ?_, rfl⟩
    have hsign : (raw.drop i)[0]? = some '=' := by rw [hcs, ← hrest]; rfl
    rwa [List.getElem?_drop, Nat.add_zero] at hsign
  | _ => simp

/-- The scanner takes care that no end of an output block starts before a place where it looks for
the start of one. -/
theorem reported_of_mem_regionChars {keep : List Bool} (hcs : raw.drop i = cs)
    (hfresh : zone = .outside → Fresh raw (i + keep.length)) :
    ∀ f ∈ (regionChars raw number i keep zone cs).2.2, Reported raw f ∧ f.line = max 1 number := by
  induction cs generalizing i keep zone with
  | nil => cases keep <;> simp [regionChars]
  | cons c cs ih =>
    have hnext : raw.drop (i + 1) = cs := by
      rw [← List.drop_drop, hcs, List.drop_one, List.tail_cons]
    cases keep with
    | cons b keep =>
      refine ih hnext fun hout => ?_
      have hplace : i + 1 + keep.length = i + (b :: keep).length := by
        rw [List.length_cons]
        omega
      rw [hplace]
      exact hfresh hout
    | nil =>
      have hrule := ruled raw number i zone (c :: cs)
      intro f hf
      rcases List.mem_append.mp hf with hf | hf
      · exact hrule.reported hcs hfresh f hf
      · refine ih hnext (fun hout => ?_) f hf
        have hpos := hrule.keep_pos hout
        have hplace : i + 1 + ((rule raw number i zone (c :: cs)).keep.drop 1).length =
            i + (rule raw number i zone (c :: cs)).keep.length := by
          rw [List.length_drop]
          omega
        rw [hplace]
        exact hrule.fresh hcs hout

theorem Ruled.of_isBlock (h : Ruled raw number i cs zone r) (hblock : r.zone.isBlock = true) :
    zone.isBlock = true ∧ r.keep.length = 1 ∨ "%%[".toList <+: cs ∧ r.keep.length = 3 := by
  cases h with
  | block => exact .inl ⟨rfl, rfl⟩
  | nested h | blockStart h => exact .inr ⟨h, rfl⟩
  | _ => cases hblock

/-- Without the start of a block no block is open in the end that was not open before. -/
theorem isBlock_regionChars {keep : List Bool} (h : ¬ "%%[".toList <:+: cs)
    (hzone : zone.isBlock = false) :
    (regionChars raw number i keep zone cs).2.1.isBlock = false := by
  induction cs generalizing i keep zone with
  | nil => cases keep <;> exact hzone
  | cons c cs ih =>
    rw [List.infix_cons_iff, not_or] at h
    cases keep with
    | cons b keep => exact ih h.2 hzone
    | nil =>
      refine ih h.2 ?_
      by_contra hblock
      rw [Bool.not_eq_false] at hblock
      rcases (ruled raw number i zone (c :: cs)).of_isBlock hblock with ⟨hopen, -⟩ | ⟨hstart, -⟩
      · rw [hzone] at hopen
        cases hopen
      · exact h.1 hstart

/-- Nothing but the start of a block is skipped inside a block, so that its end is seen. -/
theorem isBlock_regionChars_close {keep : List Bool} (u : List Char)
    (hkeep : zone.isBlock = true → keep.length ≤ u.length + 1) :
    (regionChars raw number i keep zone (u ++ " ]%%".toList)).2.1.isBlock = false := by
  induction u generalizing i keep zone with
  | nil =>
    cases hzone : zone.isBlock with
    | false => exact isBlock_regionChars (by decide) hzone
    | true =>
      obtain ⟨opened, rfl⟩ : ∃ opened, zone = .block opened := by
        cases zone with
        | block opened => exact ⟨opened, rfl⟩
        | _ => cases hzone
      match keep with
      | [] => rfl
      | [b] => rfl
      | b :: d :: keep => simp [hzone] at hkeep
  | cons c u ih =>
    rw [List.cons_append]
    cases keep with
    | cons b keep => exact ih fun hzone => Nat.le_of_succ_le_succ (hkeep hzone)
    | nil =>
      refine ih fun hblock => ?_
      rw [List.length_drop]
      rcases (ruled raw number i zone _).of_isBlock hblock with ⟨-, hone⟩ | ⟨hstart, hthree⟩
      · rw [hone]
        omega
      · cases u with
        | nil => simp at hstart
        | cons d u =>
          rw [hthree, List.length_cons]
          omega

end Line

section Lines

variable {number : Nat} {zone : Zone} {ls : List (List Char)}

theorem reported_of_mem_regionLines :
    ∀ f ∈ (regionLines number zone ls).2.2,
      ∃ k raw, ls[k]? = some raw ∧ f.line = max 1 (number + k) ∧ Reported raw f := by
  induction ls generalizing number zone with
  | nil => simp [regionLines]
  | cons raw rest ih =>
    intro f hf
    rcases List.mem_append.mp hf with hf | hf
    · have hfresh : zone = .outside → Fresh raw (0 + ([] : List Bool).length) :=
        fun _ _ hq => absurd hq (Nat.succ_ne_zero _)
      obtain ⟨hreported, hline⟩ := reported_of_mem_regionChars List.drop_zero hfresh f hf
      exact ⟨0, raw, rfl, hline, hreported⟩
    · obtain ⟨k, l, hl, hline, hreported⟩ := ih f hf
      refine ⟨k + 1, l, hl, ?_, hreported⟩
      rw [hline, Nat.add_right_comm, Nat.add_assoc]

theorem isBlock_regionLines_of_blank (h : ∀ l ∈ ls, allBlank l = true)
    (hzone : zone.isBlock = false) : (regionLines number zone ls).2.1.isBlock = false := by
  induction ls generalizing number zone with
  | nil => exact hzone
  | cons raw rest ih =>
    refine ih (fun l hl => h l (List.mem_cons_of_mem raw hl)) (isBlock_regionChars ?_ hzone)
    intro hstart
    have hblank := List.all_eq_true.mp (h raw List.mem_cons_self) '%' (hstart.mem (by decide))
    exact absurd hblank (by decide)

/-- No block is open in the end if the last line that is not blank closes what is open. -/
theorem isBlock_regionLines_of_close {k : Nat} {t : List Char}
    (hline : ls[k]? = some (t ++ " ]%%".toList))
    (hblank : ∀ j l, ls[j]? = some l → k < j → allBlank l = true) :
    (regionLines number zone ls).2.1.isBlock = false := by
  induction ls generalizing number zone k with
  | nil => cases hline
  | cons raw rest ih =>
    cases k with
    | zero =>
      obtain rfl : raw = t ++ " ]%%".toList := Option.some.inj hline
      have hrest : ∀ l ∈ rest, allBlank l = true := by
        intro l hl
        obtain ⟨j, hj⟩ := List.getElem?_of_mem hl
        exact hblank (j + 1) l hj (Nat.succ_pos j)
      rw [regionLines]
      exact isBlock_regionLines_of_blank hrest
        (isBlock_regionChars_close t fun _ => Nat.zero_le _)
    | succ k =>
      exact ih hline fun j l hl hj => hblank (j + 1) l hl (Nat.succ_lt_succ hj)

/-- The text ends inside a processing block. -/
def endsOpen (ls : List (List Char)) : Bool := (regionLines 1 .outside ls).2.1.isBlock

theorem le_lastNonblank {default : Nat} (h : default ≤ number) :
    default ≤ lastNonblank number default ls := by
  induction ls generalizing number default with
  | nil => exact Nat.le_refl _
  | cons l ls ih =>
    rw [lastNonblank]
    split_ifs
    · exact ih (Nat.le_succ_of_le h)
    · exact Nat.le_trans h (ih (Nat.le_succ number))

theorem allBlank_of_lastNonblank_lt {default j : Nat} {l : List Char} (hl : ls[j]? = some l)
    (h : lastNonblank number default ls < number + j) : allBlank l = true := by
  induction ls generalizing number default j with
  | nil => cases hl
  | cons raw ls ih =>
    rw [lastNonblank] at h
    cases j with
    | zero =>
      obtain rfl : raw = l := Option.some.inj hl
      by_contra hne
      rw [if_neg hne] at h
      exact absurd h (Nat.not_lt.mpr (le_lastNonblank (Nat.le_succ number)))
    | succ j =>
      have hplace : number + (j + 1) = number + 1 + j := by omega
      rw [hplace] at h
      exact ih hl h

/-- The finding asks to close the block that the text ends in, at the last line that is not
blank. -/
structure Unclosed (ls : List (List Char)) (k : Nat) (f : Finding) : Prop where
  rule_eq : f.rule = "ampscript-delimiters"
  column_eq : f.column = none
  endsOpen : endsOpen ls = true
  last : lastNonblank 1 1 ls = k + 1

theorem Unclosed.blank {k j : Nat} {f : Finding} {l : List Char} (h : Unclosed ls k f)
    (hl : ls[j]? = some l) (hlt : k < j) : allBlank l = true := by
  have hlast : lastNonblank 1 1 ls < 1 + j := by
    rw [h.last]
    omega
  exact allBlank_of_lastNonblank_lt hl hlast

/-- What is reported on the regions is what the scanner reports on the lines, and at last that the
block is never closed that the text ends in. -/
theorem issues_cases (ls : List (List Char)) : (Regions.of ls).issues = [] ∨
    (Regions.of ls).issues = (regionLines 1 .outside ls).2.2 ∨
    ∃ f k, (Regions.of ls).issues = (regionLines 1 .outside ls).2.2 ++ [f] ∧ f.line = k + 1 ∧
      Unclosed ls k f := by
  unfold Regions.of
  split_ifs
  · exact .inl rfl
  · simp only
    split
    · next opened hzone =>
      have hfirst : 1 ≤ lastNonblank 1 1 ls := le_lastNonblank (Nat.le_refl 1)
      obtain ⟨k, hk⟩ := Nat.exists_eq_add_of_le hfirst
      have hopen : endsOpen ls = true := by
        rw [endsOpen, hzone]
        rfl
      refine .inr (.inr ⟨_, k, rfl, ?_, ⟨rfl, rfl, hopen, by rw [hk, Nat.add_comm]⟩⟩)
      exact (congrArg (max 1) hk).trans (by omega)
    · exact .inr (.inl rfl)

theorem cases_of_mem_issues {f : Finding} (h : f ∈ (Regions.of ls).issues) :
    ∃ k, f.line = k + 1 ∧ ((∃ raw, ls[k]? = some raw ∧ Reported raw f) ∨ Unclosed ls k f) := by
  have hline (hf : f ∈ (regionLines 1 .outside ls).2.2) : ∃ k, f.line = k + 1 ∧
      ((∃ raw, ls[k]? = some raw ∧ Reported raw f) ∨ Unclosed ls k f) := by
    obtain ⟨k, raw, hraw, hnumber, hreported⟩ := reported_of_mem_regionLines f hf
    exact ⟨k, by omega, .inl ⟨raw, hraw, hreported⟩⟩
  rcases issues_cases ls with hnone | hissues | ⟨g, k, hissues, hplace, hunclosed⟩
  · rw [hnone] at h
    cases h
  · exact hline (hissues ▸ h)
  · rw [hissues, List.mem_append, List.mem_singleton] at h
    rcases h with hf | rfl
    · exact hline hf
    · exact ⟨k, hplace, .inr hunclosed⟩

end Lines

/-- What the fixes of a template are based on. -/
def checks (code : List Char) : List Finding := grammarFindings code ++ meaningFindings code

def Elsewhere (f : Finding) : Prop :=
  f.rule ≠ "ampscript-delimiters" ∧ f.rule ≠ "ampscript-output-syntax"

theorem elsewhere_report {rule : String}
    (h : rule ≠ "ampscript-delimiters" ∧ rule ≠ "ampscript-output-syntax") (line : Nat)
    (column : Option Nat) (message : String) (category : Category) (severity : Severity)
    (hint : String) : Elsewhere (.report line column rule message category severity hint) := h

def meaningRules : List String := [
  "ampscript-undefined-variable", "ampscript-unused-variable", "ampscript-de-operation",
  "ampscript-sf-operation", "ampscript-hardcoded-credential", "ampscript-xss-prevention",
  "ampscript-sql-injection"]

theorem occurrence_rules {t : Tracking} (ht : ∀ f ∈ t.found, f.rule ∈ meaningRules)
    (number column : Nat) (name : List Char) (declares : Bool) :
    ∀ f ∈ (t.occurrence number column name declares).found, f.rule ∈ meaningRules := by
  grind [Tracking.occurrence, Finding.rule_report, meaningRules]

theorem line_rules {t : Tracking} (ht : ∀ f ∈ t.found, f.rule ∈ meaningRules) (l : Line) :
    ∀ f ∈ (t.line l).found, f.rule ∈ meaningRules := by
  unfold Tracking.line
  generalize variableName.findAll l.masked = ms
  induction ms generalizing t with
  | nil => exact ht
  | cons m ms ih => exact ih (occurrence_rules ht _ _ _ _)

theorem tracking_rules {t : Tracking} (ht : ∀ f ∈ t.found, f.rule ∈ meaningRules)
    (ls : List Line) : ∀ f ∈ (ls.foldl Tracking.line t).found, f.rule ∈ meaningRules := by
  induction ls generalizing t with
  | nil => exact ht
  | cons l ls ih => exact ih (line_rules ht l)

theorem variableFindings_rules (ls : List Line) :
    ∀ f ∈ variableFindings ls, f.rule ∈ meaningRules := by
  intro f hf
  rcases List.mem_append.mp hf with hf | hf
  · exact tracking_rules (by simp) ls f hf
  · obtain ⟨d, -, rfl⟩ := List.mem_map.mp hf
    simp [unusedVariable, Finding.rule_report, meaningRules]

theorem requestFlow_rules (tainted : List (List Char)) (ls : List Line) :
    ∀ f ∈ requestFlow tainted ls, f.rule ∈ meaningRules := by
  induction ls generalizing tainted with
  | nil => simp [requestFlow]
  | cons l ls ih =>
    intro f hf
    simp only [requestFlow, List.mem_append, List.mem_flatMap] at hf
    rcases hf with (⟨m, -, hf⟩ | hf) | hf
    · grind [callFlow, unencodedOutput, Finding.rule_report, meaningRules]
    · grind [bareOutputs, unencodedOutput, Finding.rule_report, meaningRules]
    · exact ih _ f hf

theorem rule_of_mem_meaningFindings {code : List Char} {f : Finding}
    (h : f ∈ meaningFindings code) : f.rule ∈ meaningRules := by
  simp only [meaningFindings, List.mem_append, Checks.mem_perLine] at h
  rcases h with (h | ⟨l, -, check, hcheck, h⟩) | h
  · exact variableFindings_rules _ f h
  · simp only [List.mem_cons, List.not_mem_nil, or_false] at hcheck
    rcases hcheck with rfl | rfl
    · grind [dataOperations, Finding.rule_report, meaningRules]
    · grind [credentials, Finding.rule_report, meaningRules]
  · exact requestFlow_rules _ _ f h

theorem elsewhere_of_mem_meaningFindings {code : List Char} {f : Finding}
    (h : f ∈ meaningFindings code) : Elsewhere f := by
  have hall : ∀ rule ∈ meaningRules,
      rule ≠ "ampscript-delimiters" ∧ rule ≠ "ampscript-output-syntax" := by decide
  exact hall _ (rule_of_mem_meaningFindings h)

/-- The issues with the regions come first, and all else has nothing to do with delimiters. -/
theorem grammarFindings_split (code : List Char) : ∃ rest,
    grammarFindings code = (Regions.of (lines code)).issues ++ rest ∧
      ∀ f ∈ rest, Elsewhere f := by
  refine ⟨_, by simp only [grammarFindings, List.append_assoc]; rfl, fun f hf => ?_⟩
  simp only [List.mem_append, List.mem_map, Checks.mem_perLine] at hf
  rcases hf with ⟨l, -, check, hcheck, hf⟩ | ⟨b, -, rfl⟩ | ⟨c, -, rfl⟩ | ⟨p, -, rfl⟩
  · simp only [List.mem_cons, List.not_mem_nil, or_false] at hcheck
    rcases hcheck with rfl | rfl
    · grind [unknownFunctions, elsewhere_report]
    · grind [assignedConditions, elsewhere_report, Option.map_eq_some_iff]
  · grind [unclosedBlock, elsewhere_report]
  · grind [strayBlockEnd, elsewhere_report]
  · exact elsewhere_report (by decide) ..

theorem mem_issues_of_mem_checks {code : List Char} {f : Finding} (h : f ∈ checks code) :
    f ∈ (Regions.of (lines code)).issues ∨ Elsewhere f := by
  rcases List.mem_append.mp h with hf | hf
  · obtain ⟨rest, hsplit, hrest⟩ := grammarFindings_split code
    rw [hsplit, List.mem_append] at hf
    exact hf.imp_right (hrest f)
  · exact .inr (elsewhere_of_mem_meaningFindings hf)

/-- What is found in a line concerns no delimiter, or is what the scanner reports on this line, or
asks to close a block here. -/
theorem cases_of_mem_checks {code raw : List Char} {k : Nat} (hraw : (lines code)[k]? = some raw)
    {f : Finding} (h : f ∈ checks code) (hline : f.line = k + 1) :
    Elsewhere f ∨ Reported raw f ∨ Unclosed (lines code) k f := by
  rcases mem_issues_of_mem_checks h with hf | hf
  · obtain ⟨j, hj, ⟨l, hl, hreported⟩ | hunclosed⟩ := cases_of_mem_issues hf
    all_goals obtain rfl : j = k := Nat.succ.inj (hj.symm.trans hline)
    · rw [hraw, Option.some.injEq] at hl
      exact .inr (.inl (hl ▸ hreported))
    · exact .inr (.inr hunclosed)
  · exact .inl hf

end Ampscript

end CampaignCheck

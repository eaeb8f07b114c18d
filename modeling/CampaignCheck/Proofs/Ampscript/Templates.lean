import CampaignCheck.Ampscript.Regions
import CampaignCheck.Proofs.Ampscript.Delimiters
import CampaignCheck.Proofs.Ampscript.ScriptTags
import CampaignCheck.Proofs.Fix.Reports

namespace CampaignCheck

namespace Text

def firstLine (cs : List Char) : List Char := cs.takeWhile (· != '\n')

@[simp]
theorem firstLine_feed (cs : List Char) : firstLine ('\n' :: cs) = [] := rfl

theorem firstLine_cons {c : Char} (hc : c ≠ '\n') (cs : List Char) :
    firstLine (c :: cs) = c :: firstLine cs :=
  List.takeWhile_cons_of_pos (by simpa using hc)

theorem cut_eq_firstLine_cons (cs : List Char) :
    cut '\n' cs = firstLine cs :: (cut '\n' cs).tail := by
  induction cs with
  | nil => rfl
  | cons c cs ih =>
    by_cases hc : c = '\n'
    · rw [hc, cut_sep]
      rfl
    · rw [cut_cons hc ih, firstLine_cons hc]
      rfl

theorem infix_of_mem_cut {cs l : List Char} (h : l ∈ cut '\n' cs) : l <:+: cs := by
  induction cs generalizing l with
  | nil =>
    obtain rfl : l = [] := List.mem_singleton.mp h
    exact List.infix_rfl
  | cons c cs ih =>
    by_cases hc : c = '\n'
    · rw [hc, cut_sep] at h
      rcases List.mem_cons.mp h with rfl | h
      · exact List.nil_infix
      · exact (ih h).trans (List.suffix_cons c cs).isInfix
    · rw [cut_cons hc (cut_eq_firstLine_cons cs)] at h
      rcases List.mem_cons.mp h with rfl | h
      · exact (List.prefix_cons_inj c |>.mpr (List.takeWhile_prefix _)).isInfix
      · exact (ih (List.mem_of_mem_tail h)).trans (List.suffix_cons c cs).isInfix

/-- A text without line feeds starts the first line if it starts the whole. -/
theorem prefix_firstLine_iff {d cs : List Char} (hd : '\n' ∉ d) :
    d <+: firstLine cs ↔ d <+: cs := by
  refine ⟨fun h => h.trans (List.takeWhile_prefix _), ?_⟩
  rintro ⟨rest, rfl⟩
  have hall : ∀ c ∈ d, (c != '\n') = true := by
    intro c hc
    simpa using fun he : c = '\n' => hd (he ▸ hc)
  rw [firstLine, List.takeWhile_append_of_pos hall]
  exact List.prefix_append _ _

theorem firstLine_append {u : List Char} (hu : '\n' ∉ u) (cs : List Char) :
    firstLine (u ++ cs) = u ++ firstLine cs := by
  have hall : ∀ c ∈ u, (c != '\n') = true := by
    intro c hc
    simpa using fun he : c = '\n' => hu (he ▸ hc)
  rw [firstLine, List.takeWhile_append_of_pos hall, firstLine]

end Text

namespace Ampscript

open Text Pattern

def delimiters : List (List Char) := ["%%[".toList, "]%%".toList, "%%=".toList, "=%%".toList]

/-- A piece of a template: plain text, a processing block, or an output block. -/
inductive Piece where
  | plain (cs : List Char)
  | block (body : List Char)
  | output (expression : List Char)
deriving DecidableEq, Repr, Inhabited

namespace Piece

/-- The characters of a piece with its delimiters. -/
def text : Piece → List Char
  | plain cs => cs
  | block body => "%%[".toList ++ body ++ "]%%".toList
  | output expression => "%%=".toList ++ expression ++ "=%%".toList

/-- What is kept of a piece: bodies and expressions, and all line ends. -/
def shown : Piece → List Char
  | plain cs => cs.map fun c => if c = '\n' then '\n' else ' '
  | block body => spaces 3 ++ body ++ spaces 3
  | output expression => spaces 3 ++ expression ++ spaces 3

/-- Plain text holds no delimiter, a body no start and no end of a block, and an expression, which
stands on one line, no end of an output block. -/
def WellFormed : Piece → Prop
  | plain cs => ∀ d ∈ delimiters, ¬d <:+: cs
  | block body => ¬"%%[".toList <:+: body ∧ ¬"]%%".toList <:+: body
  | output expression => '\n' ∉ expression ∧ ¬"=%%".toList <:+: expression

instance (p : Piece) : Decidable p.WellFormed :=
  match p with
  | plain cs => inferInstanceAs (Decidable (∀ d ∈ delimiters, ¬d <:+: cs))
  | block body => inferInstanceAs (Decidable (¬"%%[".toList <:+: body ∧ ¬"]%%".toList <:+: body))
  | output expression =>
    inferInstanceAs (Decidable ('\n' ∉ expression ∧ ¬"=%%".toList <:+: expression))

end Piece

def textOf (ps : List Piece) : List Char := ps.flatMap Piece.text

/-- What is kept of several pieces. -/
def shownOf (ps : List Piece) : List Char := ps.flatMap Piece.shown

/-- In no plain text a delimiter begins, not even one that ends behind it. -/
def Clear : List Piece → Prop
  | [] => True
  | .plain cs :: ps =>
    (∀ j < cs.length, ∀ d ∈ delimiters, ¬d <+: (cs ++ textOf ps).drop j) ∧ Clear ps
  | _ :: ps => Clear ps

/-- The text is put together from the pieces. -/
structure Composed (ps : List Piece) (cs : List Char) : Prop where
  wellFormed : ∀ p ∈ ps, p.WellFormed
  clear : Clear ps
  text_eq : textOf ps = cs

/-- The characters, those kept as they are and the others blank. -/
def keepFrom (keep : List Bool) (cs : List Char) : List Char :=
  keep.zipWith (fun b c => if b then c else ' ') cs

/-- The scanner on a text that has not been cut into lines. `raw` is the line that the text starts
in, at column `i`. -/
def scanText : List Char → Nat → Nat → List Bool → Zone → List Char →
    List Char × Zone × List Finding
  | _, _, _, _, zone, [] => ([], zone, [])
  | raw, number, i, keep, zone, c :: cs =>
    if c = '\n' then
      let (ds, zone, issues) := scanText (firstLine cs) (number + 1) 0 [] zone cs
      ('\n' :: ds, zone, issues)
    else match keep with
      | b :: keep =>
        let (ds, zone, issues) := scanText raw number (i + 1) keep zone cs
        ((if b then c else ' ') :: ds, zone, issues)
      | [] =>
        let r := rule raw number i zone (c :: firstLine cs)
        let (ds, zone, issues) := scanText raw number (i + 1) (r.keep.drop 1) r.zone cs
        ((if r.keep.headD false then c else ' ') :: ds, zone, r.issues ++ issues)

theorem regionChars_nil (raw : List Char) (number i : Nat) (keep : List Bool) (zone : Zone) :
    regionChars raw number i keep zone [] = ([], zone, []) := by
  cases keep <;> rfl

theorem unlines_cons_char (d : Char) (ds : List Char) (ls : List (List Char)) :
    unlines ((d :: ds) :: ls) = d :: unlines (ds :: ls) := by
  cases ls with
  | nil => simp [unlines]
  | cons l ls => rw [unlines_cons_cons, unlines_cons_cons, List.cons_append]

/-- The scanner on what is left of a line and on the lines below it, put together again. -/
def scanLines (raw : List Char) (number i : Nat) (keep : List Bool) (zone : Zone)
    (line : List Char) (below : List (List Char)) : List Char × Zone × List Finding :=
  let first := regionChars raw number i keep zone line
  let rest := regionLines (number + 1) first.2.1 below
  (unlines (first.1 :: rest.1), rest.2.1, first.2.2 ++ rest.2.2)

theorem scanText_eq_scanLines (raw : List Char) (number i : Nat) (keep : List Bool) (zone : Zone)
    (cs : List Char) : scanText raw number i keep zone cs =
      scanLines raw number i keep zone (firstLine cs) (cut '\n' cs).tail := by
  induction cs generalizing raw number i keep zone with
  | nil =>
    show _ = scanLines raw number i keep zone [] []
    simp only [scanText, scanLines, regionChars_nil, regionLines]
    rfl
  | cons c cs ih =>
    by_cases hc : c = '\n'
    · subst hc
      rw [firstLine_feed, cut_sep, List.tail_cons, cut_eq_firstLine_cons]
      simp only [scanText, ih, scanLines, regionChars_nil, regionLines, if_true, unlines_cons_cons,
        List.nil_append]
    · rw [firstLine_cons hc, cut_cons hc (cut_eq_firstLine_cons cs), List.tail_cons]
      cases keep with
      | cons b keep =>
        simp only [scanText, hc, if_false, ih, scanLines, regionChars, unlines_cons_char]
      | nil =>
        simp only [scanText, hc, if_false, ih, scanLines, regionChars, unlines_cons_char,
          List.append_assoc]

theorem scanText_kept {raw u : List Char} {number i : Nat} {keep : List Bool} {zone : Zone}
    (hu : '\n' ∉ u) (hkeep : keep.length = u.length) (cs : List Char) :
    let t := scanText raw number (i + u.length) [] zone cs
    scanText raw number i keep zone (u ++ cs) = (keepFrom keep u ++ t.1, t.2) := by
  induction u generalizing i keep with
  | nil =>
    obtain rfl := List.length_eq_zero_iff.mp hkeep
    rfl
  | cons c u ih =>
    obtain ⟨b, keep, rfl⟩ := List.exists_cons_of_length_eq_add_one hkeep
    rw [List.mem_cons, not_or] at hu
    have hnext := @ih (i + 1) keep hu.2 (Nat.succ.inj hkeep)
    have hshift : i + 1 + u.length = i + (c :: u).length := by
      rw [List.length_cons]
      omega
    rw [hshift] at hnext
    simp only [List.cons_append, scanText, Ne.symm hu.1, if_false, hnext, keepFrom,
      List.zipWith_cons_cons]

/-- What a ruling decides about the characters that it covers. -/
theorem scanText_ruled {raw u cs : List Char} {number i : Nat} {zone : Zone} {r : Ruling}
    (hr : rule raw number i zone (u ++ firstLine cs) = r) (hu : '\n' ∉ u) (hne : u ≠ [])
    (hkeep : r.keep.length = u.length) :
    let t := scanText raw number (i + u.length) [] r.zone cs
    scanText raw number i [] zone (u ++ cs) =
      (keepFrom r.keep u ++ t.1, t.2.1, r.issues ++ t.2.2) := by
  obtain ⟨c, u, rfl⟩ := List.exists_cons_of_ne_nil hne
  obtain ⟨b, keep, hcons⟩ := List.exists_cons_of_length_eq_add_one hkeep
  rw [List.mem_cons, not_or] at hu
  have hrest : keep.length = u.length := by
    rw [hcons] at hkeep
    exact Nat.succ.inj hkeep
  have hnext := @scanText_kept raw u number (i + 1) keep r.zone hu.2 hrest cs
  have hshift : i + 1 + u.length = i + (c :: u).length := by
    rw [List.length_cons]
    omega
  rw [hshift] at hnext
  rw [List.cons_append, ← firstLine_append hu.2] at hr
  simp only [List.cons_append, scanText, Ne.symm hu.1, if_false, hr, hcons, List.drop_one,
    List.tail_cons, List.headD_cons, hnext, keepFrom, List.zipWith_cons_cons]

theorem scanText_eq_regionLines (number : Nat) (zone : Zone) (cs : List Char) :
    let t := regionLines number zone (cut '\n' cs)
    scanText (firstLine cs) number 0 [] zone cs = (unlines t.1, t.2) := by
  rw [scanText_eq_scanLines, cut_eq_firstLine_cons, List.tail_cons]
  rfl

/-- What is kept of a text that the scanner has nothing to say about, when it reads it from inside a
processing block or from outside, and ends outside. -/
inductive Reads : Bool → List Char → List Char → Prop
  | done : Reads false [] []
  | feed {inside : Bool} {cs ds : List Char} (h : Reads inside cs ds) :
      Reads inside ('\n' :: cs) ('\n' :: ds)
  | plain {c : Char} {cs ds : List Char} (hc : c ≠ '\n')
      (hclear : ∀ d ∈ delimiters, ¬d <+: c :: cs) (h : Reads false cs ds) :
      Reads false (c :: cs) (' ' :: ds)
  | start {cs ds : List Char} (h : Reads true cs ds) :
      Reads false ("%%[".toList ++ cs) (spaces 3 ++ ds)
  | body {c : Char} {cs ds : List Char} (hc : c ≠ '\n') (hstart : ¬"%%[".toList <+: c :: cs)
      (hend : ¬"]%%".toList <+: c :: cs) (h : Reads true cs ds) : Reads true (c :: cs) (c :: ds)
  | close {cs ds : List Char} (h : Reads false cs ds) :
      Reads true ("]%%".toList ++ cs) (spaces 3 ++ ds)
  | output {e cs ds : List Char} (hfeed : '\n' ∉ e) (hend : ¬"=%%".toList <:+: e)
      (h : Reads false cs ds) :
      Reads false ("%%=".toList ++ e ++ "=%%".toList ++ cs) (spaces 3 ++ e ++ spaces 3 ++ ds)

/-- The line and the lines below it have no start tag of a script element. -/
def Untagged (raw cs : List Char) : Prop :=
  ∀ l ∈ raw :: (cut '\n' cs).tail, ∀ j, scriptOpen.matchAt? l j = none

theorem Untagged.below {raw cs : List Char} (h : Untagged raw ('\n' :: cs)) :
    Untagged (firstLine cs) cs := by
  intro l hl
  refine h l (List.mem_cons_of_mem raw ?_)
  rwa [cut_sep, List.tail_cons, cut_eq_firstLine_cons]

theorem Untagged.behind {raw u cs : List Char} (h : Untagged raw (u ++ cs)) (hu : '\n' ∉ u) :
    Untagged raw cs := by
  induction u with
  | nil => exact h
  | cons c u ih =>
    rw [List.mem_cons, not_or] at hu
    refine ih (fun l hl => h l ?_) hu.2
    rwa [List.cons_append, cut_cons (Ne.symm hu.1) (cut_eq_firstLine_cons _), List.tail_cons]

section Rules

variable {raw : List Char} {number i opened : Nat}

theorem rule_plain {cs : List Char} (h : ∀ d ∈ delimiters, ¬d <+: cs)
    (htag : scriptOpen.matchAt? raw i = none) :
    rule raw number i .outside cs = ⟨dropping 1, .outside, []⟩ := by
  simp only [delimiters, List.forall_mem_cons, List.not_mem_nil, false_implies, implies_true,
    and_true] at h
  obtain ⟨hstart, hend, houtput, hclose⟩ := h
  simp only [rule, startsWith_iff, hstart, hend, houtput, hclose, if_false, htag]

theorem rule_start (cs : List Char) :
    rule raw number i .outside ("%%[".toList ++ cs) = ⟨dropping 3, .block number, []⟩ := by
  simp only [rule, startsWith_iff, List.prefix_append, if_true]

theorem rule_body {cs : List Char} (hstart : ¬"%%[".toList <+: cs) (hend : ¬"]%%".toList <+: cs) :
    rule raw number i (.block opened) cs = ⟨keeping 1, .block opened, []⟩ := by
  simp only [rule, startsWith_iff, hstart, hend, if_false]

theorem rule_close (cs : List Char) :
    rule raw number i (.block opened) ("]%%".toList ++ cs) = ⟨dropping 3, .outside, []⟩ := by
  simp only [rule, startsWith_iff, List.prefix_append, if_true]

/-- A sign of three characters does not begin at the end of a text if what comes behind starts with
none of its later characters. -/
theorem not_prefix_append {a b d s c : Char} {u rest : List Char} (hb : b ≠ s) (hd : d ≠ s)
    (h : ¬[a, b, d] <+: c :: u) : ¬[a, b, d] <+: c :: (u ++ s :: rest) := by
  rintro ⟨more, hmore⟩
  match u with
  | [] =>
    obtain ⟨-, hs, -⟩ : a = c ∧ b = s ∧ _ := by simpa using hmore
    exact hb hs
  | [e] =>
    obtain ⟨-, -, hs, -⟩ : a = c ∧ b = e ∧ d = s ∧ _ := by simpa using hmore
    exact hd hs
  | e :: f :: u =>
    obtain ⟨rfl, rfl, rfl, -⟩ : a = c ∧ b = e ∧ d = f ∧ _ := by simpa using hmore
    exact h ⟨u, rfl⟩

/-- The end of an output block is found behind an expression that holds none. -/
theorem find?_end {e : List Char} (h : ¬"=%%".toList <:+: e) (cs : List Char) :
    find? "=%%".toList (e ++ "=%%".toList ++ cs) = some e.length := by
  induction e with
  | nil => rfl
  | cons c e ih =>
    rw [List.infix_cons_iff, not_or] at h
    have hnot : "=%%".toList.isPrefixOf (c :: (e ++ "=%%".toList ++ cs)) = false := by
      rw [Bool.eq_false_iff, ne_eq, List.isPrefixOf_iff_prefix, List.append_assoc]
      exact not_prefix_append (by decide) (by decide) h.1
    simp only [List.cons_append, Text.find?, hnot, ih h.2, List.length_cons]
    rfl

/-- Up to the first end of an output block there is none. -/
theorem exists_of_find?_end {cs : List Char} {n : Nat}
    (h : find? "=%%".toList cs = some n) :
    ∃ e rest, cs = e ++ "=%%".toList ++ rest ∧ ¬"=%%".toList <:+: e := by
  induction cs generalizing n with
  | nil => cases h
  | cons c cs ih =>
    rw [Text.find?] at h
    split_ifs at h with hhere
    · obtain ⟨rest, hrest⟩ := List.isPrefixOf_iff_prefix.mp hhere
      exact ⟨[], rest, hrest.symm, by decide⟩
    · obtain ⟨k, hk, -⟩ := Option.map_eq_some_iff.mp h
      obtain ⟨e, rest, rfl, hend⟩ := ih hk
      refine ⟨c :: e, rest, rfl, ?_⟩
      rw [List.infix_cons_iff, not_or]
      refine ⟨fun hfirst => hhere (List.isPrefixOf_iff_prefix.mpr (hfirst.trans ?_)), hend⟩
      exact ⟨"=%%".toList ++ rest, by simp⟩

theorem rule_output {e : List Char} (h : ¬"=%%".toList <:+: e) (cs : List Char) :
    rule raw number i .outside ("%%=".toList ++ e ++ "=%%".toList ++ cs) =
      ⟨dropping 3 ++ keeping e.length ++ dropping 3, .outside, []⟩ := by
  have hnot : ¬"%%[".toList <+: "%%=".toList ++ (e ++ "=%%".toList ++ cs) := by
    rintro ⟨rest, hrest⟩
    simp at hrest
  rw [List.append_assoc, List.append_assoc, ← List.append_assoc e]
  have hdrop : ("%%=".toList ++ (e ++ "=%%".toList ++ cs)).drop 3 = e ++ "=%%".toList ++ cs := rfl
  simp only [rule, startsWith_iff, hnot, List.prefix_append, if_true, if_false, hdrop, find?_end h]

end Rules

theorem keepFrom_keeping {u : List Char} {n : Nat} (h : n = u.length) :
    keepFrom (keeping n) u = u := by
  subst h
  induction u with
  | nil => rfl
  | cons c u ih => simpa [keepFrom, keeping, List.replicate_succ] using ih

theorem keepFrom_append {keep keep' : List Bool} {u v : List Char} (h : keep.length = u.length) :
    keepFrom (keep ++ keep') (u ++ v) = keepFrom keep u ++ keepFrom keep' v :=
  List.zipWith_append h

theorem not_feed_mem_delimiter : ∀ d ∈ delimiters, '\n' ∉ d := by
  decide

theorem prefix_line_iff {d : List Char} (hd : d ∈ delimiters) {c : Char} (hc : c ≠ '\n')
    (cs : List Char) : d <+: c :: firstLine cs ↔ d <+: c :: cs := by
  rw [← firstLine_cons hc, prefix_firstLine_iff (not_feed_mem_delimiter d hd)]

section Steps

variable {raw cs : List Char} {number i opened : Nat}

theorem scanText_feed (keep : List Bool) (zone : Zone) :
    let t := scanText (firstLine cs) (number + 1) 0 [] zone cs
    scanText raw number i keep zone ('\n' :: cs) = ('\n' :: t.1, t.2) := by
  simp only [scanText, if_true]

theorem scanText_plain {c : Char} (hc : c ≠ '\n') (h : ∀ d ∈ delimiters, ¬d <+: c :: cs)
    (htag : scriptOpen.matchAt? raw i = none) :
    let t := scanText raw number (i + 1) [] .outside cs
    scanText raw number i [] .outside (c :: cs) = (' ' :: t.1, t.2) := by
  have hrule : rule raw number i .outside ([c] ++ firstLine cs) = ⟨dropping 1, .outside, []⟩ :=
    rule_plain (fun d hd => (prefix_line_iff hd hc cs).not.mpr (h d hd)) htag
  exact scanText_ruled hrule (by simpa using Ne.symm hc) (by simp) rfl

theorem scanText_start :
    let t := scanText raw number (i + 3) [] (.block number) cs
    scanText raw number i [] .outside ("%%[".toList ++ cs) = (spaces 3 ++ t.1, t.2) :=
  scanText_ruled (rule_start _) (by decide) (by decide) rfl

theorem scanText_body {c : Char} (hc : c ≠ '\n') (hstart : ¬"%%[".toList <+: c :: cs)
    (hend : ¬"]%%".toList <+: c :: cs) :
    let t := scanText raw number (i + 1) [] (.block opened) cs
    scanText raw number i [] (.block opened) (c :: cs) = (c :: t.1, t.2) := by
  have hrule : rule raw number i (.block opened) ([c] ++ firstLine cs) =
      ⟨keeping 1, .block opened, []⟩ :=
    rule_body ((prefix_line_iff (by decide) hc cs).not.mpr hstart)
      ((prefix_line_iff (by decide) hc cs).not.mpr hend)
  exact scanText_ruled hrule (by simpa using Ne.symm hc) (by simp) rfl

theorem scanText_close :
    let t := scanText raw number (i + 3) [] .outside cs
    scanText raw number i [] (.block opened) ("]%%".toList ++ cs) = (spaces 3 ++ t.1, t.2) :=
  scanText_ruled (rule_close _) (by decide) (by decide) rfl

theorem scanText_output {e : List Char} (hfeed : '\n' ∉ e) (hend : ¬"=%%".toList <:+: e) :
    let t := scanText raw number (i + (3 + e.length + 3)) [] .outside cs
    scanText raw number i [] .outside ("%%=".toList ++ e ++ "=%%".toList ++ cs) =
      (spaces 3 ++ e ++ spaces 3 ++ t.1, t.2) := by
  have hkeep : (dropping 3 ++ keeping e.length ++ dropping 3).length =
      ("%%=".toList ++ e ++ "=%%".toList).length := by
    simp [dropping, keeping]
  have hkept : keepFrom (dropping 3 ++ keeping e.length ++ dropping 3)
      ("%%=".toList ++ e ++ "=%%".toList) = spaces 3 ++ e ++ spaces 3 := by
    rw [keepFrom_append (by simp [dropping, keeping]), keepFrom_append (by rfl),
      keepFrom_keeping rfl]
    rfl
  have hu : '\n' ∉ "%%=".toList ++ e ++ "=%%".toList := by
    simpa using hfeed
  have hstep := @scanText_ruled raw _ cs number i _ _ (rule_output hend (firstLine cs)) hu
    (by simp) hkeep
  have hlength : ("%%=".toList ++ e ++ "=%%".toList).length = 3 + e.length + 3 := by
    rw [List.length_append, List.length_append]
    rfl
  rw [hkept, hlength] at hstep
  exact hstep

/-- What a ruling reports is reported. -/
theorem issues_rule_of_scanText {c : Char} {zone : Zone} (hc : c ≠ '\n')
    (h : (scanText raw number i [] zone (c :: cs)).2.2 = []) :
    (rule raw number i zone (c :: firstLine cs)).issues = [] := by
  simp only [scanText, hc, if_false, List.append_eq_nil_iff] at h
  exact h.1

end Steps

/-- The zone is that of a processing block, or of no block at all. -/
def Zone.Stands : Bool → Zone → Prop
  | true, zone => ∃ opened, zone = .block opened
  | false, zone => zone = .outside

/-- The scanner follows a reading without a complaint. -/
theorem Reads.scanText_eq {inside : Bool} {cs ds : List Char} (h : Reads inside cs ds)
    {raw : List Char} {number i : Nat} {zone : Zone} (hzone : zone.Stands inside)
    (htag : Untagged raw cs) : scanText raw number i [] zone cs = (ds, .outside, []) := by
  induction h generalizing raw number i zone with
  | done =>
    obtain rfl := hzone
    rfl
  | feed h ih => rw [scanText_feed, ih hzone htag.below]
  | @plain c cs ds hc hclear h ih =>
    obtain rfl := hzone
    have hnext : Untagged raw cs := htag.behind (u := [c]) (by simpa using Ne.symm hc)
    rw [scanText_plain hc hclear (htag raw List.mem_cons_self i), ih rfl hnext]
  | start h ih =>
    obtain rfl := hzone
    rw [scanText_start, ih ⟨number, rfl⟩ (htag.behind (by decide))]
  | @body c cs ds hc hstart hend h ih =>
    obtain ⟨opened, rfl⟩ := hzone
    have hnext : Untagged raw cs := htag.behind (u := [c]) (by simpa using Ne.symm hc)
    rw [scanText_body hc hstart hend, ih ⟨opened, rfl⟩ hnext]
  | close h ih =>
    obtain ⟨opened, rfl⟩ := hzone
    rw [scanText_close, ih rfl (htag.behind (by decide))]
  | @output e cs ds hfeed hend h ih =>
    obtain rfl := hzone
    have hu : '\n' ∉ "%%=".toList ++ e ++ "=%%".toList := by
      simpa using hfeed
    rw [scanText_output hfeed hend, ih rfl (htag.behind hu)]

/-- An output block whose end is found in its line. -/
theorem exists_of_find?_line {cs : List Char} {n : Nat}
    (h : find? "=%%".toList (firstLine cs) = some n) :
    ∃ e rest, cs = e ++ "=%%".toList ++ rest ∧ '\n' ∉ e ∧ ¬"=%%".toList <:+: e := by
  obtain ⟨e, rest, hline, hend⟩ := exists_of_find?_end h
  have hfeed : '\n' ∉ e := by
    intro hmem
    have hline' : '\n' ∈ firstLine cs := by simp [hline, hmem]
    simpa using List.mem_takeWhile_imp hline'
  obtain ⟨more, hmore⟩ : e ++ "=%%".toList <+: cs :=
    (show _ <+: firstLine cs from ⟨rest, hline.symm⟩).trans (List.takeWhile_prefix _)
  exact ⟨e, more, hmore.symm, hfeed, hend⟩

section Inversion

variable {raw cs : List Char} {number i opened : Nat} {c : Char}

/-- Where the scanner has nothing to say inside a block, the block ends or goes on. -/
theorem cases_of_inside (hc : c ≠ '\n')
    (h : (rule raw number i (.block opened) (c :: firstLine cs)).issues = []) :
    (∃ rest, c :: cs = "]%%".toList ++ rest) ∨
      ¬"%%[".toList <+: c :: cs ∧ ¬"]%%".toList <+: c :: cs := by
  have hstart := prefix_line_iff (d := "%%[".toList) (by decide) hc cs
  have hclose := prefix_line_iff (d := "]%%".toList) (by decide) hc cs
  simp only [rule, startsWith_iff, hstart, hclose] at h
  by_cases hclose' : "]%%".toList <+: c :: cs
  · obtain ⟨rest, hrest⟩ := hclose'
    exact .inl ⟨rest, hrest.symm⟩
  by_cases hstart' : "%%[".toList <+: c :: cs
  · rw [if_neg hclose', if_pos hstart'] at h
    cases h
  · exact .inr ⟨hstart', hclose'⟩

/-- Where the scanner has nothing to say outside of blocks, a block starts, or an output block that
is closed, or there is no delimiter. -/
theorem cases_of_outside (hc : c ≠ '\n')
    (h : (rule raw number i .outside (c :: firstLine cs)).issues = []) :
    (∃ rest, c :: cs = "%%[".toList ++ rest) ∨
      (∃ e rest, c :: cs = "%%=".toList ++ e ++ "=%%".toList ++ rest ∧ '\n' ∉ e ∧
        ¬"=%%".toList <:+: e) ∨
      ∀ d ∈ delimiters, ¬d <+: c :: cs := by
  have hline (d : List Char) (hd : d ∈ delimiters) := prefix_line_iff hd hc cs
  simp only [delimiters, List.forall_mem_cons, List.not_mem_nil, false_implies, implies_true,
    and_true] at hline ⊢
  obtain ⟨hstart, hclose, houtput, hsign⟩ := hline
  simp only [rule, startsWith_iff, hstart, hclose, houtput, hsign] at h
  by_cases hstart' : "%%[".toList <+: c :: cs
  · obtain ⟨rest, hrest⟩ := hstart'
    exact .inl ⟨rest, hrest.symm⟩
  by_cases houtput' : "%%=".toList <+: c :: cs
  · obtain ⟨rest, hrest⟩ := houtput'
    rw [if_neg hstart', if_pos ⟨rest, hrest⟩, ← firstLine_cons hc, ← hrest,
      firstLine_append (by decide)] at h
    split at h
    · next n hn =>
      obtain ⟨e, more, rfl, hfeed, hend⟩ := exists_of_find?_line hn
      refine .inr (.inl ⟨e, more, ?_, hfeed, hend⟩)
      rw [← hrest, List.append_assoc, List.append_assoc, List.append_assoc]
    · cases h
  rw [if_neg hstart', if_neg houtput'] at h
  by_cases hclose' : "]%%".toList <+: c :: cs
  · rw [if_pos hclose'] at h
    cases h
  by_cases hsign' : "=%%".toList <+: c :: cs
  · rw [if_neg hclose', if_pos hsign'] at h
    cases h
  exact .inr (.inr ⟨hstart', hclose', houtput', hsign'⟩)

end Inversion

/-- What the scanner says nothing about can be read without a complaint. -/
theorem reads_of_scanText {inside : Bool} {raw cs : List Char} {number i : Nat} {zone : Zone}
    (hzone : zone.Stands inside) (htag : Untagged raw cs)
    (hissues : (scanText raw number i [] zone cs).2.2 = [])
    (hend : (scanText raw number i [] zone cs).2.1.isBlock = false) :
    Reads inside cs (scanText raw number i [] zone cs).1 := by
  induction hn : cs.length using Nat.strong_induction_on
    generalizing inside raw cs number i zone with
  | _ n ih =>
  match cs with
  | [] =>
    cases inside with
    | false => exact .done
    | true =>
      obtain ⟨opened, rfl⟩ := hzone
      cases hend
  | c :: cs =>
    have hlength := hn
    rw [List.length_cons] at hlength
    by_cases hc : c = '\n'
    · subst hc
      rw [scanText_feed] at hissues hend ⊢
      exact .feed (ih _ (by omega) hzone htag.below hissues hend rfl)
    have hrule := issues_rule_of_scanText hc hissues
    have hone : '\n' ∉ [c] := by simpa using Ne.symm hc
    cases inside with
    | true =>
      obtain ⟨opened, rfl⟩ := hzone
      rcases cases_of_inside hc hrule with ⟨rest, hrest⟩ | ⟨hstart, hclose⟩
      · have hless : rest.length < n := by
          rw [← hn, hrest, List.length_append]
          exact Nat.lt_add_of_pos_left (by decide)
        rw [hrest] at htag hissues hend ⊢
        rw [scanText_close] at hissues hend ⊢
        exact .close (ih _ hless rfl (htag.behind (by decide)) hissues hend rfl)
      · rw [scanText_body hc hstart hclose] at hissues hend ⊢
        exact .body hc hstart hclose
          (ih _ (by omega) ⟨opened, rfl⟩ (htag.behind (u := [c]) hone) hissues hend rfl)
    | false =>
      obtain rfl := hzone
      rcases cases_of_outside hc hrule with ⟨rest, hrest⟩ | ⟨e, rest, hrest, hfeed, hsign⟩ | hclear
      · have hless : rest.length < n := by
          rw [← hn, hrest, List.length_append]
          exact Nat.lt_add_of_pos_left (by decide)
        rw [hrest] at htag hissues hend ⊢
        rw [scanText_start] at hissues hend ⊢
        exact .start (ih _ hless ⟨number, rfl⟩ (htag.behind (by decide)) hissues hend rfl)
      · have hless : rest.length < n := by
          rw [← hn, hrest, List.length_append]
          refine Nat.lt_add_of_pos_left ?_
          simp
        have hu : '\n' ∉ "%%=".toList ++ e ++ "=%%".toList := by
          simpa using hfeed
        rw [hrest] at htag hissues hend ⊢
        rw [scanText_output hfeed hsign] at hissues hend ⊢
        exact .output hfeed hsign (ih _ hless rfl (htag.behind hu) hissues hend rfl)
      · rw [scanText_plain hc hclear (htag raw List.mem_cons_self i)] at hissues hend ⊢
        exact .plain hc hclear
          (ih _ (by omega) rfl (htag.behind (u := [c]) hone) hissues hend rfl)

section Pieces

variable {rest ds : List Char}

theorem reads_plain {cs : List Char} (h : Reads false rest ds)
    (hclear : ∀ j < cs.length, ∀ d ∈ delimiters, ¬d <+: (cs ++ rest).drop j) :
    Reads false (cs ++ rest) ((Piece.plain cs).shown ++ ds) := by
  induction cs with
  | nil => exact h
  | cons c cs ih =>
    have hnext := ih fun j hj d hd => hclear (j + 1) (Nat.succ_lt_succ hj) d hd
    by_cases hc : c = '\n'
    · subst hc
      exact .feed hnext
    · have hshown : (Piece.plain (c :: cs)).shown = ' ' :: (Piece.plain cs).shown := by
        simp [Piece.shown, hc]
      rw [hshown]
      exact .plain hc (hclear 0 (Nat.succ_pos _)) hnext

theorem reads_body {body : List Char} (h : Reads false rest ds)
    (hbody : (Piece.block body).WellFormed) :
    Reads true (body ++ ("]%%".toList ++ rest)) (body ++ (spaces 3 ++ ds)) := by
  induction body with
  | nil => exact .close h
  | cons c body ih =>
    obtain ⟨hstart, hclose⟩ := hbody
    rw [List.infix_cons_iff, not_or] at hstart hclose
    have hnext := ih ⟨hstart.2, hclose.2⟩
    by_cases hc : c = '\n'
    · subst hc
      exact .feed hnext
    · exact .body hc (not_prefix_append (by decide) (by decide) hstart.1)
        (not_prefix_append (by decide) (by decide) hclose.1) hnext

/-- Well formed pieces in which no delimiter begins in plain text are read without a complaint. -/
theorem reads_textOf {ps : List Piece} (h : ∀ p ∈ ps, p.WellFormed) (hclear : Clear ps) :
    Reads false (textOf ps) (shownOf ps) := by
  induction ps with
  | nil => exact .done
  | cons p ps ih =>
    rw [List.forall_mem_cons] at h
    rw [textOf, shownOf, List.flatMap_cons, List.flatMap_cons]
    cases p with
    | plain cs => exact reads_plain (ih h.2 hclear.2) hclear.1
    | block body =>
      have hbody := Reads.start (reads_body (ih h.2 hclear) h.1)
      simpa [Piece.text, Piece.shown, textOf, shownOf] using hbody
    | output e => exact .output h.1.1 h.1.2 (ih h.2 hclear)

/-- What has been read is well formed pieces, behind the rest of a body if it was read from inside a
block. -/
def Explained : Bool → List Char → List Char → Prop
  | false, cs, ds => ∃ ps, Composed ps cs ∧ shownOf ps = ds
  | true, cs, ds => ∃ body rest ps, (Piece.block body).WellFormed ∧ Composed ps rest ∧
      cs = body ++ "]%%".toList ++ rest ∧ ds = body ++ spaces 3 ++ shownOf ps

theorem Composed.cons {p : Piece} {ps : List Piece} (h : Composed ps rest) (hp : p.WellFormed)
    (hplain : ∀ cs, p ≠ .plain cs) : Composed (p :: ps) (p.text ++ rest) := by
  constructor
  case wellFormed => exact List.forall_mem_cons.mpr ⟨hp, h.wellFormed⟩
  case clear =>
    cases p with
    | plain cs => exact absurd rfl (hplain cs)
    | block body => exact h.clear
    | output e => exact h.clear
  case text_eq => rw [textOf, List.flatMap_cons, ← h.text_eq, textOf]

/-- A single character of plain text in front. -/
theorem Composed.char {c : Char} {ps : List Piece} (h : Composed ps rest)
    (hclear : ∀ d ∈ delimiters, ¬d <+: c :: rest) : Composed (.plain [c] :: ps) (c :: rest) := by
  constructor
  case wellFormed =>
    have hlong : ∀ d ∈ delimiters, 1 < d.length := by decide
    refine List.forall_mem_cons.mpr ⟨fun d hd hinfix => ?_, h.wellFormed⟩
    exact absurd hinfix.length_le (Nat.not_le.mpr (hlong d hd))
  case clear =>
    refine ⟨fun j hj d hd => ?_, h.clear⟩
    obtain rfl : j = 0 := by simpa using hj
    rw [h.text_eq]
    exact hclear d hd
  case text_eq => rw [textOf, List.flatMap_cons, ← h.text_eq, textOf]; rfl

/-- One more character in front of a body. -/
theorem Explained.body {c : Char} {cs : List Char} (h : Explained true cs ds)
    (hstart : ¬"%%[".toList <+: c :: cs) (hend : ¬"]%%".toList <+: c :: cs) :
    Explained true (c :: cs) (c :: ds) := by
  obtain ⟨body, rest, ps, hbody, hps, rfl, rfl⟩ := h
  refine ⟨c :: body, rest, ps, ⟨?_, ?_⟩, hps, rfl, rfl⟩
  · rw [List.infix_cons_iff, not_or]
    exact ⟨fun h => hstart (h.trans (by simp)), hbody.1⟩
  · rw [List.infix_cons_iff, not_or]
    exact ⟨fun h => hend (h.trans (by simp)), hbody.2⟩

theorem not_prefix_feed (cs : List Char) : ∀ d ∈ delimiters, ¬d <+: '\n' :: cs := by
  intro d hd hprefix
  have hne : d ≠ [] := by
    rintro rfl
    exact absurd hd (by decide)
  obtain ⟨a, d, rfl⟩ := List.exists_cons_of_ne_nil hne
  obtain ⟨rfl, -⟩ := List.cons_prefix_cons.mp hprefix
  exact not_feed_mem_delimiter _ hd List.mem_cons_self

theorem Reads.explained {inside : Bool} {cs : List Char} (h : Reads inside cs ds) :
    Explained inside cs ds := by
  induction h with
  | done => exact ⟨[], ⟨by simp, trivial, rfl⟩, rfl⟩
  | @feed inside cs ds h ih =>
    cases inside with
    | false =>
      obtain ⟨ps, hps, rfl⟩ := ih
      exact ⟨_, hps.char (not_prefix_feed cs), rfl⟩
    | true => exact ih.body (not_prefix_feed cs _ (by decide)) (not_prefix_feed cs _ (by decide))
  | plain hc hclear h ih =>
    obtain ⟨ps, hps, rfl⟩ := ih
    refine ⟨_, hps.char hclear, ?_⟩
    simp [shownOf, Piece.shown, hc]
  | start h ih =>
    obtain ⟨body, rest, ps, hbody, hps, rfl, rfl⟩ := ih
    have hcomposed := hps.cons hbody nofun
    refine ⟨.block body :: ps, ?_, ?_⟩
    · simpa [Piece.text] using hcomposed
    · simp [shownOf, Piece.shown]
  | body hc hstart hend h ih => exact ih.body hstart hend
  | close h ih =>
    obtain ⟨ps, hps, rfl⟩ := ih
    exact ⟨[], _, ps, by decide, hps, rfl, rfl⟩
  | @output e cs ds hfeed hend h ih =>
    obtain ⟨ps, hps, rfl⟩ := ih
    have hwell : (Piece.output e).WellFormed := ⟨hfeed, hend⟩
    exact ⟨_, hps.cons hwell nofun, rfl⟩

end Pieces

theorem regions_of_isTemplate {ls : List (List Char)} (h : isTemplate ls = true) :
    let t := regionLines 1 .outside ls
    (Regions.of ls).lines = t.1 ∧
      ((Regions.of ls).issues = [] ↔ t.2.2 = [] ∧ t.2.1.isBlock = false) := by
  simp only [Regions.of, h, Bool.not_true, Bool.false_eq_true, if_false]
  cases hzone : (regionLines 1 .outside ls).2.1 <;> simp [Zone.isBlock]

/-- The scanner reports nothing on a text with a delimiter just if it can be read without a
complaint, and keeps what the reading keeps. -/
theorem issues_eq_nil_iff_reads {cs : List Char} (hlines : unlines (lines cs) = cs)
    (htag : scriptOpen.occursIn cs = false) (hdelimiter : delimiter.occursIn cs = true) :
    ((Regions.of (lines cs)).issues = [] →
        Reads false cs (unlines (Regions.of (lines cs)).lines)) ∧
      ∀ ds, Reads false cs ds →
        (Regions.of (lines cs)).issues = [] ∧ unlines (Regions.of (lines cs)).lines = ds := by
  have hcut : lines cs = cut '\n' cs := by
    have hback := cut_unlines (lines_ne_nil cs) fun l => not_mem_of_mem_lines
    rw [← hback, hlines]
  have htemplate : isTemplate (lines cs) = true := by
    simp only [isTemplate, hlines, hdelimiter, Bool.true_or]
  have huntagged : Untagged (firstLine cs) cs := by
    intro l hl
    rw [← cut_eq_firstLine_cons] at hl
    exact matchAt?_scriptOpen_eq_none htag (infix_of_mem_cut hl)
  obtain ⟨hkept, hissues⟩ := regions_of_isTemplate htemplate
  rw [hkept, hissues, hcut]
  have hscan := scanText_eq_regionLines 1 .outside cs
  constructor
  · rintro ⟨hnone, hend⟩
    have hreads := @reads_of_scanText false (firstLine cs) cs 1 0 .outside rfl huntagged
    rw [hscan] at hreads
    exact hreads hnone hend
  · intro ds hreads
    have heq := @Reads.scanText_eq false cs ds hreads (firstLine cs) 1 0 .outside rfl huntagged
    rw [hscan, Prod.mk.injEq] at heq
    rw [heq.2]
    exact ⟨⟨rfl, rfl⟩, heq.1⟩

/-- A text without start tags of script elements and with a delimiter passes without a complaint
just if it is put together from well formed pieces, such that no delimiter begins in plain text.
Then bodies and expressions are kept, and all else is blank. -/
theorem issues_eq_nil_iff_composed {cs : List Char}
    (hends : ∀ raw ∈ cut '\n' cs, raw.getLast? ≠ some '\r')
    (htag : scriptOpen.occursIn cs = false) (hdelimiter : delimiter.occursIn cs = true) :
    ((Regions.of (lines cs)).issues = [] ↔ ∃ ps, Composed ps cs) ∧
      ∀ ps, Composed ps cs → unlines (Regions.of (lines cs)).lines = shownOf ps := by
  obtain ⟨hreads, hclean⟩ :=
    issues_eq_nil_iff_reads ((unlines_lines_eq_iff cs).mpr hends) htag hdelimiter
  have hcomposed (ps : List Piece) (h : Composed ps cs) : Reads false cs (shownOf ps) := by
    have hps := reads_textOf h.wellFormed h.clear
    rwa [h.text_eq] at hps
  refine ⟨⟨fun h => ?_, ?_⟩, fun ps h => (hclean _ (hcomposed ps h)).2⟩
  · obtain ⟨ps, hps, -⟩ := (hreads h).explained
    exact ⟨ps, hps⟩
  · rintro ⟨ps, hps⟩
    exact (hclean _ (hcomposed ps hps)).1

theorem issues_eq_nil_iff_composed_greeting :
    (∀ raw ∈ cut '\n' "Hi\n%%=v(@n)=%%!".toList, raw.getLast? ≠ some '\r') ∧
      scriptOpen.occursIn "Hi\n%%=v(@n)=%%!".toList = false ∧
      delimiter.occursIn "Hi\n%%=v(@n)=%%!".toList = true ∧
      ((Regions.of (lines "Hi\n%%=v(@n)=%%!".toList)).issues = [] ↔
        ∃ ps, Composed ps "Hi\n%%=v(@n)=%%!".toList) ∧
      ∀ ps, Composed ps "Hi\n%%=v(@n)=%%!".toList →
        unlines (Regions.of (lines "Hi\n%%=v(@n)=%%!".toList)).lines = shownOf ps :=
  have hends : ∀ raw ∈ cut '\n' "Hi\n%%=v(@n)=%%!".toList, raw.getLast? ≠ some '\r' := by
    decide
  have htag : scriptOpen.occursIn "Hi\n%%=v(@n)=%%!".toList = false := by decide +kernel
  have hdelimiter : delimiter.occursIn "Hi\n%%=v(@n)=%%!".toList = true := by decide +kernel
  ⟨hends, htag, hdelimiter, issues_eq_nil_iff_composed hends htag hdelimiter⟩

/-- An output block right behind an equals sign is reported, although each piece is well formed. -/
theorem issues_behind_equals :
    (∀ p ∈ [Piece.plain "href=".toList, .output "v(@url)".toList], p.WellFormed) ∧
      textOf [.plain "href=".toList, .output "v(@url)".toList] = "href=%%=v(@url)=%%".toList ∧
      scriptOpen.occursIn "href=%%=v(@url)=%%".toList = false ∧
      delimiter.occursIn "href=%%=v(@url)=%%".toList = true ∧
      (Regions.of (lines "href=%%=v(@url)=%%".toList)).issues ≠ [] := by
  decide +kernel

end Ampscript

end CampaignCheck

import CampaignCheck.Ampscript.Regions
import CampaignCheck.Proofs.Ampscript.ScriptTags
import CampaignCheck.Proofs.Ampscript.Templates

namespace CampaignCheck.Ampscript

open Text Pattern

theorem moves_scriptClose {k : Nat → Nat} {cs : List Char} (hk : Pliant k cs) :
    Moves scriptClose k cs := by
  have hmarks : ∀ set ∈ [CharSet.char '<', .char '/'], Rigid set := by
    simp [Rigid, CharSet.mem]
  have hmarks := fun set hset => still_of_pliant hk (hmarks set hset)
  have hword := fun set hset => still_of_pliant hk (rigid_letters "script" (by decide) set hset)
  have hclose : Still k cs (.char '>') := still_of_pliant hk (by simp [Rigid, CharSet.mem])
  have hlast := places_one hclose (places_some k)
  refine .of_simple simple_scriptClose ?_ ?_ ?_
  · exact places_inOrder hmarks (places_inOrder hword (places_many cs .blank hlast
      (skips_one hclose some)))
  · exact skips_inOrder hmarks (by simp) _
  · cases simple_scriptClose with
    | seq hp _ => exact full_seq_one hp _ cs

section Delimiters

variable {k : Nat → Nat} {cs : List Char} (hk : Elastic k cs)
include hk

theorem startsWith_stretch (hfirst : k 0 = 0) {d : List Char} (hd : d ∈ delimiters) :
    startsWith (stretch k cs) d = startsWith cs d := by
  refine isPrefixOf_stretch_of_ne fun j hj hrepeated => ?_
  have hinner : ∀ d ∈ delimiters, ∀ j, 0 < j → j + 1 < d.length → d[j]? ≠ some '=' := by
    have hsecond : ∀ d ∈ delimiters, d.length = 3 ∧ d[1]? ≠ some '=' := by decide
    intro d hd j hpos hlt
    obtain ⟨hlength, hne⟩ := hsecond d hd
    obtain rfl : j = 1 := by omega
    exact hne
  rw [hk j hrepeated]
  refine hinner d hd j (Nat.pos_of_ne_zero ?_) hj
  rintro rfl
  omega

omit hk in
/-- In a run of equals signs only the last one can start the end of an output block. -/
theorem find?_end_replicate {rest : List Char}
    (h : "=%%".toList.isPrefixOf ('=' :: rest) = false) (m : Nat) :
    find? "=%%".toList (List.replicate (m + 1) '=' ++ rest) =
      (find? "=%%".toList rest).map (m + 1 + ·) := by
  induction m with
  | zero =>
    have hone : List.replicate 1 '=' ++ rest = '=' :: rest := rfl
    rw [hone, Text.find?, h]
    simp [Nat.add_comm]
  | succ m ih =>
    have hnot : "=%%".toList.isPrefixOf ('=' :: (List.replicate (m + 1) '=' ++ rest)) = false := by
      simp [List.isPrefixOf, List.replicate_succ]
    rw [List.replicate_succ, List.cons_append, Text.find?, hnot, ih]
    simp only [Bool.false_eq_true, if_false, Option.map_map]
    congr 1
    funext n
    simp only [Function.comp]
    omega

/-- The end of an output block moves if its own equals sign is not repeated. -/
theorem find?_end_stretch (hend : ∀ n, find? "=%%".toList cs = some n → k n = 0) :
    find? "=%%".toList (stretch k cs) = (find? "=%%".toList cs).map (placeOf k) := by
  induction cs generalizing k with
  | nil => rfl
  | cons c cs ih =>
    have htail : Elastic (fun j => k (j + 1)) cs := fun j hj => hk (j + 1) hj
    have hplaces (o : Option Nat) : (o.map (· + 1)).map (placeOf k) =
        (o.map (placeOf fun j => k (j + 1))).map (k 0 + 1 + ·) := by
      cases o <;> simp [placeOf_succ]
    by_cases hfirst : k 0 = 0
    · have hsame := startsWith_stretch hk hfirst (d := "=%%".toList) (by decide)
      rw [startsWith, startsWith, stretch_cons_of_once hfirst] at hsame
      rw [stretch_cons_of_once hfirst, Text.find?, Text.find?, hsame]
      rw [Text.find?] at hend
      split_ifs at hend ⊢ with hhere
      · rfl
      · rw [ih htail fun n hn => hend (n + 1) (by rw [hn]; rfl), hplaces, hfirst]
        simp only [Nat.add_comm]
    · obtain rfl : c = '=' := by simpa using hk 0 (Nat.pos_of_ne_zero hfirst)
      have hnot : "=%%".toList.isPrefixOf ('=' :: cs) = false := by
        by_contra hhere
        rw [Bool.not_eq_false] at hhere
        exact hfirst (hend 0 (by rw [Text.find?, if_pos hhere]))
      have hstiff : Stiff "%%".toList := by simp [Stiff]
      have hsigns := isPrefixOf_stretch hstiff htail.pliant
      have hnot' : "=%%".toList.isPrefixOf ('=' :: stretch (fun j => k (j + 1)) cs) = false := by
        have hrest : "%%".toList.isPrefixOf cs = false := by simpa [List.isPrefixOf] using hnot
        rw [hrest] at hsigns
        simpa [List.isPrefixOf] using hsigns
      have hnext (n : Nat) (hn : Text.find? "=%%".toList cs = some n) : k (n + 1) = 0 := by
        refine hend (n + 1) ?_
        rw [Text.find?, hnot, hn]
        rfl
      rw [stretch, find?_end_replicate hnot', ih htail hnext, Text.find?, hnot]
      exact (hplaces _).symm

end Delimiters

section Rules

variable {k : Nat → Nat}

theorem stretch_dropping (n : Nat) : stretch k (dropping n) = dropping (placeOf k n) :=
  stretch_replicate k n false

theorem stretch_keeping (n : Nat) : stretch k (keeping n) = keeping (placeOf k n) :=
  stretch_replicate k n true

/-- A stretched ruling keeps what the ruling keeps, stretched, and leads to the same zone. -/
structure Alike (k : Nat → Nat) (r r' : Ruling) : Prop where
  keep : r'.keep = stretch k r.keep
  zone : r'.zone = r.zone

theorem stretch_one (b : Bool) (h : k 0 = 0) : stretch k [b] = [b] := by
  rw [stretch, h]
  rfl

/-- Of a marker that is dropped nothing is repeated. -/
theorem placeOf_of_dropping {n : Nat} {rest : List Bool}
    (h : ∀ j, (dropping n ++ rest)[j]? = some false → k j = 0) : placeOf k n = n := by
  refine placeOf_of_once fun j hj => h j ?_
  rw [List.getElem?_append_left (by simpa [dropping] using hj), dropping,
    List.getElem?_replicate_of_lt hj]

theorem stretch_marker {n : Nat} (h : ∀ j, (dropping n)[j]? = some false → k j = 0) :
    stretch k (dropping n) = dropping n := by
  rw [stretch_dropping, @placeOf_of_dropping k n [] (by rwa [List.append_nil])]

/-- A tag that is dropped moves with its end. -/
theorem dropping_span {i stop stop' : Nat} (hle : i ≤ stop) (hstop : stop' = placeOf k stop) :
    dropping (stop' - placeOf k i) = stretch (fun j => k (i + j)) (dropping (stop - i)) := by
  have hplace := placeOf_add k i (stop - i)
  rw [Nat.add_sub_cancel' hle] at hplace
  rw [stretch_dropping, hstop, hplace, Nat.add_sub_cancel_left]

/-- What is kept from the start of an output block on. -/
def outputKeep (cs : List Char) : List Bool :=
  match Text.find? "=%%".toList (cs.drop 3) with
  | some n => dropping 3 ++ keeping n ++ dropping 3
  | none => dropping 3 ++ keeping (cs.length - 3)

theorem rule_outputStart {raw cs : List Char} {number i : Nat}
    (hstart : startsWith cs "%%[".toList = false) (houtput : startsWith cs "%%=".toList = true) :
    (rule raw number i .outside cs).keep = outputKeep cs ∧
      (rule raw number i .outside cs).zone = .outside := by
  simp only [rule, hstart, houtput, outputKeep, Bool.false_eq_true, if_false, if_true]
  cases Text.find? "=%%".toList (cs.drop 3) <;> exact ⟨rfl, rfl⟩

theorem stretch_output (hopen : placeOf k 3 = 3) (n : Nat) :
    stretch k (dropping 3 ++ keeping n) =
      dropping 3 ++ keeping (placeOf (fun j => k (3 + j)) n) := by
  have hthree : (dropping 3).length = 3 := rfl
  rw [stretch_append, stretch_dropping, hopen, hthree, stretch_keeping]

/-- Behind the start of an output block, of which nothing is repeated, its end is found where it has
moved. -/
theorem find?_body_stretch {cs : List Char} (hk : Elastic k cs) (hopen : placeOf k 3 = 3)
    (hend : ∀ n, Text.find? "=%%".toList (cs.drop 3) = some n → k (3 + n) = 0) :
    Text.find? "=%%".toList ((stretch k cs).drop 3) =
      (Text.find? "=%%".toList (cs.drop 3)).map (placeOf fun j => k (3 + j)) := by
  have hbody := drop_stretch k 3 cs
  rw [hopen] at hbody
  rw [hbody, find?_end_stretch (hk.drop 3) hend]

theorem outputKeep_stretch {cs : List Char} (hk : Elastic k cs) (hlength : 3 ≤ cs.length)
    (hdrop : ∀ j, (outputKeep cs)[j]? = some false → k j = 0) :
    outputKeep (stretch k cs) = stretch k (outputKeep cs) := by
  unfold outputKeep at *
  cases hn : Text.find? "=%%".toList (cs.drop 3) with
  | none =>
    simp only [hn] at hdrop
    have hopen := placeOf_of_dropping hdrop
    have hbody := find?_body_stretch hk hopen fun n hn' => by
      rw [hn] at hn'
      cases hn'
    have hsize := placeOf_add k 3 (cs.length - 3)
    rw [Nat.add_sub_cancel' hlength, hopen] at hsize
    simp only [hbody, hn, Option.map_none]
    rw [stretch_output hopen, length_stretch, hsize, Nat.add_sub_cancel_left]
  | some n =>
    simp only [hn] at hdrop
    have hsize : (dropping 3 ++ keeping n).length = 3 + n := by
      simp [dropping, keeping]
      omega
    have hlast (j : Nat) (hj : j < 3) : k (3 + n + j) = 0 := by
      refine hdrop (3 + n + j) ?_
      rw [List.getElem?_append_right (by omega), hsize, Nat.add_sub_cancel_left, dropping,
        List.getElem?_replicate_of_lt hj]
    have hopen : placeOf k 3 = 3 :=
      @placeOf_of_dropping k 3 (keeping n ++ dropping 3) (by rwa [← List.append_assoc])
    have hbody := find?_body_stretch hk hopen fun m hm => by
      obtain rfl : n = m := Option.some.inj (hn.symm.trans hm)
      exact hlast 0 (Nat.succ_pos 2)
    simp only [hbody, hn, Option.map_some]
    rw [stretch_append, stretch_output hopen, hsize, stretch_dropping, placeOf_of_once hlast]

variable {raw cs : List Char} {number i : Nat}

theorem script_alike (hk : Elastic k raw) (hi : k i = 0) (cs cs' : List Char) :
    Alike (fun j => k (i + j)) (rule raw number i .script cs)
      (rule (stretch k raw) number (placeOf k i) .script cs') := by
  have hm := moves_scriptClose hk.pliant
  have hstop := hm.matchAt? i
  simp only [rule]
  cases hclose : scriptClose.matchAt? raw i with
  | none =>
    rw [hclose, Option.map_none, Option.map_eq_none_iff] at hstop
    rw [hstop]
    exact ⟨(stretch_one true hi).symm, rfl⟩
  | some m =>
    rw [hclose, Option.map_some] at hstop
    obtain ⟨m', hm', hplace⟩ := Option.map_eq_some_iff.mp hstop
    rw [hm']
    exact ⟨dropping_span (Nat.le_of_lt (hm.lt_stop hclose)) hplace, rfl⟩

theorem block_alike (hk : Elastic k cs) (hfirst : k 0 = 0) {opened : Nat} {raw' : List Char}
    {i' : Nat}
    (hdrop : ∀ j, (rule raw number i (.block opened) cs).keep[j]? = some false → k j = 0) :
    Alike k (rule raw number i (.block opened) cs)
      (rule raw' number i' (.block opened) (stretch k cs)) := by
  have hclose := startsWith_stretch hk hfirst (d := "]%%".toList) (by decide)
  have hstart := startsWith_stretch hk hfirst (d := "%%[".toList) (by decide)
  simp only [rule, hclose, hstart] at hdrop ⊢
  split_ifs at hdrop ⊢
  · exact ⟨(stretch_marker hdrop).symm, rfl⟩
  · exact ⟨(stretch_marker hdrop).symm, rfl⟩
  · exact ⟨(stretch_one true hfirst).symm, rfl⟩

section Places

variable (hk : Elastic k raw)
include hk

/-- What starts at a place outside that is no delimiter: a script element or plain text. -/
theorem open_alike (hi : k i = 0)
    (hdrop : ∀ m, scriptOpen.matchAt? raw i = some m →
      ∀ j, (dropping (m.stop - i))[j]? = some false → k (i + j) = 0) :
    Alike (fun j => k (i + j))
      (match scriptOpen.matchAt? raw i with
        | some m => ⟨dropping (m.stop - i), .script, []⟩
        | none => ⟨dropping 1, .outside, []⟩)
      (match scriptOpen.matchAt? (stretch k raw) (placeOf k i) with
        | some m => ⟨dropping (m.stop - placeOf k i), .script, []⟩
        | none => ⟨dropping 1, .outside, []⟩) := by
  have hstop := matchAt?_scriptOpen_stretch hk (i := i) fun m hm j hj hlt => by
    have hstay := hdrop m hm (j - i) (List.getElem?_replicate_of_lt (by omega))
    rwa [Nat.add_sub_cancel' hj] at hstay
  cases hm : scriptOpen.matchAt? raw i with
  | none =>
    rw [hm, Option.map_none, Option.map_eq_none_iff] at hstop
    rw [hstop]
    exact ⟨(stretch_one false hi).symm, rfl⟩
  | some m =>
    rw [hm, Option.map_some] at hstop
    obtain ⟨m', hm', hplace⟩ := Option.map_eq_some_iff.mp hstop
    rw [hm']
    exact ⟨dropping_span (Nat.le_of_lt (lt_stop_of_scriptOpen hm)) hplace, rfl⟩

variable (hcs : raw.drop i = cs) (hi : k i = 0)
include hcs hi

theorem outside_alike
    (hdrop : ∀ j, (rule raw number i .outside cs).keep[j]? = some false → k (i + j) = 0) :
    Alike (fun j => k (i + j)) (rule raw number i .outside cs)
      (rule (stretch k raw) number (placeOf k i) .outside (stretch (fun j => k (i + j)) cs)) := by
  have hrest : Elastic (fun j => k (i + j)) cs := hcs ▸ hk.drop i
  have hstart := startsWith_stretch hrest hi (d := "%%[".toList) (by decide)
  have houtput := startsWith_stretch hrest hi (d := "%%=".toList) (by decide)
  have hclose := startsWith_stretch hrest hi (d := "]%%".toList) (by decide)
  have hend := startsWith_stretch hrest hi (d := "=%%".toList) (by decide)
  by_cases hblock : startsWith cs "%%[".toList = true
  · simp only [rule, hstart, hblock, if_true] at hdrop ⊢
    exact ⟨(stretch_marker hdrop).symm, rfl⟩
  rw [Bool.not_eq_true] at hblock
  by_cases hopen : startsWith cs "%%=".toList = true
  · have hlength : 3 ≤ cs.length := (startsWith_iff.mp hopen).length_le
    obtain ⟨hkeep, hzone⟩ := @rule_outputStart raw cs number i hblock hopen
    obtain ⟨hkeep', hzone'⟩ := @rule_outputStart (stretch k raw) (stretch (fun j => k (i + j)) cs)
      number (placeOf k i) (hstart.trans hblock) (houtput.trans hopen)
    rw [hkeep] at hdrop
    constructor
    · rw [hkeep', hkeep, outputKeep_stretch hrest hlength hdrop]
    · rw [hzone', hzone]
  simp only [rule, hstart, houtput, hclose, hend, hblock, hopen, Bool.false_eq_true,
    if_false] at hdrop ⊢
  split_ifs at hdrop ⊢
  · exact ⟨(stretch_marker hdrop).symm, rfl⟩
  · exact ⟨(stretch_marker hdrop).symm, rfl⟩
  · refine open_alike hk hi fun m hm => ?_
    rwa [hm] at hdrop

theorem rule_stretch {zone : Zone}
    (hdrop : ∀ j, (rule raw number i zone cs).keep[j]? = some false → k (i + j) = 0) :
    Alike (fun j => k (i + j)) (rule raw number i zone cs)
      (rule (stretch k raw) number (placeOf k i) zone (stretch (fun j => k (i + j)) cs)) := by
  cases zone with
  | script => exact script_alike hk hi cs _
  | block opened => exact block_alike (hcs ▸ hk.drop i) hi hdrop
  | outside => exact outside_alike hk hcs hi hdrop

end Places

/-- An equals sign that is kept is kept wherever it is repeated. -/
theorem rule_sign (hk : Elastic k raw) {zone : Zone} {rest : List Char}
    (hkept : (rule raw number i zone ('=' :: rest)).keep.headD false = true) {r : Nat}
    (hr : r ≤ k i) (rest' : List Char) :
    rule (stretch k raw) number (placeOf k i + r) zone ('=' :: rest') = ⟨keeping 1, zone, []⟩ ∧
      rule raw number i zone ('=' :: rest) = ⟨keeping 1, zone, []⟩ := by
  have hdropped (n : Nat) : (dropping n).headD false = false := by
    cases n <;> rfl
  cases zone with
  | script =>
    have hm := moves_scriptClose hk.pliant
    have hstop := hm.matchAt? i
    simp only [rule] at hkept ⊢
    cases hclose : scriptClose.matchAt? raw i with
    | some m =>
      simp only [hclose, hdropped, Bool.false_eq_true] at hkept
    | none =>
      rw [hclose, Option.map_none, Option.map_eq_none_iff] at hstop
      have hnone : scriptClose.matchAt? (stretch k raw) (placeOf k i + r) = none := by
        cases r with
        | zero => exact hstop
        | succ r => exact hm.matchAt?_between (Nat.succ_pos r) hr
      rw [hnone]
      exact ⟨rfl, rfl⟩
  | block opened => exact ⟨rfl, rfl⟩
  | outside =>
    have hruled := ruled raw number i .outside ('=' :: rest)
    generalize rule raw number i .outside ('=' :: rest) = r at hkept hruled
    cases hruled
    case scriptStart n =>
      rw [hdropped] at hkept
      cases hkept
    all_goals exact absurd (show false = true from hkept) (by decide)

end Rules

section Chars

variable {raw : List Char} {number : Nat} {zone : Zone}

theorem regionChars_cons (raw : List Char) (number i : Nat) (zone : Zone) (c : Char)
    (cs : List Char) :
    let r := rule raw number i zone (c :: cs)
    let t := regionChars raw number (i + 1) (r.keep.drop 1) r.zone cs
    regionChars raw number i [] zone (c :: cs) =
      ((if r.keep.headD false then c else ' ') :: t.1, t.2.1, r.issues ++ t.2.2) := rfl

/-- What has been decided already. -/
theorem regionChars_decided (i m : Nat) (b : Bool) (keep : List Bool) (c : Char)
    (cs : List Char) :
    let t := regionChars raw number (i + m) keep zone cs
    regionChars raw number i (List.replicate m b ++ keep) zone (List.replicate m c ++ cs) =
      (List.replicate m (if b then c else ' ') ++ t.1, t.2) := by
  induction m generalizing i with
  | zero => rfl
  | succ m ih =>
    have hshift : i + 1 + m = i + (m + 1) := by omega
    have hrest := ih (i + 1)
    rw [hshift] at hrest
    simp only [List.replicate_succ, List.cons_append, regionChars, hrest]

/-- A run of equals signs that are kept. -/
theorem regionChars_signs {i m : Nat} (h : ∀ r < m, ∀ rest,
      rule raw number (i + r) zone ('=' :: rest) = ⟨keeping 1, zone, []⟩) (cs : List Char) :
    let t := regionChars raw number (i + m) [] zone cs
    regionChars raw number i [] zone (List.replicate m '=' ++ cs) =
      (List.replicate m '=' ++ t.1, t.2) := by
  induction m generalizing i with
  | zero => rfl
  | succ m ih =>
    have hshift (r : Nat) : i + 1 + r = i + (r + 1) := by omega
    have hrest := @ih (i + 1) fun r hr rest => by
      rw [hshift]
      exact h (r + 1) (Nat.succ_lt_succ hr) rest
    rw [hshift] at hrest
    have hfirst := h 0 (Nat.succ_pos m) (List.replicate m '=' ++ cs)
    rw [Nat.add_zero] at hfirst
    have hkeep : (keeping 1).drop 1 = [] := rfl
    simp only [List.replicate_succ, List.cons_append, regionChars, hfirst, hkeep, hrest]
    rfl

/-- An equals sign that is shown has not been dropped. -/
theorem decided_of_shown {i : Nat} {keep : List Bool} {cs : List Char} {j : Nat}
    (h : (regionChars raw number i keep zone cs).1[j]? = some '=') : keep[j]? ≠ some false := by
  induction cs generalizing i keep zone j with
  | nil =>
    rw [regionChars_nil] at h
    cases h
  | cons c cs ih =>
    cases keep with
    | nil => simp
    | cons b keep =>
      cases j with
      | zero =>
        intro hb
        obtain rfl : b = false := by simpa using hb
        simp [regionChars] at h
      | succ j =>
        rw [List.getElem?_cons_succ]
        exact ih h

theorem kept_of_shown {i : Nat} {c : Char} {cs : List Char} {j : Nat}
    (h : (regionChars raw number i [] zone (c :: cs)).1[j]? = some '=') :
    (rule raw number i zone (c :: cs)).keep[j]? ≠ some false := by
  rw [regionChars_cons] at h
  generalize rule raw number i zone (c :: cs) = r at h ⊢
  obtain ⟨keep, zone', issues⟩ := r
  cases j with
  | zero =>
    rintro hfalse
    cases keep with
    | nil => cases hfalse
    | cons b keep =>
      obtain rfl : b = false := by simpa using hfalse
      simp at h
  | succ j =>
    have hrest : (keep.drop 1)[j]? ≠ some false := decided_of_shown h
    rwa [List.getElem?_drop, Nat.add_comm 1 j] at hrest

end Chars

/-- The scan of a stretched text keeps what the scan of the text keeps, stretched alike, and ends in
the same zone. -/
structure Follows (k : Nat → Nat) (t t' : List Char × Zone × List Finding) : Prop where
  kept : t'.1 = stretch k t.1
  zone : t'.2.1 = t.2.1

section Steps

variable {k : Nat → Nat} {raw : List Char} {number i : Nat} {zone : Zone} {c : Char}
  {cs : List Char}

theorem follows_decided {b : Bool} {keep : List Bool}
    (h : Follows (fun j => k (i + 1 + j)) (regionChars raw number (i + 1) keep zone cs)
      (regionChars (stretch k raw) number (placeOf k (i + 1))
        (stretch (fun j => k (i + 1 + j)) keep) zone (stretch (fun j => k (i + 1 + j)) cs))) :
    Follows (fun j => k (i + j)) (regionChars raw number i (b :: keep) zone (c :: cs))
      (regionChars (stretch k raw) number (placeOf k i) (stretch (fun j => k (i + j)) (b :: keep))
        zone (stretch (fun j => k (i + j)) (c :: cs))) := by
  rw [stretch_from_cons, stretch_from_cons, regionChars_decided]
  constructor
  · simp only [regionChars, stretch_from_cons, ← h.kept]
    rfl
  · simp only [regionChars]
    exact h.zone

variable (hk : Elastic k raw)
include hk

/-- One character that is not repeated. -/
theorem follows_once (hcs : raw.drop i = c :: cs) (hi : k i = 0)
    (hdrop : ∀ j, (rule raw number i zone (c :: cs)).keep[j]? = some false → k (i + j) = 0)
    (h : Follows (fun j => k (i + 1 + j))
      (regionChars raw number (i + 1) ((rule raw number i zone (c :: cs)).keep.drop 1)
        (rule raw number i zone (c :: cs)).zone cs)
      (regionChars (stretch k raw) number (placeOf k (i + 1))
        (stretch (fun j => k (i + 1 + j)) ((rule raw number i zone (c :: cs)).keep.drop 1))
        (rule raw number i zone (c :: cs)).zone (stretch (fun j => k (i + 1 + j)) cs))) :
    Follows (fun j => k (i + j)) (regionChars raw number i [] zone (c :: cs))
      (regionChars (stretch k raw) number (placeOf k i) [] zone
        (stretch (fun j => k (i + j)) (c :: cs))) := by
  obtain ⟨hkeep, hzone⟩ := rule_stretch hk hcs hi hdrop
  have hcons {α : Type} (a : α) (as : List α) : stretch (fun j => k (i + j)) (a :: as) =
      a :: stretch (fun j => k (i + 1 + j)) as := by
    rw [stretch_from_cons, hi]
    rfl
  rw [placeOf_succ_of_once hi] at h
  rw [hcons] at hkeep hzone ⊢
  rw [regionChars_cons, regionChars_cons]
  generalize rule raw number i zone (c :: cs) = r at h hkeep hzone ⊢
  generalize rule (stretch k raw) number (placeOf k i) zone
    (c :: stretch (fun j => k (i + 1 + j)) cs) = r' at hkeep hzone ⊢
  have hhead : r'.keep.headD false = r.keep.headD false := by
    rw [hkeep]
    cases r.keep with
    | nil => rfl
    | cons b keep => rw [hcons]; rfl
  have hrest : r'.keep.drop 1 = stretch (fun j => k (i + 1 + j)) (r.keep.drop 1) := by
    rw [hkeep]
    cases r.keep with
    | nil => rfl
    | cons b keep => rw [hcons]; rfl
  constructor
  · simp only [hcons, hhead, hrest, hzone, h.kept]
  · simp only [hrest, hzone, h.zone]

/-- An equals sign that is kept, with its repetitions. -/
theorem follows_signs (hkept : (rule raw number i zone ('=' :: cs)).keep.headD false = true)
    (h : Follows (fun j => k (i + 1 + j))
      (regionChars raw number (i + 1) ((rule raw number i zone ('=' :: cs)).keep.drop 1)
        (rule raw number i zone ('=' :: cs)).zone cs)
      (regionChars (stretch k raw) number (placeOf k (i + 1))
        (stretch (fun j => k (i + 1 + j)) ((rule raw number i zone ('=' :: cs)).keep.drop 1))
        (rule raw number i zone ('=' :: cs)).zone (stretch (fun j => k (i + 1 + j)) cs))) :
    Follows (fun j => k (i + j)) (regionChars raw number i [] zone ('=' :: cs))
      (regionChars (stretch k raw) number (placeOf k i) [] zone
        (stretch (fun j => k (i + j)) ('=' :: cs))) := by
  have hsigns {r : Nat} (hr : r < k i + 1) (rest : List Char) :=
    (rule_sign hk hkept (Nat.le_of_lt_succ hr) rest).1
  have hrule := (rule_sign hk hkept (Nat.zero_le (k i)) []).2
  have hnext : placeOf k i + (k i + 1) = placeOf k (i + 1) := rfl
  rw [hrule] at h
  rw [stretch_from_cons, regionChars_signs fun r hr rest => hsigns hr rest, hnext,
    regionChars_cons, hrule]
  have hhead : (if (keeping 1).headD false then '=' else ' ') = '=' := rfl
  constructor
  · simp only [stretch_from_cons, hhead, ← h.kept]
    rfl
  · exact h.zone

/-- Where only equals signs are repeated that are kept, the scan follows. -/
theorem regionChars_follows {keep : List Bool} (hcs : raw.drop i = cs)
    (hshown : Elastic (fun j => k (i + j)) (regionChars raw number i keep zone cs).1) :
    Follows (fun j => k (i + j)) (regionChars raw number i keep zone cs)
      (regionChars (stretch k raw) number (placeOf k i) (stretch (fun j => k (i + j)) keep) zone
        (stretch (fun j => k (i + j)) cs)) := by
  induction cs generalizing i keep zone with
  | nil => constructor <;> simp only [stretch, regionChars_nil]
  | cons c cs ih =>
    have hrest : raw.drop (i + 1) = cs := drop_add_one hcs
    cases keep with
    | cons b keep => exact follows_decided (ih hrest hshown.behind)
    | nil =>
      have hmore := ih hrest (regionChars_cons raw number i zone c cs ▸ hshown).behind
      by_cases hi : k i = 0
      · refine follows_once hk hcs hi (fun j hj => ?_) hmore
        by_contra hne
        exact kept_of_shown (hshown j (Nat.pos_of_ne_zero hne)) hj
      · have hsign := hshown 0 (Nat.pos_of_ne_zero hi)
        rw [regionChars_cons, List.getElem?_cons_zero, Option.some_inj] at hsign
        split_ifs at hsign with hkept
        · obtain rfl := hsign
          exact follows_signs hk hkept hmore
        · cases hsign

end Steps

section Lines

variable {ks : Nat → Nat → Nat} {raws : List (List Char)}

theorem regionLines_follows (h : ∀ i raw, raws[i]? = some raw → Elastic (ks i) raw) {number : Nat}
    {zone : Zone}
    (hshown : ∀ i kept, (regionLines number zone raws).1[i]? = some kept → Elastic (ks i) kept) :
    let t := regionLines number zone raws
    let t' := regionLines number zone (raws.mapIdx fun i raw => stretch (ks i) raw)
    t'.1 = t.1.mapIdx (fun i kept => stretch (ks i) kept) ∧ t'.2.1 = t.2.1 := by
  induction raws generalizing ks number zone with
  | nil => exact ⟨rfl, rfl⟩
  | cons raw rest ih =>
    have hfirst : Follows (ks 0) (regionChars raw number 0 [] zone raw)
        (regionChars (stretch (ks 0) raw) number 0 [] zone (stretch (ks 0) raw)) := by
      have hwhole := @regionChars_follows (ks 0) raw number 0 zone raw (h 0 raw rfl) []
        List.drop_zero (by simpa using hshown 0 _ rfl)
      simpa [placeOf, stretch] using hwhole
    obtain ⟨hkept, hzone⟩ := @ih (fun i => ks (i + 1)) (fun i l hl => h (i + 1) l hl) (number + 1)
      (regionChars raw number 0 [] zone raw).2.1 fun i kept hk => hshown (i + 1) kept hk
    simp only [List.mapIdx_cons, regionLines, hfirst.kept, hfirst.zone, hkept, hzone, and_self]

end Lines

end CampaignCheck.Ampscript

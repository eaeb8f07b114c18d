import CampaignCheck.Proofs.Html.Regions

namespace CampaignCheck.Html

open Pattern Text

def readClose : List Char → Option Nat
  | [] => none
  | c :: cs => if isBlank c then (readClose cs).map (1 + ·) else if c = '>' then some 1 else none

def readPast (r : List Char → Option Nat) : List Char → Option Nat
  | [] => none
  | c :: cs => (if c = '>' then r cs else readPast r cs).map (1 + ·)

/-- The tests for an angle and a name, without regard to case. -/
def opening (letters : List Char) : List (Char → Bool) :=
  (fun b => '<' == b) :: letters.map fun a => (CharSet.anyCase a).mem

/-- The tests for the start of the end tag of an element of this name. -/
def closing (name : List Char) : List (Char → Bool) :=
  (fun b => '<' == b) :: (fun b => '/' == b) :: name.map fun a b => lowerChar a == lowerChar b

def readEndTag (name cs : List Char) : Option Nat :=
  if fits (closing name) cs then
    (readClose (cs.drop (name.length + 2))).map (name.length + 2 + ·)
  else none

/-- An element of a name, from its start tag to its end tag. -/
def readNamed (letters cs : List Char) : Option Nat :=
  if fits (opening letters) cs ∧ ¬sees .word cs (letters.length + 1) then
    (readPast (firstAt (readEndTag ((cs.drop 1).take letters.length)))
      (cs.drop (letters.length + 1))).map (letters.length + 1 + ·)
  else none

def readRaw (cs : List Char) : Option Nat :=
  (readNamed "script".toList cs).or (readNamed "style".toList cs)

section Reading

variable {text : Array Char} {g : Sequel} {marks : Marks}

theorem leads_close (cs : List Char) (pos : Nat) :
    blanks.leads text ((lit ">").leads text done) cs pos marks =
      (readClose cs).map fun n => (pos + n, marks) := by
  induction cs generalizing pos with
  | nil => rfl
  | cons c cs ih =>
    have hnext : most .blank ((lit ">").leads text done) none cs (pos + 1) marks =
        (readClose cs).map fun n => (pos + 1 + n, marks) := ih (pos + 1)
    rw [blanks, many, leads_most, exactly, most, Option.map_none, hnext, readClose,
      show lit ">" = one (.char '>') from rfl]
    cases hc : isBlank c with
    | true =>
      have hne : c ≠ '>' := by
        rintro rfl
        cases hc
      rw [leads_char_other (by simpa using hne), Option.or_none]
      simp [CharSet.mem, hc, Nat.add_assoc, Function.comp_def]
    | false =>
      by_cases hangle : c = '>'
      · subst hangle
        rw [leads_char_self]
        rfl
      · rw [leads_char_other (by simpa using hangle)]
        simp [CharSet.mem, hc, hangle]

theorem leads_past (text : Array Char) {r : List Char → Option Nat} {P : List Char → Nat → Prop}
    (hP : ∀ c cs pos, P (c :: cs) pos → P cs (pos + 1))
    (hg : ∀ cs pos, P cs pos → g cs pos marks = (r cs).map fun n => (pos + n, marks))
    {cs : List Char} {pos : Nat} (h : P cs pos) :
    (many (one (.not (.char '>')))).leads text ((lit ">").leads text g) cs pos marks =
      (readPast r cs).map fun n => (pos + n, marks) := by
  induction cs generalizing pos with
  | nil => rfl
  | cons c cs ih =>
    have hnext : most (.not (.char '>')) ((lit ">").leads text g) none cs (pos + 1) marks =
        (readPast r cs).map fun n => (pos + 1 + n, marks) := ih (hP c cs pos h)
    rw [many, leads_most, exactly, most, Option.map_none, hnext, readPast,
      show lit ">" = one (.char '>') from rfl]
    by_cases hangle : c = '>'
    · subst hangle
      rw [leads_char_self, hg _ _ (hP _ cs pos h)]
      simp [CharSet.mem, Nat.add_assoc, Function.comp_def]
    · rw [leads_char_other (by simpa using hangle), Option.or_none]
      simp [CharSet.mem, hangle, Ne.symm hangle, Nat.add_assoc, Function.comp_def]

end Reading

theorem repeats_eq (cs : List Char) (start pos n : Nat) (h : start + n ≤ cs.length) :
    repeats cs.toArray .anyCase start pos n =
      fits (((cs.drop start).take n).map fun a b => lowerChar a == lowerChar b) (cs.drop pos) := by
  induction n generalizing start pos with
  | zero => rw [repeats, List.take_zero]; rfl
  | succ n ih =>
    have hlt : start < cs.length := by omega
    rw [repeats, List.drop_eq_getElem_cons hlt, List.take_succ_cons, List.map_cons]
    simp only [List.getElem?_toArray, List.getElem?_eq_getElem hlt]
    rcases Nat.lt_or_ge pos cs.length with hpos | hpos
    · rw [List.getElem?_eq_getElem hpos, List.drop_eq_getElem_cons hpos, fits,
        ih (start + 1) (pos + 1) (by omega)]
      rfl
    · rw [List.getElem?_eq_none hpos, List.drop_of_length_le hpos]
      rfl

/-- The pattern of an element from its end tag on, and from behind its name on. -/
def endTagForm : Pattern := seq (seq (seq (lit "</") (backreference 1 .anyCase)) blanks) (lit ">")

theorem fits_append (ps qs : List (Char → Bool)) (cs : List Char) :
    fits (ps ++ qs) cs = (fits ps cs && fits qs (cs.drop ps.length)) := by
  induction ps generalizing cs with
  | nil => rfl
  | cons p ps ih =>
    cases cs with
    | nil => rfl
    | cons c cs =>
      rw [List.cons_append, fits, fits, ih, Bool.and_assoc]
      rfl

theorem leads_endTag {cs : List Char} {start stop : Nat} (h : start ≤ stop)
    (hstop : stop ≤ cs.length) (pos : Nat) :
    endTagForm.leads cs.toArray done (cs.drop pos) pos #[some start, some stop] =
      (readEndTag (slice cs start stop) (cs.drop pos)).map
        fun n => (pos + n, #[some start, some stop]) := by
  have hslice : slice cs start stop = (cs.drop start).take (stop - start) := List.drop_take
  have hlength : (slice cs start stop).length = stop - start := by
    rw [slice, List.length_drop, List.length_take_of_le hstop]
  have hclosing (ds : List Char) : fits (closing (slice cs start stop)) ds =
      (fits (literal "</".toList) ds && fits ((slice cs start stop).map fun a b =>
        lowerChar a == lowerChar b) (ds.drop 2)) := fits_append (literal "</".toList) _ ds
  have hcaptured (stop' : Nat) : Cursor.captured? ⟨stop', stop', #[some start, some stop]⟩ 1 =
      some (start, stop) := by
    simp [Cursor.captured?, Cursor.boundsIn, h]
  rw [endTagForm, leads_seq, leads_seq, leads_seq, leads_lit, readEndTag, hclosing]
  cases fits (literal "</".toList) (cs.drop pos) with
  | false => rfl
  | true =>
    have hrepeats := repeats_eq cs start (pos + 2) (stop - start) (by omega)
    have hdrop : (cs.drop pos).drop 2 = cs.drop (pos + 2) := List.drop_drop
    rw [← hslice] at hrepeats
    refine (leads_backreference _ _ .anyCase _ (hcaptured (pos + 2))).trans ?_
    have hrest : (cs.drop pos).drop (stop - start + 2) =
        (cs.drop (pos + 2)).drop (stop - start) := by
      rw [List.drop_drop, List.drop_drop]
      congr 1
      omega
    rw [show (cs.drop pos).drop "</".toList.length = cs.drop (pos + 2) from hdrop, hrepeats,
      leads_close, Bool.true_and, hlength, hdrop, hrest]
    split_ifs with hname
    · rw [Option.map_map]
      congr 1
      funext n
      simp
      omega
    · rfl

def contentForm : Pattern := seq (seq (seq wordEdge (many (one (.not (.char '>'))))) (lit ">"))
  (seq (manyFewest (one .all)) endTagForm)

theorem leads_content {cs : List Char} {start stop : Nat} (h : start < stop)
    (hstop : stop ≤ cs.length) (hword : sees .word cs (stop - 1) = true) :
    contentForm.leads cs.toArray done (cs.drop stop) stop #[some start, some stop] =
      if sees .word cs stop then none
      else (readPast (firstAt (readEndTag (slice cs start stop))) (cs.drop stop)).map
        fun n => (stop + n, #[some start, some stop]) := by
  let P (ds : List Char) (pos : Nat) : Prop := ds = cs.drop pos
  have hP (c : Char) (ds : List Char) (pos : Nat) (hc : P (c :: ds) pos) : P ds (pos + 1) := by
    have hdrop := congrArg List.tail hc
    rwa [List.tail_cons, List.tail_drop] at hdrop
  have hend (ds : List Char) (pos : Nat) (hds : P ds pos) :
      endTagForm.leads cs.toArray done ds pos #[some start, some stop] =
        (readEndTag (slice cs start stop) ds).map fun n => (pos + n, #[some start, some stop]) := by
    rw [show ds = cs.drop pos from hds]
    exact leads_endTag (Nat.le_of_lt h) hstop pos
  have hcontent (ds : List Char) (pos : Nat) (hds : P ds pos) :=
    fewest_all hP hend hds
  have hpast := leads_past cs.toArray
    (g := (seq (manyFewest (one .all)) endTagForm).leads cs.toArray done) hP hcontent
    (show P (cs.drop stop) stop from rfl)
  have hedge : Anchor.holds cs.toArray stop .wordEdge = !sees .word cs stop := by
    rw [wordEdge_holds]
    obtain ⟨n, rfl⟩ := Nat.exists_eq_succ_of_ne_zero (Nat.ne_of_gt (Nat.zero_lt_of_lt h))
    rw [preceded, show sees .word cs n = true from hword]
    cases sees .word cs (n + 1) <;> rfl
  rw [contentForm, leads_seq, leads_seq, leads_seq, wordEdge, leads]
  simp only [hedge, hpast]
  cases sees .word cs stop <;> rfl

theorem getElem?_of_fits {ps : List (Char → Bool)} {cs : List Char} (h : fits ps cs = true)
    {i : Nat} {p : Char → Bool} (hp : ps[i]? = some p) : ∃ c, cs[i]? = some c ∧ p c = true := by
  induction ps generalizing cs i with
  | nil => cases hp
  | cons q ps ih =>
    cases cs with
    | nil => cases h
    | cons c cs =>
      rw [fits, Bool.and_eq_true] at h
      cases i with
      | zero =>
        obtain rfl : q = p := Option.some.inj hp
        exact ⟨c, rfl, h.1⟩
      | succ i => exact ih h.2 hp

theorem fits_opening (letters : List Char) (cs : List Char) :
    fits (opening letters) ('<' :: cs) =
      fits (letters.map fun a => (CharSet.anyCase a).mem) cs := by
  rw [opening, fits]
  rfl

/-- The last letter of a name is a word character. -/
theorem sees_word_of_fits {letters cs : List Char} (hletters : ∀ a ∈ letters, a.isAlpha = true)
    {n : Nat} (hn : letters.length = n + 1)
    (h : fits (letters.map fun a => (CharSet.anyCase a).mem) cs = true) :
    sees .word cs n = true := by
  have hlt : n < letters.length := by omega
  obtain ⟨c, hc, hlike⟩ := getElem?_of_fits h (i := n) (p := (CharSet.anyCase letters[n]).mem) (by
    rw [List.getElem?_map, List.getElem?_eq_getElem hlt]
    rfl)
  rw [sees, hc]
  exact isWord_of_sameLetter (hletters _ (List.getElem_mem hlt)) hlike

theorem leads_named {w : String} (hw : ∀ a ∈ w.toList, a.isAlpha = true) {n : Nat}
    (hn : w.toList.length = n + 1) {cs ds : List Char} {pos : Nat} (hcs : cs.drop pos = '<' :: ds) :
    (caseless w).leads cs.toArray (fun ds stop marks =>
        contentForm.leads cs.toArray done ds stop (marked marks 1 stop)) ds (pos + 1)
          #[some (pos + 1)] =
      (readNamed w.toList (cs.drop pos)).map fun k =>
        (pos + k, #[some (pos + 1), some (pos + 1 + (n + 1))]) := by
  have hds : cs.drop (pos + 1) = ds := by
    rw [← List.drop_drop, hcs]
    rfl
  have hletters := leads_inOrder cs.toArray (fun ds stop marks =>
    contentForm.leads cs.toArray done ds stop (marked marks 1 stop)) #[some (pos + 1)]
    (w.toList.map CharSet.anyCase) ds (pos + 1)
  rw [List.map_map, List.map_map, List.length_map, hn] at hletters
  refine hletters.trans ?_
  rw [readNamed, hcs, fits_opening, hn]
  by_cases hfits : fits (w.toList.map fun a => (CharSet.anyCase a).mem) ds = true
  · have hle := length_of_fits hfits
    rw [List.length_map, hn, ← hds, List.length_drop] at hle
    have hword := sees_word_of_fits hw hn hfits
    rw [← hds, sees_drop] at hword
    have hlt : pos + 1 < pos + 1 + (n + 1) := by omega
    have hcontent := leads_content hlt (by omega) hword
    have hname : slice cs (pos + 1) (pos + 1 + (n + 1)) = (('<' :: ds).drop 1).take (n + 1) := by
      rw [slice, List.drop_take, hds, Nat.add_sub_cancel_left]
      rfl
    have hdrop : ds.drop (n + 1) = cs.drop (pos + 1 + (n + 1)) := by
      rw [← hds, List.drop_drop]
    have hrest : ('<' :: ds).drop (n + 1 + 1) = cs.drop (pos + 1 + (n + 1)) := hdrop
    have hnext : sees .word ('<' :: ds) (n + 1 + 1) = sees .word cs (pos + 1 + (n + 1)) := by
      rw [← hcs, sees_drop]
      congr 1
      omega
    refine (if_pos hfits).trans ?_
    rw [hdrop]
    refine Eq.trans hcontent ?_
    rw [hname, hnext, hrest, hfits]
    cases sees .word cs (pos + 1 + (n + 1)) with
    | true => simp
    | false =>
      simp only [Bool.false_eq_true, not_false_eq_true, and_self, if_true, if_false,
        Option.map_map]
      congr 1
      funext k
      simp
      omega
  · rw [if_neg (c := _ ∧ _) fun h => hfits h.1]
    exact if_neg hfits

theorem readNamed_of_head_ne {letters cs : List Char} (h : cs.head? ≠ some '<') :
    readNamed letters cs = none := by
  have hnot : fits (opening letters) cs = false := by
    cases cs with
    | nil => rfl
    | cons c cs =>
      have hc : ('<' == c) = false := beq_false_of_ne fun he => h (by rw [he]; rfl)
      rw [opening, fits, hc, Bool.false_and]
  rw [readNamed, hnot]
  simp

theorem pos_of_readNamed {letters cs : List Char} {n : Nat} (h : readNamed letters cs = some n) :
    0 < n := by
  rw [readNamed] at h
  split_ifs at h
  obtain ⟨m, -, rfl⟩ := Option.map_eq_some_iff.mp h
  omega

theorem regular_rawElement : Regular 0 rawElement 2 := by
  have hw (s : String) (hs : s.toList ≠ []) : Regular 1 (caseless s) 1 := by
    have hne : s.toList.map CharSet.anyCase ≠ [] := by simpa using hs
    have hsets := regular_inOrder hne 1
    rwa [List.map_map] at hsets
  have hname : Regular 0 (capture 1 (caselessOf ["script", "style"])) 2 :=
    .capture Nat.one_pos (Nat.le_refl _) (.alt (hw "script" (by decide)) (hw "style" (by decide)))
  have hend : Regular 2 (lit "</") 2 := .seq (.one _ _) (.one _ _)
  exact .seq (.seq (.seq (.seq (.seq (.seq (.seq (.seq (.seq (.one _ _) hname) (.anchor _ _))
    (.many _ _ _)) (.one _ _)) (.manyFewest _ _)) hend) (.backreference _ _ _)) (.many _ _ _))
      (.one _ _)

theorem isAlpha_names : (∀ a ∈ "script".toList, a.isAlpha = true) ∧
    ∀ a ∈ "style".toList, a.isAlpha = true :=
  ⟨List.all_eq_true.mp rfl, List.all_eq_true.mp rfl⟩

theorem reads_rawElement : Reads rawElement readRaw := by
  refine .of_leads regular_rawElement (fun cs pos => ?_) fun cs n hn => ?_
  · have hform : rawElement.leads cs.toArray done = (one (.char '<')).leads cs.toArray
        ((capture 1 (alt (caseless "script") (caseless "style"))).leads cs.toArray
          (contentForm.leads cs.toArray done)) := rfl
    rw [hform]
    by_cases hhead : (cs.drop pos).head? = some '<'
    · obtain ⟨ds, hds⟩ := List.head?_eq_some_iff.mp hhead
      have hscript := leads_named isAlpha_names.1 (n := 5) rfl hds
      have hstyle := leads_named isAlpha_names.2 (n := 4) rfl hds
      rw [hds, leads_char_self, leads_capture, leads_alt, ← hds]
      refine (congrArg (Option.map (·.1)) (congrArg₂ Option.or hscript hstyle)).trans ?_
      rw [readRaw]
      cases readNamed "script".toList (cs.drop pos) with
      | some n => rfl
      | none =>
        rw [Option.map_none, Option.none_or, Option.none_or, Option.map_map]
        rfl
    · rw [leads_char_other hhead, readRaw, readNamed_of_head_ne hhead, readNamed_of_head_ne hhead]
      rfl
  · rcases Option.or_eq_some_iff.mp hn with hfirst | ⟨-, hsecond⟩
    · exact pos_of_readNamed hfirst
    · exact pos_of_readNamed hsecond

section Spread

variable (add : Nat → List Char) (cs : List Char)

/-- The text from an offset on with what is put into it. -/
def spread (i : Nat) : List Char := inserted (fun j => add (i + j)) (cs.drop i)

/-- How long so many characters from an offset on are with what is put behind them. -/
def spreadLength (i n : Nat) : Nat := placeOf (fun j => sizes add (i + j)) n

/-- What is read of the text with something put into it is what is read of the text. -/
def Carries (r : List Char → Option Nat) : Prop :=
  ∀ i, r (spread add cs i) = (r (cs.drop i)).map (spreadLength add i)

end Spread

section Carried

variable {add : Nat → List Char} {cs : List Char}

theorem spread_cons (add : Nat → List Char) {i : Nat} {c : Char} {ds : List Char}
    (h : cs.drop i = c :: ds) :
    spread add cs i = c :: (add i ++ spread add cs (i + 1)) ∧ cs.drop (i + 1) = ds := by
  have hds : cs.drop (i + 1) = ds := by
    rw [← List.drop_drop, h]
    rfl
  rw [spread, h, inserted_from_cons, spread, hds]
  exact ⟨rfl, rfl⟩

theorem spreadLength_succ (i n : Nat) :
    spreadLength add i (n + 1) = (add i).length + 1 + spreadLength add (i + 1) n := by
  rw [spreadLength, placeOf_succ, counts_behind]
  rfl

theorem spreadLength_add (i m n : Nat) :
    spreadLength add i (m + n) = spreadLength add i m + spreadLength add (i + m) n := by
  rw [spreadLength, placeOf_add, spreadLength, spreadLength]
  simp only [Nat.add_assoc]

theorem head?_spread (i : Nat) : (spread add cs i).head? = (cs.drop i).head? := by
  rw [spread]
  cases cs.drop i <;> rfl

theorem spread_add {i n : Nat} (h : ∀ j < n, add (i + j) = []) :
    spreadLength add i n = n ∧ (spread add cs i).take n = (cs.drop i).take n ∧
      (spread add cs i).drop n = spread add cs (i + n) := by
  have hlength : spreadLength add i n = n := placeOf_of_once fun j hj => by rw [sizes, h j hj]; rfl
  have htake := take_inserted (fun j => add (i + j)) n (cs.drop i)
  have hsame : inserted (fun j => add (i + j)) ((cs.drop i).take n) = (cs.drop i).take n :=
    inserted_of_nil fun j hj => h j (by
      rw [List.length_take] at hj
      omega)
  rw [show placeOf (sizes fun j => add (i + j)) n = n from hlength, hsame] at htake
  refine ⟨hlength, htake, ?_⟩
  have hdrop := drop_inserted (fun j => add (i + j)) n (cs.drop i)
  rw [List.drop_drop] at hdrop
  rw [spread, spread]
  simp only [Nat.add_assoc]
  rw [← hdrop]
  congr 1
  exact hlength.symm

/-- An angle and what follows it without equals signs and blanks. -/
structure Tight (cs : List Char) (i n : Nat) : Prop where
  angle : cs[i]? = some '<'
  firm : ∀ j < n, ∃ c, cs[i + j]? = some c ∧ c ≠ '=' ∧ isBlank c = false

/-- What is put into a text breaks no tag: nothing falls into an angle and the name behind it, and
only blanks among blanks that follow. -/
structure Spares (add : Nat → List Char) (cs : List Char) : Prop where
  soft : Soft add
  tight : ∀ i n, Tight cs i n → ∀ j < n, add (i + j) = []
  angle : ∀ i, cs[i]? = some '>' → add i = []
  blanks : ∀ i n k, 0 < n → Tight cs i n →
    (∀ j < k, ∃ c, cs[i + n + j]? = some c ∧ isBlank c = true) →
      ∀ j < k, ∀ c ∈ add (i + n + j), c = ' '

/-- A text of an angle and characters other than equals signs and blanks, and no quotes. -/
structure Solid (ps : List (Char → Bool)) : Prop where
  angle : ∃ qs, ps = (fun b => '<' == b) :: qs
  quote : ∀ p ∈ ps, p '"' = false
  firm : ∀ p ∈ ps, ∀ c, p c = true → c ≠ '=' ∧ isBlank c = false

theorem Solid.tight {ps : List (Char → Bool)} (hps : Solid ps) {i : Nat}
    (h : fits ps (cs.drop i) = true) : Tight cs i ps.length := by
  have hget {j : Nat} {p : Char → Bool} (hp : ps[j]? = some p) :
      ∃ c, cs[i + j]? = some c ∧ p c = true := by
    rw [← List.getElem?_drop]
    exact getElem?_of_fits h hp
  obtain ⟨qs, rfl⟩ := hps.angle
  obtain ⟨c, hc, hangle⟩ := hget (j := 0) rfl
  obtain rfl : '<' = c := by simpa using hangle
  refine ⟨hc, fun j hj => ?_⟩
  obtain ⟨c, hc, hp⟩ := hget (List.getElem?_eq_getElem hj)
  exact ⟨c, hc, hps.firm _ (List.getElem_mem hj) c hp⟩

theorem readClose_append {bs : List Char} (h : ∀ c ∈ bs, c = ' ') (cs : List Char) :
    readClose (bs ++ cs) = (readClose cs).map (bs.length + ·) := by
  induction bs with
  | nil => simp
  | cons b bs ih =>
    rw [List.cons_append, readClose, h b List.mem_cons_self,
      ih fun c hc => h c (List.mem_cons_of_mem b hc), if_pos (show isBlank ' ' = true from rfl),
      Option.map_map]
    congr 1
    funext n
    simp only [Function.comp_apply, List.length_cons]
    omega

theorem readClose_inserted
    (hblanks : ∀ j, (∀ k ≤ j, ∃ c, cs[k]? = some c ∧ isBlank c = true) → ∀ c ∈ add j, c = ' ')
    (hangle : ∀ j, cs[j]? = some '>' → add j = []) :
    readClose (inserted add cs) = (readClose cs).map (placeOf (sizes add)) := by
  induction cs generalizing add with
  | nil => rfl
  | cons c cs ih =>
    rw [inserted, readClose, readClose]
    split_ifs with hblank hc
    · have hhere : ∀ d ∈ add 0, d = ' ' := hblanks 0 fun k hk => by
        obtain rfl := Nat.le_zero.mp hk
        exact ⟨c, rfl, hblank⟩
      have hrest := @ih (fun j => add (j + 1)) (fun j hj => hblanks (j + 1) fun k hk => by
        cases k with
        | zero => exact ⟨c, rfl, hblank⟩
        | succ k => exact hj k (Nat.le_of_succ_le_succ hk)) fun j hj => hangle (j + 1) hj
      rw [readClose_append hhere, hrest, Option.map_map, Option.map_map, Option.map_map]
      congr 1
      funext n
      have hplace := placeOf_succ (sizes add) n
      simp only [Function.comp_apply, Nat.add_comm 1 n, hplace]
      rw [sizes]
      have hshift : placeOf (sizes fun j => add (j + 1)) n =
          placeOf (fun j => sizes add (j + 1)) n := rfl
      omega
    · have hnil : add 0 = [] := hangle 0 (by rw [hc]; rfl)
      rw [Option.map_some, placeOf, placeOf, sizes, hnil]
      rfl
    · rfl

theorem carries_firstAt {r : List Char → Option Nat} (hr : Carries add cs r)
    (hskip : ∀ i, ∀ c ∈ add i, ∀ ds, r (c :: ds) = none) : Carries add cs (firstAt r) := by
  intro i
  induction hds : cs.drop i generalizing i with
  | nil =>
    have hhere := hr i
    rw [spread, hds] at hhere ⊢
    exact hhere
  | cons c ds ih =>
    obtain ⟨hspread, hnext⟩ := spread_cons add hds
    have hhere := hr i
    rw [hspread, hds] at hhere
    rw [hspread, firstAt, hhere, firstAt_append (hskip i), ih (i + 1) hnext, firstAt,
      Option.map_or, Option.map_map, Option.map_map, Option.map_map]
    congr 2
    funext n
    simp only [Function.comp_apply, spreadLength_succ]
    omega

theorem readPast_append {r : List Char → Option Nat} {qs : List Char} (h : ∀ q ∈ qs, q ≠ '>')
    (ds : List Char) : readPast r (qs ++ ds) = (readPast r ds).map (qs.length + ·) := by
  induction qs with
  | nil => simp
  | cons q qs ih =>
    rw [List.cons_append, readPast, if_neg (h q List.mem_cons_self),
      ih fun q hq => h q (List.mem_cons_of_mem _ hq), Option.map_map]
    congr 1
    funext n
    simp only [Function.comp_apply, List.length_cons]
    omega

/-- The name is one in Latin letters of any case. -/
def Lettered (name : List Char) : Prop :=
  ∀ a ∈ name, ∃ x : Char, x.isAlpha = true ∧ sameLetter x a = true

theorem of_sameLetter {x c : Char} (hx : x.isAlpha = true) (h : sameLetter x c = true) :
    c ≠ '"' ∧ c ≠ '=' ∧ isBlank c = false := by
  have hword := isWord_of_sameLetter hx h
  refine ⟨?_, ?_, ?_⟩
  · rintro rfl
    revert hword
    decide +kernel
  · rintro rfl
    revert hword
    decide +kernel
  · by_contra hblank
    rw [isWord_of_isBlank (Bool.not_eq_false _ ▸ hblank)] at hword
    cases hword

theorem solid_opening {letters : List Char} (h : ∀ a ∈ letters, a.isAlpha = true) :
    Solid (opening letters) := by
  refine ⟨⟨_, rfl⟩, fun p hp => ?_, fun p hp c hc => ?_⟩
  · rcases List.mem_cons.mp hp with rfl | hp
    · rfl
    · obtain ⟨a, ha, rfl⟩ := List.mem_map.mp hp
      by_contra hquote
      exact (of_sameLetter (h a ha) (Bool.not_eq_false _ ▸ hquote)).1 rfl
  · rcases List.mem_cons.mp hp with rfl | hp
    · obtain rfl : '<' = c := by simpa using hc
      decide
    · obtain ⟨a, ha, rfl⟩ := List.mem_map.mp hp
      exact (of_sameLetter (h a ha) hc).2

theorem solid_closing {name : List Char} (h : Lettered name) : Solid (closing name) := by
  have hlike {a b : Char} (ha : a ∈ name) (hb : (lowerChar a == lowerChar b) = true) :
      b ≠ '"' ∧ b ≠ '=' ∧ isBlank b = false := by
    obtain ⟨x, hx, hsame⟩ := h a ha
    refine of_sameLetter hx ?_
    rwa [sameLetter, ← beq_iff_eq.mp hb]
  refine ⟨⟨_, rfl⟩, fun p hp => ?_, fun p hp c hc => ?_⟩
  · rcases List.mem_cons.mp hp with rfl | hp
    · rfl
    rcases List.mem_cons.mp hp with rfl | hp
    · rfl
    obtain ⟨a, ha, rfl⟩ := List.mem_map.mp hp
    by_contra hquote
    exact (hlike ha (Bool.not_eq_false _ ▸ hquote)).1 rfl
  · rcases List.mem_cons.mp hp with rfl | hp
    · obtain rfl : '<' = c := by simpa using hc
      decide
    rcases List.mem_cons.mp hp with rfl | hp
    · obtain rfl : '/' = c := by simpa using hc
      decide
    obtain ⟨a, ha, rfl⟩ := List.mem_map.mp hp
    exact (hlike ha hc).2

theorem lettered_of_fits {letters ds : List Char} (h : ∀ a ∈ letters, a.isAlpha = true)
    (hfits : fits (opening letters) ds = true) : Lettered ((ds.drop 1).take letters.length) := by
  intro a ha
  obtain ⟨j, hj, rfl⟩ := List.mem_iff_getElem.mp ha
  rw [List.length_take] at hj
  have hlt : j < letters.length := by omega
  obtain ⟨c, hc, hlike⟩ := getElem?_of_fits hfits (i := j + 1)
    (p := (CharSet.anyCase letters[j]).mem)
    (by rw [opening, List.getElem?_cons_succ, List.getElem?_map, List.getElem?_eq_getElem hlt]; rfl)
  refine ⟨letters[j], h _ (List.getElem_mem hlt), ?_⟩
  have hat : ((ds.drop 1).take letters.length)[j]? = some c := by
    rw [List.getElem?_take_of_lt hlt, List.getElem?_drop, Nat.add_comm, hc]
  obtain ⟨_, rfl⟩ := List.getElem?_eq_some_iff.mp hat
  exact hlike

variable (h : Spares add cs)
include h

theorem Solid.fits_spread {ps : List (Char → Bool)} (hps : Solid ps) (i : Nat) :
    fits ps (spread add cs i) = fits ps (cs.drop i) := by
  have hsoft : ∀ p ∈ ps, ∀ j, ∀ c ∈ add (i + j), p c = false := by
    intro p hp j c hc
    rcases h.soft _ c hc with rfl | rfl
    · exact hps.quote p hp
    · by_contra hblank
      have hfirm := (hps.firm p hp ' ' (Bool.not_eq_false _ ▸ hblank)).2
      cases hfirm
  rw [Bool.eq_iff_iff]
  constructor
  · intro hfits
    exact (fits_of_inserted hsoft hfits).1
  · intro hfits
    exact fits_inserted hfits fun j hj => h.tight i _ (hps.tight hfits) j (Nat.lt_of_succ_lt hj)

theorem carries_readPast {r : List Char → Option Nat} (hr : Carries add cs r) :
    Carries add cs (readPast r) := by
  intro i
  induction hds : cs.drop i generalizing i with
  | nil =>
    rw [spread, hds]
    rfl
  | cons c ds ih =>
    obtain ⟨hspread, hnext⟩ := spread_cons add hds
    rw [hspread, readPast, readPast]
    split_ifs with hc
    · have hat : cs[i]? = some '>' := by
        rw [← hc, ← List.head?_drop, hds]
        rfl
      have hnil := h.angle i hat
      rw [hnil, List.nil_append, hr (i + 1), hnext, Option.map_map, Option.map_map]
      congr 1
      funext n
      simp only [Function.comp_apply]
      rw [Nat.add_comm 1 n, spreadLength_succ, hnil]
      simp
    · have hskip : ∀ q ∈ add i, q ≠ '>' := by
        intro q hq
        rcases h.soft i q hq with rfl | rfl <;> decide
      rw [readPast_append hskip, ih (i + 1) hnext, Option.map_map, Option.map_map, Option.map_map]
      congr 1
      funext n
      simp only [Function.comp_apply]
      rw [Nat.add_comm 1 n, spreadLength_succ]
      omega

theorem carries_readEndTag {name : List Char} (hname : Lettered name) :
    Carries add cs (readEndTag name) := by
  intro i
  have hsolid := solid_closing hname
  have hlength : (closing name).length = name.length + 2 := by simp [closing]
  rw [readEndTag, hsolid.fits_spread h, readEndTag]
  split_ifs with hfits
  · have htight := hsolid.tight hfits
    rw [hlength] at htight
    obtain ⟨hplace, -, hdrop⟩ := @spread_add _ cs _ _ (h.tight i _ htight)
    have hclose : readClose (spread add cs (i + (name.length + 2))) =
        (readClose (cs.drop (i + (name.length + 2)))).map
          (spreadLength add (i + (name.length + 2))) := by
      refine readClose_inserted (fun j hj => ?_) fun j hj => ?_
      · refine h.blanks i _ (j + 1) (Nat.succ_pos _) htight (fun k hk => ?_) j (Nat.lt_succ_self j)
        rw [← List.getElem?_drop]
        exact hj k (Nat.le_of_lt_succ hk)
      · rw [List.getElem?_drop] at hj
        exact h.angle _ hj
    rw [hdrop, hclose, List.drop_drop, Option.map_map, Option.map_map]
    congr 1
    funext n
    simp only [Function.comp_apply]
    rw [spreadLength_add, hplace]
  · rfl

theorem carries_readNamed {letters : List Char} (hletters : ∀ a ∈ letters, a.isAlpha = true) :
    Carries add cs (readNamed letters) := by
  intro i
  have hsolid := solid_opening hletters
  have hlength : (opening letters).length = letters.length + 1 := by simp [opening]
  rw [readNamed, hsolid.fits_spread h, readNamed]
  by_cases hfits : fits (opening letters) (cs.drop i) = true
  · have htight := hsolid.tight hfits
    rw [hlength] at htight
    obtain ⟨hplace, htake, hdrop⟩ := @spread_add _ cs _ _ (h.tight i _ htight)
    have hsees : sees .word (spread add cs i) (letters.length + 1) =
        sees .word (cs.drop i) (letters.length + 1) := by
      rw [sees, sees, ← List.head?_drop, hdrop, head?_spread, ← List.drop_drop, List.head?_drop]
    have hname : ((spread add cs i).drop 1).take letters.length =
        ((cs.drop i).drop 1).take letters.length := by
      have hfirst := congrArg (List.drop 1) htake
      rwa [List.drop_take, List.drop_take, Nat.add_sub_cancel] at hfirst
    have hskip (name : List Char) (j : Nat) :
        ∀ c ∈ add j, ∀ ds, readEndTag name (c :: ds) = none := by
      intro c hc ds
      rcases h.soft j c hc with rfl | rfl <;> rfl
    have hcontent := carries_readPast h (carries_firstAt
      (carries_readEndTag h (lettered_of_fits hletters hfits)) (hskip _))
    have hrest : cs.drop (i + (letters.length + 1)) = (cs.drop i).drop (letters.length + 1) :=
      List.drop_drop.symm
    rw [hsees, hname, hdrop, hcontent, hrest]
    split_ifs
    · rw [Option.map_map, Option.map_map]
      congr 1
      funext n
      simp only [Function.comp_apply]
      rw [spreadLength_add, hplace]
    · rfl
  · rw [if_neg (c := _ ∧ _) fun h => hfits h.1, if_neg (c := _ ∧ _) fun h => hfits h.1]
    rfl

theorem carries_readRaw : Carries add cs readRaw := by
  intro i
  have hscript := carries_readNamed h isAlpha_names.1 i
  have hstyle := carries_readNamed h isAlpha_names.2 i
  rw [readRaw, hscript, hstyle, ← Option.map_or]
  rfl

end Carried

end CampaignCheck.Html

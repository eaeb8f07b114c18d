import CampaignCheck.Html.Markup
import CampaignCheck.Proofs.Html.Attributes

namespace CampaignCheck.Html

open Pattern

def letterSet : CharSet := .union [.range 'A' 'Z', .range 'a' 'z']

def tailSet : CharSet := .union [.word, .chars ":-"]

def insideSet : CharSet := .butChars "<>"

def slashIf (b : Bool) : List Char := if b then ['/'] else []

/-- A tag as it is written. -/
structure Spelt where
  closing : Bool
  name : List Char
  body : List Char
  selfClosing : Bool

namespace Spelt

def tail (t : Spelt) : List Char := t.body ++ (slashIf t.selfClosing ++ ['>'])

def text (t : Spelt) : List Char := '<' :: (slashIf t.closing ++ (t.name ++ t.tail))

/-- A body ends where the tag does. -/
structure EndsBody (body : List Char) (slash : Bool) : Prop where
  inside : ∀ c ∈ body, insideSet.mem c = true
  last : slash = false → body.getLast? ≠ some '/'

structure Fits (t : Spelt) : Prop where
  first : ∃ c cs, t.name = c :: cs ∧ letterSet.mem c = true ∧ ∀ d ∈ cs, tailSet.mem d = true
  ends : ∀ c ∈ t.tail.head?, tailSet.mem c = false
  body : EndsBody t.body t.selfClosing

def nameStart (t : Spelt) (pos : Nat) : Nat := pos + 1 + (slashIf t.closing).length

def nameStop (t : Spelt) (pos : Nat) : Nat := t.nameStart pos + t.name.length

def bodyStop (t : Spelt) (pos : Nat) : Nat := t.nameStop pos + t.body.length

def slashStop (t : Spelt) (pos : Nat) : Nat := t.bodyStop pos + (slashIf t.selfClosing).length

def found (t : Spelt) (pos : Nat) : Match := ⟨pos, t.slashStop pos + 1,
  #[some (pos + 1), some (t.nameStart pos), some (t.nameStart pos), some (t.nameStop pos),
    some (t.nameStop pos), some (t.bodyStop pos), some (t.bodyStop pos), some (t.slashStop pos)]⟩

end Spelt

open Spelt (EndsBody)

def readEnd : List Char → Option Bool
  | '/' :: '>' :: _ => some true
  | '>' :: _ => some false
  | _ => none

def readBody : List Char → Option (List Char × Bool)
  | [] => none
  | c :: cs =>
    match readEnd (c :: cs) with
    | some slash => some ([], slash)
    | none => if insideSet.mem c then (readBody cs).map fun p => (c :: p.1, p.2) else none

theorem readEnd_iff {cs : List Char} {slash : Bool} :
    readEnd cs = some slash ↔ ∃ rest, cs = slashIf slash ++ '>' :: rest := by
  constructor
  · intro h
    unfold readEnd at h
    split at h
    · next rest =>
      cases h
      exact ⟨rest, rfl⟩
    · next rest =>
      cases h
      exact ⟨rest, rfl⟩
    · cases h
  · rintro ⟨rest, rfl⟩
    cases slash <;> rfl

theorem insideSet_mem (c : Char) : insideSet.mem c = !('<' == c || '>' == c) := rfl

theorem readEnd_of_inside {c : Char} {cs : List Char} (hc : insideSet.mem c = true)
    (h : c = '/' → cs.head? ≠ some '>') : readEnd (c :: cs) = none := by
  unfold readEnd
  split
  · next rest heq =>
    obtain ⟨rfl, rfl⟩ := List.cons.inj heq
    exact absurd rfl (h rfl)
  · next rest heq =>
    obtain ⟨rfl, rfl⟩ := List.cons.inj heq
    cases hc
  · rfl

theorem readBody_of_endsBody {body : List Char} {slash : Bool} (h : EndsBody body slash)
    (rest : List Char) :
    readBody (body ++ (slashIf slash ++ '>' :: rest)) = some (body, slash) := by
  induction body with
  | nil =>
    have hend : readEnd (slashIf slash ++ '>' :: rest) = some slash := readEnd_iff.mpr ⟨rest, rfl⟩
    rw [List.nil_append]
    cases hcs : slashIf slash ++ '>' :: rest with
    | nil => simp at hcs
    | cons c cs =>
      rw [hcs] at hend
      rw [readBody, hend]
  | cons c body ih =>
    have hc := h.inside c List.mem_cons_self
    have hnone : readEnd (c :: (body ++ (slashIf slash ++ '>' :: rest))) = none := by
      refine readEnd_of_inside hc fun hslash hhead => ?_
      cases body with
      | nil =>
        cases slash with
        | true => cases hhead
        | false => exact h.last rfl (by rw [hslash]; rfl)
      | cons d body =>
        obtain rfl : d = '>' := by simpa using hhead
        have hinside := h.inside '>' (by simp)
        cases hinside
    have hbody : EndsBody body slash := by
      refine ⟨fun d hd => h.inside d (List.mem_cons_of_mem c hd), fun hs hlast => ?_⟩
      refine h.last hs ?_
      rw [List.getLast?_cons, hlast]
      rfl
    rw [List.cons_append, readBody, hnone, ih hbody]
    exact if_pos hc

theorem readBody_iff {cs body : List Char} {slash : Bool} : readBody cs = some (body, slash) ↔
    ∃ rest, cs = body ++ (slashIf slash ++ '>' :: rest) ∧ EndsBody body slash := by
  constructor
  · intro h
    induction cs generalizing body with
    | nil => cases h
    | cons c cs ih =>
      rw [readBody] at h
      cases hend : readEnd (c :: cs) with
      | some s =>
        rw [hend] at h
        obtain ⟨rfl, rfl⟩ := Prod.mk.inj (Option.some.inj h)
        obtain ⟨rest, hrest⟩ := readEnd_iff.mp hend
        exact ⟨rest, hrest, by simp, by simp⟩
      | none =>
        rw [hend] at h
        simp only at h
        split_ifs at h with hc
        obtain ⟨⟨body', slash'⟩, hp, heq⟩ := Option.map_eq_some_iff.mp h
        obtain ⟨rfl, rfl⟩ := Prod.mk.inj heq
        obtain ⟨rest, rfl, hbody⟩ := ih hp
        refine ⟨rest, rfl, List.forall_mem_cons.mpr ⟨hc, hbody.inside⟩, fun hs hlast => ?_⟩
        cases body' with
        | nil =>
          obtain rfl : c = '/' := by simpa using hlast
          cases hs
          cases hend
        | cons d body' =>
          rw [List.getLast?_cons_cons] at hlast
          exact hbody.last hs hlast
  · rintro ⟨rest, rfl, hbody⟩
    exact readBody_of_endsBody hbody rest

/-- The tag whose name a text starts with. -/
def readName (closing : Bool) : List Char → Option Spelt
  | [] => none
  | c :: cs =>
    if letterSet.mem c then
      (readBody (cs.dropWhile tailSet.mem)).map fun p =>
        ⟨closing, c :: cs.takeWhile tailSet.mem, p.1, p.2⟩
    else none

def leadingTag : List Char → Option Spelt
  | '<' :: '/' :: cs => readName true cs
  | '<' :: cs => readName false cs
  | _ => none

theorem leadingTag_of_ne {c : Char} (hc : c ≠ '/') (cs : List Char) :
    leadingTag ('<' :: c :: cs) = readName false (c :: cs) := by
  unfold leadingTag
  split
  · next heq =>
    obtain ⟨-, heq⟩ := List.cons.inj heq
    exact absurd (List.cons.inj heq).1 hc
  · next heq =>
    obtain ⟨-, rfl⟩ := List.cons.inj heq
    rfl
  · next hother => exact absurd rfl (hother _)

theorem leadingTag_of_head_ne {cs : List Char} (h : cs.head? ≠ some '<') :
    leadingTag cs = none := by
  unfold leadingTag
  split
  · exact absurd rfl h
  · exact absurd rfl h
  · rfl

theorem readName_iff {closing : Bool} {cs : List Char} {t : Spelt} :
    readName closing cs = some t ↔
      t.closing = closing ∧ t.Fits ∧ ∃ rest, cs = t.name ++ (t.tail ++ rest) := by
  constructor
  · intro h
    cases cs with
    | nil => cases h
    | cons c cs =>
      rw [readName] at h
      split_ifs at h with hc
      obtain ⟨⟨body, slash⟩, hp, rfl⟩ := Option.map_eq_some_iff.mp h
      obtain ⟨rest, hrest, hbody⟩ := readBody_iff.mp hp
      have hsplit := List.takeWhile_append_dropWhile (p := tailSet.mem) (l := cs)
      have htail : body ++ (slashIf slash ++ '>' :: rest) =
          body ++ (slashIf slash ++ ['>']) ++ rest := by simp
      refine ⟨rfl, ⟨⟨c, _, rfl, hc, fun d hd => List.mem_takeWhile_imp hd⟩, ?_, hbody⟩, rest, ?_⟩
      · intro d hd
        refine Text.of_mem_head?_dropWhile d (?_ : d ∈ (cs.dropWhile tailSet.mem).head?)
        rw [hrest, htail, List.head?_append]
        exact Option.mem_def.mpr (Option.or_eq_some_iff.mpr (.inl hd))
      · rw [hrest, htail] at hsplit
        exact congrArg (c :: ·) hsplit.symm
  · rintro ⟨rfl, ⟨⟨c, cs, hname, hc, hcs⟩, hends, hbody⟩, rest, rfl⟩
    obtain ⟨closing, name, body, slash⟩ := t
    obtain rfl : name = c :: cs := hname
    have htail : body ++ (slashIf slash ++ ['>']) ++ rest =
        body ++ (slashIf slash ++ '>' :: rest) := by simp
    have hstop : ∀ d ∈ (body ++ (slashIf slash ++ '>' :: rest)).head?, tailSet.mem d = false := by
      refine fun d hd => hends d ?_
      rw [Spelt.tail]
      cases body with
      | nil => cases slash <;> exact hd
      | cons b body => exact hd
    have hspan := Text.takeWhile_append hcs hstop
    rw [Spelt.tail, htail, List.cons_append, readName, if_pos hc, hspan.1, hspan.2,
      readBody_of_endsBody hbody]
    rfl

theorem leadingTag_iff {cs : List Char} {t : Spelt} :
    leadingTag cs = some t ↔ ∃ rest, cs = t.text ++ rest ∧ t.Fits := by
  constructor
  · intro h
    unfold leadingTag at h
    split at h
    · next ds =>
      obtain ⟨hclosing, hfits, rest, rfl⟩ := readName_iff.mp h
      refine ⟨rest, ?_, hfits⟩
      rw [Spelt.text, hclosing]
      simp [slashIf]
    · next ds hslash =>
      obtain ⟨hclosing, hfits, rest, rfl⟩ := readName_iff.mp h
      refine ⟨rest, ?_, hfits⟩
      rw [Spelt.text, hclosing]
      simp [slashIf]
    · cases h
  · rintro ⟨rest, rfl, hfits⟩
    have hread : readName t.closing (t.name ++ (t.tail ++ rest)) = some t :=
      readName_iff.mpr ⟨rfl, hfits, rest, rfl⟩
    obtain ⟨c, cs, hname, hc, -⟩ := hfits.first
    rw [Spelt.text]
    cases hclosing : t.closing with
    | true =>
      rw [hclosing] at hread
      simp only [slashIf, if_true, List.cons_append, List.nil_append, List.append_assoc]
      exact hread
    | false =>
      rw [hclosing, hname] at hread
      rw [hname]
      have hne : c ≠ '/' := by
        rintro rfl
        cases hc
      simp only [slashIf, Bool.false_eq_true, if_false, List.cons_append, List.nil_append,
        List.append_assoc] at hread ⊢
      rw [leadingTag_of_ne hne]
      exact hread

theorem tagForm_eq : tagForm =
    seq (seq (seq (seq (seq (lit "<") (capture 1 (opt (lit "/"))))
      (capture 2 (seq (one letterSet) (many (one tailSet)))))
      (capture 3 (manyFewest (one insideSet)))) (capture 4 (opt (lit "/")))) (lit ">") := rfl

theorem regular_tagForm : Regular 0 tagForm 8 := by
  have hslash {b n : Nat} (hn : 0 < n) (hb : b ≤ 2 * n - 2) :
      Regular b (capture n (opt (lit "/"))) (2 * n) := .capture hn hb (.atMostOne _ _)
  have hname : Regular 2 (capture 2 (seq (one letterSet) (many (one tailSet)))) 4 :=
    .capture Nat.two_pos (Nat.le_refl _) (.seq (.one _ _) (.many _ _ _))
  have hbody : Regular 4 (capture 3 (manyFewest (one insideSet))) 6 :=
    .capture (by decide) (Nat.le_refl _) (.manyFewest _ _)
  rw [tagForm_eq]
  exact .seq (.seq (.seq (.seq (.seq (.one _ _) (hslash Nat.one_pos (Nat.le_refl _))) hname) hbody)
    (hslash (by decide) (Nat.le_refl _))) (.one _ _)

section Reading

variable {text : Array Char} {g : Sequel} {marks : Marks}

theorem leads_opt_one (text : Array Char) (g : Sequel) (marks : Marks) (set : CharSet)
    (cs : List Char) (pos : Nat) :
    (opt (one set)).leads text g cs pos marks =
      if (cs.head?.map set.mem).getD false then
        (g cs.tail (pos + 1) marks).or (g cs pos marks)
      else g cs pos marks := by
  have hzero (cs : List Char) (pos : Nat) : most set g (some 0) cs pos marks = g cs pos marks := by
    cases cs <;> simp [most]
  rw [opt, leads_most, exactly]
  cases cs with
  | nil => rfl
  | cons c cs =>
    rw [most]
    cases hmem : set.mem c <;> simp [hzero, hmem]

theorem fewest_body {r : Nat → Bool → Nat × Marks}
    (hg : ∀ cs pos, g cs pos marks = (readEnd cs).map (r pos)) (cs : List Char) (pos : Nat) :
    fewest insideSet g cs pos marks = (readBody cs).map fun p => r (pos + p.1.length) p.2 := by
  induction cs generalizing pos with
  | nil =>
    rw [fewest, hg]
    rfl
  | cons c cs ih =>
    rw [fewest, hg, ih, readBody]
    cases readEnd (c :: cs) with
    | some slash => rfl
    | none =>
      simp only [Option.map_none, Option.none_or]
      split_ifs with hc
      · rw [Option.map_map]
        congr 1
        funext p
        simp [Nat.add_assoc, Nat.add_comm 1]
      · rfl

/-- What is found from the end of the body on. -/
theorem leads_end (text : Array Char) (hm : marks.size = 6) (cs : List Char) (pos : Nat) :
    (capture 4 (opt (lit "/"))).leads text ((lit ">").leads text done) cs pos marks =
      (readEnd cs).map fun slash => (pos + (slashIf slash).length + 1,
        (marks.push (some pos)).push (some (pos + (slashIf slash).length))) := by
  have hclose (cs : List Char) (pos : Nat) (marks : Marks) :
      (lit ">").leads text done cs pos marks =
        if cs.head? = some '>' then some (pos + 1, marks) else none := by
    split_ifs with hhead
    · obtain ⟨rest, rfl⟩ := List.head?_eq_some_iff.mp hhead
      exact leads_char_self '>' rest pos
    · exact leads_char_other hhead pos
  rw [leads_capture, show lit "/" = one (.char '/') from rfl, leads_opt_one]
  simp only [hclose, marked_pair hm]
  cases hend : readEnd cs with
  | some slash =>
    obtain ⟨rest, rfl⟩ := readEnd_iff.mp hend
    cases slash <;> simp [slashIf, CharSet.mem]
  | none =>
    have hhead : cs.head? ≠ some '>' := by
      intro hhead
      obtain ⟨rest, rfl⟩ := List.head?_eq_some_iff.mp hhead
      cases hend
    have htail : ((cs.head?.map (CharSet.char '/').mem).getD false = true) →
        cs.tail.head? ≠ some '>' := by
      intro hslash htail
      cases cs with
      | nil => cases hslash
      | cons c cs =>
        obtain rfl : '/' = c := by simpa [CharSet.mem] using hslash
        obtain ⟨rest, rfl⟩ := List.head?_eq_some_iff.mp htail
        cases hend
    rw [if_neg hhead]
    split_ifs with hslash hclosed
    · exact absurd hclosed (htail hslash)
    · rfl
    · rfl

/-- What is found behind the name. -/
theorem leads_behind (text : Array Char) (hm : marks.size = 4) (cs : List Char) (pos : Nat) :
    (capture 3 (manyFewest (one insideSet))).leads text
        ((capture 4 (opt (lit "/"))).leads text ((lit ">").leads text done)) cs pos marks =
      (readBody cs).map fun p =>
        (pos + p.1.length + (slashIf p.2).length + 1,
          (((marks.push (some pos)).push (some (pos + p.1.length))).push
            (some (pos + p.1.length))).push (some (pos + p.1.length + (slashIf p.2).length))) := by
  have hpair (stop : Nat) : marked (marked marks 4 pos) 5 stop =
      (marks.push (some pos)).push (some stop) := marked_pair hm pos stop
  rw [leads_capture, leads_fewest]
  let r (stop : Nat) (slash : Bool) : Nat × Marks :=
    (stop + (slashIf slash).length + 1, (((marks.push (some pos)).push (some stop)).push
      (some stop)).push (some (stop + (slashIf slash).length)))
  refine fewest_body (r := r) (fun cs stop => ?_) cs pos
  have hsize : ((marks.push (some pos)).push (some stop)).size = 6 := by simp [hm]
  have hend := leads_end text hsize cs stop
  rw [← hpair] at hend
  rw [hend, hpair]

end Reading

theorem readEnd_of_tail {c : Char} (hc : tailSet.mem c = true) (cs : List Char) :
    readEnd (c :: cs) = none ∧ insideSet.mem c = true := by
  have hne : c ≠ '/' ∧ c ≠ '>' ∧ c ≠ '<' := by
    refine ⟨?_, ?_, ?_⟩
    all_goals
      rintro rfl
      cases hc
  have hinside : insideSet.mem c = true := by
    simp [insideSet_mem, hne.2.1.symm, hne.2.2.symm]
  exact ⟨readEnd_of_inside hinside fun hslash => absurd hslash hne.1, hinside⟩

/-- The pattern of what stands behind the name. -/
def behindForm : Pattern := seq (capture 3 (manyFewest (one insideSet)))
  (seq (capture 4 (opt (lit "/"))) (lit ">"))

theorem leads_name (text : Array Char) (closing : Bool) (c : Char) (cs : List Char)
    (start pos : Nat) (hpos : pos = start + 1 + (slashIf closing).length) :
    (capture 2 (seq (one letterSet) (many (one tailSet)))).leads text (behindForm.leads text done)
        (c :: cs) pos #[some (start + 1), some pos] =
      (readName closing (c :: cs)).map fun t => ((t.found start).stop, (t.found start).marks) := by
  have hsize (stop : Nat) : #[some (start + 1), some pos, some pos, some stop].size = 4 := rfl
  have hstep (ds : List Char) (stop : Nat) := leads_behind text (hsize stop) ds stop
  have hmany := @most_of_steady
    (fun cs stop marks => behindForm.leads text done cs stop (marked marks 3 stop))
    #[some (start + 1), some pos, some pos] tailSet (fun c cs stop hc hsome => ?_) cs (pos + 1)
  · rw [leads_capture, leads_seq, leads, exactly, readName]
    split_ifs with hc
    · refine hmany.trans ((hstep _ _).trans ?_)
      rw [Option.map_map]
      subst hpos
      congr 1
      funext p
      simp [Spelt.found, Spelt.slashStop, Spelt.bodyStop, Spelt.nameStop, Spelt.nameStart]
      omega
    · rfl
  · obtain ⟨hnone, hinside⟩ := readEnd_of_tail hc cs
    have hread : (readBody (c :: cs)).isSome := by
      have h := congrArg Option.isSome (hstep (c :: cs) stop)
      rw [Option.isSome_map] at h
      rw [← h]
      exact hsome
    rw [readBody, hnone] at hread
    simp only [hinside, if_true, Option.isSome_map] at hread
    have h := congrArg Option.isSome (hstep cs (stop + 1))
    rw [Option.isSome_map, hread] at h
    exact h

/-- The pattern of a tag finds what is written. -/
theorem tryAt_tagForm (cs : List Char) (pos : Nat) :
    tagForm.tryAt cs.toArray pos false = (leadingTag (cs.drop pos)).map (·.found pos) := by
  let k : Sequel := fun cs' stop marks =>
    (capture 2 (seq (one letterSet) (many (one tailSet)))).leads cs.toArray
      (behindForm.leads cs.toArray done) cs' stop (marked marks 1 stop)
  have hname (closing : Bool) (ds : List Char) (stop : Nat)
      (hstop : stop = pos + 1 + (slashIf closing).length) : k ds stop #[some (pos + 1)] =
        (readName closing ds).map fun t => ((t.found pos).stop, (t.found pos).marks) := by
    cases ds with
    | nil => rfl
    | cons c ds => exact leads_name cs.toArray closing c ds pos stop hstop
  have hform : tagForm.leads cs.toArray done (cs.drop pos) pos #[] =
      (leadingTag (cs.drop pos)).map fun t => ((t.found pos).stop, (t.found pos).marks) := by
    have hopen : tagForm.leads cs.toArray done = (one (.char '<')).leads cs.toArray
        ((capture 1 (opt (one (.char '/')))).leads cs.toArray fun cs' stop marks =>
          (capture 2 (seq (one letterSet) (many (one tailSet)))).leads cs.toArray
            (behindForm.leads cs.toArray done) cs' stop marks) := rfl
    rw [hopen]
    generalize cs.drop pos = ds
    by_cases hhead : ds.head? = some '<'
    · obtain ⟨ds, rfl⟩ := List.head?_eq_some_iff.mp hhead
      have hslash := leads_opt_one cs.toArray k #[some (pos + 1)] (.char '/') ds (pos + 1)
      rw [leads_char_self, leads_capture]
      refine hslash.trans ?_
      -- a slash is not given back, since no name starts with it
      cases ds with
      | nil => rfl
      | cons c ds =>
        by_cases hc : c = '/'
        · subst hc
          have hnone : k ('/' :: ds) (pos + 1) #[some (pos + 1)] = none :=
            hname false ('/' :: ds) (pos + 1) rfl
          rw [hnone, Option.or_none]
          exact hname true ds (pos + 1 + 1) rfl
        · have hmem : ((CharSet.char '/').mem c) = false := beq_false_of_ne (Ne.symm hc)
          rw [List.head?_cons, Option.map_some, Option.getD_some, hmem, leadingTag_of_ne hc]
          exact hname false (c :: ds) (pos + 1) rfl
    · rw [leads_char_other hhead, leadingTag_of_head_ne hhead]
      rfl
  rw [tryAt_eq_leads regular_tagForm, hform, Option.map_map]
  rfl

theorem neverEmpty_tagForm : NeverEmpty tagForm := neverEmpty_of_leastWidth (by rfl) (by decide)

theorem lineTag_eq : lineTag =
    seq (seq (seq (lit "<") (one letterSet)) (many (one insideSet))) (lit ">") := rfl

theorem regular_lineTag : Regular 0 lineTag 0 := by
  rw [lineTag_eq]
  exact .seq (.seq (.seq (.one _ _) (.one _ _)) (.many _ _ _)) (.one _ _)

/-- What the pattern of a start tag finds is an angle, a letter and all up to the next angle. -/
theorem of_tryAt_lineTag {cs : List Char} {pos : Nat} {m : Match}
    (h : lineTag.tryAt cs.toArray pos false = some m) : ∃ c inner rest,
      cs.drop pos = '<' :: c :: (inner ++ '>' :: rest) ∧ letterSet.mem c = true ∧
        (∀ d ∈ inner, insideSet.mem d = true) ∧ m.stop = pos + (inner.length + 3) := by
  have hclose (d : Char) (ds : List Char) (pos : Nat) (hd : insideSet.mem d = true) :
      (one (.char '>')).leads cs.toArray done (d :: ds) pos #[] = none := by
    refine leads_char_other (fun hhead => ?_) pos
    obtain rfl : d = '>' := Option.some.inj hhead
    cases hd
  have hmany (ds : List Char) (pos : Nat) := most_of_rigid hclose ds pos
  rw [tryAt_eq_leads regular_lineTag, lineTag_eq] at h
  obtain ⟨r, hr, rfl⟩ := Option.map_eq_some_iff.mp h
  simp only [leads_seq] at hr
  generalize cs.drop pos = ds at hr
  rw [show lit "<" = one (.char '<') from rfl, show lit ">" = one (.char '>') from rfl] at hr
  by_cases hhead : ds.head? = some '<'
  · obtain ⟨ds, rfl⟩ := List.head?_eq_some_iff.mp hhead
    rw [leads_char_self] at hr
    cases ds with
    | nil => cases hr
    | cons c ds =>
      rw [leads, exactly] at hr
      split_ifs at hr with hc
      have hsplit := List.takeWhile_append_dropWhile (p := insideSet.mem) (l := ds)
      have hlast := (hmany ds (pos + 1 + 1)).symm.trans hr
      by_cases hhead : (ds.dropWhile insideSet.mem).head? = some '>'
      · obtain ⟨rest, hrest⟩ := List.head?_eq_some_iff.mp hhead
        rw [hrest, leads_char_self] at hlast
        refine ⟨c, ds.takeWhile insideSet.mem, rest, ?_, hc,
          fun d hd => List.mem_takeWhile_imp hd, ?_⟩
        · rw [← hrest, hsplit]
        · rw [← Option.some.inj hlast]
          simp only
          omega
      · rw [leads_char_other hhead] at hlast
        cases hlast
  · rw [leads_char_other hhead] at hr
    cases hr

theorem neverEmpty_lineTag : NeverEmpty lineTag := neverEmpty_of_leastWidth (by rfl) (by decide)

section Found

variable {cs rest : List Char} {t : Spelt} {pos : Nat} (hcs : cs.drop pos = t.text ++ rest)
include hcs

theorem group_found (n : Nat) (as ds : List Char) {bs : List Char}
    (htext : t.text = as ++ (bs ++ ds))
    (hbounds : (t.found pos).bounds? n = some (pos + as.length, pos + (as ++ bs).length)) :
    (t.found pos).group cs n = bs := by
  rw [htext, List.append_assoc, List.append_assoc] at hcs
  rw [Match.group, Match.group?, hbounds]
  exact Text.slice_of_drop hcs

theorem groups_found : (t.found pos).group cs 1 = slashIf t.closing ∧
    (t.found pos).group cs 2 = t.name ∧ (t.found pos).group cs 3 = t.body ∧
      (t.found pos).group cs 4 = slashIf t.selfClosing := by
  refine ⟨group_found hcs 1 ['<'] (t.name ++ t.tail) ?_ ?_,
    group_found hcs 2 ('<' :: slashIf t.closing) t.tail ?_ ?_,
    group_found hcs 3 ('<' :: (slashIf t.closing ++ t.name)) (slashIf t.selfClosing ++ ['>']) ?_ ?_,
    group_found hcs 4 ('<' :: (slashIf t.closing ++ (t.name ++ t.body))) ['>'] ?_ ?_⟩
  all_goals
    simp [Spelt.text, Spelt.tail, Spelt.found, Match.bounds?, Cursor.boundsIn, Spelt.slashStop,
      Spelt.bodyStop, Spelt.nameStop, Spelt.nameStart]
  all_goals omega

omit hcs in
theorem startOf_found (t : Spelt) (pos : Nat) : (t.found pos).startOf 3 = t.nameStop pos := by
  simp [Match.startOf, Spelt.found, Match.bounds?, Cursor.boundsIn, Spelt.bodyStop]

theorem tagOf_found : tagOf cs (t.found pos) =
    ⟨Text.lower t.name, t.closing, t.selfClosing, pos, attributesIn (t.nameStop pos) t.body⟩ := by
  have hslash (b : Bool) : (!(slashIf b).isEmpty) = b := by cases b <;> rfl
  obtain ⟨hclosing, hname, hbody, hself⟩ := groups_found hcs
  rw [tagOf, hclosing, hname, hbody, hself, startOf_found, hslash, hslash]
  rfl

end Found

theorem exists_spelt {cs : List Char} {m : Match} (h : m ∈ tagForm.findAll cs) :
    ∃ (t : Spelt) (pos : Nat) (rest : List Char),
      m = t.found pos ∧ cs.drop pos = t.text ++ rest ∧ t.Fits := by
  have hhit := ((scans_findAll neverEmpty_tagForm cs).hits m h).1
  rw [tryAt_tagForm] at hhit
  obtain ⟨t, ht, hm⟩ := Option.map_eq_some_iff.mp hhit
  obtain ⟨rest, hrest, hfits⟩ := leadingTag_iff.mp ht
  exact ⟨t, m.start, rest, hm.symm, hrest, hfits⟩

end CampaignCheck.Html

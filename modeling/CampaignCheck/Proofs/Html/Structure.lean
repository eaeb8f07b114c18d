import CampaignCheck.Html.Grammar
import CampaignCheck.Proofs.Lexical.Outline
import CampaignCheck.Proofs.Pattern.Progress
import CampaignCheck.Proofs.Text.Positions
import Mathlib.Data.List.Nodup

namespace CampaignCheck

def Finding.spot (f : Finding) : Nat × Option Nat := (f.line, f.column)

namespace Html

open Text

namespace Tag

/-- The tag opens or closes an element with content. -/
def nests (t : Tag) : Bool := !named voidElements t.name && !t.selfClosing

def endsEarly (t : Tag) : Bool := named optionalClose t.name

def endsLast (t : Tag) : Bool := t.endsEarly || named ["html", "body", "head"] t.name

/-- Where a finding on the tag points to. -/
def spot (cs : List Char) (t : Tag) : Nat × Option Nat :=
  ((positionAt cs t.start).line, some (positionAt cs t.start).column)

def opened (t : Tag) : OpenElement := ⟨t.name, t.start⟩

theorem endsEarly_of_paragraph {t : Tag} (h : t.name = ['p']) : t.endsEarly = true := by
  rw [endsEarly, h]
  decide

end Tag

/-- Every element is closed by an end tag of its name, those opened later first. -/
inductive Nested : List Tag → Prop
  | nil : Nested []
  | wrap {o c : Tag} {inner : List Tag} : o.closing = false → c.closing = true →
      o.name = c.name → Nested inner → Nested (o :: inner ++ [c])
  | append {u v : List Tag} : Nested u → Nested v → Nested (u ++ v)

/-- The names of the elements that are open behind some tags, innermost first, given those that are
open in front. -/
def openNames (names : List (List Char)) (tags : List Tag) : List (List Char) :=
  tags.foldl (fun names t => if t.closing then names.tail else t.name :: names) names

/-- No tag opens a paragraph straight inside a paragraph. -/
def ParagraphsApart (names : List (List Char)) (tags : List Tag) : Prop :=
  ∀ before t, before ++ [t] <+: tags → t.closing = false → t.name = ['p'] →
    (openNames names before).head? ≠ some ['p']

/-- The findings on tags without a partner. -/
def mismatches (found : List Finding) : List Finding :=
  found.filter fun f => f.rule == "html-tag-mismatch"

theorem positionAt_line_pos (cs : List Char) (offset : Nat) : 1 ≤ (positionAt cs offset).line :=
  (positionAt_within_cut cs offset).1

theorem spot_reportAt (cs : List Char) (t : Tag) (rule message : String) (category : Category)
    (severity : Severity) (hint : String) :
    (reportAt cs t.start rule message category severity hint).spot = t.spot cs := by
  have hline := positionAt_line_pos cs t.start
  simp only [reportAt, Finding.report, Finding.spot, Tag.spot, Prod.mk.injEq, and_true]
  omega

/-- No two tags of a text start at the same place. -/
theorem nodup_spots (cs : List Char) : ((tagsIn cs).map (Tag.spot cs)).Nodup := by
  have hleast : 0 < tagForm.leastWidth := by decide
  have hstarts : ((tagForm.findAll cs).map (·.start)).Nodup := by
    refine List.pairwise_map.mpr ((Pattern.findAll_apart (by decide) cs).imp fun h => ?_)
    omega
  have hmap : (tagsIn cs).map (Tag.spot cs) = ((tagForm.findAll cs).map (·.start)).map
      fun i => ((positionAt cs i).line, some (positionAt cs i).column) := by
    rw [tagsIn, List.map_map, List.map_map]
    rfl
  rw [hmap]
  refine hstarts.map_on ?_
  intro i hi j hj hij
  have hlt {i : Nat} (hi : i ∈ (tagForm.findAll cs).map (·.start)) : i ≤ cs.length := by
    obtain ⟨m, hm, rfl⟩ := List.mem_map.mp hi
    exact (Pattern.finds_of_mem_findAll hm).1
  refine eq_of_positionAt_eq (hlt hi) (hlt hj) ?_
  obtain ⟨hline, hcolumn⟩ := Prod.mk.inj hij
  rw [Position.mk.injEq]
  exact ⟨hline, Option.some.inj hcolumn⟩

def elements : Brackets Tag where
  opens t := !t.closing
  closes t := t.closing
  ends c o := o.name == c.name

theorem isBracket_elements (t : Tag) : elements.isBracket t = true := by
  cases h : t.closing <;> simp [Brackets.isBracket, elements, h]

/-- What an outline pairs is properly nested. -/
theorem nested_paired {f : Outline Tag} (hf : f.Fits elements) : Nested f.paired := by
  induction f with
  | empty => exact .nil
  | other f x ih => exact ih hf.1
  | unclosed f o ih => exact ih hf.1
  | stray f c ih => exact ih hf.1
  | block f o i c ihf ihi =>
    obtain ⟨hf, hi, ho, -, hc, he⟩ := hf
    have hopen : o.closing = false := by simpa [elements] using ho
    have hname : o.name = c.name := by simpa [elements] using he
    have hwrap := (ihf hf).append (.wrap hopen hc hname (ihi hi))
    simpa [Outline.paired] using hwrap

/-- A paragraph gives way to the start of another one straight inside it. -/
def giveWay (r : Reading Tag) (t : Tag) : Reading Tag :=
  match r.stack with
  | o :: outer =>
    if o.name = ['p'] ∧ t.closing = false ∧ t.name = ['p'] then
      ⟨outer, r.pairs, r.unclosed ++ [o], r.stray⟩
    else r
  | [] => r

def readTag (r : Reading Tag) (t : Tag) : Reading Tag := elements.read (giveWay r t) t

theorem giveWay_of_apart {r : Reading Tag} {t : Tag}
    (h : t.closing = false → t.name = ['p'] → (r.stack.map (·.name)).head? ≠ some ['p']) :
    giveWay r t = r := by
  unfold giveWay
  split
  · next o outer hs =>
    rw [if_neg]
    rintro ⟨ho, hopen, hname⟩
    exact h hopen hname (by simp [hs, ho])
  · rfl

theorem giveWay_paragraph {r : Reading Tag} {t o : Tag} {outer : List Tag}
    (hs : r.stack = o :: outer) (ho : o.name = ['p']) (ht : t.closing = false)
    (hname : t.name = ['p']) :
    giveWay r t = ⟨outer, r.pairs, r.unclosed ++ [o], r.stray⟩ := by
  rw [giveWay, hs]
  exact if_pos ⟨ho, ht, hname⟩

/-- Every word of tags that is read has an outline. -/
theorem exists_outline (es : List Tag) :
    ∃ f, Outline.Of elements (es.foldl readTag ⟨[], [], [], []⟩) es f := by
  have hrun (v u : List Tag) (r : Reading Tag) (f : Outline Tag) (h : Outline.Of elements r u f) :
      ∃ g, Outline.Of elements (v.foldl readTag r) (u ++ v) g := by
    induction v generalizing u r f with
    | nil => exact ⟨f, by simpa using h⟩
    | cons t v ih =>
      have hgive : Outline.Of elements (giveWay r t) u f := by
        unfold giveWay
        split
        · next o outer hs =>
          split_ifs
          · exact h.abandon hs
          · exact h
        · exact h
      obtain ⟨g, hg⟩ := hgive.read t
      obtain ⟨k, hk⟩ := ih _ _ g hg
      exact ⟨k, by simpa [readTag] using hk⟩
  exact hrun es [] ⟨[], [], [], []⟩ .empty ⟨rfl, trivial, .base _, rfl, .nil, rfl⟩

/-- The open elements are those of the reading, and what is found is on the tags that the reading
leaves alone and that need a partner. -/
structure Nesting.Follows (cs : List Char) (s : Nesting) (r : Reading Tag) : Prop where
  stack : s.stack = r.stack.map Tag.opened
  found : ((mismatches s.found).map Finding.spot).Perm
    (((r.unclosed.filter fun o => !o.endsEarly) ++ r.stray).map (Tag.spot cs))

section Follows

variable {cs : List Char} {s : Nesting} {r : Reading Tag} {t : Tag}

theorem mismatches_append (found more : List Finding) :
    mismatches (found ++ more) = mismatches found ++ mismatches more :=
  List.filter_append ..

/-- An end tag reports the elements inside that one that need an end tag of their own. -/
theorem closeUpTo_innermost (cs : List Char) {name : List Char} {inner : List Tag}
    (outer : List Tag) {o : Tag} (ho : o.name = name) (hinner : ∀ i ∈ inner, i.name ≠ name) :
    (closeUpTo cs name ((inner ++ o :: outer).map Tag.opened)).2 = outer.map Tag.opened ∧
      (mismatches (closeUpTo cs name ((inner ++ o :: outer).map Tag.opened)).1).map Finding.spot =
        (inner.filter fun i => !i.endsEarly).map (Tag.spot cs) := by
  induction inner with
  | nil => simp [closeUpTo, Tag.opened, ho, mismatches]
  | cons i inner ih =>
    obtain ⟨hi, hrest⟩ := List.forall_mem_cons.mp hinner
    obtain ⟨hstack, hfound⟩ := ih hrest
    simp only [List.cons_append, List.map_cons, closeUpTo]
    rw [if_neg (by exact hi)]
    cases hearly : i.endsEarly with
    | true =>
      rw [if_pos (by exact hearly), List.filter_cons_of_neg (by simp [hearly])]
      exact ⟨hstack, hfound⟩
    | false =>
      rw [if_neg (by simpa [Tag.endsEarly, Tag.opened] using hearly),
        List.filter_cons_of_pos (by simp [hearly])]
      refine ⟨hstack, ?_⟩
      rw [mismatches, List.filter_cons_of_pos rfl, List.map_cons, List.map_cons]
      exact congrArg₂ List.cons (spot_reportAt cs i ..) hfound

theorem leave_follows (h : s.Follows cs r) (ht : t.closing = true) :
    (s.leave cs t).Follows cs (readTag r t) := by
  have hopens : elements.opens t = false := by simp [elements, ht]
  have hgive : giveWay r t = r := giveWay_of_apart fun hopen => by simp [ht] at hopen
  have hany : (s.stack.any (·.name == t.name)) = r.stack.any fun o => o.name == t.name := by
    rw [h.stack, List.any_map]
    rfl
  rw [readTag, hgive, Nesting.leave, hany]
  rcases elements.read_cases r t with ⟨ho, -⟩ | ⟨hb, -⟩ | ⟨-, -, hnone, hread⟩ |
    ⟨inner, o, outer, -, -, he, hinner, hs, hread⟩
  · simp [hopens] at ho
  · simp [isBracket_elements] at hb
  · have hstray : (r.stack.any fun o => o.name == t.name) = false :=
      List.any_eq_false.mpr fun o ho => by simpa [elements] using hnone o ho
    rw [hread, if_neg (by simp [hstray])]
    refine ⟨h.stack, ?_⟩
    rw [mismatches_append, List.map_append, ← List.append_assoc, List.map_append]
    refine h.found.append (List.Perm.of_eq ?_)
    exact congrArg (· :: []) (spot_reportAt cs t ..)
  · have hclose : (r.stack.any fun o => o.name == t.name) = true :=
      List.any_eq_true.mpr ⟨o, by simp [hs], he⟩
    rw [hread, if_pos hclose, h.stack, hs]
    have ho : o.name = t.name := by simpa [elements] using he
    have hothers : ∀ i ∈ inner, i.name ≠ t.name := fun i hi => by
      simpa [elements] using hinner i hi
    obtain ⟨hstack, hfound⟩ := closeUpTo_innermost cs outer ho hothers
    refine ⟨hstack, ?_⟩
    have hinside : ((inner.reverse.filter fun o => !o.endsEarly).map (Tag.spot cs)).Perm
        ((inner.filter fun o => !o.endsEarly).map (Tag.spot cs)) :=
      ((List.reverse_perm inner).filter _).map _
    rw [mismatches_append, List.map_append, hfound]
    refine (h.found.append hinside.symm).trans ?_
    simp only [List.filter_append, List.map_append, List.append_assoc]
    exact List.perm_append_comm.append_left _

theorem mismatches_nesting (found : List Finding) (offset : Nat) (message hint : String) :
    mismatches (found ++ [reportAt cs offset "html-invalid-nesting" message .syntactic .error
      hint]) = mismatches found := by
  rw [mismatches_append]
  exact List.append_nil _

/-- A start tag goes on the stack; the start of a paragraph takes another one off it. -/
theorem enter_cases (cs : List Char) (s : Nesting) (t : Tag) :
    (∃ top outer, s.stack = top :: outer ∧ top.name = ['p'] ∧ t.name = ['p'] ∧
      s.enter cs t = ⟨t.opened :: outer, s.found⟩) ∨
    (t.name = ['p'] → (s.stack.map (·.name)).head? ≠ some ['p']) ∧
      (s.enter cs t).stack = t.opened :: s.stack ∧
      mismatches (s.enter cs t).found = mismatches s.found := by
  have hparagraph : t.isNamed "p" = true ↔ t.name = ['p'] := beq_iff_eq
  cases hs : s.stack with
  | nil =>
    simp only [Nesting.enter, hs]
    exact .inr ⟨by simp, rfl, trivial⟩
  | cons top outer =>
    simp only [Nesting.enter, hs, beq_iff_eq, hparagraph]
    by_cases htop : top.name = ['p']
    · rw [if_pos htop]
      by_cases hname : t.name = ['p']
      · rw [if_pos hname]
        exact .inl ⟨top, outer, rfl, htop, hname, rfl⟩
      · refine .inr ⟨fun h => absurd h hname, ?_⟩
        rw [if_neg hname]
        split_ifs
        · exact ⟨rfl, mismatches_nesting ..⟩
        · exact ⟨rfl, rfl⟩
    · rw [if_neg htop]
      exact .inr ⟨fun _ => by simpa using htop, rfl, rfl⟩

theorem enter_follows (h : s.Follows cs r) (ht : t.closing = false) :
    (s.enter cs t).Follows cs (readTag r t) := by
  have hopens : elements.opens t = true := by simp [elements, ht]
  have hnames : s.stack.map (·.name) = r.stack.map (·.name) := by
    rw [h.stack, List.map_map]
    rfl
  rw [readTag, Brackets.read_opener hopens]
  rcases enter_cases cs s t with ⟨top, outer, hs, htop, hname, henter⟩ | ⟨hapart, hstack, hfound⟩
  · -- The outer paragraph needs no end tag, so nothing is found on it.
    rw [h.stack] at hs
    obtain ⟨o, inner, hr, rfl, rfl⟩ := List.map_eq_cons_iff.mp hs
    rw [giveWay_paragraph hr htop ht hname, henter]
    refine ⟨rfl, ?_⟩
    rw [List.filter_append, List.filter_cons_of_neg (by simp [Tag.endsEarly_of_paragraph htop]),
      List.filter_nil, List.append_nil]
    exact h.found
  · rw [hnames] at hapart
    rw [giveWay_of_apart fun _ => hapart]
    refine ⟨by rw [hstack, h.stack, List.map_cons], ?_⟩
    rw [hfound]
    exact h.found

theorem step_follows (h : s.Follows cs r) (ht : t.nests = true) :
    (s.step cs t).Follows cs (readTag r t) := by
  obtain ⟨hvoid, hself⟩ : named voidElements t.name = false ∧ t.selfClosing = false := by
    simpa [Tag.nests] using ht
  unfold Nesting.step
  rw [if_neg (by simp [hvoid]), if_neg (by simp [hself])]
  cases hc : t.closing with
  | true => exact leave_follows h hc
  | false => exact enter_follows h hc

/-- Elements without content do not matter. -/
theorem step_passes_over (h : s.Follows cs r) (ht : t.nests = false) :
    (s.step cs t).Follows cs r := by
  have hcases : named voidElements t.name = true ∨ t.selfClosing = true := by
    cases hv : named voidElements t.name <;> simp_all [Tag.nests]
  unfold Nesting.step
  split_ifs with hvoid hclosing hself
  · refine ⟨h.stack, ?_⟩
    rw [mismatches_append]
    simpa [mismatches, reportAt, Finding.report] using h.found
  · exact h
  · exact h
  · simp_all
  · simp_all

theorem foldl_step_follows (tags : List Tag) (h : s.Follows cs r) :
    (tags.foldl (Nesting.step cs) s).Follows cs ((tags.filter Tag.nests).foldl readTag r) := by
  induction tags generalizing s r with
  | nil => exact h
  | cons t tags ih =>
    cases ht : t.nests with
    | true =>
      rw [List.filter_cons_of_pos ht]
      exact ih (step_follows h ht)
    | false =>
      rw [List.filter_cons_of_neg (by simp [ht])]
      exact ih (step_passes_over h ht)

end Follows

def reportedTags (r : Reading Tag) : List Tag :=
  (r.unclosed.filter fun o => !o.endsEarly) ++ r.stray ++ r.stack.filter fun o => !o.endsLast

/-- The elements whose end tag was left out by right. -/
def leftOpen (r : Reading Tag) : List Tag :=
  r.unclosed.filter Tag.endsEarly ++ r.stack.filter Tag.endsLast

theorem spots_neverClosed (cs : List Char) (os : List Tag) :
    (mismatches ((os.map Tag.opened).flatMap (neverClosed cs))).map Finding.spot =
      (os.filter fun o => !o.endsLast).map (Tag.spot cs) := by
  induction os with
  | nil => rfl
  | cons o os ih =>
    rw [List.map_cons, List.flatMap_cons, mismatches_append, List.map_append, ih]
    cases hlast : o.endsLast with
    | true =>
      have hnone : neverClosed cs o.opened = [] := if_pos hlast
      rw [hnone, List.filter_cons_of_neg (by simp [hlast])]
      rfl
    | false =>
      rw [neverClosed, if_neg (by simpa [Tag.endsLast, Tag.endsEarly, Tag.opened] using hlast),
        List.filter_cons_of_pos (by simp [hlast]), List.map_cons]
      exact congrArg (· :: _) (spot_reportAt cs o ..)

/-- What is reported is on the tags that the reading leaves alone. -/
theorem spots_structureFindings (cs : List Char) (tags : List Tag) :
    ((mismatches (structureFindings cs tags)).map Finding.spot).Perm
      ((reportedTags ((tags.filter Tag.nests).foldl readTag ⟨[], [], [], []⟩)).map
        (Tag.spot cs)) := by
  have hstart : Nesting.Follows cs ⟨[], []⟩ ⟨[], [], [], []⟩ := ⟨rfl, .nil⟩
  have h := foldl_step_follows tags hstart
  generalize (tags.filter Tag.nests).foldl readTag ⟨[], [], [], []⟩ = r at h ⊢
  rw [structureFindings, mismatches_append, List.map_append, h.stack, ← List.map_reverse,
    spots_neverClosed, reportedTags, List.map_append]
  exact h.found.append (((List.reverse_perm r.stack).filter _).map _)

theorem endsLast_of_mem_leftOpen {r : Reading Tag} {t : Tag} (ht : t ∈ leftOpen r) :
    t.endsLast = true := by
  rcases List.mem_append.mp ht with hm | hm
  · have hearly := (List.mem_filter.mp hm).2
    simp [Tag.endsLast, hearly]
  · exact (List.mem_filter.mp hm).2

section Alone

variable {r : Reading Tag} {es : List Tag} {f : Outline Tag} (hf : Outline.Of elements r es f)
include hf

theorem closing_of_mem_leftOpen {t : Tag} (ht : t ∈ leftOpen r) : t.closing = false := by
  have hmem : t ∈ f.unclosedOnes := by
    rw [hf.unclosed.mem_iff]
    simp only [leftOpen, List.mem_append, List.mem_filter] at ht ⊢
    tauto
  simpa [elements] using (Outline.of_mem_unclosedOnes hf.fits hmem).2

theorem tags_perm : es.Perm (f.paired ++ (f.unclosedOnes ++ f.strayOnes)) := by
  have h := Outline.brackets_perm hf.fits
  rwa [hf.word, List.filter_eq_self.mpr fun t _ => isBracket_elements t] at h

/-- A tag left alone is reported or left open. -/
theorem alone_perm : (f.unclosedOnes ++ f.strayOnes).Perm (leftOpen r ++ reportedTags r) := by
  have hsplit (l : List Tag) (p : Tag → Bool) : (l.filter p ++ l.filter fun t => !p t).Perm l :=
    List.filter_append_perm p l
  classical
  rw [List.perm_iff_count]
  intro t
  have hunclosed := (List.perm_iff_count.mp hf.unclosed) t
  have hinner := (List.perm_iff_count.mp (hsplit r.unclosed Tag.endsEarly)) t
  have hstack := (List.perm_iff_count.mp (hsplit r.stack Tag.endsLast)) t
  simp only [leftOpen, reportedTags, hf.stray, List.count_append] at *
  omega

variable {cs : List Char} (hes : (es.map (Tag.spot cs)).Nodup)
include hes

/-- The tags in pairs, those left open and those reported are different tags. -/
theorem nodup_kinds : ((f.paired ++ (leftOpen r ++ reportedTags r)).map (Tag.spot cs)).Nodup :=
  (((tags_perm hf).trans ((alone_perm hf).append_left _)).map _).nodup_iff.mp hes

variable {found : List Finding}
  (hfound : (found.map Finding.spot).Perm ((reportedTags r).map (Tag.spot cs)))
include hfound

theorem existsUnique_tag {g : Finding} (hg : g ∈ found) : ∃! t, t ∈ es ∧ g.spot = t.spot cs := by
  obtain ⟨t, ht, hspot⟩ := List.mem_map.mp (hfound.mem_iff.mp (List.mem_map_of_mem hg))
  have hmem : t ∈ es := by
    rw [(tags_perm hf).mem_iff, List.mem_append, (alone_perm hf).mem_iff]
    exact .inr (List.mem_append_right _ ht)
  refine ⟨t, ⟨hmem, hspot.symm⟩, ?_⟩
  rintro u ⟨hu, hg⟩
  exact List.inj_on_of_nodup_map hes hu hmem (hg.symm.trans hspot.symm)

theorem length_filter_spot_le (t : Tag) :
    (found.filter fun g => g.spot == t.spot cs).length ≤ 1 := by
  have hkinds := nodup_kinds hf hes
  rw [List.map_append, List.map_append, List.nodup_append', List.nodup_append'] at hkinds
  have hcount := List.nodup_iff_count_le_one.mp (hfound.nodup_iff.mpr hkinds.2.1.2.1) (t.spot cs)
  rw [List.count, List.countP_map, List.countP_eq_length_filter] at hcount
  exact hcount

theorem nested_rest : Nested (es.filter fun t =>
    decide (t ∉ leftOpen r) && decide (t.spot cs ∉ found.map Finding.spot)) := by
  have hkinds := nodup_kinds hf hes
  rw [List.map_append, List.nodup_append', List.map_append] at hkinds
  have hreported (t : Tag) : t.spot cs ∈ found.map Finding.spot ↔
      t.spot cs ∈ (reportedTags r).map (Tag.spot cs) := hfound.mem_iff
  have halone : ∀ t ∈ f.unclosedOnes ++ f.strayOnes,
      (decide (t ∉ leftOpen r) && decide (t.spot cs ∉ found.map Finding.spot)) = false := by
    intro t ht
    rcases List.mem_append.mp ((alone_perm hf).mem_iff.mp ht) with hleft | hrep
    · simp [hleft]
    · have hm := (hreported t).mpr (List.mem_map_of_mem hrep)
      simp [hm]
  rw [List.forall_mem_append] at halone
  have hpaired : ∀ t ∈ f.paired,
      (decide (t ∉ leftOpen r) && decide (t.spot cs ∉ found.map Finding.spot)) = true := by
    intro t ht
    have hapart := hkinds.2.2 (List.mem_map_of_mem ht)
    have hleft : t ∉ leftOpen r :=
      fun hm => hapart (List.mem_append_left _ (List.mem_map_of_mem hm))
    have hrep : t.spot cs ∉ found.map Finding.spot :=
      fun hm => hapart (List.mem_append_right _ ((hreported t).mp hm))
    simp [hleft, hrep]
  have hfilter := Outline.filter_word_eq_paired hf.fits
    (fun t ht => by simp [isBracket_elements] at ht) halone.1 halone.2 hpaired
  rw [hf.word] at hfilter
  rw [hfilter]
  exact nested_paired hf.fits

end Alone

theorem openNames_append (names : List (List Char)) (u v : List Tag) :
    openNames names (u ++ v) = openNames (openNames names u) v :=
  List.foldl_append ..

theorem openNames_nested {es : List Tag} (h : Nested es) (names : List (List Char)) :
    openNames names es = names := by
  induction h generalizing names with
  | nil => rfl
  | @wrap o c inner ho hc _ _ ih =>
    rw [openNames_append]
    have hopen : openNames names (o :: inner) = openNames (o.name :: names) inner := by
      simp [openNames, ho]
    rw [hopen, ih]
    simp [openNames, hc]
  | append _ _ ihu ihv => rw [openNames_append, ihu, ihv]

theorem ParagraphsApart.append {names : List (List Char)} {u v : List Tag}
    (h : ParagraphsApart names (u ++ v)) :
    ParagraphsApart names u ∧ ParagraphsApart (openNames names u) v := by
  constructor
  · intro before t hinitial
    exact h before t (hinitial.trans (List.prefix_append u v))
  · intro before t hinitial ht hname
    have hall := h (u ++ before) t (by simpa using hinitial) ht hname
    rwa [openNames_append] at hall

/-- A nested word leaves everything as it is, but for its pairs. -/
theorem foldl_readTag_nested {es : List Tag} (h : Nested es) (r : Reading Tag)
    (hp : ParagraphsApart (r.stack.map (·.name)) es) :
    ∃ pairs, es.foldl readTag r = { r with pairs := pairs } := by
  induction h generalizing r with
  | nil => exact ⟨r.pairs, rfl⟩
  | @wrap o c inner ho hc hname hin ih =>
    have hopen : readTag r o = { r with stack := o :: r.stack } := by
      have hfirst := hp [] o (by simp) ho
      rw [readTag, giveWay_of_apart fun _ => hfirst,
        Brackets.read_opener (by simp [elements, ho])]
    have hinner : ParagraphsApart ((o :: r.stack).map (·.name)) inner := by
      have h := (ParagraphsApart.append (u := [o]) (ParagraphsApart.append hp).1).2
      simpa [openNames, ho] using h
    obtain ⟨pairs, hrun⟩ := ih (readTag r o) (by rw [hopen]; exact hinner)
    rw [hopen] at hrun
    have hclose (r' : Reading Tag) (hs : r'.stack = o :: r.stack) :
        readTag r' c = ⟨r.stack, r'.pairs ++ [(o, c)], r'.unclosed, r'.stray⟩ := by
      have hnone : ∀ i ∈ ([] : List Tag), elements.ends c i = false := by simp
      rw [readTag, giveWay_of_apart fun h => absurd (hc.symm.trans h) (by decide),
        Brackets.read_closer (by simp [elements, hc]) hc (by simp [elements, hname]) hnone hs,
        List.reverse_nil, List.append_nil]
    refine ⟨pairs ++ [(o, c)], ?_⟩
    have hthrough : (o :: inner).foldl readTag r =
        ⟨o :: r.stack, pairs, r.unclosed, r.stray⟩ := by
      rw [List.foldl_cons, hopen, hrun]
    rw [List.foldl_append, hthrough, List.foldl_cons, List.foldl_nil, hclose _ rfl]
  | @append u v hu hv ihu ihv =>
    obtain ⟨hpu, hpv⟩ := hp.append
    obtain ⟨pairs, hrun⟩ := ihu r hpu
    rw [openNames_nested hu] at hpv
    rw [List.foldl_append, hrun]
    exact ihv { r with pairs := pairs } hpv

/-- Matching of tags is exact but for end tags that may be left out. Each finding is on one tag of
an element with content and no two are on the same; some elements whose end tag may be left out can
be chosen so that the page without them and without the tags reported is properly nested; and on a
page that is properly nested, with no paragraph straight in another, there is no finding. -/
theorem tag_matching_exact (code : List Char) :
    let cs := tagText code
    let es := (tagsIn cs).filter Tag.nests
    let found := mismatches (structureFindings cs (tagsIn cs))
    (∀ f ∈ found, ∃! t, t ∈ es ∧ f.spot = t.spot cs) ∧
      (∀ t ∈ es, (found.filter fun f => f.spot == t.spot cs).length ≤ 1) ∧
      (∃ dropped ⊆ es, (∀ t ∈ dropped, t.closing = false ∧ t.endsLast = true) ∧
        Nested (es.filter fun t =>
          decide (t ∉ dropped) && decide (t.spot cs ∉ found.map Finding.spot))) ∧
      (Nested es → ParagraphsApart [] es → found = []) := by
  intro cs es found
  obtain ⟨f, hf⟩ := exists_outline es
  have hes : (es.map (Tag.spot cs)).Nodup := (List.filter_sublist.map _).nodup (nodup_spots cs)
  have hfound : (found.map Finding.spot).Perm
      ((reportedTags (es.foldl readTag ⟨[], [], [], []⟩)).map (Tag.spot cs)) :=
    spots_structureFindings cs (tagsIn cs)
  refine ⟨fun g hg => existsUnique_tag hf hes hfound hg,
    fun t _ => length_filter_spot_le hf hes hfound t,
    ⟨leftOpen _, ?_, ?_, nested_rest hf hes hfound⟩, ?_⟩
  · intro t ht
    rw [(tags_perm hf).mem_iff, List.mem_append, (alone_perm hf).mem_iff]
    exact .inr (List.mem_append_left _ ht)
  · intro t ht
    exact ⟨closing_of_mem_leftOpen hf ht, endsLast_of_mem_leftOpen ht⟩
  · intro hnested hapart
    obtain ⟨pairs, hrun⟩ := foldl_readTag_nested hnested ⟨[], [], [], []⟩ hapart
    rw [hrun] at hfound
    exact List.map_eq_nil_iff.mp hfound.eq_nil

end Html

end CampaignCheck

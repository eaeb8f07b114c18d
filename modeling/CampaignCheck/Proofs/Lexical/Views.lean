import CampaignCheck.Ampscript.Regions
import CampaignCheck.Html.Markup
import CampaignCheck.Lexical.Mask
import CampaignCheck.Proofs.Pattern.Progress
import CampaignCheck.Proofs.Text.Stretch
import CampaignCheck.Ssjs.View

namespace CampaignCheck

/-- The view has every character of the source in its place, or a blank there. -/
def Text.Shows (view source : List Char) : Prop :=
  List.Forall₂ (fun d c => d = c ∨ d = ' ') view source

/-- A view of a whole text that also keeps every line feed and adds none. -/
def Text.ShowsLines (view source : List Char) : Prop :=
  List.Forall₂ (fun d c => (d = c ∨ d = ' ') ∧ (d = '\n' ↔ c = '\n')) view source

namespace Text

theorem Shows.refl (cs : List Char) : Shows cs cs := List.forall₂_same.mpr fun _ _ => .inl rfl

theorem Shows.length_eq {view source : List Char} (h : Shows view source) :
    view.length = source.length := List.Forall₂.length_eq h

/-- A view has no characters but blanks and those of its source. -/
theorem Shows.mem {view source : List Char} (h : Shows view source) {c : Char} (hc : c ∈ view) :
    c ∈ source ∨ c = ' ' := by
  induction h with
  | nil => simp at hc
  | cons hd _ ih =>
    rcases List.mem_cons.mp hc with rfl | hc
    · rcases hd with rfl | rfl
      · exact .inl (by simp)
      · exact .inr rfl
    · rcases ih hc with h | h
      · exact .inl (by simp [h])
      · exact .inr h

theorem Shows.getElem? {view source : List Char} (h : Shows view source) (i : Nat) :
    view[i]? = source[i]? ∨ view[i]? = some ' ' := by
  induction h generalizing i with
  | nil => exact .inl rfl
  | cons hd _ ih =>
    cases i with
    | zero => rcases hd with rfl | rfl <;> simp
    | succ i => simpa using ih i

theorem Shows.getElem?_of_ne {view source : List Char} (h : Shows view source) {i : Nat} {c : Char}
    (hc : c ≠ ' ') (hview : view[i]? = some c) : source[i]? = some c := by
  rcases h.getElem? i with hsame | hblank
  · rwa [← hsame]
  · rw [hview] at hblank
    exact absurd (Option.some.inj hblank) hc

/-- Where signs of the source are repeated, signs and blanks of the view are. -/
theorem Shows.pliant {k : Nat → Nat} {view source : List Char} (h : Shows view source)
    (hk : Pliant k source) : Pliant k view := by
  intro i hi
  rcases h.getElem? i with hc | hc
  · rw [hc]
    exact hk i hi
  · exact .inr hc

theorem shows_lines_refl (ls : List (List Char)) : List.Forall₂ Shows ls ls :=
  List.forall₂_same.mpr fun l _ => .refl l

theorem shows_of_getElem? {views sources : List (List Char)}
    (h : List.Forall₂ Shows views sources) {i : Nat} {view source : List Char}
    (hview : views[i]? = some view) (hsource : sources[i]? = some source) : Shows view source := by
  obtain ⟨hlt, rfl⟩ := List.getElem?_eq_some_iff.mp hview
  obtain ⟨hlt', rfl⟩ := List.getElem?_eq_some_iff.mp hsource
  exact (List.forall₂_iff_get.mp h).2 i hlt hlt'

theorem lengths_of_shows {views sources : List (List Char)} (h : List.Forall₂ Shows views sources) :
    views.map List.length = sources.map List.length := by
  induction h with
  | nil => rfl
  | cons hd _ ih => rw [List.map_cons, List.map_cons, hd.length_eq, ih]

theorem ShowsLines.trans {a b c : List Char} (hab : ShowsLines a b) (hbc : ShowsLines b c) :
    ShowsLines a c := by
  unfold ShowsLines at *
  induction hab generalizing c with
  | nil =>
    cases hbc
    exact .nil
  | cons hd _ ih =>
    cases hbc with
    | cons he hs =>
      refine .cons ⟨?_, hd.2.trans he.2⟩ (ih hs)
      rcases hd.1 with rfl | rfl
      · exact he.1
      · exact .inr rfl

end Text

namespace Mask

theorem step_fst (x : Lexicon) (here : Text.Position) (s : State) (c : Char) (rest : List Char) :
    (step x here s c rest).1 = c ∨ (step x here s c rest).1 = ' ' := by
  have hcode : (inCode x here c rest).1 = c ∨ (inCode x here c rest).1 = ' ' := by
    unfold inCode
    split_ifs <;> simp
  have hcomment (stop : List Char) : (inComment stop c rest).1 = ' ' := by
    unfold inComment blankMarker
    split_ifs <;> rfl
  have hout : (outside x here c rest).1 = c ∨ (outside x here c rest).1 = ' ' := by
    unfold outside blankMarker
    split
    · split_ifs
      · exact .inr rfl
      · exact hcode
    · exact hcode
  unfold step
  split
  · exact .inr rfl
  · split
    · exact .inr (hcomment _)
    · exact hout
  · split_ifs <;> simp
  · split
    · exact .inr (hcomment _)
    · exact hout

theorem chars_shows (x : Lexicon) (number column : Nat) (s : State) (cs : List Char) :
    Text.Shows (chars x number column s cs).1 cs := by
  induction cs generalizing column s with
  | nil => exact .nil
  | cons c cs ih => exact .cons (step_fst x ⟨number, column⟩ s c cs) (ih (column + 1) _)

theorem linesFrom_cons (x : Lexicon) (number : Nat) (context : Context) (raw : List Char)
    (rest : List (List Char)) :
    linesFrom x number context (raw :: rest) =
      let masked := chars x number 0 ⟨0, context⟩ raw
      let ended := endLine x masked.2.context
      let more := linesFrom x (number + 1) ended.2 rest
      (⟨number, raw, masked.1⟩ :: more.1, ended.1 ++ more.2) := by
  rw [linesFrom]

theorem linesFrom_shows (x : Lexicon) (number : Nat) (context : Context) (ls : List (List Char)) :
    List.Forall₂ Text.Shows ((linesFrom x number context ls).1.map (·.masked)) ls := by
  induction ls generalizing number context with
  | nil => cases context <;> exact .nil
  | cons raw rest ih =>
    rw [linesFrom_cons]
    exact .cons (chars_shows x number 0 _ raw) (ih (number + 1) _)

theorem linesFrom_numbers (x : Lexicon) (number : Nat) (context : Context)
    (ls : List (List Char)) :
    (linesFrom x number context ls).1.map (·.number) = List.range' number ls.length := by
  induction ls generalizing number context with
  | nil => cases context <;> rfl
  | cons raw rest ih =>
    rw [linesFrom_cons]
    exact congrArg (List.cons number) (ih (number + 1) _)

theorem linesFrom_raws (x : Lexicon) (number : Nat) (context : Context) (ls : List (List Char)) :
    (linesFrom x number context ls).1.map (·.raw) = ls := by
  induction ls generalizing number context with
  | nil => cases context <;> rfl
  | cons raw rest ih =>
    rw [linesFrom_cons]
    exact congrArg (List.cons raw) (ih (number + 1) _)

end Mask

namespace Ampscript

theorem regionChars_shows (raw : List Char) (number i : Nat) (keep : List Bool) (zone : Zone)
    (cs : List Char) : Text.Shows (regionChars raw number i keep zone cs).1 cs := by
  have hite (b : Bool) (c : Char) : (if b then c else ' ') = c ∨ (if b then c else ' ') = ' ' := by
    cases b <;> simp
  induction cs generalizing i keep zone with
  | nil => cases keep <;> exact .nil
  | cons c cs ih =>
    cases keep with
    | nil => exact .cons (hite _ c) (ih (i + 1) _ _)
    | cons b keep => exact .cons (hite b c) (ih (i + 1) keep zone)

theorem regionLines_shows (number : Nat) (zone : Zone) (ls : List (List Char)) :
    List.Forall₂ Text.Shows (regionLines number zone ls).1 ls := by
  induction ls generalizing number zone with
  | nil => exact .nil
  | cons raw rest ih => exact .cons (regionChars_shows raw number 0 [] zone raw) (ih (number + 1) _)

theorem regions_shows (ls : List (List Char)) :
    List.Forall₂ Text.Shows (Regions.of ls).lines ls := by
  unfold Regions.of
  split_ifs
  · exact Text.shows_lines_refl ls
  · have h := regionLines_shows 1 .outside ls
    generalize regionLines 1 .outside ls = r at h
    obtain ⟨kept, zone, issues⟩ := r
    cases zone <;> exact h

end Ampscript

namespace Ssjs

theorem viewChars_shows (raw : List Char) (i blanks : Nat) (inside : Bool) (cs : List Char) :
    Text.Shows (viewChars raw i blanks inside cs).1 cs := by
  fun_induction viewChars raw i blanks inside cs with
  | case1 => exact .nil
  | case2 i n inside c cs ds last h ih =>
    rw [h] at ih
    exact .cons (.inr rfl) ih
  | case3 i c cs m hm ds last h ih =>
    rw [h] at ih
    exact .cons (.inr rfl) ih
  | case4 i c cs hm ds last h ih =>
    rw [h] at ih
    exact .cons (.inl rfl) ih
  | case5 i c cs m hm ds last h ih =>
    rw [h] at ih
    exact .cons (.inr rfl) ih
  | case6 i c cs hm ds last h ih =>
    rw [h] at ih
    exact .cons (.inr rfl) ih

theorem viewLines_shows (inside : Bool) (ls : List (List Char)) :
    List.Forall₂ Text.Shows (viewLines inside ls) ls := by
  induction ls generalizing inside with
  | nil => exact .nil
  | cons raw rest ih => exact .cons (viewChars_shows raw 0 0 inside raw) (ih _)

theorem view_shows (ls : List (List Char)) : List.Forall₂ Text.Shows (view ls) ls := by
  unfold view
  split_ifs
  · exact viewLines_shows false ls
  · exact Text.shows_lines_refl ls

end Ssjs

namespace Html

theorem erased_showsLines (cs : List Char) : Text.ShowsLines (erased cs) cs := by
  unfold erased
  induction cs with
  | nil => exact .nil
  | cons c cs ih =>
    refine .cons ?_ ih
    by_cases hc : c = '\n' <;> simp [hc]

theorem blanked_showsLines {p : Pattern} (hp : p.isPossessive = false) (cs : List Char) :
    Text.ShowsLines (blanked p cs) cs :=
  Pattern.forall₂_replaceAll (fun _ => ⟨.inl rfl, .rfl⟩) hp fun m _ => erased_showsLines (m.text cs)

theorem markup_showsLines (code : List Char) : Text.ShowsLines (markup code) code :=
  (blanked_showsLines (by decide) _).trans (blanked_showsLines (by decide) code)

theorem tagText_showsLines (code : List Char) : Text.ShowsLines (tagText code) code :=
  (blanked_showsLines (by decide) _).trans (markup_showsLines code)

end Html

/-- Every view of a source keeps its places: masked lines, whatever the lexicon, are numbered from
one and show the lines given, script regions and the script of a page show them too, and blanked
markup shows the text with its line feeds. -/
theorem views_keep_places :
    (∀ (x : Lexicon) (ls : List (List Char)),
      List.Forall₂ Text.Shows ((MaskedSource.ofLines x ls).lines.map (·.masked)) ls ∧
      (MaskedSource.ofLines x ls).lines.map (·.raw) = ls ∧
      (MaskedSource.ofLines x ls).lines.map (·.number) = List.range' 1 ls.length) ∧
    (∀ ls, List.Forall₂ Text.Shows (Ampscript.Regions.of ls).lines ls) ∧
    (∀ ls, List.Forall₂ Text.Shows (Ssjs.view ls) ls) ∧
    ∀ code, Text.ShowsLines (Html.markup code) code ∧ Text.ShowsLines (Html.tagText code) code := by
  refine ⟨?_, Ampscript.regions_shows, Ssjs.view_shows, ?_⟩
  · intro x ls
    exact ⟨Mask.linesFrom_shows x 1 .code ls, Mask.linesFrom_raws x 1 .code ls,
      Mask.linesFrom_numbers x 1 .code ls⟩
  · intro code
    exact ⟨Html.markup_showsLines code, Html.tagText_showsLines code⟩

end CampaignCheck

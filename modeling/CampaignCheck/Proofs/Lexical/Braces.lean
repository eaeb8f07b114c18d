import CampaignCheck.Proofs.Lexical.Balance
import CampaignCheck.Proofs.Lexical.BlockPairs

namespace CampaignCheck

namespace Pattern

theorem tryAt_one (set : CharSet) (text : Array Char) (pos : Nat) (nonempty : Bool) :
    (one set).tryAt text pos nonempty =
      if (text[pos]?.map set.mem).getD false then some ⟨pos, pos + 1, #[]⟩ else none := by
  unfold tryAt
  simp only [run]
  cases text[pos]? with
  | none => rfl
  | some c =>
    cases hc : set.mem c <;> simp [hc]

/-- A scan for one character of a set stops at every one, in order. -/
theorem scan_one (set : CharSet) (done rest : List Char) {bound : Nat} (hb : rest.length < bound) :
    (one set).scan (done ++ rest).toArray bound done.length false =
      ((rest.zipIdx done.length).filter fun c => set.mem c.1).map fun c => ⟨c.2, c.2 + 1, #[]⟩ := by
  -- On what is left of the text; the bound has to stay general, for a match uses up one unit of it
  -- and a character that is passed over uses up none.
  induction rest generalizing done bound with
  | nil =>
    obtain ⟨bound, rfl⟩ : ∃ n, bound = n + 1 := ⟨bound - 1, by simp at hb; omega⟩
    simp [scan, tryFrom, tryAt_one]
  | cons c rest ih =>
    obtain ⟨bound, rfl⟩ : ∃ n, bound = n + 1 := ⟨bound - 1, by simp at hb; omega⟩
    have hsize : (done ++ c :: rest).toArray.size - done.length = rest.length + 1 := by simp
    have hnext {n : Nat} (hn : rest.length < n) := ih (done ++ [c]) hn
    simp only [List.append_assoc, List.singleton_append, List.length_append,
      List.length_singleton] at hnext
    by_cases hc : set.mem c = true
    · have hfirst : (one set).tryFrom (done ++ c :: rest).toArray (rest.length + 1) done.length
          false = some ⟨done.length, done.length + 1, #[]⟩ := by
        simp [tryFrom, tryAt_one, hc]
      have hfull : (⟨done.length, done.length + 1, #[]⟩ : Match).isEmpty = false := by
        simp [Match.isEmpty]
      rw [scan, hsize, hfirst]
      simp only [hfull]
      rw [hnext (by simp at hb; omega)]
      simp [List.zipIdx_cons, hc]
    · have hskip : (one set).tryFrom (done ++ c :: rest).toArray (rest.length + 1) done.length
          false = (one set).tryFrom (done ++ c :: rest).toArray rest.length (done.length + 1)
            false := by
        simp [tryFrom, tryAt_one, hc]
      have hrest := hnext (n := bound + 1) (by simp at hb; omega)
      have hsize' : (done ++ c :: rest).toArray.size - (done.length + 1) = rest.length := by
        simp only [List.size_toArray, List.length_append, List.length_cons]
        omega
      rw [scan, hsize'] at hrest
      rw [scan, hsize, hskip, hrest]
      simp [List.zipIdx_cons, hc]

theorem findAll_one (set : CharSet) (cs : List Char) :
    (one set).findAll cs =
      (cs.zipIdx.filter fun c => set.mem c.1).map fun c => ⟨c.2, c.2 + 1, #[]⟩ :=
  scan_one set [] cs (by simp; omega)

end Pattern

namespace Blocks

def openBrace (takesHeader : Bool) : BlockToken :=
  BlockGrammar.opener (.lit "\x7b") .brace true takesHeader

def closeBrace : BlockToken := BlockGrammar.closer (.lit "\x7d") .brace

/-- The grammar writes blocks in curly braces; its other tokens announce loops and start with
another character. -/
def Braced (g : BlockGrammar) : Prop :=
  ∃ announcers takesHeader, g.tokens = announcers ++ [openBrace takesHeader, closeBrace] ∧
    ∀ t ∈ announcers, t.action = .announcesLoop ∧
      ∃ c, t.pattern.headSet? = some (.char c) ∧ c ≠ '{' ∧ c ≠ '}'

theorem braced_css : Braced BlockGrammar.css := ⟨[], false, rfl, by simp⟩

theorem braced_script : Braced BlockGrammar.script := by
  refine ⟨BlockGrammar.script.tokens.take 4, true, rfl, ?_⟩
  intro t ht
  simp only [BlockGrammar.script, List.take, List.mem_cons, List.not_mem_nil, or_false] at ht
  rcases ht with rfl | rfl | rfl | rfl
  · exact ⟨rfl, 'w', rfl, by decide⟩
  · exact ⟨rfl, 'f', rfl, by decide⟩
  · exact ⟨rfl, 'd', rfl, by decide⟩
  · exact ⟨rfl, '.', rfl, by decide⟩

def isBrace (x : Lexeme) : Bool := decide (x.token.action ≠ .announcesLoop)

/-- The brace that a token of a braced grammar is, and its column. -/
def brace (x : Lexeme) : Char × Nat :=
  (if x.token.action = .closes then '}' else '{', x.start)

theorem char_of_mem_lexemesOf {t : BlockToken} {c : Char} (ht : t.pattern.headSet? = some (.char c))
    {cs : List Char} {x : Lexeme} (hx : x ∈ lexemesOf t cs) : cs[x.start]? = some c := by
  obtain ⟨m, hm, rfl⟩ := List.mem_map.mp hx
  obtain ⟨a, ha, hc⟩ := (Pattern.finds_of_mem_findAll hm).head ht
  have he : c = a := by simpa [CharSet.mem] using hc
  rw [he]
  exact ha

theorem map_brace_lexemesOf {t : BlockToken} {c : Char} (ht : t.pattern = .one (.char c))
    (hc : c = if t.action = .closes then '}' else '{') (cs : List Char) :
    (lexemesOf t cs).map brace = cs.zipIdx.filter fun a => a.1 == c := by
  have hmap : (lexemesOf t cs).map brace =
      (cs.zipIdx.filter fun a => c == a.1).map fun a => (c, a.2) := by
    rw [lexemesOf, ht, Pattern.findAll_one, List.map_map, List.map_map]
    simp only [Function.comp_def, brace, ← hc]
    rfl
  rw [hmap]
  have hfilter : (cs.zipIdx.filter fun a => c == a.1) = cs.zipIdx.filter fun a => a.1 == c :=
    List.filter_congr fun a _ => by rw [Bool.beq_comm]
  rw [hfilter]
  conv_rhs => rw [← List.map_id (cs.zipIdx.filter fun a => a.1 == c)]
  refine List.map_congr_left fun a ha => ?_
  have he := (List.mem_filter.mp ha).2
  simp only [beq_iff_eq] at he
  rw [← he]
  rfl

def isCurly (c : Char) : Bool := c == '{' || c == '}'

theorem start_ne_of_map_brace {xs : List Lexeme} {cs : List Char}
    (h : (xs.map brace).Perm (cs.zipIdx.filter fun a => isCurly a.1)) :
    xs.Pairwise fun x y => x.start ≠ y.start := by
  have hbraces : ((cs.zipIdx.filter fun a => isCurly a.1).map (·.2)).Nodup :=
    (List.filter_sublist.map _).nodup (Delimiters.nodup_columns cs)
  rw [← (h.map _).nodup_iff, List.map_map] at hbraces
  exact List.pairwise_map.mp hbraces

/-- Keeping the first token at each start drops no brace if no token before it starts there. -/
theorem filter_firstAtStart {p : Lexeme → Bool} {xs : List Lexeme}
    (h : xs.Pairwise fun x y => p y = true → x.start ≠ y.start) :
    (firstAtStart xs).filter p = xs.filter p := by
  induction xs with
  | nil => rfl
  | cons x xs ih =>
    obtain ⟨hx, hxs⟩ := List.pairwise_cons.mp h
    have hkeep : ((firstAtStart xs).filter (·.start != x.start)).filter p = xs.filter p := by
      rw [List.filter_filter, ← ih hxs]
      refine List.filter_congr fun y hy => ?_
      have hne := hx y (firstAtStart_subset xs hy)
      cases hp : p y with
      | false => rfl
      | true => simp [Ne.symm (hne hp)]
    rw [firstAtStart, List.filter_cons, hkeep, List.filter_cons]

/-- The tokens found in a line are announcements, which start at no curly brace, and all curly
braces. -/
theorem exists_braces {g : BlockGrammar} (hg : Braced g) (cs : List Char) :
    ∃ xs ys, (g.tokens.flatMap fun t => lexemesOf t cs) = xs ++ ys ∧
      (∀ x ∈ xs, isBrace x = false ∧ ∀ c, cs[x.start]? = some c → isCurly c = false) ∧
      (∀ y ∈ ys, isBrace y = true) ∧
      (ys.map brace).Perm (cs.zipIdx.filter fun a => isCurly a.1) := by
  obtain ⟨announcers, takesHeader, htokens, hannounce⟩ := hg
  have hopener : (lexemesOf (openBrace takesHeader) cs).map brace =
      cs.zipIdx.filter fun a => a.1 == '{' := map_brace_lexemesOf rfl rfl cs
  have hcloser : (lexemesOf closeBrace cs).map brace = cs.zipIdx.filter fun a => a.1 == '}' :=
    map_brace_lexemesOf rfl rfl cs
  refine ⟨announcers.flatMap fun t => lexemesOf t cs,
    lexemesOf (openBrace takesHeader) cs ++ lexemesOf closeBrace cs, ?_, ?_, ?_, ?_⟩
  · rw [htokens, List.flatMap_append]
    simp
  · intro x hx
    obtain ⟨t, ht, hm⟩ := List.mem_flatMap.mp hx
    obtain ⟨haction, c, hhead, hopen, hclose⟩ := hannounce t ht
    refine ⟨by simp [isBrace, token_of_mem_lexemesOf hm, haction], ?_⟩
    intro a ha
    rw [char_of_mem_lexemesOf hhead hm, Option.some.injEq] at ha
    simp [isCurly, ← ha, hopen, hclose]
  · intro y hy
    rcases List.mem_append.mp hy with hy | hy
    · rw [isBrace, token_of_mem_lexemesOf hy]
      rfl
    · rw [isBrace, token_of_mem_lexemesOf hy]
      rfl
  · rw [List.map_append, hopener, hcloser]
    refine filter_or_perm (fun a ha => ?_) _
    simp [beq_iff_eq.mp ha]

theorem map_brace_lexemes_perm {g : BlockGrammar} (hg : Braced g) (cs : List Char) :
    (((lexemes g cs).filter isBrace).map brace).Perm
      (cs.zipIdx.filter fun a => isCurly a.1) := by
  obtain ⟨xs, ys, htokens, hxs, hys, hbraces⟩ := exists_braces hg cs
  have hchar {y : Lexeme} (hy : y ∈ ys) : ∃ c, cs[y.start]? = some c ∧ isCurly c = true := by
    have hm := List.mem_filter.mp (hbraces.mem_iff.mp (List.mem_map_of_mem hy))
    exact ⟨_, List.mem_zipIdx_iff_getElem?.mp hm.1, hm.2⟩
  -- No token wins over a brace: announcements start elsewhere, and so does every other brace.
  have hapart : (xs ++ ys).Pairwise fun x y => isBrace y = true → x.start ≠ y.start := by
    refine List.pairwise_append.mpr ⟨?_, ?_, ?_⟩
    · refine List.pairwise_of_forall_mem_list fun x _ y hy hbrace => ?_
      rw [(hxs y hy).1] at hbrace
      cases hbrace
    · refine (start_ne_of_map_brace hbraces).imp ?_
      intro x y hne _
      exact hne
    · intro x hx y hy _ he
      obtain ⟨c, hc, hcurly⟩ := hchar hy
      rw [(hxs x hx).2 c (he ▸ hc)] at hcurly
      cases hcurly
  have hnone : xs.filter isBrace = [] :=
    List.filter_eq_nil_iff.mpr fun x hx => by simp [(hxs x hx).1]
  have hfilter : (firstAtStart (xs ++ ys)).filter isBrace = ys := by
    rw [filter_firstAtStart hapart, List.filter_append, hnone, List.filter_eq_self.mpr hys,
      List.nil_append]
  refine .trans (.map _ ?_) hbraces
  rw [← hfilter, ← htokens]
  exact (List.mergeSort_perm _ _).filter _

theorem lexemes_sorted (g : BlockGrammar) (cs : List Char) :
    (lexemes g cs).Pairwise fun x y => x.start ≤ y.start := by
  have hsorted : (lexemes g cs).Pairwise fun x y => decide (x.start ≤ y.start) = true := by
    apply List.pairwise_mergeSort
    · intro x y z hxy hyz
      simp only [decide_eq_true_eq] at *
      omega
    · intro x y
      simp only [Bool.or_eq_true, decide_eq_true_eq]
      omega
  exact hsorted.imp of_decide_eq_true

/-- The tokens of a line that open and close are its curly braces, in order. -/
theorem map_brace_lexemes {g : BlockGrammar} (hg : Braced g) (cs : List Char) :
    ((lexemes g cs).filter isBrace).map brace = cs.zipIdx.filter fun a => isCurly a.1 := by
  have hperm := map_brace_lexemes_perm hg cs
  have hsorted : (((lexemes g cs).filter isBrace).map brace).Pairwise fun a b => a.2 ≤ b.2 :=
    List.pairwise_map.mpr ((lexemes_sorted g cs).sublist List.filter_sublist)
  have hcolumns : (cs.zipIdx.filter fun a => isCurly a.1).Pairwise fun a b => a.2 ≤ b.2 := by
    have hall : (cs.zipIdx.map (·.2)).Pairwise (· ≤ ·) := by
      rw [List.zipIdx_map_snd]
      exact List.pairwise_le_range'
    exact (List.pairwise_map.mp hall).sublist List.filter_sublist
  have hget {a : Char × Nat} (h : a ∈ cs.zipIdx.filter fun a => isCurly a.1) :
      cs[a.2]? = some a.1 := List.mem_zipIdx_iff_getElem?.mp (List.mem_of_mem_filter h)
  refine hperm.eq_of_pairwise ?_ hsorted hcolumns
  intro a b ha hb hab hba
  have he : a.2 = b.2 := Nat.le_antisymm hab hba
  have hc := hget (hperm.mem_iff.mp ha)
  rw [he, hget hb, Option.some.injEq] at hc
  exact Prod.ext hc.symm he

def IsBraceToken (t : BlockToken) : Prop :=
  (∃ takesHeader, t = openBrace takesHeader) ∨ t = closeBrace

/-- The brace that a token of a braced grammar is, and its place. -/
def Occurrence.site (o : Occurrence) : Delimiters.Site :=
  ⟨(brace o.lexeme).1, ⟨o.line, o.lexeme.start⟩⟩

def curly : List Pair := [⟨'{', '}'⟩]

theorem isBracket_eq_isBrace (o : Occurrence) : pairing.isBracket o = isBrace o.lexeme := by
  cases ha : o.lexeme.token.action <;> simp [Brackets.isBracket, pairing, isBrace, ha]

theorem isBracket_eq_isCurly (d : Delimiters.Site) :
    (Delimiters.pairing curly).isBracket d = isCurly d.char := by
  rw [Delimiters.isBracket_eq]
  simp [Delimiters.written, curly, isCurly, Bool.beq_eq_decide_eq]

theorem isBraceToken_of_mem {g : BlockGrammar} (hg : Braced g) {ls : List Line} {o : Occurrence}
    (ho : o ∈ (occurrences g ls).filter pairing.isBracket) : IsBraceToken o.lexeme.token := by
  obtain ⟨hmem, hbracket⟩ := List.mem_filter.mp ho
  obtain ⟨l, -, hm⟩ := List.mem_flatMap.mp hmem
  obtain ⟨x, hx, rfl⟩ := List.mem_map.mp hm
  obtain ⟨announcers, takesHeader, htokens, hannounce⟩ := hg
  have ht := token_mem_of_mem_lexemes hx
  rw [htokens, List.mem_append] at ht
  rcases ht with ht | ht
  · rw [isBracket_eq_isBrace] at hbracket
    simp [isBrace, (hannounce _ ht).1] at hbracket
  · simp only [List.mem_cons, List.not_mem_nil, or_false] at ht
    exact ht.imp_left fun h => ⟨takesHeader, h⟩

/-- The tokens of a source that open and close are its curly braces, in order. -/
theorem map_site_occurrences {g : BlockGrammar} (hg : Braced g) (ls : List Line) :
    ((occurrences g ls).filter pairing.isBracket).map Occurrence.site =
      (Delimiters.sites ls).filter (Delimiters.pairing curly).isBracket := by
  rw [occurrences, Delimiters.sites, List.filter_flatMap, List.filter_flatMap, List.map_flatMap]
  refine List.flatMap_congr fun l _ => ?_
  have hline := map_brace_lexemes hg l.masked
  rw [List.filter_map, List.filter_map, List.map_map]
  have hleft : (lexemes g l.masked).filter
      (pairing.isBracket ∘ fun x => (⟨l.number, x⟩ : Occurrence)) =
        (lexemes g l.masked).filter isBrace :=
    List.filter_congr fun x _ => isBracket_eq_isBrace ⟨l.number, x⟩
  have hright : l.masked.zipIdx.filter ((Delimiters.pairing curly).isBracket ∘
      fun c => (⟨c.1, ⟨l.number, c.2⟩⟩ : Delimiters.Site)) =
        l.masked.zipIdx.filter fun a => isCurly a.1 :=
    List.filter_congr fun c _ => isBracket_eq_isCurly ⟨c.1, ⟨l.number, c.2⟩⟩
  rw [hleft, hright, ← hline, List.map_map]
  rfl

theorem opens_site {o : Occurrence} (ho : IsBraceToken o.lexeme.token) :
    (Delimiters.pairing curly).opens o.site = pairing.opens o := by
  rcases ho with ⟨b, h⟩ | h <;>
    simp [Delimiters.pairing, pairing, curly, Delimiters.opens, Occurrence.site, brace, h,
      openBrace, closeBrace, BlockGrammar.opener, BlockGrammar.closer]

theorem closes_site {o : Occurrence} (ho : IsBraceToken o.lexeme.token) :
    (Delimiters.pairing curly).closes o.site = pairing.closes o := by
  rcases ho with ⟨b, h⟩ | h <;>
    simp [Delimiters.pairing, pairing, curly, Delimiters.openerOf?, Occurrence.site, brace, h,
      openBrace, closeBrace, BlockGrammar.opener, BlockGrammar.closer]

theorem ends_site {c o : Occurrence} (hc : IsBraceToken c.lexeme.token)
    (ho : IsBraceToken o.lexeme.token) (hcloses : pairing.closes c = true)
    (hopens : pairing.opens o = true) :
    (Delimiters.pairing curly).ends c.site o.site = pairing.ends c o := by
  rcases hc with ⟨b, hc⟩ | hc
  · simp [pairing, hc, openBrace, BlockGrammar.opener] at hcloses
  · rcases ho with ⟨b, ho⟩ | ho
    · simp [Delimiters.pairing, pairing, curly, Delimiters.openerOf?, Occurrence.site, brace, hc,
        ho, fits, Occurrence.frame, openBrace, closeBrace, BlockGrammar.opener,
        BlockGrammar.closer]
    · simp [pairing, ho, closeBrace, BlockGrammar.closer] at hopens

/-- Reading the braces among all characters and reading the tokens come to the same. -/
theorem readAll_sites {g : BlockGrammar} (hg : Braced g) (ls : List Line) :
    (Delimiters.pairing curly).readAll (Delimiters.sites ls) =
      (pairing.readAll (occurrences g ls)).map Occurrence.site := by
  rw [Brackets.readAll, Brackets.readAll, ← Brackets.foldl_read_filter,
    ← Brackets.foldl_read_filter pairing, ← map_site_occurrences hg]
  exact Brackets.foldl_read_map (P := fun o => IsBraceToken o.lexeme.token)
    (fun _ => opens_site) (fun _ => closes_site)
    (fun _ _ hc ho _ hcloses hopens => ends_site hc ho hcloses hopens) _
    (fun _ => isBraceToken_of_mem hg) ⟨[], [], [], []⟩ (by simp)

theorem site_of_opens {o : Occurrence} (ho : pairing.opens o = true) :
    o.site = ⟨'{', o.line, o.lexeme.start⟩ := by
  cases ha : o.lexeme.token.action <;> simp [pairing, ha] at ho <;>
    simp [Occurrence.site, brace, ha]

theorem site_of_closes {o : Occurrence} (ho : pairing.closes o = true) :
    o.site = ⟨'}', o.line, o.lexeme.start⟩ := by
  have ha : o.lexeme.token.action = .closes := of_decide_eq_true ho
  simp [Occurrence.site, brace, ha]

def unclosedBrace (f : Frame) : Imbalance := ⟨f.line, f.column, '{', .unclosed⟩

def strayBrace (c : StrayCloser) : Imbalance := ⟨c.line, c.column, '}', .unexpected⟩

/-- The blocks without a partner as imbalances of curly braces. -/
def braceImbalances (m : BlockMap) : List Imbalance :=
  m.unclosed.map unclosedBrace ++ m.stray.map strayBrace

theorem braceImbalances_perm {g : BlockGrammar} (hg : Braced g)
    (hsolid : ∀ t ∈ g.tokens, t.family ≠ .bodyless) (ls : List Line) :
    (Delimiters.imbalances curly ls).Perm (braceImbalances (scan g ls)) := by
  obtain ⟨f, hf⟩ := Outline.exists_of_readAll pairing (occurrences g ls)
  obtain ⟨hunclosed, hstray, -⟩ := scan_follows hsolid ls
  have hperm := Delimiters.imbalances_perm curly ls
  rw [readAll_sites hg] at hperm
  refine hperm.trans (.append ?_ ?_)
  · -- The mark of a loop plays no part in where a frame stands.
    have hplain : (scan g ls).unclosed.map unclosedBrace =
        ((scan g ls).unclosed.map Frame.plain).map unclosedBrace := by
      rw [List.map_map]
      rfl
    rw [hplain, hunclosed, List.map_map, Reading.map, ← List.map_append, List.map_map]
    have hreverse := (List.reverse_perm (pairing.readAll (occurrences g ls)).stack).symm.append_left
      (pairing.readAll (occurrences g ls)).unclosed
    refine .trans (.of_eq (List.map_congr_left fun o ho => ?_)) (hreverse.map _)
    have hopens := (Outline.of_mem_unclosedOnes hf.fits (hf.unclosed.mem_iff.mpr ho)).2
    rw [Function.comp_apply, site_of_opens hopens]
    rfl
  · rw [hstray, List.map_map, Reading.map, List.map_map]
    refine .of_eq (List.map_congr_left fun c hc => ?_)
    have hcloses := (Outline.of_mem_strayOnes hf.fits (hf.stray ▸ hc)).2.2
    rw [Function.comp_apply, site_of_closes hcloses]
    rfl

theorem braced_of {d : Dialect} (hd : d = .css ∨ d = .javascript ∨ d = .ssjs) :
    Braced (.of d) := by
  rcases hd with rfl | rfl | rfl
  · exact braced_css
  · exact braced_script
  · exact braced_script

/-- The two checks of braces agree. Where blocks are written in curly braces, the blocks without a
partner are the curly braces without a partner, in the order of the source. Lines that share a
number leave open the order of findings at one place, and nothing else. -/
theorem brace_checks_agree {d : Dialect} (hd : d = .css ∨ d = .javascript ∨ d = .ssjs)
    (ls : List Line) :
    ∃ ps, Delimiters.pairs? ['{', '}'] = some ps ∧
      (Delimiters.imbalances ps ls).Perm (braceImbalances (.of d ls)) ∧
      ((Delimiters.imbalances ps ls).Pairwise fun i j => Delimiters.before i j = true) ∧
      ((ls.map (·.number)).Nodup → (braceImbalances (.of d ls)).mergeSort Delimiters.before =
        Delimiters.imbalances ps ls) := by
  have hperm := braceImbalances_perm (braced_of hd) (of_ne_bodyless d) ls
  refine ⟨curly, rfl, hperm, Delimiters.imbalances_sorted curly ls, fun hls => ?_⟩
  exact Delimiters.mergeSort_eq_imbalances hls hperm.symm

theorem brace_checks_agree_loops :
    let d := Dialect.javascript
    let ls : List Line := [
      ⟨1, "for (;;)".toList, "for (;;)".toList⟩,
      ⟨2, "f() \x7d".toList, "f() \x7d".toList⟩,
      ⟨3, "while (a) \x7b".toList, "while (a) \x7b".toList⟩]
    (d = .css ∨ d = .javascript ∨ d = .ssjs) ∧ (ls.map (·.number)).Nodup ∧
      (braceImbalances (.of d ls)).mergeSort Delimiters.before =
        [⟨2, 4, '}', .unexpected⟩, ⟨3, 10, '{', .unclosed⟩] := by
  intro d ls
  have hd : d = .css ∨ d = .javascript ∨ d = .ssjs := .inr (.inl rfl)
  have hls : (ls.map (·.number)).Nodup := by decide
  obtain ⟨ps, hps, -, -, hsorted⟩ := brace_checks_agree hd ls
  refine ⟨hd, hls, ?_⟩
  rw [hsorted hls]
  cases hps
  cbv

end Blocks

end CampaignCheck

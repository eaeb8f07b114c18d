import CampaignCheck.Proofs.Pattern.Progress
import CampaignCheck.Proofs.Pattern.Ways
import CampaignCheck.Sql.Statement

namespace CampaignCheck.Sql

open Text Pattern

/-- The parentheses opened between two offsets, less those closed. -/
def nesting (cs : List Char) (start stop : Nat) : Int :=
  ((slice cs start stop).count '(' : Int) - (slice cs start stop).count ')'

def fromLetters : List CharSet := "FROM".toList.map .anyCase

/-- The word FROM starts at an offset: the letters are there, before them stands no character that
would join them, and behind them no word character. -/
def FromAt (joins : Char → Bool) (cs : List Char) (i : Nat) : Prop :=
  (∀ c ∈ (cs.take i).getLast?, joins c = false) ∧
    (∀ j < 4, sees (fromLetters.getD j .none) cs (i + j) = true) ∧ sees .word cs (i + 4) = false

/-- A select list that starts at an offset may end at another: the word FROM starts there, outside
parentheses. -/
def EndsList (joins : Char → Bool) (cs : List Char) (start i : Nat) : Prop :=
  nesting cs start i = 0 ∧ FromAt joins cs i

/-- The commas outside parentheses between two offsets of a select list. -/
def commas (cs : List Char) (start i stop : Nat) : List Nat :=
  (List.range' i (stop - i)).filter fun q => cs[q]? == some ',' && nesting cs start q == 0

/-- The items of a select list that starts at `start`, from the one that starts at `first` on, when
the list is read from `i` on: it ends at `stop`, the first place where it may end, or else at the
end of the text; the items are the text up to there cut at the commas. -/
structure Cuts (joins : Char → Bool) (cs : List Char) (start first i stop : Nat)
    (items : List SelectItem) : Prop where
  le_stop : i ≤ stop
  stop_le : stop ≤ cs.length
  ends : stop = cs.length ∨ EndsList joins cs start stop
  not_before : ∀ q, i ≤ q → q < stop → ¬EndsList joins cs start q
  joined : [','].intercalate (items.map (·.text)) = slice cs first stop
  placed : ∀ item ∈ items, item.text = slice cs item.start (item.start + item.text.length)
  starts : items.map (·.start) = first :: (commas cs start i stop).map (· + 1)

theorem fromWord_eq : fromWord = seq (seq wordEdge (inOrder (fromLetters.map one))) wordEdge := rfl

theorem simple_fromWord : Simple fromWord := by
  rw [fromWord_eq]
  repeat' constructor

/-- What the keyword pattern accepts in the five characters from an offset on. -/
theorem isSome_matchStart?_fromWord (cs : List Char) (i : Nat) :
    (fromWord.matchStart? ((cs.drop i).take 5)).isSome ↔
      (∀ j < 4, sees (fromLetters.getD j .none) cs (i + j) = true) ∧
        sees .word cs (i + 4) = false := by
  have hsees (set : CharSet) (j : Nat) (hj : j < 5) :
      sees set ((cs.drop i).take 5) j = sees set cs (i + j) := by
    rw [sees_take hj, sees_drop]
  have hletters : (∀ j set, fromLetters[j]? = some set →
      sees set ((cs.drop i).take 5) (0 + j) = true) ↔
      ∀ j < 4, sees (fromLetters.getD j .none) cs (i + j) = true := by
    constructor
    · intro h j hj
      have hset : fromLetters[j]? = some fromLetters[j] := List.getElem?_eq_getElem hj
      rw [List.getD_eq_getElem?_getD, hset, Option.getD_some, ← hsees _ j (by omega)]
      simpa using h j _ hset
    · intro h j set hset
      have hj : j < 4 := (List.getElem?_eq_some_iff.mp hset).1
      have hsee := h j hj
      rw [List.getD_eq_getElem?_getD, hset, Option.getD_some, ← hsees _ j (by omega)] at hsee
      rwa [Nat.zero_add]
  rw [matchStart?, isSome_matchAt? simple_fromWord, hit?, fromWord_eq, ends, ends, wordEdge,
    isSome_ends_anchor, isSome_ends_inOrder, isSome_ends_anchor, wordEdge_holds, wordEdge_holds,
    hletters]
  have hlength : 0 + fromLetters.length = 4 := rfl
  rw [hlength, preceded, preceded, hsees _ 0 (by decide), hsees _ 3 (by decide),
    hsees _ 4 (by decide)]
  constructor
  · rintro ⟨-, -, hall, hlast, -⟩
    have hm : sees .word cs (i + 3) = true := isWord_of_sees rfl (hall 3 (by decide))
    rw [hm] at hlast
    exact ⟨hall, by simpa using hlast⟩
  · rintro ⟨hall, hlast⟩
    have hf : sees .word cs (i + 0) = true := isWord_of_sees rfl (hall 0 (by decide))
    have hm : sees .word cs (i + 3) = true := isWord_of_sees rfl (hall 3 (by decide))
    exact ⟨Nat.zero_le _, by rw [hf]; rfl, hall, by rw [hm, hlast]; rfl, rfl⟩

theorem fromStarts_iff (cs : List Char) (i : Nat) :
    fromStarts (cs.take i).getLast? (cs.drop i) = true ↔ FromAt isAlphanumeric cs i := by
  rw [fromStarts, Bool.and_eq_true, isSome_matchStart?_fromWord, FromAt, and_comm]
  refine and_congr_left fun _ => ?_
  cases (cs.take i).getLast? <;> simp

theorem nesting_add_one {cs : List Char} {start i : Nat} {c : Char} (hle : start ≤ i)
    (hc : cs[i]? = some c) : nesting cs start (i + 1) =
      nesting cs start i + (if c = '(' then 1 else 0) - (if c = ')' then 1 else 0) := by
  rw [nesting, nesting, slice_add_one hle hc, List.count_append, List.count_append,
    List.count_singleton, List.count_singleton]
  simp only [beq_iff_eq]
  split_ifs <;> omega

section

variable {joins : Char → Bool} {cs : List Char} {start first i stop : Nat}
  {items : List SelectItem}

theorem not_endsList_of_getElem? {c : Char} (hc : cs[i]? = some c)
    (hletter : sameLetter 'F' c = false) : ¬EndsList joins cs start i := by
  rintro ⟨-, -, hall, -⟩
  have hf : sees (.anyCase 'F') cs (i + 0) = true := hall 0 (by decide)
  simp [sees, hc, CharSet.mem, hletter] at hf

theorem commas_self : commas cs start i i = [] := by
  simp [commas]

theorem commas_of_lt (h : i < stop) : commas cs start i stop =
    if cs[i]? == some ',' && nesting cs start i == 0 then i :: commas cs start (i + 1) stop
    else commas cs start (i + 1) stop := by
  have hcount : stop - i = (stop - (i + 1)) + 1 := by omega
  rw [commas, hcount, List.range'_succ, List.filter_cons]
  rfl

/-- The list ends here. -/
theorem Cuts.done (hi : i ≤ cs.length) (hfirst : first ≤ i)
    (hends : i = cs.length ∨ EndsList joins cs start i) :
    Cuts joins cs start first i i [⟨first, slice cs first i⟩] := by
  constructor
  case le_stop => exact Nat.le_refl i
  case stop_le => exact hi
  case ends => exact hends
  case not_before => exact fun q hq hq' => absurd hq' (Nat.not_lt.mpr hq)
  case joined => simp
  case placed =>
    simp only [List.mem_singleton, forall_eq]
    have hlength : first + (slice cs first i).length = i := by
      rw [slice, List.length_drop, List.length_take]
      omega
    rw [hlength]
  case starts => simp [commas_self]

/-- The character here belongs to the item. -/
theorem Cuts.pass (h : Cuts joins cs start first (i + 1) stop items)
    (hends : ¬EndsList joins cs start i) (hcomma : cs[i]? ≠ some ',' ∨ nesting cs start i ≠ 0) :
    Cuts joins cs start first i stop items := by
  constructor
  case le_stop => exact Nat.le_of_succ_le h.le_stop
  case stop_le => exact h.stop_le
  case ends => exact h.ends
  case not_before =>
    intro q hq hq'
    rcases Nat.eq_or_lt_of_le hq with rfl | hlt
    · exact hends
    · exact h.not_before q hlt hq'
  case joined => exact h.joined
  case placed => exact h.placed
  case starts =>
    have hno : (cs[i]? == some ',' && nesting cs start i == 0) = false := by
      rcases hcomma with hcomma | hcomma <;> simp [hcomma]
    rw [commas_of_lt h.le_stop, hno]
    exact h.starts

/-- An item ends here and the next begins. -/
theorem Cuts.cut (h : Cuts joins cs start (i + 1) (i + 1) stop items) (hfirst : first ≤ i)
    (hcomma : cs[i]? = some ',') (hnesting : nesting cs start i = 0) :
    Cuts joins cs start first i stop (⟨first, slice cs first i⟩ :: items) := by
  have hi : i < cs.length := (List.getElem?_eq_some_iff.mp hcomma).1
  have hends : ¬EndsList joins cs start i := not_endsList_of_getElem? hcomma (by decide +kernel)
  constructor
  case le_stop => exact Nat.le_of_succ_le h.le_stop
  case stop_le => exact h.stop_le
  case ends => exact h.ends
  case not_before =>
    intro q hq hq'
    rcases Nat.eq_or_lt_of_le hq with rfl | hlt
    · exact hends
    · exact h.not_before q hlt hq'
  case joined =>
    have hlater : items.map (·.text) ≠ [] := by
      intro hnil
      have hstarts := h.starts
      rw [List.map_eq_nil_iff.mp hnil] at hstarts
      cases hstarts
    obtain ⟨text, texts, htexts⟩ := List.exists_cons_of_ne_nil hlater
    have hjoined := h.joined
    rw [htexts] at hjoined
    rw [List.map_cons, htexts, List.intercalate_cons_cons, hjoined, ← slice_add_one hfirst hcomma,
      slice_append (Nat.le_succ_of_le hfirst) h.le_stop]
  case placed =>
    refine List.forall_mem_cons.mpr ⟨?_, h.placed⟩
    have hlength : first + (slice cs first i).length = i := by
      rw [slice, List.length_drop, List.length_take]
      omega
    simp only [hlength]
  case starts =>
    have hyes : (cs[i]? == some ',' && nesting cs start i == 0) = true := by
      simp [hcomma, hnesting]
    rw [commas_of_lt h.le_stop, hyes, List.map_cons, h.starts]
    simp

theorem itemsFrom_cuts {start first i : Nat} {depth : Int} {item rest : List Char}
    (hrest : cs.drop i = rest) (hi : i ≤ cs.length) (hstart : start ≤ i) (hfirst : first ≤ i)
    (hdepth : depth = nesting cs start i) (hitem : item.reverse = slice cs first i) :
    ∃ stop, Cuts isAlphanumeric cs start first i stop
      (itemsFrom first i depth (cs.take i).getLast? item rest) := by
  induction rest generalizing first i depth item with
  | nil =>
    have hlength : i = cs.length := by
      have hle := List.drop_eq_nil_iff.mp hrest
      omega
    rw [itemsFrom, hitem]
    exact ⟨i, .done hi hfirst (.inl hlength)⟩
  | cons c rest ih =>
    have hc : cs[i]? = some c := getElem?_here hrest
    have hlt : i < cs.length := (List.getElem?_eq_some_iff.mp hc).1
    have hnext : cs.drop (i + 1) = rest := drop_add_one hrest
    have hbefore : (cs.take (i + 1)).getLast? = some c := by
      rw [List.take_add_one, hc, Option.toList_some, List.getLast?_concat]
    have hmore : (c :: item).reverse = slice cs first (i + 1) := by
      rw [List.reverse_cons, hitem, slice_add_one hfirst hc]
    have hnesting := nesting_add_one hstart hc
    -- The character stays in the item, whatever it does to the depth.
    have hpass (depth' : Int) (hdepth' : depth' = nesting cs start (i + 1))
        (hends : ¬EndsList isAlphanumeric cs start i)
        (hcomma : cs[i]? ≠ some ',' ∨ nesting cs start i ≠ 0) :
        ∃ stop, Cuts isAlphanumeric cs start first i stop
          (itemsFrom first (i + 1) depth' (some c) (c :: item) rest) := by
      obtain ⟨stop, h⟩ := ih hnext hlt (by omega) (by omega) hdepth' hmore
      rw [hbefore] at h
      exact ⟨stop, h.pass hends hcomma⟩
    rw [itemsFrom]
    by_cases hopen : c = '('
    · subst hopen
      refine hpass (depth + 1) (by rw [hdepth, hnesting]; simp) ?_ (.inl (by simp [hc]))
      exact not_endsList_of_getElem? hc (by decide +kernel)
    by_cases hclose : c = ')'
    · subst hclose
      refine hpass (depth - 1) (by rw [hdepth, hnesting]; simp) ?_ (.inl (by simp [hc]))
      exact not_endsList_of_getElem? hc (by decide +kernel)
    have hsame : depth = nesting cs start (i + 1) := by
      rw [hdepth, hnesting, if_neg hopen, if_neg hclose]
      omega
    rw [if_neg (by simpa using hopen), if_neg (by simpa using hclose)]
    by_cases hcomma : depth = 0 ∧ c = ','
    · obtain ⟨hzero, rfl⟩ := hcomma
      have hempty : ([] : List Char).reverse = slice cs (i + 1) (i + 1) := (slice_self cs _).symm
      obtain ⟨stop, h⟩ := ih hnext hlt (by omega) (Nat.le_refl _) hsame hempty
      rw [hbefore] at h
      rw [if_pos (by simp [hzero]), hitem]
      exact ⟨stop, h.cut hfirst hc (by rw [← hdepth, hzero])⟩
    have hkept : cs[i]? ≠ some ',' ∨ nesting cs start i ≠ 0 := by
      rw [hc, ← hdepth]
      by_cases hzero : depth = 0
      · exact .inl fun he => hcomma ⟨hzero, Option.some.inj he⟩
      · exact .inr hzero
    rw [if_neg (by simpa using hcomma)]
    by_cases hends : EndsList isAlphanumeric cs start i
    · have hfrom : fromStarts (cs.take i).getLast? (c :: rest) = true := by
        rw [← hrest, fromStarts_iff]
        exact hends.2
      rw [if_pos (by simp [hdepth, hends.1, hfrom]), hitem]
      exact ⟨i, .done hi hfirst (.inr hends)⟩
    · have hfrom : ¬(depth = 0 && fromStarts (cs.take i).getLast? (c :: rest)) = true := by
        rw [← hrest, Bool.and_eq_true, decide_eq_true_eq, fromStarts_iff, hdepth]
        exact hends
      rw [if_neg hfrom]
      exact hpass depth hsame hends hkept

end

theorem FromAt.of_isWord {cs : List Char} {i : Nat} (h : FromAt isWord cs i) :
    FromAt isAlphanumeric cs i := by
  refine ⟨fun c hc => ?_, h.2⟩
  have hword := h.1 c hc
  rw [isWord, Bool.or_eq_false_iff] at hword
  exact hword.2

/-- The word that ends a list is a whole word unless an underscore stands right before it. -/
theorem Cuts.isWord_iff {cs : List Char} {start first i stop : Nat} {items : List SelectItem}
    (h : Cuts isAlphanumeric cs start first i stop items) :
    Cuts isWord cs start first i stop items ↔
      stop = cs.length ∨ (cs.take stop).getLast? ≠ some '_' := by
  constructor
  · intro hword
    refine hword.ends.imp_right fun hends hlast => ?_
    exact absurd (hends.2.1 '_' hlast) (by decide)
  · intro hstop
    constructor
    case le_stop => exact h.le_stop
    case stop_le => exact h.stop_le
    case ends =>
      rcases h.ends with hlength | hends
      · exact .inl hlength
      rcases hstop with hlength | hlast
      · exact .inl hlength
      refine .inr ⟨hends.1, fun c hc => ?_, hends.2.2⟩
      have hne : c ≠ '_' := fun he => hlast (he ▸ hc)
      rw [isWord, hends.2.1 c hc]
      simpa using hne
    case not_before =>
      intro q hq hq' hends
      exact h.not_before q hq hq' ⟨hends.1, hends.2.of_isWord⟩
    case joined => exact h.joined
    case placed => exact h.placed
    case starts => exact h.starts

/-- The select list of a statement starts behind the first SELECT and what may stand before the
columns. It ends at the first place outside parentheses where the word FROM starts that does not
follow a letter or a numeral, and is cut there and at the commas outside parentheses. That place is
the first whole word FROM unless it follows an underscore. -/
theorem selection?_cuts {cs : List Char} {m : Match} (h : selectHead.find? cs = some m) :
    ∃ stop items, selection? cs = some ⟨m.start, items⟩ ∧
      Cuts isAlphanumeric cs m.stop m.stop m.stop stop items ∧
      (Cuts isWord cs m.stop m.stop m.stop stop items ↔
        stop = cs.length ∨ (cs.take stop).getLast? ≠ some '_') := by
  have hstop : m.stop ≤ cs.length := (finds_of_find? h).stop_le
  have hzero : (0 : Int) = nesting cs m.stop m.stop := by simp [nesting, slice]
  have hempty : ([] : List Char).reverse = slice cs m.stop m.stop := (slice_self cs _).symm
  obtain ⟨stop, hcuts⟩ := itemsFrom_cuts rfl hstop (Nat.le_refl _) (Nat.le_refl _) hzero hempty
  refine ⟨stop, _, ?_, hcuts, hcuts.isWord_iff⟩
  rw [selection?, h, Option.map_some]

theorem selection?_cuts_columns :
    selectHead.find? "SELECT a, f(b, c) FROM t".toList = some ⟨0, 6, #[]⟩ ∧
      ∃ stop items, selection? "SELECT a, f(b, c) FROM t".toList = some ⟨0, items⟩ ∧
        Cuts isAlphanumeric "SELECT a, f(b, c) FROM t".toList 6 6 6 stop items ∧
        (Cuts isWord "SELECT a, f(b, c) FROM t".toList 6 6 6 stop items ↔
          stop = "SELECT a, f(b, c) FROM t".toList.length ∨
            ("SELECT a, f(b, c) FROM t".toList.take stop).getLast? ≠ some '_') :=
  have hhead : selectHead.find? "SELECT a, f(b, c) FROM t".toList = some ⟨0, 6, #[]⟩ := by
    decide +kernel
  ⟨hhead, selection?_cuts hhead⟩

/-- A name that ends in `_from` ends the list, as if no underscore stood before the word. -/
theorem not_cuts_behind_underscore :
    ¬∃ stop items, selection? "SELECT valid_from, password FROM Users".toList = some ⟨0, items⟩ ∧
      Cuts isWord "SELECT valid_from, password FROM Users".toList 6 6 6 stop items := by
  rintro ⟨stop, items, hselection, hcuts⟩
  have hvalue : selection? "SELECT valid_from, password FROM Users".toList =
      some ⟨0, [⟨6, " valid_".toList⟩]⟩ := by decide +kernel
  obtain rfl : items = [⟨6, " valid_".toList⟩] := by
    rw [hvalue] at hselection
    cases hselection
    rfl
  obtain rfl : stop = 13 := by
    have hlength := congrArg List.length hcuts.joined
    have hle := hcuts.stop_le
    simp [slice] at hlength hle
    omega
  rcases hcuts.ends with hend | ⟨-, hbefore, -⟩
  · cases hend
  · exact absurd (hbefore '_' (by decide)) (by decide)

end CampaignCheck.Sql

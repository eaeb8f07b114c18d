import CampaignCheck.Proofs.Text.Letters
import CampaignCheck.Text.Lines

namespace CampaignCheck.Patch

open Text

/-- Which of the texts a line of a hunk is in: both, the left one or the right one. -/
inductive LineKind where
  | kept
  | removed
  | added
deriving DecidableEq, Repr

namespace LineKind

def sign : LineKind → Char
  | kept => ' '
  | removed => '-'
  | added => '+'

def inLeft : LineKind → Bool
  | added => false
  | _ => true

def inRight : LineKind → Bool
  | removed => false
  | _ => true

def reverse : LineKind → LineKind
  | kept => kept
  | removed => added
  | added => removed

def ofSign? : Char → Option LineKind
  | ' ' => some kept
  | '-' => some removed
  | '+' => some added
  | _ => none

theorem ofSign?_sign (m : LineKind) : ofSign? m.sign = some m := by
  cases m <;> rfl

end LineKind

/-- A line of a hunk. -/
structure Entry where
  kind : LineKind
  text : List Char
deriving DecidableEq, Repr

/-- Lines of a text: the offset of the first one, and how many there are. -/
structure Span where
  start : Nat
  size : Nat
deriving DecidableEq, Repr

def Span.stop (s : Span) : Nat := s.start + s.size

/-- Where a hunk stands in both texts, and its lines. -/
structure Hunk where
  left : Span
  right : Span
  body : List Entry
deriving DecidableEq, Repr

namespace Hunk

def leftLines (h : Hunk) : List (List Char) := (h.body.filter (·.kind.inLeft)).map (·.text)

def rightLines (h : Hunk) : List (List Char) := (h.body.filter (·.kind.inRight)).map (·.text)

def reverse (h : Hunk) : Hunk :=
  ⟨h.right, h.left, h.body.map fun l => ⟨l.kind.reverse, l.text⟩⟩

theorem leftLines_reverse (h : Hunk) : h.reverse.leftLines = h.rightLines := by
  have hkind (m : LineKind) : m.reverse.inLeft = m.inRight := by cases m <;> rfl
  simp [leftLines, rightLines, reverse, List.filter_map, Function.comp_def, hkind]

theorem rightLines_reverse (h : Hunk) : h.reverse.rightLines = h.leftLines := by
  have hkind (m : LineKind) : m.reverse.inRight = m.inLeft := by cases m <;> rfl
  simp [leftLines, rightLines, reverse, List.filter_map, Function.comp_def, hkind]

end Hunk

/-- Apply hunks to lines of which the first one has offset `i` in the left text; what is made of
them starts at offset `j` of the right text. -/
def applyFrom : Nat → Nat → List Hunk → List (List Char) → Option (List (List Char))
  | _, _, [], ls => some ls
  | i, j, h :: hs, ls =>
    let n := h.left.start - i
    if i ≤ h.left.start ∧ h.right.start = j + n ∧ n ≤ ls.length ∧
        h.leftLines.length = h.left.size ∧ h.rightLines.length = h.right.size ∧
        (ls.drop n).take h.left.size = h.leftLines then
      (applyFrom h.left.stop h.right.stop hs (ls.drop (n + h.left.size))).map fun rest =>
        ls.take n ++ h.rightLines ++ rest
    else none

/-- The right text of a patch, if it fits on the left text. -/
def apply (hs : List Hunk) (ls : List (List Char)) : Option (List (List Char)) :=
  applyFrom 0 0 hs ls

def reverse (hs : List Hunk) : List Hunk := hs.map Hunk.reverse

def readNat? (cs : List Char) : Option Nat :=
  if cs.isEmpty || !cs.all (·.isDigit) then none else some (Nat.ofDigitChars 10 cs 0)

/-- The lines that a range names, by the first line's number and the number of lines: one if that is
left out; without lines, the number is that of the line before. -/
def readSpan? (cs : List Char) : Option Span :=
  match cut ',' cs with
  | [first] => (readNat? first).map fun f => ⟨f - 1, 1⟩
  | [first, size] =>
    (readNat? first).bind fun f => (readNat? size).map fun n => ⟨if n = 0 then f else f - 1, n⟩
  | _ => none

def readHeader? (line : List Char) : Option (Span × Span) :=
  match cut ' ' line with
  | [['@', '@'], '-' :: left, '+' :: right, ['@', '@']] =>
    (readSpan? left).bind fun l => (readSpan? right).map fun r => (l, r)
  | _ => none

def readLine? : List Char → Option Entry
  | [] => none
  | c :: cs => (LineKind.ofSign? c).map fun m => ⟨m, cs⟩

/-- The rest of a hunk with so many lines of the left and of the right text to come, and the hunks
behind it. -/
def readHunks : Nat → Nat → List (List Char) → Option (List Entry × List Hunk)
  | m, n, [] => if m = 0 ∧ n = 0 then some ([], []) else none
  | m, n, line :: rest =>
    if m = 0 ∧ n = 0 then
      (readHeader? line).bind fun spans =>
        (readHunks spans.1.size spans.2.size rest).map fun r =>
          ([], ⟨spans.1, spans.2, r.1⟩ :: r.2)
    else
      (readLine? line).bind fun l =>
        if l.kind.inLeft.toNat ≤ m ∧ l.kind.inRight.toNat ≤ n then
          (readHunks (m - l.kind.inLeft.toNat) (n - l.kind.inRight.toNat) rest).map fun r =>
            (l :: r.1, r.2)
        else none

/-- Read a patch: nothing at all, or the names of both texts and hunks. -/
def read? (text : List Char) : Option (List Hunk) :=
  match cut '\n' text with
  | [[]] => some []
  | left :: right :: rest =>
    if startsWith left "--- ".toList && startsWith right "+++ ".toList then
      (readHunks 0 0 rest).map (·.2)
    else none
  | _ => none

/-- Hunks that lead from lines of a left text, the first at offset `i`, to lines of a right text,
the first at offset `j`. -/
inductive Leads : Nat → Nat → List Hunk → List (List Char) → List (List Char) → Prop
  | done (i j : Nat) (ls : List (List Char)) : Leads i j [] ls ls
  | hunk {i j : Nat} {h : Hunk} {hs : List Hunk} {same ls rs : List (List Char)}
      (hleft : h.left.start = i + same.length) (hright : h.right.start = j + same.length)
      (hsize : h.leftLines.length = h.left.size) (hsize' : h.rightLines.length = h.right.size)
      (hrest : Leads h.left.stop h.right.stop hs ls rs) :
      Leads i j (h :: hs) (same ++ h.leftLines ++ ls) (same ++ h.rightLines ++ rs)

theorem Leads.reverse {i j : Nat} {hs : List Hunk} {ls rs : List (List Char)}
    (h : Leads i j hs ls rs) : Leads j i (Patch.reverse hs) rs ls := by
  induction h with
  | done i j ls => exact .done j i ls
  | @hunk i j h hs same ls rs hleft hright hsize hsize' hrest ih =>
    rw [← h.leftLines_reverse] at hsize' ⊢
    rw [← h.rightLines_reverse] at hsize ⊢
    exact .hunk hright hleft hsize' hsize ih

theorem Leads.applyFrom {i j : Nat} {hs : List Hunk} {ls rs : List (List Char)}
    (h : Leads i j hs ls rs) : applyFrom i j hs ls = some rs := by
  induction h with
  | done i j ls => rfl
  | @hunk i j h hs same ls rs hleft hright hsize hsize' hrest ih =>
    have hn : h.left.start - i = same.length := by omega
    have hskip : same.length + h.left.size = (same ++ h.leftLines).length := by
      rw [List.length_append, hsize]
    rw [Patch.applyFrom]
    simp only [hn]
    rw [if_pos]
    · rw [hskip, List.drop_left, ih, List.append_assoc same, List.take_left]
      rfl
    · refine ⟨by omega, hright, by simp, hsize, hsize', ?_⟩
      rw [List.append_assoc, List.drop_left, ← hsize, List.take_left]

theorem length_filter_cons (p : Entry → Bool) (l : Entry) (body : List Entry) :
    ((l :: body).filter p).length = (p l).toNat + (body.filter p).length := by
  rw [List.filter_cons]
  cases p l <;> simp [Nat.add_comm]

/-- The lines of a hunk are read back, whatever follows. -/
theorem readHunks_append (body : List Entry) (rest : List (List Char)) :
    readHunks (body.filter (·.kind.inLeft)).length (body.filter (·.kind.inRight)).length
        (body.map (fun l => l.kind.sign :: l.text) ++ rest) =
      (readHunks 0 0 rest).map fun r => (body ++ r.1, r.2) := by
  induction body with
  | nil => simp
  | cons l body ih =>
    have hread : readLine? (l.kind.sign :: l.text) = some l := by
      simp [readLine?, LineKind.ofSign?_sign]
    have hmore : ¬(l.kind.inLeft.toNat + (body.filter (·.kind.inLeft)).length = 0 ∧
        l.kind.inRight.toNat + (body.filter (·.kind.inRight)).length = 0) := by
      cases l.kind <;> simp [LineKind.inLeft, LineKind.inRight]
    rw [length_filter_cons, length_filter_cons, List.map_cons, List.cons_append, readHunks,
      if_neg hmore, hread, Option.bind_some, if_pos ⟨Nat.le_add_right _ _, Nat.le_add_right _ _⟩,
      Nat.add_sub_cancel_left, Nat.add_sub_cancel_left, ih, Option.map_map]
    rfl

theorem readNat?_toDigits (n : Nat) : readNat? (Nat.toDigits 10 n) = some n := by
  have hne : Nat.toDigits 10 n ≠ [] := Nat.toDigits_ne_nil
  have hall : (Nat.toDigits 10 n).all (·.isDigit) = true := by
    rw [List.all_eq_true]
    exact fun c hc => Nat.isDigit_of_mem_toDigits (b := 10) (by decide) (by decide) hc
  simp [readNat?, hne, hall]

end CampaignCheck.Patch

namespace CampaignCheck.Diff

variable {α : Type} [DecidableEq α]

/-- A run of equal lines: where it starts in either sequence, and its length. -/
structure Run where
  left : Nat
  right : Nat
  size : Nat
deriving DecidableEq, Repr, Inhabited

/-- A part of both sequences. -/
structure Window where
  leftStart : Nat
  leftStop : Nat
  rightStart : Nat
  rightStop : Nat
deriving DecidableEq, Repr, Inhabited

/-- The line is too frequent to start a match: more than one in a hundred of at least two
hundred. -/
def isPopular (right : List α) (x : α) : Bool :=
  decide (200 ≤ right.length) && decide (right.length / 100 + 1 < right.count x)

/-- The offsets of a line in the right sequence, none if it is too frequent. -/
def offsetsOf (right : List α) (x : α) : List Nat :=
  if isPopular right x then []
  else (List.range right.length).filter fun j => decide (right[j]? = some x)

/-- Extend runs by one line of the left sequence: run lengths by their last right offset, and the
best run so far. -/
def extendRuns (w : Window) (i : Nat) (lengths : List (Nat × Nat)) :
    List Nat → List (Nat × Nat) → Run → List (Nat × Nat) × Run
  | [], new, best => (new, best)
  | j :: js, new, best =>
    if j < w.rightStart || w.rightStop ≤ j then extendRuns w i lengths js new best
    else
      let before := if j = 0 then 0 else (lengths.lookup (j - 1)).getD 0
      let k := before + 1
      extendRuns w i lengths js ((j, k) :: new)
        (if best.size < k then ⟨i + 1 - k, j + 1 - k, k⟩ else best)

/-- The longest run among the lines of the left sequence from `i` on. -/
def longestFrom (right : List α) (w : Window) :
    Nat → List (Nat × Nat) → Run → List α → Run
  | _, _, best, [] => best
  | i, lengths, best, x :: xs =>
    let (lengths, best) := extendRuns w i lengths (offsetsOf right x) [] best
    longestFrom right w (i + 1) lengths best xs

/-- Extend a run to the left over equal lines. -/
def growBack (left right : List α) (w : Window) : Nat → Run → Run
  | 0, r => r
  | n + 1, r =>
    if w.leftStart < r.left && w.rightStart < r.right &&
        decide (left[r.left - 1]? = right[r.right - 1]?) then
      growBack left right w n ⟨r.left - 1, r.right - 1, r.size + 1⟩
    else r

/-- Extend a run to the right over equal lines. -/
def growForth (left right : List α) (w : Window) : Nat → Run → Run
  | 0, r => r
  | n + 1, r =>
    if r.left + r.size < w.leftStop && r.right + r.size < w.rightStop &&
        decide (left[r.left + r.size]? = right[r.right + r.size]?) then
      growForth left right w n { r with size := r.size + 1 }
    else r

def longest (left right : List α) (w : Window) : Run :=
  let part := (left.take w.leftStop).drop w.leftStart
  let best := longestFrom right w w.leftStart [] ⟨w.leftStart, w.rightStart, 0⟩ part
  growForth left right w left.length (growBack left right w left.length best)

/-- The runs of a window from left to right; each part of a window is shorter than the window. -/
def runsIn (left right : List α) : Nat → Window → List Run
  | 0, _ => []
  | n + 1, w =>
    let r := longest left right w
    if r.size = 0 then []
    else
      (if w.leftStart < r.left && w.rightStart < r.right then
        runsIn left right n ⟨w.leftStart, r.left, w.rightStart, r.right⟩ else []) ++ [r] ++
      (if r.left + r.size < w.leftStop && r.right + r.size < w.rightStop then
        runsIn left right n ⟨r.left + r.size, w.leftStop, r.right + r.size, w.rightStop⟩ else [])

/-- Join runs that touch in both sequences. -/
def joinRuns : List Run → List Run
  | [] => []
  | r :: rs =>
    match joinRuns rs with
    | s :: ss =>
      if r.left + r.size = s.left && r.right + r.size = s.right then
        { r with size := r.size + s.size } :: ss
      else r :: s :: ss
    | [] => [r]

/-- The matching runs of two sequences. The longest run of equal lines is matched first, then what
lies before it and what lies behind it. In long sequences lines that occur very often do not start a
match, though a match may extend over them. -/
def matching (left right : List α) : List Run :=
  joinRuns (runsIn left right left.length ⟨0, left.length, 0, right.length⟩)

end CampaignCheck.Diff

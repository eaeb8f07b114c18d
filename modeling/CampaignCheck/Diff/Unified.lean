import CampaignCheck.Diff.Matching

namespace CampaignCheck.Diff

/-- How a part of the left text becomes a part of the right text. -/
inductive EditKind where
  | keep
  | replace
  | delete
  | insert
deriving DecidableEq, Repr, Inhabited

/-- An edit: the parts of both texts. -/
structure Edit where
  kind : EditKind
  window : Window
deriving DecidableEq, Repr, Inhabited

/-- The edit between the end of one run and the start of the next, if there is one. -/
def gap (i ai j bj : Nat) : List Edit :=
  if i < ai && j < bj then [⟨.replace, i, ai, j, bj⟩]
  else if i < ai then [⟨.delete, i, ai, j, bj⟩]
  else if j < bj then [⟨.insert, i, ai, j, bj⟩]
  else []

/-- The edits from given offsets on, between and along the runs to come. -/
def editsFrom (leftStop rightStop : Nat) : Nat → Nat → List Run → List Edit
  | i, j, [] => gap i leftStop j rightStop
  | i, j, r :: rs =>
    gap i r.left j r.right ++
      [⟨.keep, r.left, r.left + r.size, r.right, r.right + r.size⟩] ++
      editsFrom leftStop rightStop (r.left + r.size) (r.right + r.size) rs

/-- The edits that turn the left text into the right one. -/
def edits {α : Type} [DecidableEq α] (left right : List α) : List Edit :=
  editsFrom left.length right.length 0 0 (matching left right)

/-- Lines of context around a change. -/
def context : Nat := 3

/-- The last lines of a kept part. -/
def Window.tail (w : Window) : Window :=
  { w with
    leftStart := max w.leftStart (w.leftStop - context)
    rightStart := max w.rightStart (w.rightStop - context) }

/-- The first lines of a kept part. -/
def Window.head (w : Window) : Window :=
  { w with
    leftStop := min w.leftStop (w.leftStart + context)
    rightStop := min w.rightStop (w.rightStart + context) }

/-- Keep only the context at the start of the first edit. -/
def trimFirst : List Edit → List Edit
  | ⟨.keep, w⟩ :: es => ⟨.keep, w.tail⟩ :: es
  | es => es

/-- Keep only the context at the end of the last edit. -/
def trimLast : List Edit → List Edit
  | [] => []
  | [⟨.keep, w⟩] => [⟨.keep, w.head⟩]
  | e :: es => e :: trimLast es

/-- Cut edits into hunks at long kept parts; `group` holds the edits of the current hunk. -/
def hunksFrom (group : List Edit) : List Edit → List (List Edit)
  | [] => [group]
  | ⟨.keep, w⟩ :: es =>
    if context + context < w.leftStop - w.leftStart then
      (group ++ [⟨.keep, w.head⟩]) :: hunksFrom [⟨.keep, w.tail⟩] es
    else hunksFrom (group ++ [⟨.keep, w⟩]) es
  | e :: es => hunksFrom (group ++ [e]) es

def changes (es : List Edit) : Bool :=
  match es with
  | [] => false
  | [⟨.keep, _⟩] => false
  | _ => true

def hunks (es : List Edit) : List (List Edit) :=
  match hunksFrom [] (trimLast (trimFirst es)) with
  | [] => []
  | gs => gs.dropLast ++ (gs.getLast?.toList.filter changes)

/-- A range of lines: first line and number of lines; one line needs no number. -/
def range (start stop : Nat) : String :=
  if stop - start = 1 then toString (start + 1)
  else if stop - start = 0 then toString start ++ ",0"
  else toString (start + 1) ++ "," ++ toString (stop - start)

def marked (mark : Char) (lines : List (List Char)) (start stop : Nat) : List (List Char) :=
  ((lines.take stop).drop start).map (mark :: ·)

def editLines (left right : List (List Char)) (e : Edit) : List (List Char) :=
  let w := e.window
  let removed := marked '-' left w.leftStart w.leftStop
  let added := marked '+' right w.rightStart w.rightStop
  match e.kind with
  | .keep => marked ' ' left w.leftStart w.leftStop
  | .replace => removed ++ added
  | .delete => removed
  | .insert => added

def hunkLines (left right : List (List Char)) (es : List Edit) : List (List Char) :=
  match es.head?, es.getLast? with
  | some first, some last =>
    ("@@ -" ++ range first.window.leftStart last.window.leftStop ++ " +" ++
      range first.window.rightStart last.window.rightStop ++ " @@").toList ::
      es.flatMap (editLines left right)
  | _, _ => []

/-- The difference of two texts given by their lines, under the names of both. -/
def unified (leftName rightName : String) (left right : List (List Char)) : List (List Char) :=
  match hunks (edits left right) with
  | [] => []
  | hs => ("--- " ++ leftName).toList :: ("+++ " ++ rightName).toList ::
      hs.flatMap (hunkLines left right)

end CampaignCheck.Diff

import CampaignCheck.Text.Lines

namespace CampaignCheck.Arguments

abbrev Span := Nat × Nat

def isOpener (c : Char) : Bool := c == '(' || c == '[' || c == '{'

def isCloser (c : Char) : Bool := c == ')' || c == ']' || c == '}'

/-- Cut at commas of depth one from offset `i` on. `start` is where the current argument starts and
`vacant` tells which stretches count as blank. -/
def cutFrom (vacant : Nat → Nat → Bool) (start i : Nat) (depth : Int) (spans : List Span) :
    List Char → Option (List Span)
  | [] => none
  | c :: cs =>
    if isOpener c then cutFrom vacant start (i + 1) (depth + 1) spans cs
    else if isCloser c then
      if depth = 1 then
        some (if !vacant start i || !spans.isEmpty then spans ++ [(start, i)] else spans)
      else cutFrom vacant start (i + 1) (depth - 1) spans cs
    else if c = ',' && depth = 1 then
      cutFrom vacant (i + 1) (i + 1) depth (spans ++ [(start, i)]) cs
    else cutFrom vacant start (i + 1) depth spans cs

/-- The arguments of the call whose bracket opens at an offset; none if it is never closed. -/
def spans? (cs : List Char) (openAt : Nat) : Option (List Span) :=
  cutFrom (fun a b => Text.allBlank (Text.slice cs a b)) (openAt + 1) openAt 0 [] (cs.drop openAt)

/-- An offset counted from the end when it is negative, at most the start. -/
def fromEnd (cs : List Char) (i : Int) : Nat := if 0 ≤ i then i.toNat else (cs.length + i).toNat

/-- The arguments for an offset that may be negative: reading starts that far before the end and
goes on with the whole text. Fails if the offset lies before the text. -/
def spansAny? (cs : List Char) (openAt : Int) : Option (Option (List (Int × Int))) :=
  if 0 ≤ openAt then some ((spans? cs openAt.toNat).map (·.map fun s => ((s.1 : Int), (s.2 : Int))))
  else
    let k := (-openAt).toNat
    if cs.length < k then none
    else
      let vacant (a b : Nat) : Bool :=
        Text.allBlank (Text.slice cs (fromEnd cs ((a : Int) - k)) (fromEnd cs ((b : Int) - k)))
      some ((cutFrom vacant 1 0 0 [] (cs.drop (cs.length - k) ++ cs)).map
        (·.map fun s => ((s.1 : Int) - k, (s.2 : Int) - k)))

/-- From the start of the first argument to the end of the last; none without arguments. -/
def extent? {α : Type} (spans : Option (List (α × α))) : Option (α × α) :=
  match spans with
  | some (s :: ss) => some (s.1, ((s :: ss).getLast (by simp)).2)
  | _ => none

/-- The text in the brackets that open at an offset, if there is any and they are closed. -/
def extentAt? (cs : List Char) (openAt : Nat) : Option Span := extent? (spans? cs openAt)

end CampaignCheck.Arguments

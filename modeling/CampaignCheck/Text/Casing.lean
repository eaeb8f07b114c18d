import CampaignCheck.Text.CaseTable

namespace CampaignCheck.Text

/-- Move a code point by the run that holds it, if one does. -/
def shifted (runs : List CaseRun) (n : Nat) : Nat :=
  match runs.find? (·.holds n) with
  | some r => (n + r.shift : Int).toNat
  | none => n

/-- The single lower-case form of a character. -/
def lowerChar (c : Char) : Char :=
  if c.val < 128 then c.toLower else Char.ofNat (shifted lowerRuns c.toNat)

/-- The upper-case form of a character, one character or several. -/
def upperChar (c : Char) : List Char :=
  if c.val < 128 then [c.toUpper]
  else match upperSequences.lookup c.toNat with
    | some cs => cs.map Char.ofNat
    | none => [Char.ofNat (shifted upperRuns c.toNat)]

def inRuns (runs : List (Nat × Nat)) (c : Char) : Bool :=
  runs.any fun r => r.1 ≤ c.toNat && c.toNat ≤ r.2

/-- The first character that is no mark is a cased letter. -/
def meetsCased (cs : List Char) : Bool :=
  match cs.dropWhile (inRuns caseIgnorableRuns) with
  | c :: _ => inRuns casedRuns c
  | [] => false

/-- Lower case of the characters that follow `before`, which is kept in reverse. -/
def lowerAfter (before : List Char) : List Char → List Char
  | [] => []
  | c :: cs =>
    let here :=
      if c = 'Σ' then
        [if meetsCased before && !meetsCased cs then 'ς' else 'σ']
      else if c = 'İ' then ['i', Char.ofNat 0x307]
      else [lowerChar c]
    here ++ lowerAfter (c :: before) cs

def lower (cs : List Char) : List Char := lowerAfter [] cs

def upper (cs : List Char) : List Char := cs.flatMap upperChar

def lowerString (s : String) : String := String.ofList (lower s.toList)

def upperString (s : String) : String := String.ofList (upper s.toList)

/-- The character has another form in one of the cases. -/
def hasCase (c : Char) : Bool := lowerChar c != c || upperChar c != [c]

/-- The run holds a code point between two others. -/
def CaseRun.meets (r : CaseRun) (lo hi : Nat) : Bool :=
  let first := r.first + (lo - r.first + r.step - 1) / r.step * r.step
  first < r.first + r.count * r.step && first ≤ hi

/-- Some code point between two others has another form in one of the cases. -/
def rangeHasCase (lo hi : Nat) : Bool :=
  (lowerRuns ++ upperRuns).any (·.meets lo hi) ||
    upperSequences.any fun u => lo ≤ u.1 && u.1 ≤ hi

/-- Lower-case letters that count as the given one. -/
def variantsOf (c : Char) : List Char :=
  ((variantForms.lookup c.toNat).getD []).map Char.ofNat

/-- The characters whose lower-case form is the given one, itself among them. -/
def casings (c : Char) : List Char :=
  c :: lowerRuns.filterMap fun r =>
    let n := ((c.toNat : Int) - r.shift).toNat
    if r.holds n && ((n : Int) + r.shift == c.toNat) then some (Char.ofNat n) else none

/-- Every character that is the same letter as the given one when case is disregarded. -/
def letterForms (c : Char) : List Char :=
  if c.val < 128 && !c.isAlpha then [c]
  else
    let l := lowerChar c
    (l :: variantsOf l).flatMap casings

/-- The two characters are the same letter when case is disregarded. -/
def sameLetter (c d : Char) : Bool :=
  let l := lowerChar c
  let m := lowerChar d
  l == m || (variantsOf l).contains m

/-- The two characters are the same letter when the case of plain Latin letters is disregarded. -/
def samePlainLetter (c d : Char) : Bool := c.toLower == d.toLower

end CampaignCheck.Text

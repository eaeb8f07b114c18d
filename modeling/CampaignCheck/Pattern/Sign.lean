import CampaignCheck.Text.Digit

namespace CampaignCheck

/-- Why a text is no pattern. -/
inductive PatternFault where
  | endsInEscape
  | unknownEscape
  | unknownCharacterName
  | unclosedSet
  | reversedRange
  | nothingToRepeat
  | repeatedTwice
  | reversedCounts
  | unreadableCount
  | oversizedCount
  | repetitionInTemplate
  | unclosedGroup
  | strayParenthesis
  | badGroupName
  | repeatedGroupName
  | unknownGroup
  | openGroup
  | unknownGroupKind
  | unknownFlag
  | clashingFlags
  | misplacedFlags
  | variableWidthBehind
  | tooFarBehind
  | tooManyBranches
deriving DecidableEq, Repr, Inhabited

namespace Pattern

/-- A character of the written form, alone or after a backslash; or a backslash with nothing behind
it. -/
inductive Sign where
  | plain (c : Char)
  | escaped (c : Char)
  | dangling
deriving DecidableEq, Repr, Inhabited

def signs : List Char → List Sign
  | [] => []
  | ['\\'] => [.dangling]
  | '\\' :: c :: cs => .escaped c :: signs cs
  | c :: cs => .plain c :: signs cs

def Sign.chars : Sign → List Char
  | plain c => [c]
  | escaped c => ['\\', c]
  | dangling => ['\\']

/-- The value of a digit in base sixteen. -/
def hexValue? (c : Char) : Option Nat :=
  if c.isDigit then some (c.toNat - '0'.toNat)
  else if 'a' ≤ c && c ≤ 'f' then some (c.toNat - 'a'.toNat + 10)
  else if 'A' ≤ c && c ≤ 'F' then some (c.toNat - 'A'.toNat + 10)
  else none

/-- Read plain digits of a base, at most as many as the bound says: value, count and rest. -/
def digitsOf (base : Nat) : Nat → Nat → Nat → List Sign → Nat × Nat × List Sign
  | 0, value, count, rest => (value, count, rest)
  | bound + 1, value, count, rest =>
    match rest with
    | .plain c :: more =>
      match hexValue? c with
      | some d =>
        if d < base then digitsOf base bound (value * base + d) (count + 1) more
        else (value, count, rest)
      | none => (value, count, rest)
    | _ => (value, count, rest)

def readName (close : Char) : List Char → List Sign → Except PatternFault (String × List Sign)
  | _, [] => .error .badGroupName
  | name, s :: rest =>
    if s = .plain close then
      if name.isEmpty then .error .badGroupName else .ok (String.ofList name.reverse, rest)
    else readName close (s.chars.reverse ++ name) rest

end Pattern

end CampaignCheck

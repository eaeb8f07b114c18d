import CampaignCheck.Pattern.Flags
import CampaignCheck.Text.CharName

namespace CampaignCheck.Pattern

/-- A class of characters, or everything outside it. -/
inductive CharClass where
  | word
  | digit
  | blank
deriving DecidableEq, Repr, Inhabited

/-- A member of a set: a character by its code, a range of codes, or a class. -/
inductive Member where
  | code (n : Nat)
  | range (lo hi : Nat)
  | inside (c : CharClass)
  | outside (c : CharClass)
deriving DecidableEq, Repr, Inhabited

def CharClass.set (f : Flags) : CharClass → CharSet
  | word => f.word
  | digit => f.digit
  | blank => f.blank

def Member.set (f : Flags) : Member → CharSet
  | code n => f.member n
  | range lo hi => f.range lo hi
  | inside c => c.set f
  | outside c => .not (c.set f)

/-- Escapes that stand for a character without a letter of its own. -/
def controlEscape? : Char → Option Char
  | 'a' => some '\x07'
  | 'f' => some '\x0c'
  | 'n' => some '\n'
  | 'r' => some '\r'
  | 't' => some '\t'
  | 'v' => some '\x0b'
  | '\\' => some '\\'
  | _ => none

/-- The classes of characters that an escape names. -/
def classEscape? : Char → Option Member
  | 'd' => some (.inside .digit)
  | 'D' => some (.outside .digit)
  | 's' => some (.inside .blank)
  | 'S' => some (.outside .blank)
  | 'w' => some (.inside .word)
  | 'W' => some (.outside .word)
  | _ => none

/-- Read the digits of a code of exactly `n` digits in base sixteen. -/
def hexEscape (n : Nat) (rest : List Sign) : Except PatternFault (Member × List Sign) :=
  let (value, count, rest) := digitsOf 16 n 0 0 rest
  if count = n && value ≤ 0x10FFFF then .ok (.code value, rest) else .error .unknownEscape

def nameEscape : List Sign → Except PatternFault (Member × List Sign)
  | .plain '\x7b' :: rest => do
    let (name, rest) ← readName '\x7d' [] rest
    match Text.named? name with
    | some c => .ok (.code c.toNat, rest)
    | none => .error .unknownCharacterName
  | _ => .error .unknownEscape

def commonEscape (c : Char) (rest : List Sign) : Except PatternFault (Member × List Sign) :=
  match controlEscape? c, classEscape? c with
  | some d, _ => .ok (.code d.toNat, rest)
  | none, some s => .ok (s, rest)
  | none, none =>
    if c = 'x' then hexEscape 2 rest
    else if c = 'u' then hexEscape 4 rest
    else if c = 'U' then hexEscape 8 rest
    else if c = 'N' then nameEscape rest
    else if c.isAlphanum then .error .unknownEscape
    else .ok (.code (Text.codeOf c), rest)

def setEscape (c : Char) (rest : List Sign) : Except PatternFault (Member × List Sign) :=
  if c = 'b' then .ok (.code 8, rest)
  else if '0' ≤ c && c ≤ '7' then
    let (value, _, rest) := digitsOf 8 2 (c.toNat - '0'.toNat) 0 rest
    if value ≤ 255 then .ok (.code value, rest) else .error .unknownEscape
  else commonEscape c rest

/-- One end of a range or a single member of a set. -/
def setMember (s : Sign) (rest : List Sign) : Except PatternFault (Member × List Sign) :=
  match s with
  | .plain c => .ok (.code (Text.codeOf c), rest)
  | .escaped c => setEscape c rest
  | .dangling => .error .endsInEscape

def rangeOf : Member → Member → Except PatternFault Member
  | .code lo, .code hi => if lo ≤ hi then .ok (.range lo hi) else .error .reversedRange
  | _, _ => .error .reversedRange

/-- Read the members of a set up to its closing bracket. -/
def readSet : Nat → List Member → List Sign → Except PatternFault (List Member × List Sign)
  | 0, _, _ => .error .unclosedSet
  | bound + 1, members, rest =>
    match rest with
    | [] => .error .unclosedSet
    | this :: rest =>
      if this = .plain ']' && !members.isEmpty then .ok (members, rest)
      else do
        let (first, rest) ← setMember this rest
        match rest with
        | .plain '-' :: [] => .error .unclosedSet
        | .plain '-' :: .plain ']' :: rest => .ok (members ++ [first, .code '-'.toNat], rest)
        | .plain '-' :: that :: rest =>
          let (second, rest) ← setMember that rest
          let between ← rangeOf first second
          readSet bound (members ++ [between]) rest
        | _ => readSet bound (members ++ [first]) rest

end CampaignCheck.Pattern

import CampaignCheck.Pattern.Basic
import CampaignCheck.Pattern.Sign

namespace CampaignCheck.Pattern

/-- A switch. -/
inductive Flag where
  | caseless
  | eachLine
  | dotAll
  | spaced
  | plain
  | wide
  | template
deriving DecidableEq, Repr, Inhabited

def Flag.ofChar? : Char → Option Flag
  | 'i' => some caseless
  | 'm' => some eachLine
  | 's' => some dotAll
  | 'x' => some spaced
  | 'a' => some plain
  | 'u' => some wide
  | 't' => some template
  | _ => none

/-- The switches in force. -/
structure Flags where
  /-- Letters count in any case. -/
  caseless : Bool := false
  /-- The line anchors hold at every line. -/
  eachLine : Bool := false
  /-- A dot stands for a line feed too. -/
  dotAll : Bool := false
  /-- Blanks between items do not count, and a hash starts a comment. -/
  spaced : Bool := false
  /-- Only plain Latin letters and digits are letters and digits. -/
  plain : Bool := false
  /-- All letters and digits are letters and digits, as they are without a flag. -/
  wide : Bool := false
  /-- Repetitions are not allowed. -/
  template : Bool := false
deriving DecidableEq, Repr, Inhabited

namespace Flags

def put (on : Bool) (f : Flags) : Flag → Flags
  | .caseless => { f with caseless := on }
  | .eachLine => { f with eachLine := on }
  | .dotAll => { f with dotAll := on }
  | .spaced => { f with spaced := on }
  | .plain => { f with plain := on }
  | .wide => { f with wide := on }
  | .template => { f with template := on }

def join (f : Flags) (on : List Flag) : Flags := on.foldl (put true) f

/-- The flags in a group that turns some on and some off. -/
def within (f : Flags) (on off : List Flag) : Flags :=
  let base :=
    if on.contains .plain || on.contains .wide then { f with plain := false, wide := false } else f
  off.foldl (put false) (base.join on)

/-- The flags ask for two readings of letters at once. -/
def clash (f : Flags) : Bool := f.plain && f.wide

def charSet (f : Flags) (code : Nat) (folded : Bool) : CharSet :=
  let c := Text.ofCode code
  if !f.caseless then .char c
  else if f.plain then if c.isAlpha || folded then .plainCase c else .char c
  else if Text.hasCase c || folded then .anyCase c
  else .char c

/-- The set of a character on its own. -/
def literal (f : Flags) (code : Nat) : CharSet := f.charSet code false

/-- The set of a character among others. -/
def member (f : Flags) (code : Nat) : CharSet := f.charSet code (decide (0xFFFF < code))

/-- The set of the characters between two codes. -/
def range (f : Flags) (lo hi : Nat) : CharSet :=
  let first := Text.ofCode lo
  let last := Text.ofCode hi
  if !f.caseless then .range first last
  else if f.plain then
    if (lo ≤ 'Z'.toNat && 'A'.toNat ≤ hi) || (lo ≤ 'z'.toNat && 'a'.toNat ≤ hi) || 0xFFFF < hi then
      .rangePlainCase first last
    else .range first last
  else if 0xFFFF < hi || Text.rangeHasCase lo hi then .rangeAnyCase first last
  else .range first last

def word (f : Flags) : CharSet := if f.plain then .plainWord else .word

def digit (f : Flags) : CharSet := if f.plain then .plainDigit else .digit

def blank (f : Flags) : CharSet := if f.plain then .plainBlank else .blank

/-- When two texts are alike. -/
def likeness (f : Flags) : Likeness :=
  if !f.caseless then .exact else if f.plain then .plainCase else .anyCase

end Flags

/-- How the letters of a flag group end: the flags hold for all of the pattern, or in a group that
turns some of them off. -/
inductive FlagsEnd where
  | whole
  | scoped (off : List Flag)

def readFlagLetters (ends : List Char) :
    List Flag → List Sign → Except PatternFault (List Flag × Char × List Sign)
  | flags, .plain c :: rest =>
    match Flag.ofChar? c with
    | none => .error .unknownFlag
    | some flag =>
      let flags := flags ++ [flag]
      match rest with
      | .plain d :: more =>
        if ends.contains d then .ok (flags, d, more) else readFlagLetters ends flags rest
      | _ => .error .unknownFlag
  | _, _ => .error .unknownFlag

/-- Read the flags of a group after its question mark: those turned on, how they end, and what
follows. -/
def readFlags (rest : List Sign) : Except PatternFault (List Flag × FlagsEnd × List Sign) := do
  let (on, stop, rest) ←
    match rest with
    | .plain '-' :: more => pure ([], '-', more)
    | _ => readFlagLetters [')', '-', ':'] [] rest
  if on.contains .plain && on.contains .wide then .error .clashingFlags
  else if stop = ')' then .ok (on, .whole, rest)
  else if on.contains .template then .error .misplacedFlags
  else if stop = ':' then .ok (on, .scoped [], rest)
  else do
    let (off, _, rest) ← readFlagLetters [':'] [] rest
    if [Flag.plain, .wide, .template].any off.contains then .error .misplacedFlags
    else if on.any off.contains then .error .clashingFlags
    else .ok (on, .scoped off, rest)

end CampaignCheck.Pattern

import CampaignCheck.Text.NameTable

namespace CampaignCheck.Text

/-- Search the names of a run from the code point `code` on. `shared` and `piece` are what has been
read of the next name, and `last` is the name before it; all are in reverse. -/
def nameInRun (wanted : List Char) (code shared : Nat) (piece last : List Char) :
    List Char → Option Nat
  | [] => if piece ++ last.drop (last.length - shared) = wanted then some code else none
  | c :: cs =>
    if !c.isLower then nameInRun wanted code shared (c :: piece) last cs
    else
      let more := c.toNat - 'a'.toNat
      if piece.isEmpty then nameInRun wanted code (shared + more) [] last cs
      else
        let name := piece ++ last.drop (last.length - shared)
        if name = wanted then some code else nameInRun wanted (code + 1) more [] name cs

/-- The code point of a listed name, in letters of any case. -/
def listedName? (name : List Char) : Option Nat :=
  let wanted := name.map Char.toUpper
  match otherNames.find? fun o => o.2.contains (String.ofList wanted) with
  | some o => some o.1
  | none =>
    nameRuns.findSome? fun r => nameInRun wanted.reverse r.1 0 [] [] (r.2.flatMap (·.toList))

/-- The value of digits in base sixteen with capital letters. -/
def capitalHex? : Nat → List Char → Option Nat
  | value, [] => some value
  | value, c :: cs =>
    if c.isDigit then capitalHex? (value * 16 + (c.toNat - '0'.toNat)) cs
    else if 'A' ≤ c && c ≤ 'F' then capitalHex? (value * 16 + (c.toNat - 'A'.toNat + 10)) cs
    else none

def ideographRuns : List (Nat × Nat) := [
  (0x3400, 0x4DBF), (0x4E00, 0x9FFF), (0x20000, 0x2A6DF), (0x2A700, 0x2B738), (0x2B740, 0x2B81D),
  (0x2B820, 0x2CEA1), (0x2CEB0, 0x2EBE0), (0x30000, 0x3134A)]

/-- The ideograph whose code is written in four or five digits. -/
def ideograph? (digits : List Char) : Option Nat :=
  if digits.length = 4 || digits.length = 5 then
    (capitalHex? 0 digits).filter fun n => ideographRuns.any fun r => r.1 ≤ n && n ≤ r.2
  else none

def openingSounds : List String :=
  ["G", "GG", "N", "D", "DD", "R", "M", "B", "BB", "S", "SS", "", "J", "JJ", "C", "K", "T", "P",
   "H"]

def vowelSounds : List String :=
  ["A", "AE", "YA", "YAE", "EO", "E", "YEO", "YE", "O", "WA", "WAE", "OE", "YO", "U", "WEO", "WE",
    "WI", "YU", "EU", "YI", "I"]

/-- The sounds that close a syllable, by number. -/
def closingSounds : List String :=
  ["", "G", "GG", "GS", "N", "NJ", "NH", "D", "L", "LG", "LM", "LB", "LS", "LT", "LP", "LH", "M",
    "B", "BS", "S", "SS", "NG", "J", "C", "K", "T", "P", "H"]

/-- The longest sound that opens a text: its number and what follows. -/
def longestSound? (sounds : List String) (cs : List Char) : Option (Nat × List Char) :=
  let fits := sounds.zipIdx.filter fun s => s.1.toList.isPrefixOf cs
  let best := fits.foldl (fun (b : Option (String × Nat)) s =>
    match b with
    | some t => if t.1.length < s.1.length then some s else some t
    | none => some s) none
  best.map fun s => (s.2, cs.drop s.1.length)

/-- The code point of a syllable written by its sounds. -/
def syllable? (cs : List Char) : Option Nat := do
  let (l, cs) ← longestSound? openingSounds cs
  let (v, cs) ← longestSound? vowelSounds cs
  let (t, cs) ← longestSound? closingSounds cs
  if cs.isEmpty then some (0xAC00 + (l * 21 + v) * 28 + t) else none

/-- The character of a name. Most names are listed; those of the unified ideographs and of the
syllables of Hangul follow from the code point, and are known in capital letters only. -/
def named? (name : String) : Option Char :=
  let cs := name.toList
  let syllable := "HANGUL SYLLABLE ".toList
  let ideograph := "CJK UNIFIED IDEOGRAPH-".toList
  let code :=
    if syllable.isPrefixOf cs then syllable? (cs.drop syllable.length)
    else if ideograph.isPrefixOf cs then ideograph? (cs.drop ideograph.length)
    else listedName? cs
  code.map Char.ofNat

end CampaignCheck.Text

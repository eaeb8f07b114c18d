import CampaignCheck.Ampscript.Vocabulary
import CampaignCheck.Finding
import CampaignCheck.Lexical.Blocks

namespace CampaignCheck.Ampscript

/-- What surrounds the next character; a block remembers the line that opened it. -/
inductive Zone where
  | outside
  | script
  | block (line : Nat)
deriving DecidableEq, Repr, Inhabited

/-- What a place decides: which of the characters from here on are kept, the zone behind them, and
what is wrong here. -/
structure Ruling where
  keep : List Bool
  zone : Zone
  issues : List Finding
deriving DecidableEq, Repr, Inhabited

/-- Drop that many characters. -/
def dropping (n : Nat) : List Bool := List.replicate n false

def keeping (n : Nat) : List Bool := List.replicate n true

def delimiterIssue (number column : Nat) (rule message hint : String) : Finding :=
  .report number (some column) rule message .syntactic .error hint

/-- The ruling at column `i` of a line, given the characters from there on. -/
def rule (raw : List Char) (number i : Nat) (zone : Zone) (cs : List Char) : Ruling :=
  match zone with
  | .script =>
    match scriptClose.matchAt? raw i with
    | some m => ⟨dropping (m.stop - i), .outside, []⟩
    | none => ⟨keeping 1, .script, []⟩
  | .block opened =>
    if Text.startsWith cs "]%%".toList then ⟨dropping 3, .outside, []⟩
    else if Text.startsWith cs "%%[".toList then
      ⟨dropping 3, .block opened, [delimiterIssue number i "ampscript-delimiters"
        s!"Nested %%[ inside a processing block opened on line {opened}"
        "Close the previous block with ]%% before opening a new one"]⟩
    else ⟨keeping 1, .block opened, []⟩
  | .outside =>
    if Text.startsWith cs "%%[".toList then ⟨dropping 3, .block number, []⟩
    else if Text.startsWith cs "%%=".toList then
      match Text.find? "=%%".toList (cs.drop 3) with
      | some n => ⟨dropping 3 ++ keeping n ++ dropping 3, .outside, []⟩
      | none =>
        ⟨dropping 3 ++ keeping (cs.length - 3), .outside, [delimiterIssue number i
          "ampscript-output-syntax" "Invalid AMPscript output block: %%= is not closed with =%%"
          "Close the output block with =%%"]⟩
    else if Text.startsWith cs "]%%".toList then
      ⟨dropping 3, .outside, [delimiterIssue number i "ampscript-delimiters"
        "Unexpected ]%% without a matching %%[" "Add %%[ at the beginning of the block"]⟩
    else if Text.startsWith cs "=%%".toList then
      ⟨dropping 3, .outside, [delimiterIssue number i "ampscript-output-syntax"
        "Unexpected =%% without a matching %%=" "Open the output block with %%="]⟩
    else match scriptOpen.matchAt? raw i with
      | some m => ⟨dropping (m.stop - i), .script, []⟩
      | none => ⟨dropping 1, .outside, []⟩

/-- The characters of a line from column `i` on, those kept as they are and the others blank, with
the zone behind them and the issues among them. `keep` is what has been decided already. -/
def regionChars (raw : List Char) (number : Nat) :
    Nat → List Bool → Zone → List Char → List Char × Zone × List Finding
  | _, _, zone, [] => ([], zone, [])
  | i, b :: keep, zone, c :: cs =>
    let (ds, zone, issues) := regionChars raw number (i + 1) keep zone cs
    ((if b then c else ' ') :: ds, zone, issues)
  | i, [], zone, c :: cs =>
    let r := rule raw number i zone (c :: cs)
    let (ds, zone, issues) := regionChars raw number (i + 1) (r.keep.drop 1) r.zone cs
    ((if r.keep.headD false then c else ' ') :: ds, zone, r.issues ++ issues)

def regionLines : Nat → Zone → List (List Char) → List (List Char) × Zone × List Finding
  | _, zone, [] => ([], zone, [])
  | number, zone, raw :: rest =>
    let (cs, zone, issues) := regionChars raw number 0 [] zone raw
    let (ls, zone, more) := regionLines (number + 1) zone rest
    (cs :: ls, zone, issues ++ more)

/-- The number of the last line that is not blank, counted from `number`; else the default. -/
def lastNonblank (number default : Nat) : List (List Char) → Nat
  | [] => default
  | l :: ls => lastNonblank (number + 1) (if Text.allBlank l then default else number) ls

/-- The script of a template, line by line, and what is wrong with its delimiters. Processing
blocks, output blocks and script elements are kept, all else becomes blanks, delimiters included; a
text without any delimiter is script as a whole. -/
structure Regions where
  lines : List (List Char)
  issues : List Finding
deriving DecidableEq, Repr, Inhabited

def isTemplate (ls : List (List Char)) : Bool :=
  let whole := Text.unlines ls
  delimiter.occursIn whole || scriptOpen.occursIn whole

def Regions.of (ls : List (List Char)) : Regions :=
  if !isTemplate ls then ⟨ls, []⟩
  else
    let (kept, zone, issues) := regionLines 1 .outside ls
    match zone with
    | .block opened =>
      ⟨kept, issues ++ [.report (lastNonblank 1 1 ls) none "ampscript-delimiters"
        s!"Processing block opened on line {opened} is never closed with ]%%"
        .syntactic .error "Add ]%% at the end"]⟩
    | _ => ⟨kept, issues⟩

/-- A template prepared for the checks. -/
structure Source where
  lines : List Line
  unclosed : List Text.Position
  blocks : BlockMap
  issues : List Finding
deriving Inhabited

/-- Put the real text beside masked lines. -/
def withRaw (ls : List Line) (raws : List (List Char)) : List Line :=
  List.zipWith (fun l raw => { l with raw := raw }) ls raws

/-- Mask the script regions of a template. -/
def Source.of (code : List Char) : Source :=
  let raws := Text.lines code
  let regions := Regions.of raws
  let masked := MaskedSource.ofLines (.of .ampscript) regions.lines
  let lines := withRaw masked.lines raws
  ⟨lines, masked.unclosed, BlockMap.of .ampscript lines, regions.issues⟩

end CampaignCheck.Ampscript

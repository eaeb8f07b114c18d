import CampaignCheck.Ssjs.Vocabulary
import CampaignCheck.Lexical.Blocks

namespace CampaignCheck.Ssjs

/-- The characters of a line from column `i` on. `blanks` characters are already known to become
blanks; `inside` tells whether a script element is open behind them. -/
def viewChars (raw : List Char) : Nat → Nat → Bool → List Char → List Char × Bool
  | _, _, inside, [] => ([], inside)
  | i, n + 1, inside, _ :: cs =>
    let (ds, inside) := viewChars raw (i + 1) n inside cs
    (' ' :: ds, inside)
  | i, 0, true, c :: cs =>
    match scriptClose.matchAt? raw i with
    | some m =>
      let (ds, inside) := viewChars raw (i + 1) (m.stop - i - 1) false cs
      (' ' :: ds, inside)
    | none =>
      let (ds, inside) := viewChars raw (i + 1) 0 true cs
      (c :: ds, inside)
  | i, 0, false, _ :: cs =>
    match scriptTag.matchAt? raw i with
    | some m =>
      let (ds, inside) := viewChars raw (i + 1) (m.stop - i - 1) true cs
      (' ' :: ds, inside)
    | none =>
      let (ds, inside) := viewChars raw (i + 1) 0 false cs
      (' ' :: ds, inside)

/-- The lines of a page whose tags have been found. -/
def viewLines : Bool → List (List Char) → List (List Char)
  | _, [] => []
  | inside, raw :: rest =>
    let (cs, inside) := viewChars raw 0 0 inside raw
    cs :: viewLines inside rest

/-- The script of a page, line by line: what stands outside script elements becomes blanks, tags
included; a text without any script tag is script as a whole. -/
def view (ls : List (List Char)) : List (List Char) :=
  if ls.any scriptTag.occursIn then viewLines false ls else ls

/-- A page prepared for the checks: the masked script beside the raw lines, and its blocks. -/
structure Source where
  lines : List Line
  unclosed : List Text.Position
  blocks : BlockMap
deriving Inhabited

/-- Mask the script of a page. -/
def Source.of (code : List Char) : Source :=
  let raws := Text.lines code
  let masked := MaskedSource.ofLines (.of .ssjs) (view raws)
  let lines := List.zipWith (fun (l : Line) raw => { l with raw := raw }) masked.lines raws
  ⟨lines, masked.unclosed, BlockMap.of .ssjs lines⟩

end CampaignCheck.Ssjs

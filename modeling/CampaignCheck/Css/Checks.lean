import CampaignCheck.Css.Rule
import CampaignCheck.Css.Vocabulary
import CampaignCheck.Finding
import CampaignCheck.Fix.Basic
import CampaignCheck.Lexical.Delimiters
import CampaignCheck.Lexical.Mask

namespace CampaignCheck.Css

def reportAt (cs : List Char) (offset : Nat) (rule message : String) (category : Category)
    (severity : Severity) (hint : String) : Finding :=
  let p := Text.positionAt cs offset
  .report p.line (some p.column) rule message category severity hint

def delimiterFinding (i : Imbalance) : Finding :=
  .report i.line (some i.column) "css-brace-matching"
    (match i.kind with
      | .unclosed => "Unclosed '\x7b'"
      | .unexpected => "Unexpected '\x7d'")
    .syntactic .error "Balance the braces"

def declarationFindings (cs : List Char) (r : Rule) : List Finding :=
  r.missingSemicolons.map (fun offset =>
    reportAt cs offset "css-missing-semicolon" "Declaration is not terminated with ';'" .syntactic
      .error "Add ';' at the end of the declaration") ++
  r.invalid.map fun (offset, text) =>
    reportAt cs offset "css-invalid-declaration"
      ("'" ++ String.ofList text ++ "' is not a 'property: value' declaration") .syntactic .error
      "Write declarations as property: value;"

def blanked (p : Pattern) (cs : List Char) : List Char :=
  p.replaceAll (fun m => Text.spaces (m.stop - m.start)) cs

/-- The text is a color: 3, 4, 6 or 8 digits in base sixteen. -/
def isColor (digits : List Char) : Bool :=
  [3, 4, 6, 8].contains digits.length && hexDigits.matchesAll digits

def valueFindings (cs : List Char) (d : Declaration) : List Finding :=
  let value := blanked urlValue d.value
  let plain := blanked hashValue value
  (hashValue.findAll value).filterMap (fun m =>
    let digits := m.group value 1
    if isColor digits then none
    else some (reportAt cs (d.valueOffset + m.start) "css-invalid-color"
      ("Invalid color #" ++ String.ofList digits) .syntactic .error
      "Use 3, 4, 6 or 8 hexadecimal digits")) ++
  (dimension.findAll plain).filterMap fun m =>
    let unit := m.group plain 2
    if units.contains (String.ofList (Text.lower unit)) then none
    else some (reportAt cs (d.valueOffset + m.startOf 2) "css-unknown-unit"
      ("Unknown unit '" ++ String.ofList unit ++ "'") .syntactic .error
      "Use a CSS unit such as px, em or %")

def grammarFindings (code : List Char) : List Finding :=
  let source := MaskedSource.ofCode .css code
  let cs := source.text
  let rs := rules cs
  (Delimiters.imbalances [⟨'{', '}'⟩] source.lines).map delimiterFinding ++
    rs.flatMap (declarationFindings cs) ++
    rs.flatMap fun r => r.declarations.flatMap (valueFindings cs)

/-- Properties that do not exist; custom and vendor properties and most at-rules are passed. -/
def propertyFindings (cs : List Char) (r : Rule) : List Finding :=
  if r.isAtRule && !Text.startsWith (Text.lower r.selector) "@font-face".toList then []
  else r.declarations.filterMap fun d =>
    let name := String.ofList d.property
    if Text.startsWith d.property ['-'] || properties.contains name then none
    else some (reportAt cs d.offset "css-unknown-property" ("Unknown property '" ++ name ++ "'")
      .semantic .warning "Check the property name for typos")

/-- Declarations that override other rules, also in unbalanced blocks. -/
def importantFindings (l : Line) : List Finding :=
  (important.findAll l.masked).map fun m =>
    .note l.number (some m.start) "css-important" "!important overrides the cascade" .style .info

def specificityFinding (cs : List Char) (offset : Nat) (selector : List Char) : List Finding :=
  let ids := idSelector.count selector
  let classes := classSelector.count selector
  if 1 < ids || 4 < classes then
    [reportAt cs (offset + (Text.indentation selector).length) "css-high-specificity"
      ("Selector '" ++ String.ofList (Text.trim selector) ++
        s!"' is too specific ({ids} ids, {classes} classes)")
      .style .warning "Reduce ids and chained classes in the selector"]
  else []

/-- Selectors with too many ids or classes. -/
def specificityFindings (cs : List Char) (r : Rule) : List Finding :=
  if r.isAtRule then []
  else (placed r.offset (Text.cut ',' r.selector)).flatMap fun (offset, s) =>
    specificityFinding cs offset s

def outlineFindings (cs : List Char) (r : Rule) : List Finding :=
  match r.get? "outline" with
  | some d =>
    if focusSelector.occursIn r.selector && noOutline.matchesAll d.value then
      [reportAt cs d.offset "css-focus-outline"
        "Focus outline removed; keyboard users lose track of focus" .semantic .warning
        "Keep a visible outline such as 2px solid currentColor"]
    else []
  | none => []

def meaningFindings (code : List Char) : List Finding :=
  let source := MaskedSource.ofCode .css code
  let cs := source.text
  let rs := rules cs
  rs.flatMap (propertyFindings cs) ++ source.lines.flatMap importantFindings ++
    rs.flatMap (specificityFindings cs) ++ rs.flatMap (outlineFindings cs)

def declarationCost (cs : List Char) (d : Declaration) : List Finding :=
  let name := String.ofList d.property
  (if expensiveProperties.contains name then
    [reportAt cs d.offset "css-expensive-property" (name ++ " is expensive to render") .performance
      .info "Use it sparingly, especially on animated elements"]
  else []) ++
  (if ["transition", "transition-property"].contains name && layoutProperty.occursIn d.value then
    [reportAt cs d.offset "css-animate-layout" "Transition animates a layout property" .performance
      .warning "Animate transform and opacity instead of size or position"]
  else [])

def ruleCost (cs : List Char) (r : Rule) : List Finding :=
  (if !r.isAtRule && universalSelector.occursIn r.selector then
    [reportAt cs r.offset "css-universal-selector" "Universal selector matches every element"
      .performance .warning "Target specific elements or classes"]
  else []) ++ r.declarations.flatMap (declarationCost cs)

def costFindings (code : List Char) : List Finding :=
  let cs := (MaskedSource.ofCode .css code).text
  (rules cs).flatMap (ruleCost cs)

def ruleAdvice (cs : List Char) (r : Rule) : List Suggestion :=
  let line := (Text.positionAt cs r.offset).line
  let floats := ((r.get? "float").map fun d =>
    ["left".toList, "right".toList].contains (Text.lower d.value)).getD false
  let animates := (r.get? "animation").isSome || (r.get? "animation-name").isSome
  (if floats then
    [Suggestion.on line s!"css-modern-layout:{line}" "Use modern layout"
      "On CloudPages, flexbox or grid is easier to maintain than floats; keep floats for email"
      .bestPractice .low]
  else []) ++
  (if focusSelector.occursIn r.selector then
    [Suggestion.on line s!"css-focus-visible:{line}" "Use :focus-visible"
      "Use :focus-visible to show focus styles to keyboard users only" .bestPractice .low]
  else []) ++
  (if animates && (r.get? "will-change").isNone then
    [Suggestion.on line s!"css-will-change:{line}" "Hint animated properties"
      "Add will-change for the animated properties so the browser can prepare a layer"
      .performance .low]
  else [])

/-- The colors of all rules in lower case, as often as they occur. -/
def colors (rs : List Rule) : List (List Char) :=
  rs.flatMap fun r => r.declarations.flatMap fun d =>
    (hashValue.findAll d.value).map fun m => Text.lower (m.text d.value)

/-- Advice on colors that occur three times or more, in order of the colors. -/
def colorAdvice (rs : List Rule) : List Suggestion :=
  let all := colors rs
  ((all.eraseDups).map String.ofList |>.mergeSort fun a b => decide (a ≤ b)).filterMap fun color =>
    let count := all.count color.toList
    if 3 ≤ count then
      some ⟨color ++ s!" is repeated {count} times; define it once as a custom property " ++
        "(CloudPages only)", .maintainability, some ("css-custom-property:" ++ color),
        some "Use CSS custom properties", some .low, none⟩
    else none

def advice (code : List Char) : List Suggestion :=
  let cs := (MaskedSource.ofCode .css code).text
  let rs := rules cs
  rs.flatMap (ruleAdvice cs) ++ colorAdvice rs

/-- Add a semicolon behind the last character of code, unless a semicolon or brace is there. -/
def fixSemicolon : Fixer := fun line _ =>
  let code := Text.trimRight (Mask.alone (.of .css) line)
  match code.getLast? with
  | none => none
  | some c =>
    if c == ';' || c == '{' || c == '}' then none
    else some (line.take code.length ++ [';'] ++ line.drop code.length)

/-- Give every removed outline of the line a visible form. -/
def fixOutline : Fixer := fun line _ =>
  some (outlineRemoval.replaceAll
    (fun m => m.group line 1 ++ "2px solid currentColor".toList) line)

def fixers : List (String × Fixer) := [
  ("css-missing-semicolon", fixSemicolon),
  ("css-focus-outline", fixOutline)]

end CampaignCheck.Css

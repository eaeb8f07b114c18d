import CampaignCheck.Pattern.Search

namespace CampaignCheck.Css

open Pattern

def properties : List String := [
  "align-content", "align-items", "align-self", "all", "animation", "animation-delay",
  "animation-direction", "animation-duration", "animation-fill-mode", "animation-iteration-count",
  "animation-name", "animation-play-state", "animation-timing-function", "appearance",
  "aspect-ratio", "backdrop-filter", "backface-visibility", "background", "background-attachment",
  "background-blend-mode", "background-clip", "background-color", "background-image",
  "background-origin", "background-position", "background-repeat", "background-size",
  "block-size", "border", "border-block", "border-bottom", "border-bottom-color",
  "border-bottom-left-radius", "border-bottom-right-radius", "border-bottom-style",
  "border-bottom-width", "border-collapse", "border-color", "border-image", "border-inline",
  "border-left", "border-left-color", "border-left-style", "border-left-width", "border-radius",
  "border-right", "border-right-color", "border-right-style", "border-right-width",
  "border-spacing", "border-style", "border-top", "border-top-color", "border-top-left-radius",
  "border-top-right-radius", "border-top-style", "border-top-width", "border-width", "bottom",
  "box-shadow", "box-sizing", "break-after", "break-before", "break-inside", "caption-side",
  "caret-color", "clear", "clip", "clip-path", "color", "column-count", "column-gap",
  "column-rule", "column-span", "column-width", "columns", "contain", "content",
  "counter-increment", "counter-reset", "cursor", "direction", "display", "empty-cells", "fill",
  "filter", "flex", "flex-basis", "flex-direction", "flex-flow", "flex-grow", "flex-shrink",
  "flex-wrap", "float", "font", "font-display", "font-family", "font-feature-settings",
  "font-kerning", "font-size", "font-stretch", "font-style", "font-variant", "font-weight", "gap",
  "grid", "grid-area", "grid-auto-columns", "grid-auto-flow", "grid-auto-rows", "grid-column",
  "grid-column-end", "grid-column-start", "grid-gap", "grid-row", "grid-row-end",
  "grid-row-start", "grid-template", "grid-template-areas", "grid-template-columns",
  "grid-template-rows", "height", "hyphens", "image-rendering", "inline-size", "inset",
  "isolation", "justify-content", "justify-items", "justify-self", "left", "letter-spacing",
  "line-break", "line-height", "list-style", "list-style-image", "list-style-position",
  "list-style-type", "margin", "margin-block", "margin-bottom", "margin-inline", "margin-left",
  "margin-right", "margin-top", "mask", "max-height", "max-width", "min-height", "min-width",
  "mix-blend-mode", "mso-hide", "mso-line-height-rule", "mso-table-lspace", "mso-table-rspace",
  "object-fit", "object-position", "opacity", "order", "orphans", "outline", "outline-color",
  "outline-offset", "outline-style", "outline-width", "overflow", "overflow-wrap", "overflow-x",
  "overflow-y", "padding", "padding-block", "padding-bottom", "padding-inline", "padding-left",
  "padding-right", "padding-top", "page-break-after", "page-break-before", "page-break-inside",
  "perspective", "place-content", "place-items", "place-self", "pointer-events", "position",
  "quotes", "resize", "right", "rotate", "row-gap", "scale", "scroll-behavior", "scroll-margin",
  "scroll-padding", "scroll-snap-align", "scroll-snap-type", "src", "stroke", "stroke-width",
  "tab-size", "table-layout", "text-align", "text-align-last", "text-decoration",
  "text-decoration-color", "text-decoration-line", "text-decoration-style", "text-indent",
  "text-overflow", "text-rendering", "text-shadow", "text-size-adjust", "text-transform",
  "text-underline-offset", "top", "touch-action", "transform", "transform-origin",
  "transform-style", "transition", "transition-delay", "transition-duration",
  "transition-property", "transition-timing-function", "translate", "unicode-bidi",
  "unicode-range", "user-select", "vertical-align", "visibility", "white-space", "widows",
  "width", "will-change", "word-break", "word-spacing", "word-wrap", "writing-mode", "z-index",
  "zoom"]

/-- Units of lengths, times, angles and resolutions, in lower case. -/
def units : List String := [
  "px", "em", "rem", "%", "vh", "vw", "vmin", "vmax", "svh", "lvh", "dvh", "pt", "pc", "in", "cm",
  "mm", "q", "ex", "ch", "lh", "s", "ms", "deg", "grad", "rad", "turn", "fr", "dpi", "dpcm",
  "dppx", "x", "hz", "khz"]

def expensiveProperties : List String := ["box-shadow", "filter", "backdrop-filter"]

/-- A selector and a block without inner blocks. -/
def ruleBlock : Pattern :=
  capture 1 (many (one (.butChars "\x7b\x7d"))) ++ lit "\x7b" ++
    capture 2 (many (one (.butChars "\x7b\x7d"))) ++ lit "\x7d"

/-- A property, a colon and a value. -/
def declarationForm : Pattern :=
  blanks ++ capture 1 (many1 (one (.union [.word, .char '-']))) ++ blanks ++ lit ":" ++
    capture 2 (many (one .all))

/-- A line end before a line that starts with a property. -/
def nextProperty : Pattern :=
  lit "\n" ++ ahead true (many (one (.chars " \t")) ++ many1 (one (.union [.word, .char '-'])) ++
    many (one (.chars " \t")) ++ lit ":")

def urlValue : Pattern := caseless "url" ++ lit "(" ++ many (one (.not (.char ')'))) ++ lit ")"

/-- A number sign with letters and digits. -/
def hashValue : Pattern :=
  lit "#" ++ capture 1 (many1 (one (.union [.range '0' '9', .range 'A' 'Z', .range 'a' 'z'])))

def hexDigits : Pattern := many1 (one (.union [.range '0' '9', .range 'A' 'F', .range 'a' 'f']))

def dimension : Pattern :=
  behind false 1 (one (.union [.word, .chars ".#-"])) ++ capture 1 (many (one .digit) ++
    opt (lit ".") ++ many1 (one .digit)) ++ capture 2 (oneOf [many1 (one (.union [.range 'a' 'z',
    .range 'A' 'Z'])), lit "%"])

/-- A property that moves or resizes boxes. -/
def layoutProperty : Pattern :=
  wordEdge ++ caselessOf ["width", "height", "top", "left", "right", "bottom", "margin",
    "padding"]

def universalSelector : Pattern :=
  oneOf [anchor .textStart, one (.union [.blank, .chars ">+~("])] ++ lit "*" ++
    ahead true (oneOf [anchor .lastLineEnd, one (.union [.blank, .chars ">+~,:.[)#"])])

def outlineRemoval : Pattern :=
  capture 1 (caseless "outline" ++ blanks ++ lit ":" ++ blanks) ++ oneOf [caseless "none",
    lit "0"] ++ wordEdge

def focusSelector : Pattern := lit ":focus" ++ ahead false (one (.union [.word, .char '-']))

/-- The mark that overrides other rules. -/
def important : Pattern := lit "!" ++ caseless "important" ++ wordEdge

def idSelector : Pattern := lit "#" ++ many1 (one (.union [.word, .char '-']))

def classSelector : Pattern :=
  oneOf [lit "." ++ many1 (one (.union [.word, .char '-'])), lit "[" ++
    many (one (.not (.char ']'))) ++ lit "]", behind false 1 (lit ":") ++ lit ":" ++
    ahead false (lit ":") ++ many1 (one (.union [.word, .char '-']))]

def noOutline : Pattern :=
  oneOf [caseless "none", lit "0"] ++ opt (blanks ++ lit "!" ++ caseless "important")

end CampaignCheck.Css

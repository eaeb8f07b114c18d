import CampaignCheck.Finding
import CampaignCheck.Pattern.Search

namespace CampaignCheck.Html

open Pattern

/-- Elements without content and end tag. -/
def voidElements : List String := [
  "area", "base", "br", "col", "embed", "hr", "img", "input", "link", "meta", "param", "source",
  "track", "wbr"]

/-- Elements whose end tag may be left out. -/
def optionalClose : List String := [
  "p", "li", "td", "th", "tr", "thead", "tbody", "tfoot", "option", "dt", "dd", "colgroup"]

def blockElements : List String := [
  "address", "article", "aside", "blockquote", "div", "dl", "fieldset", "figure", "footer", "form",
  "h1", "h2", "h3", "h4", "h5", "h6", "header", "hr", "main", "nav", "ol", "pre", "section",
  "table", "ul"]

/-- Elements that are out of use; some desktop clients still need the last two. -/
def deprecatedElements : List (String × Severity) := [
  ("marquee", .warning), ("blink", .warning), ("big", .warning), ("tt", .warning),
  ("strike", .warning), ("center", .info), ("font", .info)]

/-- Types of input that need no label. -/
def unlabelledTypes : List String := ["hidden", "submit", "button", "image", "reset"]

/-- Elements for the main parts of a page. -/
def landmarks : List String := ["header", "nav", "main", "footer"]

def tagForm : Pattern :=
  lit "<" ++ capture 1 (opt (lit "/")) ++ capture 2 (one (.union [.range 'A' 'Z',
    .range 'a' 'z']) ++ many (one (.union [.word, .chars ":-"]))) ++
    capture 3 (manyFewest (one (.butChars "<>"))) ++ capture 4 (opt (lit "/")) ++ lit ">"

def attributeForm : Pattern :=
  capture 1 (many1 (one (.not (.union [.blank, .chars "=/>\"'"])))) ++ opt (blanks ++ lit "=" ++
    blanks ++ capture 2 (oneOf [lit "\"" ++ many (one (.not (.char '"'))) ++ lit "\"", lit "'" ++
    many (one (.not (.char '\''))) ++ lit "'", many1 (one (.not (.union [.blank,
    .chars "\"'>"])))]))

def handlerName : Pattern := caseless "on" ++ many1 (one (.rangeAnyCase 'a' 'z'))

/-- An element whose content is no markup. -/
def rawElement : Pattern :=
  lit "<" ++ capture 1 (caselessOf ["script", "style"]) ++ wordEdge ++
    many (one (.not (.char '>'))) ++ lit ">" ++ manyFewest (one .all) ++ lit "</" ++
    backreference 1 .anyCase ++ blanks ++ lit ">"

def scriptElement : Pattern :=
  lit "<" ++ caseless "script" ++ wordEdge ++ capture 1 (many (one (.not (.char '>')))) ++
    lit ">" ++ capture 2 (manyFewest (one .all)) ++ lit "</" ++ caseless "script" ++ blanks ++
    lit ">"

def comment : Pattern := lit "<!--" ++ manyFewest (one .all) ++ lit "-->"

def templateScript : Pattern :=
  oneOf [lit "%%[" ++ manyFewest (one .all) ++ lit "]%%", lit "%%=" ++ manyFewest (one .all) ++
    lit "=%%"]

def imageWithoutAlt : Pattern :=
  capture 1 (lit "<" ++ caseless "img" ++ wordEdge ++
    ahead false (many (one (.not (.char '>'))) ++ wordEdge ++ caseless "alt" ++ blanks ++
    lit "=") ++ manyFewest (one (.not (.char '>')))) ++ blanks ++ capture 2 (opt (lit "/")) ++
    lit ">"

def voidEndTag : Pattern :=
  lit "</" ++ caselessOf ["area", "base", "br", "col", "embed", "hr", "img", "input", "link",
    "meta", "param", "source", "track", "wbr"] ++ blanks ++ lit ">"

def lineTag : Pattern :=
  lit "<" ++ one (.union [.range 'A' 'Z', .range 'a' 'z']) ++ many (one (.butChars "<>")) ++
    lit ">"

def headOpen : Pattern := lit "<" ++ caseless "head" ++ wordEdge

def headClose : Pattern := lit "</" ++ caseless "head" ++ blanks ++ lit ">"

/-- The attribute that makes a script run on the server. -/
def runsOnServer : Pattern :=
  lit "runat" ++ blanks ++ lit "=" ++ blanks ++ opt (one (.chars "\"'")) ++ lit "server"

def sourceAttribute : Pattern := wordEdge ++ lit "src" ++ blanks ++ lit "="

/-- An attribute that lets the page go on. -/
def deferral : Pattern := wordEdge ++ litOf ["async", "defer"] ++ wordEdge

/-- The name of a photo or drawing in an old format. -/
def classicImage : Pattern :=
  lit "." ++ oneOf [caseless "jp" ++ opt (caseless "e") ++ caseless "g", caseless "png"] ++
    wordEdge

def stylesheetLink : Pattern :=
  lit "<" ++ caseless "link" ++ wordEdge ++ many (one (.not (.char '>'))) ++
    wholeWordCaseless "stylesheet" ++ many (one (.not (.char '>'))) ++ lit ">"

end CampaignCheck.Html

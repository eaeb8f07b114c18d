import CampaignCheck.Pattern.Search

namespace CampaignCheck.Javascript

open Pattern

def pageQuery : Pattern :=
  wordEdge ++ lit "document." ++ capture 1 (oneOf [lit "getElementById", lit "getElementsBy" ++
    wordChars1, lit "querySelector" ++ opt (lit "All")]) ++ blanks ++ lit "("

def pageWrite : Pattern :=
  oneOf [lit ".innerHTML" ++ blanks ++ lit "+=", lit "." ++ litOf ["appendChild",
    "insertAdjacentHTML"] ++ blanks ++ lit "("]

/-- A comparison that converts types; comparing with null is accepted. -/
def looseEquality : Pattern :=
  behind false 1 (one (.chars "=!<>")) ++ capture 1 (one (.chars "=!")) ++ lit "=" ++
    ahead false (lit "=") ++ ahead false (blanks ++ lit "null" ++ wordEdge)

/-- A text that is run as code. -/
def evaluation : Pattern :=
  oneOf [wordEdge ++ lit "eval" ++ blanks ++ lit "(", wordEdge ++ lit "new" ++ blanks1 ++
    lit "Function" ++ blanks ++ lit "(", wordEdge ++ lit "set" ++ litOf ["Timeout",
    "Interval"] ++ blanks ++ lit "(" ++ blanks ++ one (.chars "\"'\x60")]

def markupWrite : Pattern :=
  oneOf [lit ".innerHTML" ++ blanks ++ lit "=" ++ ahead false (lit "="), wordEdge ++
    lit "document.write" ++ blanks ++ lit "("]

def bareConst : Pattern :=
  wordEdge ++ lit "const" ++ blanks1 ++ one (.union [.range 'A' 'Z', .range 'a' 'z',
    .chars "_$"]) ++ many (one (.union [.word, .char '$'])) ++ blanks ++ oneOf [lit ";",
    anchor .lastLineEnd]

def awaitWord : Pattern := wholeWord "await"

def asyncWord : Pattern := wholeWord "async"

def functionWord : Pattern := wholeWord "function"

/-- A step of a promise chain. -/
def thenCall : Pattern := lit ".then" ++ blanks ++ lit "("

def methodHead : Pattern :=
  oneOf [anchor .textStart, one (.union [.blank, .char ','])] ++ ahead false (litOf ["if", "for",
    "while", "switch", "catch", "with"] ++ wordEdge) ++ one (.union [.range 'A' 'Z',
    .range 'a' 'z', .chars "_$"]) ++ many (one (.union [.word, .char '$'])) ++ blanks ++
    lit "(" ++ many (one (.butChars "()")) ++ lit ")" ++ blanks ++ anchor .lastLineEnd

/-- A listener for an event that fires often. -/
def hotListener : Pattern :=
  lit "addEventListener" ++ blanks ++ lit "(" ++ blanks ++ one (.chars "\"'") ++
    capture 1 (litOf ["scroll", "resize", "mousemove"]) ++ one (.chars "\"'")

/-- A variable with the scope of its function. -/
def varWord : Pattern := wordEdge ++ lit "var" ++ blanks1

/-- A loop whose condition reads a length. -/
def lengthLoop : Pattern :=
  wordEdge ++ lit "for" ++ blanks ++ lit "(" ++ many (one (.not (.char ';'))) ++ lit ";" ++
    many (one (.not (.char ';'))) ++ lit ".length" ++ wordEdge

def quotedConcat : Pattern :=
  oneOf [one (.chars "\"'") ++ blanks ++ lit "+", lit "+" ++ blanks ++ one (.chars "\"'")]

/-- A read that fails on bad data. -/
def riskyRead : Pattern :=
  oneOf [wordEdge ++ lit "JSON.parse" ++ blanks ++ lit "(", wordEdge ++
    lit "localStorage.getItem" ++ blanks ++ lit "("]

/-- Errors are caught somewhere. -/
def tryWord : Pattern := wholeWord "try"

end CampaignCheck.Javascript

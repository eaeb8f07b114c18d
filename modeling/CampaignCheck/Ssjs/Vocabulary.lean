import CampaignCheck.Pattern.Search

namespace CampaignCheck.Ssjs

open Pattern

def initCall : Pattern := wordEdge ++ lit "DataExtension.Init" ++ blanks ++ lit "("

/-- A proxy or request object of the platform is made. -/
def utilCall : Pattern :=
  wordEdge ++ lit "Script.Util." ++ litOf ["WSProxy", "HttpRequest", "HttpGet", "HttpPost"] ++
    blanks ++ lit "("

def httpCall : Pattern := wordEdge ++ lit "HTTP." ++ litOf ["Get", "Post"] ++ blanks ++ lit "("

/-- A platform function that reads or writes data. -/
def platformCall : Pattern :=
  wordEdge ++ lit "Platform.Function." ++ oneOf [lit "Lookup" ++ wordChars, lit "InsertD" ++
    wordChars, lit "UpdateD" ++ wordChars, lit "UpsertD" ++ wordChars, lit "DeleteD" ++
    wordChars, lit "HTTP" ++ wordChars, lit "ContentBlockBy" ++ wordChars1,
    lit "RetrieveSalesforceObjects", lit "CreateSalesforceObject",
    lit "UpdateSingleSalesforceObject"] ++ blanks ++ lit "("

/-- An operation on the rows of a data extension. -/
def rowsCall : Pattern :=
  lit ".Rows." ++ litOf ["Lookup", "Retrieve", "Add", "Update", "Remove"] ++ blanks ++ lit "("

def proxyCall : Pattern :=
  lit "." ++ litOf ["retrieve", "createItem", "updateItem", "deleteItem", "performItem",
    "createBatch", "updateBatch"] ++ blanks ++ lit "("

/-- Calls that cost much: data access, network and proxy calls. -/
def expensiveCalls : List Pattern :=
  [initCall, utilCall, httpCall, platformCall, rowsCall, proxyCall]

def queryCall : Pattern :=
  oneOf [lit ".Rows." ++ litOf ["Lookup", "Retrieve"], lit "Platform.Function.Lookup" ++
    wordChars, lit ".retrieve", lit ".execute", lit "ExecuteQuery",
    lit "Query.Definition.Add"] ++ blanks ++ lit "("

/-- A call that reads what the visitor sent. -/
def requestCall : Pattern :=
  oneOf [wordEdge ++ opt (lit "Platform.") ++ lit "Request." ++ litOf ["GetQueryStringParameter",
    "GetFormField", "GetPostData", "GetCookieValue"] ++ blanks ++ lit "(", wordEdge ++
    lit "RequestParameter" ++ blanks ++ lit "("]

def outputCall : Pattern :=
  wordEdge ++ litOf ["Write", "Platform.Response.Write"] ++ blanks ++ lit "("

/-- Functions that make a value safe to show. -/
def encoders : List String :=
  ["HTMLEncode", "URLEncode", "encodeURIComponent", "encodeURI", "Stringify"]

def coreObject : Pattern :=
  wordEdge ++ litOf ["DataExtension", "Subscriber", "List", "Email", "TriggeredSend", "Send",
    "Folder", "Account"] ++ lit "." ++ litOf ["Init", "Add", "Retrieve"] ++ wordEdge

def scriptTag : Pattern :=
  lit "<" ++ caseless "script" ++ wordEdge ++ many (one (.not (.char '>'))) ++ lit ">"

/-- The end tag of a script element. -/
def scriptClose : Pattern := lit "</" ++ caseless "script" ++ blanks ++ lit ">"

/-- The attribute that makes a script run on the server. -/
def runsOnServer : Pattern :=
  caseless "runat" ++ blanks ++ lit "=" ++ blanks ++ opt (one (.chars "\"'")) ++
    caseless "server"

def declaration : Pattern :=
  wordEdge ++ litOf ["var", "let", "const"] ++ blanks1 ++ capture 1 (one (.union [.range 'A' 'Z',
    .range 'a' 'z', .chars "_$"]) ++ many (one (.union [.word, .char '$'])))

def functionHead : Pattern :=
  wordEdge ++ lit "function" ++ blanks ++ opt (capture 1 (one (.union [.range 'A' 'Z',
    .range 'a' 'z', .chars "_$"]) ++ many (one (.union [.word, .char '$'])))) ++ blanks ++
    lit "(" ++ capture 2 (many (one (.not (.char ')')))) ++ lit ")"

def parameter : Pattern :=
  one (.union [.range 'A' 'Z', .range 'a' 'z', .chars "_$"]) ++ many (one (.union [.word,
    .char '$']))

/-- A name that is not a member of something. -/
def identifier : Pattern :=
  behind false 1 (one (.union [.word, .chars "$."])) ++ capture 1 (one (.union [.range 'A' 'Z',
    .range 'a' 'z', .chars "_$"]) ++ many (one (.union [.word, .char '$'])))

def lineAssignment : Pattern :=
  anchor .textStart ++ blanks ++ capture 1 (one (.union [.range 'A' 'Z', .range 'a' 'z',
    .chars "_$"]) ++ many (one (.union [.word, .char '$']))) ++ blanks ++ lit "=" ++
    ahead false (lit "=")

def anyAssignment : Pattern :=
  wordEdge ++ opt (lit "var" ++ blanks1) ++ capture 1 (one (.union [.range 'A' 'Z',
    .range 'a' 'z', .chars "_$"]) ++ many (one (.union [.word, .char '$']))) ++ blanks ++
    lit "=" ++ ahead false (lit "=")

/-- A name like that of a secret with a literal value. -/
def credential : Pattern :=
  opt (one (.chars "\"'")) ++ wordEdge ++ oneOf [caseless "password", caseless "passwd",
    caseless "pwd", caseless "secret", caseless "api" ++ opt (lit "_") ++ caseless "key",
    caseless "apiKey", caseless "client" ++ opt (lit "_") ++ caseless "secret",
    caseless "clientSecret", caseless "access" ++ opt (lit "_") ++ caseless "token",
    caseless "accessToken"] ++ wordEdge ++ opt (one (.chars "\"'")) ++ blanks ++
    one (.chars ":=") ++ blanks ++ one (.chars "\"'") ++
    repeated (one (.butChars "\"'")) 3 none .most ++ one (.chars "\"'")

/-- Words that are declared by the language or the platform. -/
def reserved : List String := [
  "var", "let", "const", "function", "return", "if", "else", "for", "while", "do", "switch", "case",
  "default", "break", "continue", "try", "catch", "finally", "throw", "new", "typeof", "instanceof",
  "in", "of", "delete", "void", "this", "null", "undefined", "true", "false", "Platform", "Write",
  "DataExtension", "Script", "HTTP", "Request", "Variable", "Attribute", "Stringify", "ParseJSON",
  "Subscriber", "List", "Email", "TriggeredSend", "Send", "Folder", "Account", "WSProxy", "Core",
  "Array", "Object", "String", "Number", "Math", "Date", "JSON", "parseInt", "parseFloat", "isNaN",
  "Boolean", "Error", "arguments"]

/-- The start of a statement that needs no semicolon. -/
def statementHead : Pattern :=
  anchor .textStart ++ blanks ++ opt (lit "\x7d" ++ blanks) ++ litOf ["if", "else", "for",
    "while", "do", "switch", "try", "catch", "finally", "function", "case", "default"] ++
    wordEdge

/-- What a line ends with when its statement goes on or needs no semicolon. -/
def openEnds : List String := [
  ";", "\x7b", "\x7d", ",", "(", "[", ":", "&&", "||", "+", "-", "*", "/", "?", "=", ".", ">",
  "<", "!"]

/-- What a line starts with when it continues the statement before. -/
def continuations : List String := [".", "+", "-", "?", ":", "&&", "||", ")", "]", ","]

def propertyHead : Pattern :=
  anchor .textStart ++ many1 (one (.union [.word, .chars "$\"'"])) ++ blanks ++ lit ":"

/-- An item of a literal and nothing else. -/
def plainItem : Pattern :=
  anchor .textStart ++ many1 (one (.union [.word, .chars "$\"'[]"])) ++ anchor .lastLineEnd

def constructor : Pattern :=
  wordEdge ++ lit "new" ++ blanks1 ++ lit "DataExtension" ++ blanks ++ lit "("

def libraryLoad : Pattern := wordEdge ++ lit "Platform.Load" ++ blanks ++ lit "("

def coreName : Pattern := one (.chars "\"'") ++ caseless "core" ++ one (.chars "\"'")

def proxyConstructor : Pattern :=
  wordEdge ++ lit "new" ++ blanks1 ++ lit "Script.Util.WSProxy" ++ blanks ++ lit "("

/-- A text is run as code. -/
def evalCall : Pattern :=
  behind false 1 (one (.union [.word, .chars "$."])) ++ lit "eval" ++ blanks ++ lit "("

/-- Rows are read from a data extension. -/
def rowsRetrieve : Pattern := lit ".Rows.Retrieve" ++ blanks ++ lit "("

/-- Objects are read through a proxy. -/
def proxyRetrieve : Pattern := lit ".retrieve" ++ blanks ++ lit "("

def appendAssignment : Pattern :=
  capture 1 (one (.union [.range 'A' 'Z', .range 'a' 'z', .chars "_$"]) ++
    many (one (.union [.word, .char '$']))) ++ blanks ++ lit "+="

def literalConcat : Pattern :=
  oneOf [lit "+=" ++ blanks ++ one (.chars "\"'\x60"), one (.chars "\"'\x60") ++ blanks ++
    lit "+"]

/-- Rows of a named data extension are looked up. -/
def rowsLookup : Pattern :=
  capture 1 (one (.union [.range 'A' 'Z', .range 'a' 'z', .chars "_$"]) ++
    many (one (.union [.word, .char '$']))) ++ lit ".Rows.Lookup" ++ blanks ++ lit "("

/-- Errors are caught somewhere. -/
def tryBlock : Pattern := wordEdge ++ lit "try" ++ blanks ++ opt (lit "\x7b")

def remoteCall : Pattern :=
  oneOf [wordEdge ++ lit "HTTP." ++ litOf ["Get", "Post"] ++ blanks ++ lit "(",
    lit "Script.Util." ++ litOf ["HttpRequest", "WSProxy"]]

end CampaignCheck.Ssjs

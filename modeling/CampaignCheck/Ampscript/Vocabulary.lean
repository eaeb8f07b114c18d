import CampaignCheck.Pattern.Search

namespace CampaignCheck.Ampscript

open Pattern

def functions : List String := [
  "AttributeValue", "Concat", "Length", "Substring", "Replace", "Uppercase", "Lowercase",
  "ProperCase", "Trim", "IndexOf", "Format", "FormatCurrency", "FormatNumber", "FormatDate",
  "Now", "DateAdd", "DateDiff", "DatePart", "DateParse", "StringToDate", "SystemDateToLocalDate",
  "LocalDateToSystemDate", "IsNull", "Empty", "IIF", "IsEmailAddress", "IsPhoneNumber",
  "Add", "Subtract", "Multiply", "Divide", "Mod", "Random",
  "Lookup", "LookupRows", "LookupRowsCS", "LookupOrderedRows", "LookupOrderedRowsCS",
  "Row", "Field", "RowCount", "InsertData", "InsertDE", "UpdateData", "UpdateDE",
  "UpsertData", "UpsertDE", "DeleteData", "DeleteDE", "ClaimRow", "ClaimRowValue", "UnclaimRow",
  "CreateSalesforceObject", "UpdateSingleSalesforceObject", "RetrieveSalesforceObjects",
  "HTTPGet", "HTTPPost", "HTTPPost2", "HTTPPut", "HTTPDelete", "HTTPRequestHeader",
  "Base64Encode", "Base64Decode", "MD5", "SHA1", "SHA256", "SHA512", "GUID",
  "EncryptSymmetric", "DecryptSymmetric", "URLEncode", "HTMLEncode", "WrapLongURL",
  "RedirectTo", "RaiseError", "BuildRowsetFromString", "BuildRowsetFromJSON", "BuildRowsetFromXML",
  "CreateObject", "SetObjectProperty", "AddObjectArrayItem", "InvokeCreate", "InvokeDelete",
  "InvokeExecute", "InvokePerform", "InvokeRetrieve", "InvokeUpdate",
  "RegExMatch", "StringToHex", "TreatAsContent", "TreatAsContentArea",
  "ContentBlockByName", "ContentBlockById", "ContentBlockByKey", "ContentArea", "ContentAreaByName",
  "v", "Output", "OutputLine", "PersonalizationString"]

/-- Functions of the platform around the language. -/
def systemFunctions : List String := [
  "CloudPagesURL", "MicrositeURL", "RequestParameter", "QueryParameter",
  "HTTPResponseHeader", "GetPortfolioItem", "SetPortfolioItem"]

/-- Words that may stand before a parenthesis without being a call. -/
def keywords : List String := [
  "var", "set", "if", "elseif", "else", "endif", "for", "to", "downto", "do", "next", "then", "and",
  "or", "not"]

/-- Functions that read or write rows. -/
def dataFunctions : List String := [
  "Lookup", "LookupRows", "LookupRowsCS", "LookupOrderedRows", "LookupOrderedRowsCS",
  "InsertData", "UpdateData", "UpsertData", "DeleteData",
  "InsertDE", "UpdateDE", "UpsertDE", "DeleteDE", "ClaimRow"]

def writeFunctions : List String := [
  "InsertData", "UpdateData", "UpsertData", "DeleteData", "InsertDE", "UpdateDE", "UpsertDE",
  "DeleteDE"]

/-- Functions that need a connection to the customer database. -/
def salesforceFunctions : List String := [
  "CreateSalesforceObject", "UpdateSingleSalesforceObject", "RetrieveSalesforceObjects"]

/-- Functions that call another system. -/
def remoteFunctions : List String := [
  "HTTPGet", "HTTPPost", "HTTPPost2", "HTTPPut", "HTTPDelete"] ++ salesforceFunctions

/-- Functions that make a value safe to show. -/
def encoders : List String := ["HTMLEncode", "URLEncode", "Replace", "Base64Encode", "WrapLongURL"]

def outputFunctions : List String := ["v", "output", "outputline"]

def isOneOf (names : List String) (name : List Char) : Bool :=
  names.any fun n => Text.lower n.toList == Text.lower name

/-- A name before an opening parenthesis. -/
def call : Pattern :=
  wordEdge ++ capture 1 (one (.union [.range 'A' 'Z', .range 'a' 'z', .char '_']) ++
    many (one (.union [.range 'A' 'Z', .range 'a' 'z', .range '0' '9', .char '_']))) ++ blanks ++
    lit "("

def variableName : Pattern :=
  lit "@" ++ one (.union [.range 'A' 'Z', .range 'a' 'z', .char '_']) ++
    many (one (.union [.range 'A' 'Z', .range 'a' 'z', .range '0' '9', .char '_']))

/-- The list of variables after VAR. -/
def declaration : Pattern :=
  wordEdge ++ caseless "VAR" ++ blanks1 ++ capture 1 (lit "@" ++ many1 (one (.union [.word,
    .blank, .chars ",@"])))

def assignment : Pattern :=
  wordEdge ++ caseless "SET" ++ blanks1 ++ capture 1 (lit "@" ++ wordChars1) ++ blanks ++ lit "="

def loopVariable : Pattern :=
  wordEdge ++ caseless "FOR" ++ blanks1 ++ capture 1 (lit "@" ++ wordChars1) ++ blanks ++ lit "="

def condition : Pattern :=
  wordEdge ++ opt (caseless "ELSE") ++ caseless "IF" ++ wordEdge ++
    capture 1 (manyFewest (one .inLine)) ++ wholeWordCaseless "THEN"

/-- An equals sign that is part of no other operator. -/
def loneEquals : Pattern :=
  behind false 1 (one (.chars "=!<>")) ++ lit "=" ++ ahead false (lit "=")

/-- A call that reads what the visitor sent. -/
def request : Pattern :=
  wordEdge ++ caselessOf ["RequestParameter", "QueryParameter"] ++ blanks ++ lit "("

/-- A variable named like a secret that is set to a literal. -/
def credential : Pattern :=
  lit "@" ++ wordChars ++ oneOf [caseless "password", caseless "passwd", caseless "pwd",
    caseless "secret", caseless "api" ++ opt (lit "_") ++ caseless "key", caseless "access" ++
    opt (lit "_") ++ caseless "token", caseless "token", caseless "client" ++ opt (lit "_") ++
    caseless "secret"] ++ wordChars ++ blanks ++ lit "=" ++ blanks ++ one (.chars "\"'") ++
    repeated (one (.butChars "\"'")) 3 none .most ++ one (.chars "\"'")

/-- An authorization header with a literal value. -/
def authorization : Pattern :=
  one (.chars "\"'") ++ caseless "Authorization" ++ one (.chars "\"'") ++ blanks ++ lit "," ++
    blanks ++ one (.chars "\"'") ++ caselessOf ["Bearer", "Basic"] ++ blanks1 ++
    repeated (one (.union [.rangeAnyCase 'A' 'Z', .rangeAnyCase 'a' 'z', .range '0' '9',
    .chars "._-+/="])) 8 none .most

/-- The start tag of a script element in this language. -/
def scriptOpen : Pattern :=
  lit "<" ++ caseless "script" ++ wordEdge ++ many (one (.not (.char '>'))) ++
    caseless "language" ++ blanks ++ lit "=" ++ blanks ++ opt (one (.chars "\"'")) ++
    caseless "ampscript" ++ opt (one (.chars "\"'")) ++ many (one (.not (.char '>'))) ++ lit ">"

/-- The end tag of a script element. -/
def scriptClose : Pattern := lit "</" ++ caseless "script" ++ blanks ++ lit ">"

def delimiter : Pattern := litOf ["%%[", "]%%", "%%=", "=%%"]

/-- What was probably meant to end an output block. -/
def brokenTerminator : Pattern :=
  oneOf [lit "=%" ++ ahead false (lit "%"), behind false 1 (lit "=") ++ lit "%%" ++
    ahead false (lit "[")]

def outputBlock : Pattern := lit "%%=" ++ capture 1 (manyFewest (one .inLine)) ++ lit "=%%"

/-- Upper-case first letter, then letters and digits. -/
def pascalCase : Pattern :=
  one (.range 'A' 'Z') ++ many (one (.union [.range 'A' 'Z', .range 'a' 'z', .range '0' '9']))

/-- A call that reads several rows. -/
def lookupRows : Pattern :=
  wordEdge ++ capture 1 (caselessOf ["LookupRows", "LookupOrderedRows"]) ++
    opt (caseless "CS") ++ blanks ++ lit "("

def concatCall : Pattern := wordEdge ++ caseless "Concat" ++ blanks ++ lit "("

def lookupCall : Pattern := wordEdge ++ caseless "Lookup" ++ blanks ++ lit "("

def httpCall : Pattern :=
  wordEdge ++ caseless "HTTP" ++ oneOf [caseless "Get", caseless "Post" ++ opt (lit "2")] ++
    blanks ++ lit "("

end CampaignCheck.Ampscript

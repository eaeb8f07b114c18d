import CampaignCheck.Pattern.Search

namespace CampaignCheck.Sql

open Pattern

/-- Functions that queries may call, and types that take a size. -/
def functions : List String := [
  "GETDATE", "GETUTCDATE", "SYSDATETIME", "SYSUTCDATETIME", "DATEADD", "DATEDIFF", "DATEDIFF_BIG",
  "DATEPART", "DATENAME", "DATEFROMPARTS", "DATETIMEFROMPARTS", "EOMONTH", "YEAR", "MONTH", "DAY",
  "ISDATE", "SWITCHOFFSET", "TODATETIMEOFFSET", "CONVERT", "CAST", "TRY_CAST", "TRY_CONVERT",
  "PARSE", "TRY_PARSE", "FORMAT", "LEN", "LEFT", "RIGHT", "SUBSTRING", "CHARINDEX", "PATINDEX",
  "REPLACE", "STUFF", "REVERSE", "REPLICATE", "SPACE", "STR", "UPPER", "LOWER", "LTRIM", "RTRIM",
  "TRIM", "CONCAT", "CONCAT_WS", "CHAR", "NCHAR", "ASCII", "UNICODE", "QUOTENAME", "SOUNDEX",
  "DIFFERENCE", "COUNT", "COUNT_BIG", "SUM", "AVG", "MIN", "MAX", "STDEV", "VAR", "STRING_AGG",
  "ISNULL", "COALESCE", "NULLIF", "IIF", "CHOOSE", "ISNUMERIC", "ROUND", "CEILING", "FLOOR", "ABS",
  "POWER", "SQRT", "SQUARE", "LOG", "EXP", "SIGN", "PI", "RAND", "ROW_NUMBER", "RANK", "DENSE_RANK",
  "NTILE", "LAG", "LEAD", "FIRST_VALUE", "LAST_VALUE", "NEWID", "CHECKSUM", "HASHBYTES",
  "JSON_VALUE", "JSON_QUERY", "ISJSON", "VARCHAR", "NVARCHAR", "DECIMAL", "NUMERIC", "DATETIME2",
  "VARBINARY", "FLOAT"]

/-- Words that may stand before a parenthesis without being a call. -/
def keywords : List String := [
  "SELECT", "FROM", "WHERE", "IN", "EXISTS", "VALUES", "AS", "ON", "OVER", "AND", "OR", "NOT",
  "INTO", "JOIN", "WHEN", "THEN", "ELSE", "CASE", "EXEC", "EXECUTE", "WITH", "UNION", "ALL", "ANY",
  "SOME", "BY", "USING", "TOP", "APPLY"]

/-- Tables of the platform that hold every event. -/
def systemTables : List String := [
  "_Subscribers", "_ListSubscribers", "_EnterpriseAttribute", "_Bounce", "_Click", "_Open", "_Sent",
  "_Unsubscribe", "_Complaint", "_Job", "_Journey", "_JourneyActivity", "_SurveyResponse",
  "_ForwardedEmail", "_FTAF", "_BusinessUnitUnsubscribes", "_SMSMessageTracking",
  "_SMSSubscriptionLog", "_MobileAddress", "_MobileSubscription", "_PushAddress",
  "_Undeliverablesms"]

/-- System tables whose rows have a date. -/
def eventTables : List String := ["_Sent", "_Open", "_Click", "_Bounce"]

/-- Words that are no alias although they stand where one could. -/
def aliasStops : List String := [
  "WHERE", "ON", "INNER", "LEFT", "RIGHT", "FULL", "OUTER", "CROSS", "JOIN", "GROUP", "ORDER",
  "HAVING", "UNION", "SET", "VALUES", "SELECT", "WITH", "NOLOCK", "OPTION", "AND", "OR", "EXCEPT",
  "INTERSECT"]

/-- A column named like something private. -/
def sensitiveColumn : Pattern :=
  wordEdge ++ wordChars ++ oneOf [caseless "password", caseless "passwd", caseless "ssn",
    caseless "social" ++ opt (lit "_") ++ caseless "security", caseless "credit" ++
    opt (lit "_") ++ caseless "card", caseless "card" ++ opt (lit "_") ++ caseless "number",
    caseless "cvv", caseless "secret", caseless "api" ++ opt (lit "_") ++ caseless "key",
    caseless "token"] ++ wordChars ++ wordEdge

/-- A name before an opening parenthesis. -/
def call : Pattern :=
  wordEdge ++ capture 1 (one (.union [.range 'A' 'Z', .range 'a' 'z', .char '_']) ++
    wordChars) ++ blanks ++ lit "("

def selectWord : Pattern := wholeWordCaseless "SELECT"

def selectStar : Pattern :=
  wordEdge ++ caseless "SELECT" ++ blanks1 ++ opt (caseless "DISTINCT" ++ blanks1) ++
    opt (caseless "TOP" ++ blanks ++ opt (lit "(") ++ blanks ++ many1 (one .digit) ++ blanks ++
    opt (lit ")") ++ blanks1 ++ opt (caseless "PERCENT" ++ blanks1)) ++ lit "*"

def tableReference : Pattern :=
  wordEdge ++ caselessOf ["FROM", "JOIN", "UPDATE", "INTO"] ++ blanks1 ++
    capture 1 (opt (lit "[") ++ many1 (one (.union [.word, .char '.'])) ++ opt (lit "]") ++
    many (lit "." ++ opt (lit "[") ++ wordChars1 ++ opt (lit "]"))) ++ opt (blanks1 ++
    opt (caseless "AS" ++ blanks1) ++ capture 2 (opt (lit "[") ++
    one (.union [.rangeAnyCase 'A' 'Z', .rangeAnyCase 'a' 'z', .char '_']) ++ wordChars ++
    opt (lit "]")))

def subqueryAlias : Pattern :=
  lit ")" ++ blanks ++ opt (lit "AS" ++ blanks1) ++ capture 1 (one (.union [.range 'A' 'Z',
    .range 'a' 'z', .char '_']) ++ wordChars)

/-- A name before a dot and a column. -/
def qualifier : Pattern :=
  behind false 1 (one (.union [.word, .chars ".]"])) ++ opt (lit "[") ++
    capture 1 (one (.union [.range 'A' 'Z', .range 'a' 'z', .char '_']) ++ wordChars) ++
    opt (lit "]") ++ lit "." ++ ahead true (opt (lit "[") ++ one (.union [.range 'A' 'Z',
    .range 'a' 'z', .chars "_*"]))

def clauseEnd : Pattern :=
  wordEdge ++ oneOf [caseless "WHERE", caseless "GROUP" ++ blanks1 ++ caseless "BY",
    caseless "ORDER" ++ blanks1 ++ caseless "BY", caseless "HAVING", caseless "UNION",
    caseless "INNER", caseless "LEFT", caseless "RIGHT", caseless "FULL", caseless "CROSS",
    caseless "OUTER", caseless "JOIN"] ++ wordEdge

/-- What ends a statement: a semicolon, or GO alone on a line. -/
def separator : Pattern :=
  oneOf [lit ";", anchor .lineStart ++ blanks ++ caseless "GO" ++ blanks ++ anchor .lineEnd]

/-- Two equals signs that are part of no longer operator. -/
def doubleEquals : Pattern :=
  behind false 1 (one (.chars "<>!=")) ++ lit "==" ++ ahead false (lit "=")

/-- A text that ends where a table name comes. -/
def tablePosition : Pattern :=
  wordEdge ++ litOf ["INTO", "FROM", "JOIN", "UPDATE", "TABLE"] ++ blanks ++ anchor .lastLineEnd

def upperFrom : Pattern := wholeWord "FROM"

def fromWord : Pattern := wholeWordCaseless "FROM"

/-- A join or an application, with the word that frees it from a condition. -/
def join : Pattern :=
  wordEdge ++ opt (capture 1 (oneOf [caseless "CROSS" ++ blanks1, caseless "OUTER" ++
    blanks1])) ++ capture 2 (caselessOf ["JOIN", "APPLY"]) ++ wordEdge

def joinCondition : Pattern := wordEdge ++ caselessOf ["ON", "USING"] ++ wordEdge

def havingWord : Pattern := wholeWordCaseless "HAVING"

def groupBy : Pattern := wordEdge ++ caseless "GROUP" ++ blanks1 ++ caseless "BY" ++ wordEdge

def upperLimit : Pattern := wordEdge ++ litOf ["TOP", "WHERE"] ++ wordEdge

/-- A statement in upper case that starts with INSERT. -/
def upperInsert : Pattern := anchor .textStart ++ blanks ++ lit "INSERT" ++ wordEdge

def upperWhere : Pattern := wholeWord "WHERE"

def upperTop : Pattern := wholeWord "TOP"

def tableWord : Pattern := wordEdge ++ caselessOf ["FROM", "UPDATE"] ++ wordEdge

def commonTable : Pattern :=
  wordEdge ++ capture 1 (one (.union [.rangeAnyCase 'A' 'Z', .rangeAnyCase 'a' 'z',
    .char '_']) ++ wordChars) ++ blanks1 ++ caseless "AS" ++ blanks ++ lit "("

def selectHead : Pattern :=
  wholeWordCaseless "SELECT" ++ opt (blanks1 ++ caseless "DISTINCT") ++ opt (blanks1 ++
    caseless "TOP" ++ blanks ++ opt (lit "(") ++ blanks ++ many1 (one .digit) ++ blanks ++
    opt (lit ")") ++ opt (blanks1 ++ caseless "PERCENT"))

def aggregate : Pattern :=
  wordEdge ++ oneOf [caseless "COUNT", caseless "SUM", caseless "AVG", caseless "MIN",
    caseless "MAX", caseless "STDEV", caseless "VAR", caseless "STRING" ++ lit "_" ++
    caseless "AGG", caseless "COUNT" ++ lit "_" ++ caseless "BIG"] ++ blanks ++ lit "("

def overClause : Pattern := wordEdge ++ caseless "OVER" ++ blanks ++ lit "("

/-- An alias or an empty literal. -/
def decoration : Pattern :=
  oneOf [wordEdge ++ caseless "AS" ++ blanks1 ++ wordChars1, lit "'" ++ blanks ++ lit "'"]

def letter : Pattern := one (.union [.range 'A' 'Z', .range 'a' 'z', .char '_'])

/-- A column named like a number compared with a literal of digits. -/
def textComparison : Pattern :=
  wordEdge ++ capture 1 (many (one (.union [.word, .chars ".[]"])) ++ litOf ["Id", "ID", "Count",
    "Number", "Age", "Amount"]) ++ blanks ++ litOf ["=", "<>", ">", "<"] ++ blanks ++ lit "'" ++
    many1 (one .digit) ++ lit "'"

/-- A statement that is run from a text. -/
def dynamicCall : Pattern :=
  wordEdge ++ oneOf [caseless "EXEC" ++ opt (caseless "UTE") ++ blanks ++ lit "(",
    caseless "sp" ++ lit "_" ++ caseless "executesql" ++ wordEdge]

/-- A query put together from literals. -/
def assembledQuery : Pattern :=
  oneOf [lit "'" ++ many (one (.not (.char '\''))) ++ wordEdge ++ caselessOf ["SELECT", "INSERT",
    "UPDATE", "DELETE", "WHERE"] ++ wordEdge ++ many (one (.not (.char '\''))) ++ lit "'" ++
    blanks ++ lit "+", lit "+" ++ blanks ++ lit "'" ++ many (one (.not (.char '\''))) ++
    wordEdge ++ caselessOf ["WHERE", "AND", "OR"] ++ wordEdge]

/-- A column named like a secret compared with a literal. -/
def credential : Pattern :=
  wordEdge ++ wordChars ++ oneOf [caseless "password", caseless "passwd", caseless "secret",
    caseless "api" ++ opt (lit "_") ++ caseless "key"] ++ wordChars ++ blanks ++ lit "=" ++
    blanks ++ lit "'" ++ repeated (one (.not (.char '\''))) 3 none .most ++ lit "'"

def leadingWildcard : Pattern := wordEdge ++ caseless "LIKE" ++ blanks1 ++ lit "'%"

def rowChange : Pattern := blanks ++ capture 1 (caselessOf ["UPDATE", "DELETE"]) ++ wordEdge

def whereWord : Pattern := wholeWordCaseless "WHERE"

def afterWhere : Pattern :=
  wordEdge ++ oneOf [caseless "GROUP" ++ blanks1 ++ caseless "BY", caseless "ORDER" ++ blanks1 ++
    caseless "BY", caseless "HAVING", caseless "UNION"] ++ wordEdge

def columnFunction : Pattern :=
  wordEdge ++ capture 1 (caselessOf ["UPPER", "LOWER", "LTRIM", "RTRIM", "TRIM", "CONVERT",
    "CAST", "YEAR", "MONTH", "DAY", "DATEPART", "SUBSTRING", "LEFT", "RIGHT", "ISNULL",
    "COALESCE"]) ++ blanks ++ lit "(" ++ blanks ++ opt (lit "[") ++
    one (.union [.rangeAnyCase 'A' 'Z', .rangeAnyCase 'a' 'z', .char '_']) ++
    many (one (.union [.word, .chars ".[]"])) ++ opt (lit "]") ++ blanks ++ one (.chars ",)")

def crossJoin : Pattern := wordEdge ++ caseless "CROSS" ++ blanks1 ++ caseless "JOIN" ++ wordEdge

def commaJoin : Pattern :=
  wordEdge ++ caseless "FROM" ++ blanks1 ++ many1 (one (.union [.word, .chars ".[]"])) ++
    opt (blanks1 ++ opt (caseless "AS" ++ blanks1) ++ wordChars1) ++ blanks ++ lit "," ++
    blanks ++ many1 (one (.union [.word, .chars ".[]"]))

def notIn : Pattern :=
  wordEdge ++ caseless "NOT" ++ blanks1 ++ caseless "IN" ++ blanks ++ lit "(" ++ blanks ++
    caseless "SELECT" ++ wordEdge

def whereClause : Pattern := wholeWordCaseless "WHERE" ++ capture 1 (many (one .all))

def orWord : Pattern := wholeWordCaseless "OR"

/-- A system table that is not part of a longer name. -/
def systemTable (name : String) : Pattern :=
  behind false 1 (one .word) ++ caseless name ++ wordEdge

/-- A system table at the end of a name. -/
def eventTable (name : String) : Pattern := caseless name ++ wordEdge

end CampaignCheck.Sql

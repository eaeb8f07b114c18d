import CampaignCheck.Rules.Table

namespace CampaignCheck.RuleTable

/-- The rules that apply unless others are given. -/
def defaultRules : List Rule := [
  {
    id := "naming_camelcase_variables"
    name := "camelCase variables"
    category := .naming
    severity := .warning
    pattern := "\\b(?:var|let|const)\\s+[A-Z_][A-Za-z0-9_]*\\b"
    message := "Variable names should use camelCase"
    suggestion := "Rename the variable, e.g. customerName instead of CustomerName"
    dialects := [.ssjs, .javascript] },
  {
    id := "naming_ampscript_variables"
    name := "AMPscript variable prefix"
    category := .naming
    severity := .error
    pattern := "\\b(?:SET|VAR)\\s+[^@\\s]\\w*"
    ignoreCase := true
    message := "AMPscript variables must start with @"
    suggestion := "Prefix the variable name with @, e.g. SET @firstName = ..."
    reference := some "https://ampscript.guide/variables/"
    dialects := [.ampscript] },
  {
    id := "naming_sql_reserved_words"
    name := "Reserved words as aliases"
    category := .naming
    severity := .warning
    pattern := "\\bAS\\s+(?:SELECT|FROM|WHERE|ORDER|GROUP|HAVING|INSERT|UPDATE|DELETE|CREATE|" ++
      "DROP|ALTER|INDEX|TABLE|DATABASE|KEY|USER)\\b"
    ignoreCase := true
    message := "Avoid SQL reserved words as column or table aliases"
    suggestion := "Choose a descriptive alias that is not a keyword"
    dialects := [.sql] },
  {
    id := "naming_ampscript_function_case"
    name := "AMPscript function casing"
    category := .naming
    severity := .info
    pattern := "\\b(?:lookup|lookuprows|rowcount|field|row|concat|iif|empty|v)\\s*\\("
    message := "Use the documented PascalCase spelling for AMPscript functions"
    suggestion := "Write Lookup, LookupRows, RowCount, Field, Row, Concat, IIf, Empty, V"
    dialects := [.ampscript] },
  {
    id := "naming_data_extension_names"
    name := "Descriptive data extension names"
    category := .naming
    severity := .info
    pattern := "\\bFROM\\s+\\[?(?:DE_|DataExtension_|Table_)\\w*"
    ignoreCase := true
    message := "Prefer descriptive data extension names over generic prefixes"
    suggestion := "Name data extensions after their content, e.g. NewsletterSubscribers"
    dialects := [.sql] },
  {
    id := "sql-select-star"
    name := "Avoid SELECT *"
    category := .performance
    severity := .warning
    pattern := "\\bSELECT\\s+\\*\\s+FROM\\b"
    ignoreCase := true
    message := "SELECT * can impact performance and maintainability"
    suggestion := "Specify the needed columns explicitly"
    dialects := [.sql] },
  {
    id := "performance_ampscript_loops"
    name := "AMPscript loops"
    category := .performance
    severity := .info
    pattern := "\\bFOR\\s+@\\w+\\s*=.*\\bTO\\b"
    ignoreCase := true
    message := "AMPscript loops add rendering time to every send"
    suggestion := "Keep the loop body small and avoid data lookups inside it"
    dialects := [.ampscript] },
  {
    id := "performance_nested_loops"
    name := "Deeply nested loops"
    category := .performance
    severity := .warning
    pattern := "\\bfor\\s*\\([^\x7d]*\\bfor\\s*\\([^\x7d]*\\bfor\\s*\\("
    scope := .text
    message := "Three or more nested loops can cause performance issues"
    suggestion := "Flatten the iteration or index the inner data first"
    dialects := [.ssjs, .javascript] },
  {
    id := "security_sql_injection"
    name := "Concatenated dynamic SQL"
    category := .security
    severity := .error
    pattern := "\\bEXEC(?:UTE)?\\s*\\(.*\\+|[\"'][^\"']*\\b(?:SELECT|DELETE|UPDATE|" ++
      "INSERT)\\b[^\"']*\\bWHERE\\b[^\"']*[\"']\\s*\\+"
    ignoreCase := true
    message := "Potential SQL injection vulnerability detected"
    suggestion := "Use parameterized queries or validated values"
    dialects := [.ssjs, .sql] },
  {
    id := "security_xss_prevention"
    name := "Unencoded HTML output"
    category := .security
    severity := .error
    pattern := "\\binnerHTML\\s*=.*\\+|\\bdocument\\.write\\s*\\(.*\\+"
    message := "Potential XSS vulnerability detected"
    suggestion := "Encode the value or use textContent"
    dialects := [.ssjs, .javascript] },
  {
    id := "security_ampscript_output_encoding"
    name := "AMPscript output encoding"
    category := .security
    severity := .warning
    pattern := "%%=\\s*(?:v\\s*\\(\\s*)?@\\w+\\s*\\)?\\s*=%%"
    ignoreCase := true
    message := "Consider encoding user data before output"
    suggestion := "Wrap the value with HTMLEncode() or URLEncode()"
    reference := some "https://ampscript.guide/htmlencode/"
    dialects := [.ampscript] },
  {
    id := "maintainability_function_length"
    name := "Long functions"
    category := .maintainability
    severity := .warning
    pattern := "\\bfunction\\s+\\w+\\s*\\([^)]*\\)\\s*\\\x7b[^\x7d]\x7b1000,\x7d\\\x7d"
    scope := .text
    message := "Function is too long and may be hard to maintain"
    suggestion := "Split the function into smaller helpers"
    dialects := [.ssjs, .javascript] },
  {
    id := "maintainability_magic_numbers"
    name := "Magic numbers"
    category := .maintainability
    severity := .info
    pattern := "(?<![\\w.#])(?!(?:100|1000)\\b)\\d\x7b3,\x7d(?![\\w.])"
    message := "Magic numbers make code harder to understand"
    suggestion := "Move the value into a named variable"
    dialects := [.ampscript, .ssjs, .javascript] },
  {
    id := "maintainability_commented_code"
    name := "Commented-out code"
    category := .maintainability
    severity := .info
    pattern := "//\\s*(?:var|let|const|function|if|for|while)\\b"
    message := "Commented-out code should be removed"
    suggestion := "Delete the dead code; version control keeps history"
    dialects := [.ssjs, .javascript] },
  {
    id := "error_handling_generic_error"
    name := "Generic errors"
    category := .errorHandling
    severity := .info
    pattern := "\\bthrow\\s+new\\s+Error\\s*\\(\\s*[\"']"
    message := "Consider throwing a more specific error"
    suggestion := "Include context such as the failing data extension or key"
    dialects := [.ssjs, .javascript] },
  {
    id := "error_handling_empty_catch"
    name := "Empty catch blocks"
    category := .errorHandling
    severity := .warning
    pattern := "\\bcatch\\s*\\([^)]*\\)\\s*\\\x7b\\s*\\\x7d"
    scope := .text
    message := "Empty catch blocks hide errors"
    suggestion := "Log the error or write it to an error data extension"
    dialects := [.ssjs, .javascript] },
  {
    id := "error_handling_ssjs_unprotected_call"
    name := "Unprotected platform calls"
    category := .errorHandling
    severity := .info
    pattern := "^\\s*(?:var\\s+\\w+\\s*=\\s*)?\\w+\\.Rows\\.(?:Add|Update|Remove)\\s*\\("
    message := "Data extension writes should be wrapped in try/catch"
    suggestion := "Wrap writes in try \x7b ... \x7d catch (e) \x7b ... \x7d"
    dialects := [.ssjs] },
  {
    id := "structure_consistent_indentation"
    name := "Indentation width"
    category := .structural
    severity := .info
    pattern := "^(?: \x7b1,3\x7d| \x7b5,7\x7d| \x7b9,11\x7d)(?=\\S)"
    multiline := true
    message := "Inconsistent indentation detected"
    suggestion := "Indent with multiples of four spaces"
    dialects := [.ssjs, .html, .css, .javascript] },
  {
    id := "structure_trailing_whitespace"
    name := "Trailing whitespace"
    category := .structural
    severity := .info
    pattern := "[ \\t]+$"
    multiline := true
    message := "Trailing whitespace detected"
    suggestion := "Remove trailing spaces and tabs"
    dialects := Dialect.all },
  {
    id := "documentation_open_todo"
    name := "Open TODO markers"
    category := .documentation
    severity := .info
    pattern := "(?://|/\\*|--|<!--)\\s*(?:TODO|FIXME|HACK)\\b"
    message := "Unresolved TODO marker"
    suggestion := "Resolve the note or track it outside the code"
    dialects := Dialect.all }]

/-- The table of the rules that apply unless others are given. -/
def builtin : RuleTable := .ofList defaultRules

end CampaignCheck.RuleTable

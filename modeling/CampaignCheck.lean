import CampaignCheck.Ampscript.Cost
import CampaignCheck.Ampscript.Fixers
import CampaignCheck.Ampscript.Grammar
import CampaignCheck.Ampscript.Meaning
import CampaignCheck.Ampscript.Regions
import CampaignCheck.Ampscript.Vocabulary
import CampaignCheck.Analysis.Engine
import CampaignCheck.Analysis.Full
import CampaignCheck.Css.Checks
import CampaignCheck.Css.Rule
import CampaignCheck.Css.Vocabulary
import CampaignCheck.Data.Base64
import CampaignCheck.Data.Calendar
import CampaignCheck.Data.Json
import CampaignCheck.Data.Misuse
import CampaignCheck.Data.Print
import CampaignCheck.Data.Value
import CampaignCheck.Data.Yaml
import CampaignCheck.Data.Yaml.Node.Reader
import CampaignCheck.Data.Yaml.Node.Meaning
import CampaignCheck.Data.Yaml.Tag
import CampaignCheck.Data.Yaml.Token
import CampaignCheck.Data.Yaml.Token.Lexer
import CampaignCheck.Data.Yaml.Token.Scalar
import CampaignCheck.Data.Yaml.Word
import CampaignCheck.Decimal.Binary
import CampaignCheck.Decimal.Notation
import CampaignCheck.Dialect
import CampaignCheck.Diff.Matching
import CampaignCheck.Diff.Unified
import CampaignCheck.Finding
import CampaignCheck.Fix.Basic
import CampaignCheck.Fix.Report
import CampaignCheck.Html.Cost
import CampaignCheck.Html.Fixers
import CampaignCheck.Html.Grammar
import CampaignCheck.Html.Markup
import CampaignCheck.Html.Meaning
import CampaignCheck.Html.Vocabulary
import CampaignCheck.Http.Route
import CampaignCheck.Http.Service
import CampaignCheck.Http.Target
import CampaignCheck.Javascript.Cost
import CampaignCheck.Javascript.Grammar
import CampaignCheck.Javascript.Meaning
import CampaignCheck.Javascript.Source
import CampaignCheck.Javascript.Vocabulary
import CampaignCheck.Lexical.Arguments
import CampaignCheck.Lexical.Blocks
import CampaignCheck.Lexical.Delimiters
import CampaignCheck.Lexical.Mask
import CampaignCheck.Live.Clock
import CampaignCheck.Live.Config
import CampaignCheck.Live.Machine
import CampaignCheck.Live.Result
import CampaignCheck.Metrics.Basic
import CampaignCheck.Metrics.Measure
import CampaignCheck.Metrics.Profile
import CampaignCheck.Pattern.Basic
import CampaignCheck.Pattern.CharSet
import CampaignCheck.Pattern.Escape
import CampaignCheck.Pattern.Flags
import CampaignCheck.Pattern.Item
import CampaignCheck.Pattern.Matcher
import CampaignCheck.Pattern.Reader
import CampaignCheck.Pattern.Search
import CampaignCheck.Pattern.Sign
import CampaignCheck.Proofs.Diff.Patch
import CampaignCheck.Proofs.Diff.Reversible
import CampaignCheck.Proofs.Diff.Runs
import CampaignCheck.Proofs.Fix.Idempotence
import CampaignCheck.Proofs.Fix.Locality
import CampaignCheck.Proofs.Fix.Settling
import CampaignCheck.Proofs.Javascript.Comparisons
import CampaignCheck.Proofs.Lexical.Balance
import CampaignCheck.Proofs.Lexical.BlockPairs
import CampaignCheck.Proofs.Lexical.Braces
import CampaignCheck.Proofs.Lexical.Contexts
import CampaignCheck.Proofs.Lexical.Outline
import CampaignCheck.Proofs.Lexical.Remask
import CampaignCheck.Proofs.Lexical.Views
import CampaignCheck.Proofs.Live.Invariant
import CampaignCheck.Proofs.Live.Cache
import CampaignCheck.Proofs.Live.Callers
import CampaignCheck.Proofs.Pattern.Bounds
import CampaignCheck.Proofs.Pattern.Ends
import CampaignCheck.Proofs.Pattern.Progress
import CampaignCheck.Proofs.Pattern.Stretched
import CampaignCheck.Proofs.Placement
import CampaignCheck.Proofs.Placement.Ampscript
import CampaignCheck.Proofs.Placement.Basic
import CampaignCheck.Proofs.Placement.Pages
import CampaignCheck.Proofs.Placement.Scripts
import CampaignCheck.Proofs.Placement.Sql
import CampaignCheck.Proofs.Rules.Enforcement
import CampaignCheck.Proofs.Script.Conditions
import CampaignCheck.Proofs.Sorting
import CampaignCheck.Proofs.Sql.Equality
import CampaignCheck.Proofs.Text.Letters
import CampaignCheck.Proofs.Text.Positions
import CampaignCheck.Proofs.Text.Stretch
import CampaignCheck.Rules.Build
import CampaignCheck.Rules.Default
import CampaignCheck.Rules.Table
import CampaignCheck.Rules.Files
import CampaignCheck.Rules.Rule
import CampaignCheck.Rules.Shelf
import CampaignCheck.Schema.Encode
import CampaignCheck.Schema.Fault
import CampaignCheck.Schema.Moment
import CampaignCheck.Schema.Record
import CampaignCheck.Schema.Request
import CampaignCheck.Schema.Scalar
import CampaignCheck.Script.Condition
import CampaignCheck.Settings
import CampaignCheck.Sql.Cost
import CampaignCheck.Sql.Grammar
import CampaignCheck.Sql.Meaning
import CampaignCheck.Sql.Statement
import CampaignCheck.Sql.Vocabulary
import CampaignCheck.Ssjs.Cost
import CampaignCheck.Ssjs.Grammar
import CampaignCheck.Ssjs.Meaning
import CampaignCheck.Ssjs.View
import CampaignCheck.Ssjs.Vocabulary
import CampaignCheck.Text.Blank
import CampaignCheck.Text.CaseTable
import CampaignCheck.Text.Casing
import CampaignCheck.Text.CharName
import CampaignCheck.Text.CodePoint
import CampaignCheck.Text.Digit
import CampaignCheck.Text.Identifier
import CampaignCheck.Text.Lines
import CampaignCheck.Text.NameTable
import CampaignCheck.Text.Quoted
import CampaignCheck.Text.Word
import CampaignCheck.Validator.Basic
import CampaignCheck.Validator.Checks
import CampaignCheck.Validator.Registry
import CampaignCheck.Proofs.Live.Merging
import CampaignCheck.Proofs.Rules.Independence
import CampaignCheck.Proofs.Analysis.Gravity
import CampaignCheck.Proofs.Analysis.RequestFlow
import CampaignCheck.Proofs.Analysis.Verdicts
import CampaignCheck.Proofs.Live.Attendance
import CampaignCheck.Proofs.Http.Refusals
import CampaignCheck.Proofs.Rules.Histories
import CampaignCheck.Proofs.Rules.Loading
import CampaignCheck.Proofs.Lexical.Gaps
import CampaignCheck.Proofs.Pattern.Ways
import CampaignCheck.Proofs.Script.View
import CampaignCheck.Proofs.Fix.Semicolons
import CampaignCheck.Proofs.Ampscript.Weight
import CampaignCheck.Proofs.Ampscript.Conditions
import CampaignCheck.Proofs.Ampscript.Repairs
import CampaignCheck.Proofs.Ampscript.Delimiters
import CampaignCheck.Proofs.Ampscript.Rounds
import CampaignCheck.Proofs.Fix.Resting
import CampaignCheck.Proofs.Analysis.LineEnds
import CampaignCheck.Proofs.Fix.Reports
import CampaignCheck.Proofs.Settings
import CampaignCheck.Proofs.Schema.Projection
import CampaignCheck.Proofs.Sql.Selection
import CampaignCheck.Proofs.Sql.Operators
import CampaignCheck.Proofs.Ampscript.Templates
import CampaignCheck.Proofs.Fix.Conditions
import CampaignCheck.Proofs.Html.Structure
import CampaignCheck.Proofs.Ampscript.Closing
import CampaignCheck.Proofs.Html.Attributes
import CampaignCheck.Proofs.Html.QuotedAttributes
import CampaignCheck.Proofs.Html.QuotedText
import CampaignCheck.Proofs.Html.QuotedTags
import CampaignCheck.Proofs.Lexical.Nesting
import CampaignCheck.Proofs.Lexical.Arguments
import CampaignCheck.Proofs.Sql.Statements
import CampaignCheck.Proofs.Css.Rules
import CampaignCheck.Proofs.Metrics.Complexity
import CampaignCheck.Proofs.Fix.Operators
import CampaignCheck.Proofs.Ampscript.Outputs
import CampaignCheck.Proofs.Ampscript.Declarations
import CampaignCheck.Proofs.Ampscript.Variables
import CampaignCheck.Proofs.Lexical.Columns

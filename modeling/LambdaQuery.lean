import LambdaQuery.Text.Blank
import LambdaQuery.Text.Numeral
import LambdaQuery.Text.Capital
import LambdaQuery.Text.Split
import LambdaQuery.Text.CodeTable
import LambdaQuery.Text.Composed
import LambdaQuery.Binary64.Basic
import LambdaQuery.Binary64.Rounding
import LambdaQuery.Binary64.Decimal
import LambdaQuery.Instant
import LambdaQuery.Value
import LambdaQuery.Bindings
import LambdaQuery.Scope
import LambdaQuery.Identifier
import LambdaQuery.Operator
import LambdaQuery.Expr.Basic
import LambdaQuery.Expr.Printer
import LambdaQuery.Scan
import LambdaQuery.Expr.Parser
import LambdaQuery.Source
import LambdaQuery.Json.Raw
import LambdaQuery.Json.Basic
import LambdaQuery.Json.Printer
import LambdaQuery.Vocabulary
import LambdaQuery.Clause
import LambdaQuery.Options.Basic
import LambdaQuery.Options.Json
import LambdaQuery.Query.Part
import LambdaQuery.Query.Compiled
import LambdaQuery.Query.Builder
import LambdaQuery.Query.Execution
import LambdaQuery.Domain.Mark
import LambdaQuery.Domain.Direction
import LambdaQuery.Domain.Joining
import LambdaQuery.Domain.Mapping
import LambdaQuery.Domain.Punycode
import LambdaQuery.Domain.Name
import LambdaQuery.Http.Percent
import LambdaQuery.Http.Host
import LambdaQuery.Http.Url
import LambdaQuery.Http.Request
import LambdaQuery.Http.Exchange
import LambdaQuery.Command.Invocation
import LambdaQuery.Command.Run
import LambdaQuery.Main
import LambdaQuery.Proofs.Outcome
import LambdaQuery.Proofs.Bindings
import LambdaQuery.Proofs.Text.Split
import LambdaQuery.Proofs.Scan
import LambdaQuery.Proofs.Grammar.Basic
import LambdaQuery.Proofs.Text.Capital
import LambdaQuery.Proofs.Grammar.Soundness
import LambdaQuery.Proofs.Grammar.Follow
import LambdaQuery.Proofs.Grammar.Chains
import LambdaQuery.Proofs.Grammar.Completeness
import LambdaQuery.Proofs.Grammar.Recognition
import LambdaQuery.Proofs.Grammar.Rejection
import LambdaQuery.Proofs.Reading.Rules
import LambdaQuery.Proofs.Reading.Nesting
import LambdaQuery.Proofs.Reading.Productions
import LambdaQuery.Proofs.Binary64.Rounding
import LambdaQuery.Proofs.Binary64.Decimal
import LambdaQuery.Proofs.Binary64.Overflow
import LambdaQuery.Proofs.Expr.Parentheses
import LambdaQuery.Proofs.Expr.Parts
import LambdaQuery.Proofs.Expr.Written
import LambdaQuery.Proofs.Expr.Canonical
import LambdaQuery.Proofs.Expr.RoundTrip
import LambdaQuery.Proofs.Expr.Decimals
import LambdaQuery.Proofs.Clause.Outermost
import LambdaQuery.Proofs.Clause.Related
import LambdaQuery.Proofs.Clause.Marked
import LambdaQuery.Proofs.Clause.Contained
import LambdaQuery.Proofs.Clause.Captured
import LambdaQuery.Proofs.Clause.Template
import LambdaQuery.Proofs.Clause.Filters
import LambdaQuery.Proofs.Clause.Built
import LambdaQuery.Proofs.Query.Blocks
import LambdaQuery.Proofs.Query.Execution
import LambdaQuery.Proofs.Query.Snapshots
import LambdaQuery.Proofs.Clause.Brackets
import LambdaQuery.Proofs.Clause.Renaming
import LambdaQuery.Proofs.Clause.Callees
import LambdaQuery.Proofs.Clause.Pascalized
import LambdaQuery.Proofs.Clause.Owners
import LambdaQuery.Proofs.Json.Compact
import LambdaQuery.Proofs.Options.RoundTrip
import LambdaQuery.Proofs.Options.Merging
import LambdaQuery.Proofs.Http.Headers
import LambdaQuery.Proofs.Http.Form
import LambdaQuery.Proofs.Http.Parameters
import LambdaQuery.Proofs.Command.Literals

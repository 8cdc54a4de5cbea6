import LSystem.CommandLine.Options
import LSystem.CommandLine.Run
import LSystem.CommandLine.Usage
import LSystem.Config
import LSystem.Consumer
import LSystem.Error
import LSystem.Evaluator
import LSystem.EventStream
import LSystem.Expr.Arithmetic
import LSystem.Expr.Attribute
import LSystem.Expr.Comparison
import LSystem.Expr.Eval
import LSystem.Expr.Failure
import LSystem.Expr.Function
import LSystem.Expr.Lexeme
import LSystem.Expr.Numeral
import LSystem.Expr.Parser
import LSystem.Expr.Pattern
import LSystem.Expr.Program
import LSystem.Expr.Quotation
import LSystem.Expr.Syntax
import LSystem.Expr.Value
import LSystem.FileSystem
import LSystem.Grammar
import LSystem.Json.Basic
import LSystem.Json.Reader
import LSystem.Main
import LSystem.Number.Binary
import LSystem.Number.Decimal
import LSystem.Number.Layout
import LSystem.Number.Rounding
import LSystem.Proofs.CommandLine.Agreement
import LSystem.Proofs.CommandLine.Atomicity
import LSystem.Proofs.CommandLine.Reporting
import LSystem.Proofs.CommandLine.Sampling
import LSystem.Proofs.Config.Building
import LSystem.Proofs.Config.Failing
import LSystem.Proofs.Config.Validity
import LSystem.Proofs.Declaration.Keys
import LSystem.Proofs.Declaration.RoundTrip
import LSystem.Proofs.Execution.Balance
import LSystem.Proofs.Execution.Enlargement
import LSystem.Proofs.Execution.Events
import LSystem.Proofs.Execution.Failing
import LSystem.Proofs.Execution.Flat
import LSystem.Proofs.Execution.HookLog
import LSystem.Proofs.Execution.Limits
import LSystem.Proofs.Execution.Nesting
import LSystem.Proofs.Execution.Recording
import LSystem.Proofs.Execution.Replay
import LSystem.Proofs.Execution.Stopping
import LSystem.Proofs.Execution.Summary
import LSystem.Proofs.Execution.Tracing
import LSystem.Proofs.Expansion.Concatenation
import LSystem.Proofs.Expansion.FixedPoint
import LSystem.Proofs.Expansion.Pieces
import LSystem.Proofs.Expr.Binding
import LSystem.Proofs.Expr.Calls
import LSystem.Proofs.Expr.Decimals
import LSystem.Proofs.Expr.Evaluation
import LSystem.Proofs.Expr.Following
import LSystem.Proofs.Expr.Numerals
import LSystem.Proofs.Expr.Operations
import LSystem.Proofs.Expr.Reading
import LSystem.Proofs.Expr.Rendered
import LSystem.Proofs.Expr.Spelling
import LSystem.Proofs.FileSystem.Writing
import LSystem.Proofs.Nested
import LSystem.Proofs.Number.Digits
import LSystem.Proofs.Result
import LSystem.Proofs.Rule.Selection
import LSystem.Proofs.RuleTable.Enlargement
import LSystem.Proofs.RuleTable.Fallback
import LSystem.Proofs.RuleTable.Held
import LSystem.Proofs.RuleTable.Identity
import LSystem.Proofs.RuleTable.Transitions
import LSystem.Proofs.Template.Instantiation
import LSystem.Proofs.Template.Passes
import LSystem.Proofs.Template.Regions
import LSystem.Proofs.Template.Rendering
import LSystem.Proofs.Template.Replacement
import LSystem.Proofs.Template.Simultaneous
import LSystem.Proofs.Template.TokenTree
import LSystem.Proofs.Text.Encoding
import LSystem.Proofs.Text.Pieces
import LSystem.Proofs.Text.Trimming
import LSystem.Proofs.Token.Alignment
import LSystem.Proofs.Token.Arguments
import LSystem.Proofs.Token.Balance
import LSystem.Proofs.Token.Boundary
import LSystem.Proofs.Token.Form
import LSystem.Proofs.Token.Reading
import LSystem.Proofs.Token.Separators
import LSystem.Proofs.Token.Tight
import LSystem.Rule
import LSystem.RuleTable
import LSystem.Session
import LSystem.Template
import LSystem.Text.Basic
import LSystem.Text.Case
import LSystem.Text.CaseSpans
import LSystem.Text.Class
import LSystem.Text.Encoding
import LSystem.Text.NameSpans
import LSystem.Text.PrintableSpans
import LSystem.Text.Quoted
import LSystem.Text.Surrogate
import LSystem.Text.WordSpans
import LSystem.Token
import LSystem.Trace

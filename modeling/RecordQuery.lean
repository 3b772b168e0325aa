import RecordQuery.Comparison
import RecordQuery.Compiled
import RecordQuery.Curry
import RecordQuery.DataType
import RecordQuery.DateTime.Basic
import RecordQuery.DateTime.Text
import RecordQuery.Declaration.Basic
import RecordQuery.Declaration.Derivation
import RecordQuery.Declaration.Entry
import RecordQuery.Declaration.Expression
import RecordQuery.Declaration.Gap
import RecordQuery.Declaration.Malformed
import RecordQuery.Declaration.Operand
import RecordQuery.Declaration.Pattern
import RecordQuery.Declaration.Precedence
import RecordQuery.Declaration.Statement
import RecordQuery.Declaration.StringLiteral
import RecordQuery.Declaration.SyntaxReaders
import RecordQuery.Declaration.Token
import RecordQuery.Declaration.TokenReader
import RecordQuery.Declaration.TypePath
import RecordQuery.Expr.Basic
import RecordQuery.Expr.Eval
import RecordQuery.Expr.Replacement
import RecordQuery.Expr.Text
import RecordQuery.Json.Basic
import RecordQuery.Json.Reader
import RecordQuery.Lambda.Algebra
import RecordQuery.Literal.Basic
import RecordQuery.Literal.Read
import RecordQuery.Number.Basic
import RecordQuery.Number.Binary
import RecordQuery.Number.BinaryText
import RecordQuery.Number.Coercion
import RecordQuery.Number.Decimal
import RecordQuery.Number.DecimalText
import RecordQuery.Number.Expansion
import RecordQuery.Number.Kind
import RecordQuery.Number.Power
import RecordQuery.Number.Shortest
import RecordQuery.Predicate
import RecordQuery.Projection.Basic
import RecordQuery.Projection.Catalog
import RecordQuery.Proofs.Compiled.Body
import RecordQuery.Proofs.Compiled.Combination
import RecordQuery.Proofs.Compiled.Drops
import RecordQuery.Proofs.Compiled.Evaluation
import RecordQuery.Proofs.Compiled.ExactNumbers
import RecordQuery.Proofs.Compiled.Independence
import RecordQuery.Proofs.Compiled.Meaning
import RecordQuery.Proofs.Compiled.Membership
import RecordQuery.Proofs.Compiled.Translation
import RecordQuery.Proofs.DateTime.Pieces
import RecordQuery.Proofs.DateTime.RoundTrip
import RecordQuery.Proofs.Declaration.Attributes
import RecordQuery.Proofs.Declaration.Constants
import RecordQuery.Proofs.Declaration.Properties
import RecordQuery.Proofs.Expr.Binding
import RecordQuery.Proofs.Expr.Evaluation
import RecordQuery.Proofs.Expr.Induction
import RecordQuery.Proofs.Expr.Narrowing
import RecordQuery.Proofs.Expr.Parameters
import RecordQuery.Proofs.Expr.Renaming
import RecordQuery.Proofs.Expr.Scope
import RecordQuery.Proofs.Expr.Splitting
import RecordQuery.Proofs.Expr.Substitution
import RecordQuery.Proofs.Expr.TypedEvaluation
import RecordQuery.Proofs.Expr.Typing
import RecordQuery.Proofs.Lambda.Application
import RecordQuery.Proofs.Lambda.Composition
import RecordQuery.Proofs.Lambda.Connectives
import RecordQuery.Proofs.Lambda.Construction
import RecordQuery.Proofs.Lambda.Outcome
import RecordQuery.Proofs.Lambda.PartialApplication
import RecordQuery.Proofs.Lambda.Positions
import RecordQuery.Proofs.Lambda.Product
import RecordQuery.Proofs.Lambda.WellFormed
import RecordQuery.Proofs.Literal.Constants
import RecordQuery.Proofs.Literal.Lists
import RecordQuery.Proofs.Literal.Numbers
import RecordQuery.Proofs.Lookup
import RecordQuery.Proofs.Number.DecimalText
import RecordQuery.Proofs.Number.Exact
import RecordQuery.Proofs.Number.Finite
import RecordQuery.Proofs.Number.Mixed
import RecordQuery.Proofs.Number.Narrowing
import RecordQuery.Proofs.Number.Numeral
import RecordQuery.Proofs.Number.Order
import RecordQuery.Proofs.Number.Rounded
import RecordQuery.Proofs.Outcome
import RecordQuery.Proofs.Predicate.Acceptance
import RecordQuery.Proofs.Predicate.Connectives
import RecordQuery.Proofs.Projection.Answers
import RecordQuery.Proofs.Projection.History
import RecordQuery.Proofs.Projection.Names
import RecordQuery.Proofs.Query.Acceptance
import RecordQuery.Proofs.Query.Comparators
import RecordQuery.Proofs.Query.Conjunction
import RecordQuery.Proofs.Query.KeyColumns
import RecordQuery.Proofs.Query.Rows
import RecordQuery.Proofs.Query.Runs
import RecordQuery.Proofs.Query.Simulation
import RecordQuery.Proofs.Query.Sorting
import RecordQuery.Proofs.Query.StablySorted
import RecordQuery.Proofs.Record.Columns
import RecordQuery.Proofs.Request.FilterText
import RecordQuery.Proofs.Request.SortText
import RecordQuery.Proofs.Sql.Carrying
import RecordQuery.Proofs.Sql.Certainty
import RecordQuery.Proofs.Sql.Conditions
import RecordQuery.Proofs.Sql.DateLiterals
import RecordQuery.Proofs.Sql.Faithful
import RecordQuery.Proofs.Sql.Forms
import RecordQuery.Proofs.Sql.Grammar
import RecordQuery.Proofs.Sql.Lexing
import RecordQuery.Proofs.Sql.Meaning
import RecordQuery.Proofs.Sql.Pattern
import RecordQuery.Proofs.Sql.Precedence
import RecordQuery.Proofs.Sql.Pushdown
import RecordQuery.Proofs.Sql.Quoting
import RecordQuery.Proofs.Sql.ReadBack
import RecordQuery.Proofs.Sql.Reading
import RecordQuery.Proofs.Sql.Renaming
import RecordQuery.Proofs.Sql.Statement
import RecordQuery.Proofs.Sql.TextTests
import RecordQuery.Proofs.Sql.Token
import RecordQuery.Proofs.Sql.Translation
import RecordQuery.Proofs.Sql.Tree
import RecordQuery.Proofs.Sql.Unification
import RecordQuery.Proofs.Sql.Unknown
import RecordQuery.Proofs.Text.Blank
import RecordQuery.Proofs.Text.Digits
import RecordQuery.Proofs.Text.LetterCase
import RecordQuery.Proofs.Text.Splitting
import RecordQuery.Proofs.Value.Mixed
import RecordQuery.Proofs.Value.Order
import RecordQuery.Query.Application
import RecordQuery.Query.Rows
import RecordQuery.Query.Select
import RecordQuery.Query.Source
import RecordQuery.Query.StableSort
import RecordQuery.Record.Basic
import RecordQuery.Request.Basic
import RecordQuery.Request.Decode
import RecordQuery.Request.Filter
import RecordQuery.Request.SortKey
import RecordQuery.Request.SyntaxError
import RecordQuery.Rule
import RecordQuery.Sql.Basic
import RecordQuery.Sql.Condition
import RecordQuery.Sql.Text
import RecordQuery.Text.Alphanumeric
import RecordQuery.Text.Blank
import RecordQuery.Text.CodePoint
import RecordQuery.Text.Digits
import RecordQuery.Text.Identifier
import RecordQuery.Text.LetterCase
import RecordQuery.Text.Printable
import RecordQuery.Text.Quoted
import RecordQuery.Text.Split
import RecordQuery.Text.Ticked
import RecordQuery.Value.Basic
import RecordQuery.Value.Order

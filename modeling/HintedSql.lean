import HintedSql.Main
import HintedSql.Proofs.Algebra.Truth
import HintedSql.Proofs.Relation.Basic
import HintedSql.Proofs.Sql.Acceptance
import HintedSql.Proofs.Number.Nearest
import HintedSql.Proofs.Relation.Meaning
import HintedSql.Proofs.Relation.Reading
import HintedSql.Proofs.Number.ReadBack
import HintedSql.Proofs.Sql.Quoted
import HintedSql.Proofs.Grammar.Literal
import HintedSql.Proofs.Grammar.Phrase
import HintedSql.Proofs.Grammar.RoundTrip
import HintedSql.Proofs.Json.Lexeme
import HintedSql.Proofs.Json.Spelling
import HintedSql.Proofs.Json.Content
import HintedSql.Proofs.Json.Numeral
import HintedSql.Proofs.Json.Written
import HintedSql.Proofs.Algebra.Literals
import HintedSql.Proofs.Document.Identity
import HintedSql.Proofs.Document.Field
import HintedSql.Proofs.Document.Presentation
import HintedSql.Proofs.Document.Reading
import HintedSql.Proofs.Document.RoundTrip
import HintedSql.Proofs.Number.Range
import HintedSql.Proofs.Document.NormalForm
import HintedSql.Proofs.Document.Independence
import HintedSql.Proofs.Document.Node
import HintedSql.Proofs.Document.Traversal
import HintedSql.Proofs.Document.Repetition
import HintedSql.Proofs.Yaml.Scalar
import HintedSql.Proofs.Yaml.BlockScalar
import HintedSql.Proofs.Yaml.Flow
import HintedSql.Proofs.Yaml.Content
import HintedSql.Proofs.Document.Notations
import HintedSql.Proofs.Document.References
import HintedSql.Proofs.Text.Space
import HintedSql.Proofs.Script.Directive
import HintedSql.Proofs.Script.ClosedForm
import HintedSql.Proofs.Script.Image
import HintedSql.Proofs.Script.Lines
import HintedSql.Proofs.Script.Edits
import HintedSql.Proofs.Algebra.Texts
import HintedSql.Proofs.Script.Query
import HintedSql.Proofs.Routing.Target
import HintedSql.Proofs.Sql.HintBlock
import HintedSql.Proofs.Settings.Layering
import HintedSql.Proofs.Sql.Fragment
import HintedSql.Proofs.Sql.Noninterference
import HintedSql.Proofs.Command.Resolution
import HintedSql.Proofs.Sql.LaneLiteral
import HintedSql.Proofs.Json.Pretty
import HintedSql.Proofs.Script.Document
import HintedSql.Proofs.Routing.Readings
import HintedSql.Proofs.Sql.Grouping
import HintedSql.Proofs.Document.Denotation

import Crowsfoot.Dsl.Printer
import Crowsfoot.Dsl.Reader
import Crowsfoot.Schema.Classification
import Crowsfoot.Schema.Inference
import Crowsfoot.Schema.Lint
import Crowsfoot.Schema.Payload
import Crowsfoot.Sql.Reader
import Crowsfoot.Layout.Reader
import Crowsfoot.JsonSchema.Canonical
import Crowsfoot.JsonSchema.Issues
import Crowsfoot.JsonSchema.Reader
import Crowsfoot.Text.Utf8
import Crowsfoot.Conversion
import Crowsfoot.Conversion.Result
import Crowsfoot.Yaml.Printer
import Crowsfoot.Yaml.Reader
import Crowsfoot.Main
import Crowsfoot.Proofs.Text.LetterCase
import Crowsfoot.Proofs.Text.SettledCase
import Crowsfoot.Proofs.Text.Lines
import Crowsfoot.Proofs.Dsl.Bridge
import Crowsfoot.Proofs.Dsl.QuotedDefaults
import Crowsfoot.Proofs.Dsl.QuotedContents
import Crowsfoot.Proofs.Dsl.Relations
import Crowsfoot.Proofs.Dsl.CutLines
import Crowsfoot.Proofs.Dsl.Opacity
import Crowsfoot.Proofs.Conversion.Verdicts
import Crowsfoot.Proofs.Schema.FieldContext
import Crowsfoot.Proofs.Schema.Relationships
import Crowsfoot.Proofs.Schema.ForeignKeys
import Crowsfoot.Proofs.Schema.Cardinalities
import Crowsfoot.Proofs.Schema.Integrity
import Crowsfoot.Proofs.Schema.Lint
import Crowsfoot.Proofs.Schema.Resolution
import Crowsfoot.Proofs.JsonSchema.Identifiers
import Crowsfoot.Proofs.Sql.Clauses
import Crowsfoot.Proofs.Sql.Columns
import Crowsfoot.Proofs.Sql.Comments
import Crowsfoot.Proofs.Sql.Remainders
import Crowsfoot.Proofs.Sql.RoundTrip
import Crowsfoot.Proofs.Dsl.BlockGrammar
import Crowsfoot.Proofs.Schema.Suffixes
import Crowsfoot.Proofs.Dsl.ShownLines
import Crowsfoot.Proofs.Schema.NullableKeys
import Crowsfoot.Proofs.Layout.Agreement
import Crowsfoot.Proofs.Layout.Refusals
import Crowsfoot.Proofs.Dsl.TrailingComments
import Crowsfoot.Proofs.Dsl.LiteralArguments
import Crowsfoot.Proofs.Dsl.EnclosedDefaults
import Crowsfoot.Proofs.Dsl.DefaultRule
import Crowsfoot.Proofs.Dsl.ValueLines
import Crowsfoot.Proofs.Sql.StrippedTokens
import Crowsfoot.Proofs.Sql.LiteralSites
import Crowsfoot.Proofs.Sql.QuotedColumns
import Crowsfoot.Proofs.Sql.EnumValues
import Crowsfoot.Proofs.Sql.StrayDefaults
import Crowsfoot.Proofs.Schema.CanonicalFields
import Crowsfoot.Proofs.Schema.Advice
import Crowsfoot.Proofs.Dsl.LineEndings
import Crowsfoot.Proofs.Dsl.SoleColumns
import Crowsfoot.Proofs.Layout.StatedDefaults
import Crowsfoot.Proofs.Layout.TypeTokens
import Crowsfoot.Proofs.Dsl.CommentLines
import Crowsfoot.Proofs.Command.ExitCodes
import Crowsfoot.Proofs.Conversion.Extensions
import Crowsfoot.Proofs.Layout.Synonyms
import Crowsfoot.Proofs.Dsl.Identifiers
import Crowsfoot.Proofs.Dsl.EnclosingParens

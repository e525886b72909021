import MarkupOrder.Main
import MarkupOrder.Proofs.Source.Pieces
import MarkupOrder.Proofs.Markup.Joining
import MarkupOrder.Proofs.Source.Attributes
import MarkupOrder.Proofs.Source.Tags
import MarkupOrder.Proofs.Source.Lossless
import MarkupOrder.Proofs.Order.Arrangement
import MarkupOrder.Proofs.Document.Lossless
import MarkupOrder.Proofs.Document.RoundTrip
import MarkupOrder.Proofs.Document.Idempotence
import MarkupOrder.Proofs.Document.SelfClosing
import MarkupOrder.Proofs.Document.AttributeNames
import MarkupOrder.Proofs.Text.Places
import MarkupOrder.Proofs.Source.Locality
import MarkupOrder.Proofs.Source.Failures
import MarkupOrder.Proofs.Token.Positions
import MarkupOrder.Proofs.Document.SyntaxErrors
import MarkupOrder.Proofs.Document.Concatenation
import MarkupOrder.Proofs.Document.Grammar
import MarkupOrder.Proofs.Report.Registry
import MarkupOrder.Proofs.Order.Repeats
import MarkupOrder.Proofs.Document.Warnings
import MarkupOrder.Proofs.Document.Shape
import MarkupOrder.Proofs.Pattern.Matches
import MarkupOrder.Proofs.Pattern.Readers
import MarkupOrder.Proofs.Pattern.Brackets
import MarkupOrder.Proofs.Pattern.Groups
import MarkupOrder.Proofs.Pattern.Prefixes
import MarkupOrder.Proofs.Pattern.Enclosing
import MarkupOrder.Proofs.Order.Patterns
import MarkupOrder.Proofs.Input.Chunks
import MarkupOrder.Proofs.Order.Slots
import MarkupOrder.Proofs.Command.Batch
import MarkupOrder.Proofs.Document.Splitting
import MarkupOrder.Proofs.Document.EndMarks
import MarkupOrder.Proofs.Order.NormalForm
import MarkupOrder.Proofs.Text.Lines
import MarkupOrder.Proofs.Markup.Outline
import MarkupOrder.Proofs.Document.Outline
import MarkupOrder.Proofs.Markup.Building
import MarkupOrder.Proofs.Text.Quoted
import MarkupOrder.Proofs.Token.Listing
import MarkupOrder.Proofs.Source.Loops
import MarkupOrder.Proofs.Document.Progress

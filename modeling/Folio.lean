import Folio.Block
import Folio.Block.Folding
import Folio.Block.Frontmatter
import Folio.Block.Reading
import Folio.CommandLine.Arguments
import Folio.CommandLine.Basic
import Folio.Config
import Folio.Converter
import Folio.Decimal.Parts
import Folio.Decimal.Reading
import Folio.Decimal.Shortest
import Folio.Decimal.Written
import Folio.Delivery
import Folio.Dialect
import Folio.Document
import Folio.Document.Json
import Folio.Document.OfBlocks
import Folio.Error
import Folio.Event
import Folio.Files
import Folio.Inline
import Folio.Json.Basic
import Folio.Json.Printer
import Folio.Log
import Folio.Log.Filter
import Folio.Main
import Folio.Markdown.Autolink
import Folio.Markdown.Code
import Folio.Markdown.Cursor
import Folio.Markdown.Division
import Folio.Markdown.Emphasis
import Folio.Markdown.Html
import Folio.Markdown.Margin
import Folio.Markdown.Marks
import Folio.Markdown.Outline
import Folio.Markdown.Paragraph
import Folio.Markdown.Prose
import Folio.Markdown.Reading
import Folio.Markdown.Reference
import Folio.Markdown.Scan
import Folio.Path
import Folio.Proofs.Block.BlankLines
import Folio.Proofs.Block.Blanks
import Folio.Proofs.Block.Content
import Folio.Proofs.Block.Cuts
import Folio.Proofs.Block.Emission
import Folio.Proofs.Block.Fence
import Folio.Proofs.Block.Meaning
import Folio.Proofs.Block.Moves
import Folio.Proofs.Block.NormalForm
import Folio.Proofs.Block.RawElement
import Folio.Proofs.Block.Separated
import Folio.Proofs.Block.Stacks
import Folio.Proofs.Block.Steps
import Folio.Proofs.Block.TopLevel
import Folio.Proofs.Block.TreeRun
import Folio.Proofs.CommandLine.Failure
import Folio.Proofs.CommandLine.Outcome
import Folio.Proofs.CommandLine.Source
import Folio.Proofs.CommandLine.Storing
import Folio.Proofs.Decimal.Characters
import Folio.Proofs.Delivery
import Folio.Proofs.Document.PlainText
import Folio.Proofs.Document.Policy
import Folio.Proofs.Document.ReadBack
import Folio.Proofs.Document.Text
import Folio.Proofs.Event.Said
import Folio.Proofs.Event.Tree
import Folio.Proofs.Files
import Folio.Proofs.Inline.Leaves
import Folio.Proofs.Inline.Shown
import Folio.Proofs.Inline.Within
import Folio.Proofs.Inline.Words
import Folio.Proofs.Json.Members
import Folio.Proofs.Json.Written
import Folio.Proofs.Path
import Folio.Proofs.Session.Changes
import Folio.Proofs.Text.Boundary
import Folio.Proofs.Text.Hexadecimal
import Folio.Proofs.Text.Lines
import Folio.Proofs.Text.Readable
import Folio.Proofs.Typst.Brackets
import Folio.Proofs.Typst.Code
import Folio.Proofs.Typst.Determined
import Folio.Proofs.Typst.Exact
import Folio.Proofs.Typst.Layers
import Folio.Proofs.Typst.Literal
import Folio.Proofs.Typst.Quoted
import Folio.Proofs.Typst.Reading
import Folio.Proofs.Typst.Scan
import Folio.Proofs.Typst.Skeleton
import Folio.Proofs.Typst.Visible
import Folio.Run
import Folio.Session
import Folio.Style
import Folio.Text.Ascii
import Folio.Text.Blank
import Folio.Text.Bytes
import Folio.Text.CaseFold
import Folio.Text.NamedCharacter
import Folio.Text.Printable
import Folio.Text.Punctuation
import Folio.Text.Quoted
import Folio.Text.Ranges
import Folio.Text.Search
import Folio.Toml.Basic
import Folio.Toml.Quotation
import Folio.Toml.Reading
import Folio.Toml.Scalar
import Folio.Typesetter
import Folio.Typesetter.Sheets
import Folio.Typst.Literal
import Folio.Typst.Markup

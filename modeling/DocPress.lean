import DocPress.Breadcrumb
import DocPress.Command.Arguments
import DocPress.Command.Run
import DocPress.Comment.Layout
import DocPress.Comment.Plain
import DocPress.Comment.Renderer
import DocPress.Declaration
import DocPress.Doc.Reader
import DocPress.Doc.Writer
import DocPress.Examples
import DocPress.Files.Path
import DocPress.Files.Tree
import DocPress.Html.Entity
import DocPress.ImportPath
import DocPress.Json.Parser
import DocPress.Json.Printer
import DocPress.Main
import DocPress.Markdown.BlockParser
import DocPress.Markdown.InlineParser
import DocPress.Markdown.Marker
import DocPress.Markdown.RawHtml
import DocPress.Markdown.Reference
import DocPress.Number.Shortest
import DocPress.Proofs.Breadcrumb.Links
import DocPress.Proofs.Breadcrumb.Trail
import DocPress.Proofs.Command.Delivery
import DocPress.Proofs.Comment.Demotion
import DocPress.Proofs.Comment.Destination
import DocPress.Proofs.Comment.HeadingLevels
import DocPress.Proofs.Comment.Indentation
import DocPress.Proofs.Comment.Layout
import DocPress.Proofs.Comment.Lines
import DocPress.Proofs.Comment.LinkPlaces
import DocPress.Proofs.Comment.LinkedComments
import DocPress.Proofs.Comment.LoweredText
import DocPress.Proofs.Comment.MarkdownPage
import DocPress.Proofs.Comment.Page
import DocPress.Proofs.Comment.Passages
import DocPress.Proofs.Comment.PlainBlocks
import DocPress.Proofs.Comment.ReferenceLayout
import DocPress.Proofs.Comment.Rendering
import DocPress.Proofs.Comment.RfcLinks
import DocPress.Proofs.Comment.RfcReferences
import DocPress.Proofs.Comment.Spans
import DocPress.Proofs.Comment.Titles
import DocPress.Proofs.Comment.Unindenting
import DocPress.Proofs.Comment.UrlLinks
import DocPress.Proofs.Comment.Words
import DocPress.Proofs.Declaration.Alternation
import DocPress.Proofs.Declaration.Offsets
import DocPress.Proofs.Doc.Record
import DocPress.Proofs.Doc.RoundTrip
import DocPress.Proofs.Doc.Spelling
import DocPress.Proofs.Examples.Anchors
import DocPress.Proofs.Examples.JoinedNames
import DocPress.Proofs.Files.Tree
import DocPress.Proofs.Html.LinkTargets
import DocPress.Proofs.Html.References
import DocPress.Proofs.Html.Token
import DocPress.Proofs.Html.Unescaping
import DocPress.Proofs.Html.Visible
import DocPress.Proofs.ImportPath.Display
import DocPress.Proofs.Json.Parts
import DocPress.Proofs.Json.RoundTrip
import DocPress.Proofs.Settings.BareNames
import DocPress.Proofs.Settings.Loading
import DocPress.Proofs.Settings.Pieces
import DocPress.Proofs.Settings.WrittenParts
import DocPress.Proofs.Template.Checking
import DocPress.Proofs.Template.ContentType
import DocPress.Proofs.Template.Data
import DocPress.Proofs.Template.Declarations
import DocPress.Proofs.Template.Dependence
import DocPress.Proofs.Template.Entries
import DocPress.Proofs.Template.MapArguments
import DocPress.Proofs.Template.Sameness
import DocPress.Proofs.Template.Session
import DocPress.Proofs.Template.Shape
import DocPress.Proofs.Template.ShippedPages
import DocPress.Proofs.Template.Showing
import DocPress.Proofs.Template.Views
import DocPress.Proofs.Text.Cut
import DocPress.Proofs.Text.Replace
import DocPress.Proofs.Text.Utf8
import DocPress.Proofs.Text.Words
import DocPress.Proofs.Time.Age
import DocPress.Proofs.Time.Calendar
import DocPress.Proofs.Time.Timestamp
import DocPress.Proofs.Url.Path
import DocPress.Proofs.Url.SameSite
import DocPress.Settings.Basic
import DocPress.Settings.Expansion
import DocPress.Shipped
import DocPress.Template.ContentType
import DocPress.Template.Evaluation
import DocPress.Template.Failure
import DocPress.Template.Helper
import DocPress.Template.Parser
import DocPress.Template.Registry
import DocPress.Template.Response
import DocPress.Text.Alphanumeric
import DocPress.Text.CaseFold
import DocPress.Text.Lines
import DocPress.Text.Punctuation
import DocPress.Text.Quoted
import DocPress.Text.Uppercase
import DocPress.Text.White
import DocPress.Text.WordChar
import DocPress.Time.Age
import DocPress.Toml.Parser
import DocPress.Toml.Quoted
import DocPress.Toml.Scalar
import DocPress.Toml.Table
import DocPress.Toml.Value

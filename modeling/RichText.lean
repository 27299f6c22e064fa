import RichText.Calendar
import RichText.Conversion
import RichText.Dependency.Guard
import RichText.Dependency.Specifier
import RichText.Dependency.Version
import RichText.Failure
import RichText.Failure.Dependency
import RichText.Failure.Report
import RichText.Fields
import RichText.FileSystem
import RichText.FileSystem.Path
import RichText.FileSystem.Resolve
import RichText.FileSystem.Way
import RichText.FrontMatter
import RichText.Image.Base64
import RichText.Image.DataUri
import RichText.Image.Format
import RichText.Image.Loader
import RichText.Image.Source
import RichText.Json.Error
import RichText.Json.Reader
import RichText.Json.Writer
import RichText.Markdown.Block.Reader
import RichText.Markdown.Block.Start
import RichText.Markdown.Entity
import RichText.Markdown.Html
import RichText.Markdown.Inline
import RichText.Markdown.Inline.Emphasis
import RichText.Markdown.Inline.Reader
import RichText.Markdown.Line
import RichText.Markdown.Table
import RichText.Markdown.Target
import RichText.Markdown.Token
import RichText.Number.Binary64
import RichText.Number.Shortest
import RichText.Number.Spelled
import RichText.Options
import RichText.Options.Help
import RichText.Outcome
import RichText.Output
import RichText.Proofs.Ascii
import RichText.Proofs.Base64
import RichText.Proofs.Calm
import RichText.Proofs.Canonical
import RichText.Proofs.Choice
import RichText.Proofs.DataUri
import RichText.Proofs.Delivery
import RichText.Proofs.Display
import RichText.Proofs.Draft
import RichText.Proofs.Embedding
import RichText.Proofs.Escape
import RichText.Proofs.EscapePass
import RichText.Proofs.Failing
import RichText.Proofs.File
import RichText.Proofs.Fragment
import RichText.Proofs.FrontMatter
import RichText.Proofs.Guard
import RichText.Proofs.Join
import RichText.Proofs.JsonFloat
import RichText.Proofs.JsonForm
import RichText.Proofs.JsonScalar
import RichText.Proofs.JsonValue
import RichText.Proofs.Leniency
import RichText.Proofs.Line
import RichText.Proofs.Loader
import RichText.Proofs.Making
import RichText.Proofs.Missing
import RichText.Proofs.Nesting
import RichText.Proofs.Numeral
import RichText.Proofs.OtherKind
import RichText.Proofs.Override
import RichText.Proofs.ParsedJson
import RichText.Proofs.Passage
import RichText.Proofs.Piece
import RichText.Proofs.PlainText
import RichText.Proofs.Quote
import RichText.Proofs.Reading
import RichText.Proofs.Reload
import RichText.Proofs.Scanner
import RichText.Proofs.Source
import RichText.Proofs.Spot
import RichText.Proofs.StoredTree
import RichText.Proofs.Strictness
import RichText.Proofs.Style
import RichText.Proofs.Suffix
import RichText.Proofs.Sweep
import RichText.Proofs.TokenContent
import RichText.Proofs.TokenDraft
import RichText.Proofs.TokenShape
import RichText.Proofs.TokenTree
import RichText.Proofs.TreeDict
import RichText.Proofs.TreeJson
import RichText.Proofs.Unescape
import RichText.Proofs.UnicodeMode
import RichText.Proofs.Utf8
import RichText.Proofs.Walk
import RichText.Proofs.Way
import RichText.Proofs.Word
import RichText.Readers
import RichText.Render.Attribute
import RichText.Render.Passage
import RichText.Render.Piece
import RichText.Render.Rule
import RichText.Render.Walk
import RichText.Rtf.Escape
import RichText.Rtf.Lexeme
import RichText.Rtf.Nesting
import RichText.Rtf.Scanner
import RichText.Rtf.Style
import RichText.Rtf.Unescape
import RichText.Rtf.Word
import RichText.Session.Store
import RichText.Source
import RichText.Table.Case
import RichText.Table.Entity
import RichText.Table.Hidden
import RichText.Table.Punctuation
import RichText.Text
import RichText.Text.Case
import RichText.Text.Class
import RichText.Text.Line
import RichText.Text.Numeral
import RichText.Text.Quoted
import RichText.Text.Surrogate
import RichText.Text.Utf8
import RichText.Text.WellFormed
import RichText.Token.Content
import RichText.Token.PlainText
import RichText.Token.Tree
import RichText.Tree
import RichText.Tree.Build
import RichText.Tree.Content
import RichText.Tree.Description
import RichText.Tree.Dict
import RichText.Tree.Display
import RichText.Tree.Json
import RichText.Tree.Missing
import RichText.Tree.Order
import RichText.Tree.Spot
import RichText.Tree.Visit
import RichText.Url.Host
import RichText.Url.Join
import RichText.Url.Percent
import RichText.Url.Quote
import RichText.Url.Refusal
import RichText.Url.Resolve
import RichText.Url.Split
import RichText.Value
import RichText.Value.Entries
import RichText.Value.Membership
import RichText.Value.Shown
import RichText.World
import RichText.Yaml.Cursor
import RichText.Yaml.Graph
import RichText.Yaml.Graph.OfTokens
import RichText.Yaml.Graph.Value
import RichText.Yaml.Implicit
import RichText.Yaml.Scalar
import RichText.Yaml.Token
import RichText.Yaml.Token.Block
import RichText.Yaml.Token.Name
import RichText.Yaml.Token.Plain
import RichText.Yaml.Token.Quoted
import RichText.Yaml.Token.Stream

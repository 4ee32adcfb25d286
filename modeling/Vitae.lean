import Vitae.Artifact
import Vitae.Color
import Vitae.Command.Arguments
import Vitae.Command.Basic
import Vitae.Command.Run
import Vitae.Decimal.Read
import Vitae.Decimal.Shortest
import Vitae.Decimal.Text
import Vitae.Document
import Vitae.Fragment
import Vitae.Json.Basic
import Vitae.Json.Cursor
import Vitae.Json.Number
import Vitae.Json.Reader
import Vitae.Json.Writer
import Vitae.Layout.Basic
import Vitae.Layout.Columns
import Vitae.Layout.Overrides
import Vitae.Layout.Shape
import Vitae.Layout.Style
import Vitae.Load
import Vitae.Main
import Vitae.Markup.Class
import Vitae.Markup.Node
import Vitae.Picture
import Vitae.Preview
import Vitae.Proofs.Color
import Vitae.Proofs.Color.Large
import Vitae.Proofs.Color.Shades
import Vitae.Proofs.Color.Spelling
import Vitae.Proofs.Command.Files
import Vitae.Proofs.Command.Records
import Vitae.Proofs.Command.Run
import Vitae.Proofs.Command.Table
import Vitae.Proofs.Decimal.Text
import Vitae.Proofs.Document
import Vitae.Proofs.Fragment.Alike
import Vitae.Proofs.Fragment.Apart
import Vitae.Proofs.Fragment.Complete
import Vitae.Proofs.Fragment.Content
import Vitae.Proofs.Fragment.ContentModel
import Vitae.Proofs.Fragment.Frame
import Vitae.Proofs.Fragment.Parts
import Vitae.Proofs.Fragment.Placement
import Vitae.Proofs.Fragment.Spacing
import Vitae.Proofs.Json.Prune
import Vitae.Proofs.Json.Reorder
import Vitae.Proofs.Layout.Leaves
import Vitae.Proofs.Layout.Spelling
import Vitae.Proofs.Markup.Class
import Vitae.Proofs.Markup.Compact
import Vitae.Proofs.Markup.Nesting
import Vitae.Proofs.Markup.Reader
import Vitae.Proofs.Markup.Rows
import Vitae.Proofs.Picture.DataUri
import Vitae.Proofs.Picture.Reader
import Vitae.Proofs.Picture.RoundTrip
import Vitae.Proofs.Preview
import Vitae.Proofs.Registry.Commuting
import Vitae.Proofs.Registry.Document
import Vitae.Proofs.Registry.Interrupted
import Vitae.Proofs.Registry.Listings
import Vitae.Proofs.Registry.Once
import Vitae.Proofs.Registry.Shelf
import Vitae.Proofs.Registry.Sound
import Vitae.Proofs.Registry.Unregistered
import Vitae.Proofs.Report.Lines
import Vitae.Proofs.Report.Place
import Vitae.Proofs.Shape.Closed
import Vitae.Proofs.Shape.Faults
import Vitae.Proofs.Shape.Lenient
import Vitae.Proofs.Shape.Object
import Vitae.Proofs.Shape.Partial
import Vitae.Proofs.Shape.Records
import Vitae.Proofs.Shape.Reorder
import Vitae.Proofs.Shape.RoundTrip
import Vitae.Proofs.Shape.Tables
import Vitae.Proofs.Stylesheet.Cascade
import Vitae.Proofs.Stylesheet.Print
import Vitae.Proofs.Stylesheet.Reader
import Vitae.Proofs.Stylesheet.RoundTrip
import Vitae.Proofs.Stylesheet.Variables
import Vitae.Proofs.Stylesheet.Vocabulary
import Vitae.Proofs.Template.Loading
import Vitae.Proofs.Text.Bytes
import Vitae.Proofs.Text.Entities
import Vitae.Proofs.Text.Escape
import Vitae.Proofs.Text.Trim
import Vitae.Proofs.Text.Word
import Vitae.Proofs.Toml.Document
import Vitae.Proofs.Toml.Passing
import Vitae.Proofs.Toml.Scalars
import Vitae.Proofs.Toml.Spans
import Vitae.Registry.Basic
import Vitae.Registry.Listing
import Vitae.Registry.Request
import Vitae.RenderOptions
import Vitae.Report.Caret
import Vitae.Report.Drawn
import Vitae.Resume.Basic
import Vitae.Resume.Shape
import Vitae.Shape.Basic
import Vitae.Shape.JsonText
import Vitae.Shape.Misfit
import Vitae.Shape.TomlTree
import Vitae.Shape.Value
import Vitae.Stylesheet.Basic
import Vitae.Stylesheet.Rules
import Vitae.Stylesheet.Writer
import Vitae.Template.Archetype
import Vitae.Template.Basic
import Vitae.Template.Catalog
import Vitae.Template.Custom
import Vitae.Template.Preset
import Vitae.Template.Shape
import Vitae.Text.Base64
import Vitae.Text.Blank
import Vitae.Text.Escape
import Vitae.Text.Flips
import Vitae.Text.Quoted
import Vitae.Text.Uppercase
import Vitae.Text.Width
import Vitae.Toml.Basic
import Vitae.Toml.Cursor
import Vitae.Toml.Document
import Vitae.Toml.Numbers
import Vitae.Toml.Strings
import Vitae.Toml.Table

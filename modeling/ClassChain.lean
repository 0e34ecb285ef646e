import ClassChain.Batch.Arguments
import ClassChain.Batch.Run
import ClassChain.Chain.Delimiter
import ClassChain.Chain.Expansion
import ClassChain.Chain.Variants
import ClassChain.Display
import ClassChain.Document.Attribute
import ClassChain.Document.Expansion
import ClassChain.Document.Scan
import ClassChain.Files.Error
import ClassChain.Files.FileSystem
import ClassChain.Files.Listing
import ClassChain.Files.Operation
import ClassChain.Files.Path
import ClassChain.Files.Placement
import ClassChain.Files.Walk
import ClassChain.Help
import ClassChain.Hook
import ClassChain.Literal.Bracket
import ClassChain.Literal.Escape
import ClassChain.Literal.Expression
import ClassChain.Literal.Fault
import ClassChain.Literal.Formatted
import ClassChain.Literal.Grammar
import ClassChain.Literal.Number
import ClassChain.Literal.Quotation
import ClassChain.Literal.Reading
import ClassChain.Literal.Rules
import ClassChain.Literal.Token
import ClassChain.Log
import ClassChain.Main
import ClassChain.Markup.Call
import ClassChain.Markup.Colour
import ClassChain.Markup.Drawing
import ClassChain.Markup.Style
import ClassChain.Markup.Tag
import ClassChain.Notice
import ClassChain.Palette.Arguments
import ClassChain.Palette.Run
import ClassChain.Program
import ClassChain.Proofs.Batch.Status
import ClassChain.Proofs.Chain.Depth
import ClassChain.Proofs.Chain.Lead
import ClassChain.Proofs.Chain.Recovery
import ClassChain.Proofs.Chain.Split
import ClassChain.Proofs.Chain.Stacked
import ClassChain.Proofs.Chain.Token
import ClassChain.Proofs.Chain.Variant
import ClassChain.Proofs.Chain.Word
import ClassChain.Proofs.Document.Attribute
import ClassChain.Proofs.Document.Idempotence
import ClassChain.Proofs.Document.Layout
import ClassChain.Proofs.Document.LineEnd
import ClassChain.Proofs.Document.Locality
import ClassChain.Proofs.Document.Partition
import ClassChain.Proofs.Document.Pattern
import ClassChain.Proofs.Document.Rescan
import ClassChain.Proofs.Document.Settling
import ClassChain.Proofs.Document.Spread
import ClassChain.Proofs.Files.Argument
import ClassChain.Proofs.Files.Change
import ClassChain.Proofs.Files.Ensure
import ClassChain.Proofs.Files.Listing
import ClassChain.Proofs.Files.Path
import ClassChain.Proofs.Files.Paving
import ClassChain.Proofs.Files.Reach
import ClassChain.Proofs.Files.Reading
import ClassChain.Proofs.Files.Refusal
import ClassChain.Proofs.Files.Walk
import ClassChain.Proofs.Files.Way
import ClassChain.Proofs.Files.Writing
import ClassChain.Proofs.Help.Failure
import ClassChain.Proofs.Hook.Decision
import ClassChain.Proofs.Hook.Directory
import ClassChain.Proofs.Hook.Growth
import ClassChain.Proofs.Literal.Format
import ClassChain.Proofs.Literal.Hint
import ClassChain.Proofs.Literal.Refusal
import ClassChain.Proofs.Literal.Rule
import ClassChain.Proofs.Literal.Telling
import ClassChain.Proofs.Literal.Word
import ClassChain.Proofs.Markup.Closing
import ClassChain.Proofs.Markup.Escape
import ClassChain.Proofs.Markup.Sound
import ClassChain.Proofs.Markup.Telling
import ClassChain.Proofs.Palette.Ending
import ClassChain.Proofs.Palette.File
import ClassChain.Proofs.Rewrite.Answer
import ClassChain.Proofs.Rewrite.Attempt
import ClassChain.Proofs.Rewrite.Delivery
import ClassChain.Proofs.Rewrite.Effort
import ClassChain.Proofs.Rewrite.Exclusion
import ClassChain.Proofs.Rewrite.Failure
import ClassChain.Proofs.Rewrite.Flag
import ClassChain.Proofs.Rewrite.Found
import ClassChain.Proofs.Rewrite.InPlace
import ClassChain.Proofs.Rewrite.Independence
import ClassChain.Proofs.Rewrite.Mirror
import ClassChain.Proofs.Rewrite.Order
import ClassChain.Proofs.Rewrite.Run
import ClassChain.Proofs.Rewrite.Success
import ClassChain.Proofs.Rewrite.Written
import ClassChain.Rewrite.File
import ClassChain.Rewrite.Summary
import ClassChain.Rewrite.Tree
import ClassChain.Settings.Assignment
import ClassChain.Settings.Basic
import ClassChain.Settings.Field
import ClassChain.Settings.Json
import ClassChain.Settings.Options
import ClassChain.Settings.Reading
import ClassChain.Settings.Value
import ClassChain.Text.Blank
import ClassChain.Text.Casing
import ClassChain.Text.CharacterName
import ClassChain.Text.CharacterName.Listed
import ClassChain.Text.Control
import ClassChain.Text.Digit
import ClassChain.Text.Figure
import ClassChain.Text.Layout
import ClassChain.Text.Likeness
import ClassChain.Text.Name
import ClassChain.Text.Newline
import ClassChain.Text.Part
import ClassChain.Text.Part.Declaration
import ClassChain.Text.Part.Kind
import ClassChain.Text.Part.Lookup
import ClassChain.Text.Part.OfCollections
import ClassChain.Text.Part.OfKinds
import ClassChain.Text.Part.OfNumbers
import ClassChain.Text.Part.OfOperations
import ClassChain.Text.Part.OfTexts
import ClassChain.Text.Printable
import ClassChain.Text.Quoted
import ClassChain.Text.Ranges
import ClassChain.Text.Small
import ClassChain.Text.Split
import ClassChain.Text.Template
import ClassChain.Text.Utf8
import ClassChain.Text.Word
import ClassChain.Version

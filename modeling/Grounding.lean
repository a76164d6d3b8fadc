import Grounding.Command.Basic
import Grounding.Command.Columns
import Grounding.Command.Conclusion
import Grounding.Command.Help
import Grounding.Command.Perform
import Grounding.Command.Table
import Grounding.Command.Words
import Grounding.Config.Basic
import Grounding.Config.Load
import Grounding.Descriptor.Basic
import Grounding.Descriptor.Grammar
import Grounding.Descriptor.Parser
import Grounding.Document.Reader
import Grounding.Document.Validated
import Grounding.Driver.Backend
import Grounding.Driver.Code
import Grounding.Driver.Dependency
import Grounding.Driver.Expression
import Grounding.Driver.Ground
import Grounding.Driver.Header
import Grounding.Driver.Import
import Grounding.Driver.Layout
import Grounding.Driver.Method
import Grounding.Endpoint
import Grounding.Files.Access
import Grounding.Files.Path
import Grounding.Files.Tree
import Grounding.Json.Basic
import Grounding.Json.Parser
import Grounding.Json.Printer
import Grounding.Main
import Grounding.Markup.Argument.Expression
import Grounding.Markup.Argument.Token
import Grounding.Markup.Color
import Grounding.Markup.Emoji
import Grounding.Markup.EmojiTable
import Grounding.Markup.Plain
import Grounding.Markup.Style
import Grounding.Markup.Tag
import Grounding.Number.Binary64
import Grounding.Number.Numeral
import Grounding.Number.Shortest
import Grounding.Proofs.Descriptor.Exactness
import Grounding.Proofs.Descriptor.RoundTrip
import Grounding.Proofs.Driver.Bindings
import Grounding.Proofs.Driver.Code
import Grounding.Proofs.Driver.Completion
import Grounding.Proofs.Driver.Course
import Grounding.Proofs.Driver.Dependency
import Grounding.Proofs.Driver.Emission
import Grounding.Proofs.Driver.Grounded
import Grounding.Proofs.Driver.Independence
import Grounding.Proofs.Driver.Step
import Grounding.Proofs.Files.Access
import Grounding.Proofs.Files.Tree
import Grounding.Proofs.Itemwise
import Grounding.Proofs.Number.Decimal
import Grounding.Proofs.Outcome
import Grounding.Proofs.Synthesis.Constructions
import Grounding.Proofs.Synthesis.Creation
import Grounding.Proofs.Synthesis.DecodedType
import Grounding.Proofs.Synthesis.Decoding
import Grounding.Proofs.Synthesis.Gathering
import Grounding.Proofs.Synthesis.JsonRoundTrip
import Grounding.Proofs.Synthesis.Limits
import Grounding.Proofs.Synthesis.LiteralRoundTrip
import Grounding.Proofs.Synthesis.LiteralShape
import Grounding.Proofs.Synthesis.Members
import Grounding.Proofs.Synthesis.Mirror
import Grounding.Proofs.Synthesis.Neighbours
import Grounding.Proofs.Synthesis.Observation
import Grounding.Proofs.Synthesis.Probing
import Grounding.Proofs.Synthesis.Realization
import Grounding.Proofs.Synthesis.Refinement
import Grounding.Proofs.Synthesis.Requests
import Grounding.Proofs.Synthesis.Resolution
import Grounding.Proofs.Synthesis.Retracing
import Grounding.Proofs.Synthesis.Runs
import Grounding.Proofs.Synthesis.Search
import Grounding.Proofs.Synthesis.Soundness
import Grounding.Proofs.Text.Joining
import Grounding.Proofs.Text.Nesting
import Grounding.Proofs.Text.Splitting
import Grounding.Proofs.Text.Stripping
import Grounding.Proofs.Value.Collections
import Grounding.Proofs.Value.Equivalence
import Grounding.Proofs.Value.Inhabitants
import Grounding.Proofs.Value.Reordering
import Grounding.Run
import Grounding.Suite.Basic
import Grounding.Suite.Document
import Grounding.Suite.Evaluation
import Grounding.Suite.Load
import Grounding.Synthesis.Advance
import Grounding.Synthesis.Create
import Grounding.Synthesis.Decode
import Grounding.Synthesis.Fault
import Grounding.Synthesis.Host
import Grounding.Synthesis.Model
import Grounding.Text.Blank
import Grounding.Text.Bracket
import Grounding.Text.Digit
import Grounding.Text.Hex
import Grounding.Text.Letter
import Grounding.Text.Lowercase
import Grounding.Text.Parts
import Grounding.Text.Percent
import Grounding.Text.Printable
import Grounding.Text.Quoted
import Grounding.Text.Ranges
import Grounding.Text.TopLevel
import Grounding.Text.Width
import Grounding.Text.Word
import Grounding.Text.Wrap
import Grounding.Toml.Lexical
import Grounding.Toml.Reader
import Grounding.Toml.Value
import Grounding.Value.Basic
import Grounding.Value.Equality
import Grounding.Value.Literal
import Grounding.Value.Order
import Grounding.Version
import Grounding.Proofs.Run.Packages
import Grounding.Proofs.Run.Changes
import Grounding.Proofs.Json.Grammar
import Grounding.Proofs.Json.Reading
import Grounding.Proofs.Json.Writing
import Grounding.Proofs.Suite.Record
import Grounding.Proofs.Suite.Rendering
import Grounding.Proofs.Driver.Blocks
import Grounding.Proofs.Driver.Likeness
import Grounding.Proofs.Driver.Terms
import Grounding.Proofs.Driver.HeadLikeness
import Grounding.Proofs.Driver.MethodLikeness
import Grounding.Proofs.Driver.Containment
import Grounding.Proofs.Run.Rejection
import Grounding.Proofs.Run.Options
import Grounding.Proofs.Synthesis.Orbits
import Grounding.Proofs.Synthesis.Growth
import Grounding.Proofs.Synthesis.Ascent
import Grounding.Proofs.Text.Locating
import Grounding.Proofs.Text.Hexadecimal
import Grounding.Proofs.Text.Segments
import Grounding.Proofs.Driver.Unquoting
import Grounding.Proofs.Driver.Docstrings
import Grounding.Proofs.Driver.Paths
import Grounding.Proofs.Number.Rounding
import Grounding.Proofs.Number.Shortest
import Grounding.Proofs.Driver.Scalars
import Grounding.Proofs.Value.Ordering
import Grounding.Proofs.Synthesis.LiteralOrder
import Grounding.Proofs.Text.SnakeCase
import Grounding.Proofs.Run.DriverName
import Grounding.Proofs.Text.Occurring
import Grounding.Proofs.Driver.Routing
import Grounding.Proofs.Descriptor.Records
import Grounding.Proofs.Text.Balance
import Grounding.Proofs.Text.Heights
import Grounding.Proofs.Text.NameCharacters
import Grounding.Proofs.Driver.Receivers

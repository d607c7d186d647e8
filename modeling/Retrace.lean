import Retrace.Calendar
import Retrace.Command.Arguments
import Retrace.Command.Run
import Retrace.Datum.Basic
import Retrace.Datum.Order
import Retrace.Datum.Show
import Retrace.Fault
import Retrace.Files.Document
import Retrace.Files.Path
import Retrace.Files.Tree
import Retrace.Json.Fault
import Retrace.Json.Reader
import Retrace.Json.Writer
import Retrace.Language.Registry
import Retrace.Literal.Loose
import Retrace.Literal.Options
import Retrace.Literal.Quoted
import Retrace.Literal.Value
import Retrace.Locator.Chain
import Retrace.Locator.Role
import Retrace.Locator.Step
import Retrace.Locator.Value
import Retrace.Log
import Retrace.Main
import Retrace.Naming
import Retrace.Number.Double
import Retrace.Number.Layout
import Retrace.Number.Numeral
import Retrace.Number.Shortest
import Retrace.Outline.Draft
import Retrace.Outline.Node
import Retrace.Proofs.Command.Arguments
import Retrace.Proofs.Command.Escape
import Retrace.Proofs.Command.Frame
import Retrace.Proofs.Command.Printing
import Retrace.Proofs.Command.View
import Retrace.Proofs.Files.Tree
import Retrace.Proofs.Json.Quoted
import Retrace.Proofs.Json.TextBody
import Retrace.Proofs.Language.Registration
import Retrace.Proofs.Literal.Canonical
import Retrace.Proofs.Literal.Escaping
import Retrace.Proofs.Literal.Leaves
import Retrace.Proofs.Literal.OneLine
import Retrace.Proofs.Literal.Options
import Retrace.Proofs.Literal.RoundTrip
import Retrace.Proofs.Literal.Text
import Retrace.Proofs.Literal.Unique
import Retrace.Proofs.Literal.View
import Retrace.Proofs.Locator.Attached
import Retrace.Proofs.Locator.Attributes
import Retrace.Proofs.Locator.Chain
import Retrace.Proofs.Locator.Code
import Retrace.Proofs.Locator.Enclosed
import Retrace.Proofs.Locator.Engine
import Retrace.Proofs.Locator.OneLine
import Retrace.Proofs.Locator.Pattern
import Retrace.Proofs.Locator.PatternChain
import Retrace.Proofs.Locator.PatternValue
import Retrace.Proofs.Locator.Quoted
import Retrace.Proofs.Locator.Reading
import Retrace.Proofs.Locator.Splitting
import Retrace.Proofs.Locator.View
import Retrace.Proofs.Naming.Boundary
import Retrace.Proofs.Number.Digits
import Retrace.Proofs.Number.Layout
import Retrace.Proofs.Number.Whole
import Retrace.Proofs.Outline.Markers
import Retrace.Proofs.Outline.Streaming
import Retrace.Proofs.Outline.View
import Retrace.Proofs.Outline.Walk
import Retrace.Proofs.Recording.Checked
import Retrace.Proofs.Recording.Composition
import Retrace.Proofs.Recording.Modifiers
import Retrace.Proofs.Recording.NormalForm
import Retrace.Proofs.Recording.Outcome
import Retrace.Proofs.Result
import Retrace.Proofs.Script.Addressing
import Retrace.Proofs.Script.Assembly
import Retrace.Proofs.Script.Distinct
import Retrace.Proofs.Script.Failure
import Retrace.Proofs.Script.Integrity
import Retrace.Proofs.Script.Lines
import Retrace.Proofs.Script.Reported
import Retrace.Proofs.Script.Signals
import Retrace.Proofs.Script.Styles
import Retrace.Proofs.Script.TaskHeader
import Retrace.Proofs.Script.View
import Retrace.Proofs.Settings.Fit
import Retrace.Proofs.Settings.Layering
import Retrace.Proofs.Settings.Refusal
import Retrace.Proofs.Settings.Resolution
import Retrace.Proofs.Settings.Soundness
import Retrace.Proofs.Text.Sequence
import Retrace.Proofs.Text.Strip
import Retrace.Proofs.Text.Surrogate
import Retrace.Proofs.Text.View
import Retrace.Recording.Action
import Retrace.Recording.Checked
import Retrace.Recording.Load
import Retrace.Recording.Model
import Retrace.Recording.Modifier
import Retrace.Recording.Record
import Retrace.Recording.Scalar
import Retrace.Recording.Schema
import Retrace.Script.Assemble
import Retrace.Script.Call
import Retrace.Script.Fault
import Retrace.Script.Fragment
import Retrace.Script.Header
import Retrace.Script.Options
import Retrace.Script.Records
import Retrace.Script.Subject
import Retrace.Script.Unchecked
import Retrace.Settings.Basic
import Retrace.Settings.Layers
import Retrace.Text.Base64
import Retrace.Text.Blank
import Retrace.Text.Digit
import Retrace.Text.Lines
import Retrace.Text.Lower
import Retrace.Text.Printable
import Retrace.Text.Ranges
import Retrace.Text.Sequence
import Retrace.Text.Surrogate
import Retrace.Text.Utf8
import Retrace.Text.Word
import Retrace.Yaml.BlockScalar
import Retrace.Yaml.Construction
import Retrace.Yaml.Cursor
import Retrace.Yaml.Document
import Retrace.Yaml.Fault
import Retrace.Yaml.FlowScalar
import Retrace.Yaml.Implicit
import Retrace.Yaml.Lexer
import Retrace.Yaml.Load
import Retrace.Yaml.Mark
import Retrace.Yaml.Merge
import Retrace.Yaml.Node
import Retrace.Yaml.PlainScalar
import Retrace.Yaml.Property
import Retrace.Yaml.Scalar
import Retrace.Yaml.Timestamp
import Retrace.Yaml.Token
import Retrace.Yaml.Version

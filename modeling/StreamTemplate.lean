import StreamTemplate.Diagnostic.Code
import StreamTemplate.Diagnostic.Palette
import StreamTemplate.Diagnostic.Report
import StreamTemplate.Diagnostic.Snippet
import StreamTemplate.Library.Basic
import StreamTemplate.Library.Cache
import StreamTemplate.Library.Folder
import StreamTemplate.Library.Loader
import StreamTemplate.Library.Path
import StreamTemplate.Loop.Await
import StreamTemplate.Loop.Build
import StreamTemplate.Loop.Consume
import StreamTemplate.Loop.Context
import StreamTemplate.Loop.Process
import StreamTemplate.Loop.Run
import StreamTemplate.Loop.Store
import StreamTemplate.Loop.Supply
import StreamTemplate.Loop.Task
import StreamTemplate.Markup.Lexer
import StreamTemplate.Markup.Position
import StreamTemplate.Markup.Token
import StreamTemplate.Markup.Trim
import StreamTemplate.Number.Decimal
import StreamTemplate.Number.Integer
import StreamTemplate.Number.Power
import StreamTemplate.Number.Rounding
import StreamTemplate.Number.Shortest
import StreamTemplate.Operation.Arithmetic
import StreamTemplate.Operation.Bytes
import StreamTemplate.Operation.Cursor
import StreamTemplate.Operation.Item
import StreamTemplate.Operation.Known
import StreamTemplate.Operation.Member
import StreamTemplate.Operation.Slice
import StreamTemplate.Program.Block
import StreamTemplate.Program.Compile
import StreamTemplate.Program.Instruction
import StreamTemplate.Render.Assign
import StreamTemplate.Render.Body
import StreamTemplate.Render.Call
import StreamTemplate.Render.Chunk
import StreamTemplate.Render.Context
import StreamTemplate.Render.Convert
import StreamTemplate.Render.Evaluate
import StreamTemplate.Render.Execute
import StreamTemplate.Render.Failure
import StreamTemplate.Render.Interpreter
import StreamTemplate.Render.Scope
import StreamTemplate.Render.Shortcut
import StreamTemplate.Render.Start
import StreamTemplate.Render.State
import StreamTemplate.Render.Template
import StreamTemplate.Session.Contexts
import StreamTemplate.Session.Library
import StreamTemplate.Session.Request
import StreamTemplate.Session.Run
import StreamTemplate.Session.Single
import StreamTemplate.Stream.Basic
import StreamTemplate.Stream.Operation
import StreamTemplate.Stream.Queue
import StreamTemplate.Stream.Source
import StreamTemplate.Stream.Surroundings
import StreamTemplate.Tag.Check
import StreamTemplate.Tag.Expression
import StreamTemplate.Tag.Language
import StreamTemplate.Tag.Lexer
import StreamTemplate.Tag.Parser
import StreamTemplate.Tag.Reader
import StreamTemplate.Tag.Statement
import StreamTemplate.Tag.Syntax
import StreamTemplate.Tag.Target
import StreamTemplate.Text.Blank
import StreamTemplate.Text.Codec
import StreamTemplate.Text.Decomposition
import StreamTemplate.Text.Digit
import StreamTemplate.Text.Entity
import StreamTemplate.Text.Identifier
import StreamTemplate.Text.Indent
import StreamTemplate.Text.Lines
import StreamTemplate.Text.Normal
import StreamTemplate.Text.Printable
import StreamTemplate.Text.Quoted
import StreamTemplate.Text.Ranges
import StreamTemplate.Text.Similarity
import StreamTemplate.Text.Upper
import StreamTemplate.Value.Basic
import StreamTemplate.Value.Compare
import StreamTemplate.Value.Dict
import StreamTemplate.Value.Fault
import StreamTemplate.Value.Heap
import StreamTemplate.Value.Key
import StreamTemplate.Value.Raise
import StreamTemplate.Value.Recipe
import StreamTemplate.Value.Same
import StreamTemplate.Value.Show
import StreamTemplate.Proofs.Loop.Process
import StreamTemplate.Proofs.Stream.Advance
import StreamTemplate.Proofs.Stream.Apart
import StreamTemplate.Proofs.Loop.Pull
import StreamTemplate.Proofs.Loop.Turn
import StreamTemplate.Proofs.Stream.Course
import StreamTemplate.Proofs.Stream.Standing
import StreamTemplate.Proofs.Stream.Waking
import StreamTemplate.Proofs.Stream.Place
import StreamTemplate.Proofs.Stream.Order
import StreamTemplate.Proofs.Stream.Failing
import StreamTemplate.Proofs.Stream.Final
import StreamTemplate.Proofs.Program.Counter
import StreamTemplate.Proofs.Program.Jumps
import StreamTemplate.Proofs.Program.Flatten
import StreamTemplate.Proofs.Program.Literal
import StreamTemplate.Proofs.Program.Verbatim
import StreamTemplate.Proofs.Render.Flat
import StreamTemplate.Proofs.Render.Waitless
import StreamTemplate.Proofs.Render.Outcome
import StreamTemplate.Proofs.Render.Contained
import StreamTemplate.Proofs.Render.Modes
import StreamTemplate.Proofs.Program.Lenient
import StreamTemplate.Proofs.Markup.Position
import StreamTemplate.Proofs.Markup.Runs
import StreamTemplate.Proofs.Loop.Underway
import StreamTemplate.Proofs.Stream.Coherent
import StreamTemplate.Proofs.Stream.Invariant
import StreamTemplate.Proofs.Stream.Request
import StreamTemplate.Proofs.Stream.Pace
import StreamTemplate.Proofs.Stream.Backpressure
import StreamTemplate.Proofs.Stream.Verdict
import StreamTemplate.Proofs.Stream.LastWord
import StreamTemplate.Proofs.Stream.Told
import StreamTemplate.Proofs.Stream.Late
import StreamTemplate.Proofs.Stream.Batch
import StreamTemplate.Proofs.Stream.Reading
import StreamTemplate.Proofs.Stream.Teardown
import StreamTemplate.Proofs.Render.Trace
import StreamTemplate.Proofs.Render.Terminal
import StreamTemplate.Proofs.Render.Meanwhile
import StreamTemplate.Proofs.Render.Report
import StreamTemplate.Proofs.Loop.Steady
import StreamTemplate.Proofs.Loop.Faithful
import StreamTemplate.Proofs.Loop.Moment
import StreamTemplate.Proofs.Loop.Nesting
import StreamTemplate.Proofs.Render.Escape
import StreamTemplate.Proofs.Render.Received
import StreamTemplate.Proofs.Render.Wrapped
import StreamTemplate.Proofs.Render.Raw
import StreamTemplate.Proofs.Render.Isolated
import StreamTemplate.Proofs.Program.Guarded
import StreamTemplate.Proofs.Program.Listing
import StreamTemplate.Proofs.Program.Refused
import StreamTemplate.Proofs.Program.Remark
import StreamTemplate.Proofs.Diagnostic.Excerpt
import StreamTemplate.Proofs.Diagnostic.Caret
import StreamTemplate.Proofs.Diagnostic.Colours
import StreamTemplate.Proofs.Library.Cache
import StreamTemplate.Proofs.Library.Recency
import StreamTemplate.Proofs.Library.Search
import StreamTemplate.Proofs.Render.Shortcut

import OperatorDesk.Answer
import OperatorDesk.Answer.Json
import OperatorDesk.Answer.Refusal
import OperatorDesk.AskFailure
import OperatorDesk.CommandLine
import OperatorDesk.CommandLine.Reader
import OperatorDesk.Crew
import OperatorDesk.Crew.Run
import OperatorDesk.Dashboard
import OperatorDesk.Demonstration
import OperatorDesk.Desk
import OperatorDesk.Desk.Drawing
import OperatorDesk.Desk.Hearing
import OperatorDesk.Desk.Run
import OperatorDesk.Files
import OperatorDesk.Gate
import OperatorDesk.Gate.Context
import OperatorDesk.Gate.Contexts
import OperatorDesk.Gate.Instant
import OperatorDesk.Gate.Reading
import OperatorDesk.Gate.Run
import OperatorDesk.History
import OperatorDesk.History.Json
import OperatorDesk.JsonValue
import OperatorDesk.JsonValue.Printer
import OperatorDesk.JsonValue.Reader
import OperatorDesk.Log
import OperatorDesk.Log.Filter
import OperatorDesk.Main
import OperatorDesk.Moment
import OperatorDesk.Moment.Printer
import OperatorDesk.Moment.Reader
import OperatorDesk.Places
import OperatorDesk.Proofs.Answer.Admission
import OperatorDesk.Proofs.Crew.Attendance
import OperatorDesk.Proofs.Crew.Course
import OperatorDesk.Proofs.Crew.Overtaking
import OperatorDesk.Proofs.Desk.Answering
import OperatorDesk.Proofs.Desk.Course
import OperatorDesk.Proofs.Desk.Deferring
import OperatorDesk.Proofs.Desk.Framing
import OperatorDesk.Proofs.Desk.Hearing
import OperatorDesk.Proofs.Desk.Informed
import OperatorDesk.Proofs.Desk.Polling
import OperatorDesk.Proofs.Desk.Quitting
import OperatorDesk.Proofs.Desk.Using
import OperatorDesk.Proofs.Desk.Verdict
import OperatorDesk.Proofs.Gate.Acceptance
import OperatorDesk.Proofs.Gate.Capacity
import OperatorDesk.Proofs.Gate.Contexts
import OperatorDesk.Proofs.Gate.Course
import OperatorDesk.Proofs.Gate.Delivery
import OperatorDesk.Proofs.Gate.Destination
import OperatorDesk.Proofs.Gate.History
import OperatorDesk.Proofs.Gate.Ledger
import OperatorDesk.Proofs.Gate.Letters
import OperatorDesk.Proofs.Gate.Moves
import OperatorDesk.Proofs.Gate.Numbering
import OperatorDesk.Proofs.Gate.Observation
import OperatorDesk.Proofs.Gate.Operations
import OperatorDesk.Proofs.Gate.Order
import OperatorDesk.Proofs.Gate.Overtaking
import OperatorDesk.Proofs.Gate.Pending
import OperatorDesk.Proofs.Gate.Poll
import OperatorDesk.Proofs.Gate.Posting
import OperatorDesk.Proofs.Gate.Readers
import OperatorDesk.Proofs.Gate.Reading
import OperatorDesk.Proofs.Gate.Reuse
import OperatorDesk.Proofs.Gate.Roster
import OperatorDesk.Proofs.Gate.Rousing
import OperatorDesk.Proofs.Gate.Serving
import OperatorDesk.Proofs.Gate.Shutdown
import OperatorDesk.Proofs.Gate.Slots
import OperatorDesk.Proofs.Gate.Stream
import OperatorDesk.Proofs.Gate.Submission
import OperatorDesk.Proofs.Gate.Succession
import OperatorDesk.Proofs.Gate.Turn
import OperatorDesk.Proofs.Gate.Waiting
import OperatorDesk.Proofs.Gate.Waking
import OperatorDesk.Proofs.Gate.Withdrawal
import OperatorDesk.Proofs.JsonValue.Grammar
import OperatorDesk.Proofs.JsonValue.Indifference
import OperatorDesk.Proofs.JsonValue.Keeping
import OperatorDesk.Proofs.JsonValue.Members
import OperatorDesk.Proofs.JsonValue.Quoting
import OperatorDesk.Proofs.JsonValue.Records
import OperatorDesk.Proofs.JsonValue.Writing
import OperatorDesk.Proofs.Moment.Reality
import OperatorDesk.Proofs.Moment.Writing
import OperatorDesk.Proofs.Screen.Drawing
import OperatorDesk.Proofs.Screen.Frame
import OperatorDesk.Proofs.Screen.Wrapping
import OperatorDesk.Proofs.Settings.Keeping
import OperatorDesk.Proofs.Settings.Loading
import OperatorDesk.Proofs.Settings.Running
import OperatorDesk.Proofs.Shell.Acting
import OperatorDesk.Proofs.Shell.Coherence
import OperatorDesk.Proofs.Shell.Composing
import OperatorDesk.Proofs.Shell.Edits
import OperatorDesk.Proofs.Shell.Entries
import OperatorDesk.Proofs.Shell.Focusing
import OperatorDesk.Proofs.Shell.Fronting
import OperatorDesk.Proofs.Shell.Offering
import OperatorDesk.Proofs.Shell.Queue
import OperatorDesk.Proofs.Shell.Quitting
import OperatorDesk.Proofs.Shell.Resting
import OperatorDesk.Proofs.Shell.Returning
import OperatorDesk.Proofs.Shell.Seeing
import OperatorDesk.Proofs.Shell.Showing
import OperatorDesk.Proofs.Shell.Stacking
import OperatorDesk.Proofs.Shell.Submitting
import OperatorDesk.Proofs.Shell.Surfacing
import OperatorDesk.Proofs.Shell.Typing
import OperatorDesk.Proofs.Shell.Waiting
import OperatorDesk.Proofs.Text.Digits
import OperatorDesk.Proofs.Text.Likeness
import OperatorDesk.Proofs.Text.Trimming
import OperatorDesk.Proofs.Yaml.Lines
import OperatorDesk.Proofs.Yaml.Trees
import OperatorDesk.Proofs.Yaml.Words
import OperatorDesk.Question
import OperatorDesk.Question.Json
import OperatorDesk.Screen
import OperatorDesk.Screen.Frame
import OperatorDesk.Screen.Line
import OperatorDesk.Settings
import OperatorDesk.Settings.File
import OperatorDesk.Settings.Json
import OperatorDesk.Settings.Yaml
import OperatorDesk.Settings.Yaml.Number
import OperatorDesk.Shell
import OperatorDesk.Shell.Composer
import OperatorDesk.Shell.Composer.Body
import OperatorDesk.Shell.Event
import OperatorDesk.Shell.Hearing
import OperatorDesk.Shell.Journal
import OperatorDesk.Shell.Overlay
import OperatorDesk.Shell.Rendering
import OperatorDesk.Shell.Run
import OperatorDesk.Shell.View
import OperatorDesk.Startup
import OperatorDesk.StartupError
import OperatorDesk.Terminal.Input
import OperatorDesk.Terminal.Typed
import OperatorDesk.Text.Blank
import OperatorDesk.Text.Cluster
import OperatorDesk.Text.Digits
import OperatorDesk.Text.Property
import OperatorDesk.Text.Quoted
import OperatorDesk.Text.Similarity
import OperatorDesk.Watch
import OperatorDesk.Yaml.Character
import OperatorDesk.Yaml.Cursor
import OperatorDesk.Yaml.Document
import OperatorDesk.Yaml.Node
import OperatorDesk.Yaml.Node.Reader
import OperatorDesk.Yaml.Scalar
import OperatorDesk.Yaml.Scalar.Block
import OperatorDesk.Yaml.Scalar.Plain
import OperatorDesk.Yaml.Scalar.Quoted
import OperatorDesk.Yaml.Token
import OperatorDesk.Yaml.Token.Property
import OperatorDesk.Yaml.Token.Reader

import ClausePrompt.Argument
import ClausePrompt.Argument.Call
import ClausePrompt.Argument.Defect
import ClausePrompt.Argument.Direction
import ClausePrompt.Argument.Nesting
import ClausePrompt.Argument.Numeral
import ClausePrompt.Argument.Reader
import ClausePrompt.Argument.Span
import ClausePrompt.Calendar
import ClausePrompt.Clause
import ClausePrompt.Decimal.Reading
import ClausePrompt.Decimal.Shortest
import ClausePrompt.Desk
import ClausePrompt.Form.Checked
import ClausePrompt.Form.Field
import ClausePrompt.Form.Numeral
import ClausePrompt.Identifier
import ClausePrompt.Interview
import ClausePrompt.Interview.Message
import ClausePrompt.Interview.Question
import ClausePrompt.Journal.Console
import ClausePrompt.Journal.Event
import ClausePrompt.Journal.Exposition
import ClausePrompt.Journal.Metrics
import ClausePrompt.Journal.Step
import ClausePrompt.Keyword
import ClausePrompt.Keyword.Form
import ClausePrompt.Lexicon
import ClausePrompt.Lexicon.Standard
import ClausePrompt.Library
import ClausePrompt.Library.Kind
import ClausePrompt.Library.Snippet
import ClausePrompt.OrderedMap
import ClausePrompt.Prompt
import ClausePrompt.Prompt.Written
import ClausePrompt.Proofs.Answered
import ClausePrompt.Proofs.Argument.Call
import ClausePrompt.Proofs.Argument.CallParts
import ClausePrompt.Proofs.Argument.Keyed
import ClausePrompt.Proofs.Argument.Malformed
import ClausePrompt.Proofs.Argument.Named
import ClausePrompt.Proofs.Argument.Numeric
import ClausePrompt.Proofs.Argument.Overlong
import ClausePrompt.Proofs.Argument.Positional
import ClausePrompt.Proofs.Argument.Segments
import ClausePrompt.Proofs.Argument.TopLevel
import ClausePrompt.Proofs.Argument.Variants
import ClausePrompt.Proofs.Argument.WellNested
import ClausePrompt.Proofs.Calendar
import ClausePrompt.Proofs.Clause.Accepted
import ClausePrompt.Proofs.Desk.Completion
import ClausePrompt.Proofs.Desk.Direct
import ClausePrompt.Proofs.Desk.Draft
import ClausePrompt.Proofs.Desk.Frame
import ClausePrompt.Proofs.Desk.Modes
import ClausePrompt.Proofs.Desk.Run
import ClausePrompt.Proofs.Desk.Unchanged
import ClausePrompt.Proofs.Form.Field
import ClausePrompt.Proofs.Identifier.Parts
import ClausePrompt.Proofs.Identifier.Time
import ClausePrompt.Proofs.Interview.Completion
import ClausePrompt.Proofs.Interview.Direct
import ClausePrompt.Proofs.Interview.Kept
import ClausePrompt.Proofs.Interview.Move
import ClausePrompt.Proofs.Interview.Overfull
import ClausePrompt.Proofs.Interview.Overlong
import ClausePrompt.Proofs.Interview.Responses
import ClausePrompt.Proofs.Interview.Result
import ClausePrompt.Proofs.Interview.Transcript
import ClausePrompt.Proofs.Interview.Turn
import ClausePrompt.Proofs.Interview.Typed
import ClausePrompt.Proofs.Journal.Counters
import ClausePrompt.Proofs.Journal.Ledger
import ClausePrompt.Proofs.Journal.Occurrences
import ClausePrompt.Proofs.Journal.Report
import ClausePrompt.Proofs.Journal.Samples
import ClausePrompt.Proofs.Lexicon.Indexes
import ClausePrompt.Proofs.Lexicon.Lookup
import ClausePrompt.Proofs.Library.Content
import ClausePrompt.Proofs.Library.Gauges
import ClausePrompt.Proofs.Library.Holdings
import ClausePrompt.Proofs.Library.Names
import ClausePrompt.Proofs.Library.Newest
import ClausePrompt.Proofs.Library.Run
import ClausePrompt.Proofs.Library.Stock
import ClausePrompt.Proofs.OrderedMap
import ClausePrompt.Proofs.Outcome
import ClausePrompt.Proofs.Prompt.Commute
import ClausePrompt.Proofs.Prompt.Entries
import ClausePrompt.Proofs.Prompt.Joined
import ClausePrompt.Proofs.Prompt.Length
import ClausePrompt.Proofs.Prompt.Overlay
import ClausePrompt.Proofs.Prompt.Overlong
import ClausePrompt.Proofs.Prompt.Piece
import ClausePrompt.Proofs.Prompt.Place
import ClausePrompt.Proofs.Prompt.Refused
import ClausePrompt.Proofs.Prompt.RoundTrip
import ClausePrompt.Proofs.Session.Completion
import ClausePrompt.Proofs.Session.Refinement
import ClausePrompt.Proofs.Session.Run
import ClausePrompt.Proofs.Session.Timers
import ClausePrompt.Proofs.Sheet.Calls
import ClausePrompt.Proofs.Sheet.Entries
import ClausePrompt.Proofs.Sheet.Limit
import ClausePrompt.Proofs.Sheet.Load
import ClausePrompt.Proofs.Sheet.Run
import ClausePrompt.Proofs.Sheet.Spelling
import ClausePrompt.Proofs.Text.Casing
import ClausePrompt.Proofs.Text.Folding
import ClausePrompt.Proofs.Text.Pieces
import ClausePrompt.Proofs.Text.Trim
import ClausePrompt.Proofs.Text.Word
import ClausePrompt.Refusal
import ClausePrompt.Schedule
import ClausePrompt.Session
import ClausePrompt.Settings
import ClausePrompt.Settings.Desk
import ClausePrompt.Sheet
import ClausePrompt.Text.CaseTable
import ClausePrompt.Text.Casing
import ClausePrompt.Text.CharClass
import ClausePrompt.Text.Hidden
import ClausePrompt.Text.Pieces
import ClausePrompt.Text.Quoted
import ClausePrompt.Text.WordChar

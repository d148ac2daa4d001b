import Dialogue.Application
import Dialogue.Application.Flows
import Dialogue.Bot
import Dialogue.Bot.Answers
import Dialogue.Bot.Events
import Dialogue.Bot.Presses
import Dialogue.Bot.Steps
import Dialogue.Catalog
import Dialogue.Catalog.Configuration
import Dialogue.Catalog.References
import Dialogue.Channel
import Dialogue.Command
import Dialogue.Condition.Comparison
import Dialogue.Condition.Evaluation
import Dialogue.Condition.Token
import Dialogue.Context
import Dialogue.Context.Codec
import Dialogue.Context.Progress
import Dialogue.Contexts
import Dialogue.Database.Address
import Dialogue.Decimal.Binary64
import Dialogue.Decimal.Reading
import Dialogue.Decimal.Shortest
import Dialogue.Decimal.Style
import Dialogue.Destination
import Dialogue.Dispatch
import Dialogue.Fault
import Dialogue.Flow
import Dialogue.Flow.Schema
import Dialogue.Handler
import Dialogue.Handler.Script
import Dialogue.Handler.Standard
import Dialogue.Inbound
import Dialogue.Json.Reader
import Dialogue.Json.Writer
import Dialogue.Keyboard
import Dialogue.Notice
import Dialogue.Outcome
import Dialogue.Path
import Dialogue.Pattern
import Dialogue.Pattern.Reader
import Dialogue.Payload
import Dialogue.Price
import Dialogue.Relay
import Dialogue.Schema
import Dialogue.Schema.Numeral
import Dialogue.Settings
import Dialogue.Settings.Expansion
import Dialogue.Store
import Dialogue.Store.Backend
import Dialogue.Store.Call
import Dialogue.Store.Files
import Dialogue.Store.Records
import Dialogue.Store.Rows
import Dialogue.Store.Series
import Dialogue.Table
import Dialogue.Telegram.Client
import Dialogue.Telegram.Connection
import Dialogue.Telegram.Request
import Dialogue.Telegram.Update
import Dialogue.Text.Blank
import Dialogue.Text.Case
import Dialogue.Text.Digit
import Dialogue.Text.Printable
import Dialogue.Text.Quoted
import Dialogue.Text.Ranges
import Dialogue.Text.Utf8
import Dialogue.Text.Word
import Dialogue.Text.Words
import Dialogue.Turn
import Dialogue.Validation
import Dialogue.Value
import Dialogue.Value.Access
import Dialogue.Value.Conversion
import Dialogue.Value.Equality
import Dialogue.Value.Magnitude
import Dialogue.Value.Ordering
import Dialogue.Value.Rendering
import Dialogue.World
import Dialogue.Proofs.Condition.Soundness
import Dialogue.Proofs.Condition.Completeness
import Dialogue.Proofs.Condition.Agreement
import Dialogue.Proofs.Contexts.Overwriting
import Dialogue.Proofs.Json.Numbers
import Dialogue.Proofs.Json.Texts
import Dialogue.Proofs.Json.Floats
import Dialogue.Proofs.Json.Rereading
import Dialogue.Proofs.Tables
import Dialogue.Proofs.Context.Keeping
import Dialogue.Proofs.Turn.Leading
import Dialogue.Proofs.Turn.Sending
import Dialogue.Proofs.Contexts.Reading
import Dialogue.Proofs.Context.Tidiness
import Dialogue.Proofs.Bot.Moves
import Dialogue.Proofs.Bot.Flows
import Dialogue.Proofs.Bot.Sequels
import Dialogue.Proofs.Bot.Presses
import Dialogue.Proofs.Bot.Events
import Dialogue.Proofs.Bot.Alone
import Dialogue.Proofs.Bot.Landing
import Dialogue.Proofs.Context.Positions
import Dialogue.Proofs.Bot.Laps
import Dialogue.Proofs.Bot.Budget
import Dialogue.Proofs.Bot.Markers
import Dialogue.Proofs.Bot.Runs
import Dialogue.Proofs.Bot.Positions
import Dialogue.Proofs.Bot.Questions
import Dialogue.Proofs.Bot.Reserve
import Dialogue.Proofs.Bot.Modes
import Dialogue.Proofs.Json.Legibility
import Dialogue.Proofs.Context.Decoding
import Dialogue.Proofs.Context.Twins
import Dialogue.Proofs.Turn.Pairing
import Dialogue.Proofs.Handler.Bookkeeping
import Dialogue.Proofs.Bot.Pairing
import Dialogue.Proofs.Bot.Topics
import Dialogue.Proofs.Decimal.Rounding
import Dialogue.Proofs.Decimal.Packing
import Dialogue.Proofs.Decimal.Nearest
import Dialogue.Proofs.Decimal.Shortest
import Dialogue.Proofs.Decimal.Roundtrip
import Dialogue.Proofs.Context.Faithfulness
import Dialogue.Proofs.Context.Frames
import Dialogue.Proofs.Contexts.Outages
import Dialogue.Proofs.Catalog.Menus
import Dialogue.Proofs.Bot.Choices
import Dialogue.Proofs.Bot.Holding
import Dialogue.Proofs.Bot.Capture
import Dialogue.Proofs.Bot.Losses
import Dialogue.Proofs.Contexts.Writing
import Dialogue.Proofs.Turn.Blindness
import Dialogue.Proofs.Bot.Blindness
import Dialogue.Proofs.Turn.Isolation
import Dialogue.Proofs.Bot.Isolation
import Dialogue.Proofs.Bot.Beginnings
import Dialogue.Proofs.Bot.Settling
import Dialogue.Proofs.Bot.Refusals
import Dialogue.Proofs.Decimal.Numerals
import Dialogue.Proofs.Json.Sheets
import Dialogue.Proofs.Store.Restoring
import Dialogue.Proofs.Store.Deferral
import Dialogue.Proofs.Store.Limits
import Dialogue.Proofs.Store.Durability
import Dialogue.Proofs.Store.Agreement
import Dialogue.Proofs.Context.Losslessness
import Dialogue.Proofs.Contexts.Sanity
import Dialogue.Proofs.Contexts.Soundness
import Dialogue.Proofs.Bot.Ownership
import Dialogue.Proofs.Contexts.Looking
import Dialogue.Proofs.Relay.Topics
import Dialogue.Proofs.Relay.Conversations
import Dialogue.Proofs.Turn.Reporting
import Dialogue.Proofs.Catalog.References
import Dialogue.Proofs.Handler.Discretion
import Dialogue.Proofs.Bot.Lookups
import Dialogue.Proofs.Bot.Hosting
import Dialogue.Proofs.Bot.Finding
import Dialogue.Proofs.Bot.Checks
import Dialogue.Proofs.Paths
import Dialogue.Proofs.Bot.Picks
import Dialogue.Proofs.Contexts.Making
import Dialogue.Proofs.Dispatch.Decisions
import Dialogue.Proofs.Dispatch.Exclusion
import Dialogue.Proofs.Turn.Returning
import Dialogue.Proofs.Dispatch.Boundary
import Dialogue.Proofs.Condition.Spelling
import Dialogue.Proofs.Condition.Spacing
import Dialogue.Proofs.Keyboard.Fitting
import Dialogue.Proofs.Bot.Completion
import Dialogue.Proofs.Context.Rules
import Dialogue.Proofs.Contexts.Merging
import Dialogue.Proofs.Catalog.Registering
import Dialogue.Proofs.Store.Opening
import Dialogue.Proofs.Telegram.Calling
import Dialogue.Proofs.Decimal.Integers
import Dialogue.Proofs.Values
import Dialogue.Proofs.Condition.Numerals
import Dialogue.Proofs.Validation.Addresses
import Dialogue.Proofs.Bot.Keyboards
import Dialogue.Proofs.Bot.Cuts
import Dialogue.Proofs.Bot.InTopic
import Dialogue.Proofs.Bot.Targets
import Dialogue.Proofs.Settings.Expanding
import Dialogue.Proofs.Condition.Comparators

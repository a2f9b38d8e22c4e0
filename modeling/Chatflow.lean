import Chatflow.Bot.Intake
import Chatflow.Bot.Report
import Chatflow.Config.Loader
import Chatflow.Json.Parser
import Chatflow.Logging.Setup
import Chatflow.Main
import Chatflow.Matching.Cache
import Chatflow.Rendering.Stock
import Chatflow.Serial.Schedule
import Chatflow.Telemetry.Pump
import Chatflow.Text.Lines
import Chatflow.Proofs.Dict
import Chatflow.Proofs.Context
import Chatflow.Proofs.Matching
import Chatflow.Proofs.Store.Blocks
import Chatflow.Proofs.Store.Conversations
import Chatflow.Proofs.Store.Subscribers
import Chatflow.Proofs.Bot.Calls
import Chatflow.Proofs.Bot.Path
import Chatflow.Proofs.Bot.Steps
import Chatflow.Proofs.Bot.Simulation
import Chatflow.Proofs.Bot.Moments
import Chatflow.Proofs.Bot.History
import Chatflow.Proofs.Bot.Entering
import Chatflow.Proofs.Bot.Shift
import Chatflow.Proofs.Conversation.Single
import Chatflow.Proofs.Conversation.Standing
import Chatflow.Proofs.Conversation.Lifecycle
import Chatflow.Proofs.Conversation.Attempts
import Chatflow.Proofs.Conversation.Asking
import Chatflow.Proofs.Conversation.Fallback
import Chatflow.Proofs.Conversation.Chains
import Chatflow.Proofs.Matching.Selection
import Chatflow.Proofs.Bot.InStep
import Chatflow.Proofs.Bot.Twin
import Chatflow.Proofs.Conversation.Independence
import Chatflow.Proofs.Content.Pages
import Chatflow.Proofs.Serial.Locks
import Chatflow.Proofs.Widget.Buttons
import Chatflow.Proofs.Widget.Grammar
import Chatflow.Proofs.Subscriber.Variables
import Chatflow.Proofs.Json.Records
import Chatflow.Proofs.Block.Encoding
import Chatflow.Proofs.Conversation.Encoding
import Chatflow.Proofs.Conversation.Handled
import Chatflow.Proofs.Rendering.Template
import Chatflow.Proofs.Rendering.Meaning
import Chatflow.Proofs.Rendering.Segments
import Chatflow.Proofs.Rendering.Values
import Chatflow.Proofs.Subscriber.Naming
import Chatflow.Proofs.Content.Position
import Chatflow.Proofs.Content.Visit
import Chatflow.Proofs.Bot.Intake
import Chatflow.Proofs.Subscriber.Visibility
import Chatflow.Proofs.Widget.Outbox
import Chatflow.Proofs.Telemetry.Snapshot
import Chatflow.Proofs.Telemetry.Pump
import Chatflow.Proofs.Telemetry.Accounts
import Chatflow.Proofs.Telemetry.Remarks
import Chatflow.Proofs.Telemetry.Tally
import Chatflow.Proofs.Bot.Reception
import Chatflow.Proofs.Config.Layer
import Chatflow.Proofs.Config.Options
import Chatflow.Proofs.Config.Precedence
import Chatflow.Proofs.Config.Whole
import Chatflow.Proofs.Store.Creation
import Chatflow.Proofs.Store.Growth
import Chatflow.Proofs.Widget.Encoding
import Chatflow.Proofs.Store.Lookups
import Chatflow.Proofs.Context.Folding
import Chatflow.Proofs.Config.Answering
import Chatflow.Proofs.Widget.Elements
import Chatflow.Proofs.Widget.Links
import Chatflow.Proofs.Bot.Failing
import Chatflow.Proofs.Bot.Executors
import Chatflow.Proofs.Bot.Deliveries
import Chatflow.Proofs.Console.Session
import Chatflow.Proofs.Widget.NextPage
import Chatflow.Proofs.Conversation.Overflow
import Chatflow.Proofs.Matching.Cache
import Chatflow.Proofs.Telemetry.Order

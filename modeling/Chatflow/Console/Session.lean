import Chatflow.Bot.Intake
import Chatflow.Config.Loader
import Chatflow.Console.Arguments
import Chatflow.Console.Line
import Chatflow.Console.Summary
import Chatflow.Json.Parser

/-!
# Console sessions

A conversation with a bot at a terminal. Each line that says something is a turn of the visitor;
what the bot delivers to the visitor is printed after it (`Session.turn`). A session ends with the
counts of its telemetry.
-/

namespace Chatflow

namespace Console

/-! ### What a session needs -/

/-- Why a session cannot be opened. -/
inductive OpenError where
  /-- The flow cannot be read. -/
  | noFlow (path : String)
  /-- What was read is no flow. -/
  | notAFlow (path : String)
  /-- The flow asks for an executor that is not there. -/
  | executor (cause : RenderError)
  /-- There is no configuration. -/
  | config (cause : ConfigError)
  deriving DecidableEq, Repr

/-- The text of an error. -/
def OpenError.message : OpenError → String
  | .noFlow path => "reading flow file " ++ path
  | .notAFlow path => "parsing flow file " ++ path
  | .executor cause => cause.message
  | .config cause => "configuration error: " ++ cause.message

/-- The flow in the file at a path, with an executor for each of its blocks that asks for one. -/
def readFlow (s : Surroundings) (path : String) : Except OpenError (List Block) :=
  match s.file? path with
  | none => .error (.noFlow path)
  | some text =>
    match (Json.parse text).bind (Decode.list Block.ofJson?) with
    | none => .error (.notAFlow path)
    | some blocks => ((executors.validate blocks).mapError .executor).map fun _ => blocks

/-- The configuration of a session that is not told to read one. -/
def ownConfig : Config :=
  { Config.standard with
    chatbot := { Settings.standard with
      contact := .ofList [("company_name", "Hexabot Pizza")] }
    logging := { Logging.Options.standard with output := .stderr } }

/-- The valid configuration gathered with the file at a path, if one is asked for. -/
def readConfig (s : Surroundings) (file : Option String) : Except OpenError Config :=
  let loaded : Except ConfigError Config :=
    match file with
    | none => .ok ownConfig
    | some _ => { Loader.standard s with file := file }.load s
  (loaded.bind fun c => c.validate.map fun _ => c).mapError .config

/-! ### Sessions -/

/-- A session of a visitor. -/
structure Session where
  /-- The bot. -/
  intake : Intake
  /-- The configuration. -/
  config : Config
  /-- The visitor. -/
  visitor : String

namespace Session

/-- The channel of a console. -/
def channel : String := Widget.Site.console.channelName

/-- The session of a visitor with a flow and a configuration, in which texts are chosen by given
numbers. -/
def ofFlow (flow : List Block) (config : Config) (visitor : String) (rolls : Nat → Nat) : Session :=
  ⟨⟨⟨.ofList flow, .empty, executors, config.chatbot, .none, rolls⟩, none, config.nlu⟩, config,
    visitor⟩

/-- The session that some arguments ask for. -/
def ofArguments (a : Arguments) (s : Surroundings) (rolls : Nat → Nat) :
    Except OpenError Session := do
  let flow ← readFlow s a.flow
  return ofFlow flow (← readConfig s a.config?) a.visitor rolls

/-- The world in which a session begins. -/
def world : World := .fresh ((Channel.Registry.withWidget .empty .web).withWidget .console)

variable (s : Session)

/-- Picks up what was delivered to the visitor. -/
def collect : Turn (List Widget.Delivery) := fun w =>
  match w.channels.find? channel with
  | some (.widget outbox) =>
    let (deliveries, rest) := outbox.drainFor s.visitor
    (deliveries, { w with channels := w.channels.insert channel (.widget rest) })
  | _ => ([], w)

/-- Sends a message to the bot. Gives what is printed. -/
def turn (message : Json) : Turn (List String) := do
  let notice ←
    match ← (s.intake.receive channel message).run with
    | .ok (some outcome) => pure (if outcome.isHandled then [] else ["bot> ..."])
    | .ok none | .error _ => pure []
  let deliveries ← s.collect
  return notice ++ deliveries.flatMap shown

/-- Takes in some lines, up to one that leaves. Gives what is printed. -/
def talk : List String → Turn (List String)
  | [] => return []
  | line :: rest => do
    match Command.ofLine s.visitor line with
    | .leave => return []
    | .nothing => talk rest
    | .say message =>
      let printed ← s.turn message
      return printed ++ (← talk rest)

/-- The last line: what was counted. -/
def farewell (w : World) : String :=
  (if s.config.telemetry then Telemetry.Snapshot.ofEvents w.telemetry else .empty).display

/-- The lines that a session prints. -/
def run (lines : List String) : List String :=
  let (printed, w) := (s.talk lines).run world
  printed ++ [s.farewell w]

end Session

/-! ### The program -/

/-- What a run of the console leaves behind. -/
structure Report where
  /-- The exit status. -/
  status : UInt8
  /-- The texts printed, each with a line feed after it. -/
  printed : List String
  /-- The logging options, once they are known. -/
  logging : Option Logging.Options
  deriving DecidableEq

/-- Runs the console on the words of its command line and the lines typed. -/
def run (words : List String) (s : Surroundings) (rolls : Nat → Nat) (lines : List String) :
    Report :=
  match Arguments.read words with
  | .error usage => ⟨usage.status, if usage = .help then [usage.message] else [], none⟩
  | .ok arguments =>
    match Session.ofArguments arguments s rolls with
    | .error _ => ⟨1, [], none⟩
    | .ok session => ⟨0, session.run lines, some session.config.logging⟩

end Console

end Chatflow

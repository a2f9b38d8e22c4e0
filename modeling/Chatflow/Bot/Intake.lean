import Chatflow.Bot.Filter
import Chatflow.Config.Schema

/-!
# Intake

How what a channel delivers becomes a turn (`Intake.receive`): the raw value is read as an event,
its sender is looked up or created, a language service parses its text, and the event is served.
What is not a message, or has nobody as its author, starts no turn and changes nothing.
-/

namespace Chatflow

/-- Why what a channel delivered was not answered. -/
inductive IntakeError where
  /-- It is no event, or not from anybody. -/
  | event (cause : EventError)
  /-- The sender could not be looked up. -/
  | store (cause : StoreError)
  /-- The turn went wrong. -/
  | failed (cause : BotError)
  deriving DecidableEq, Repr

/-- The text of a reason. -/
def IntakeError.message : IntakeError → String
  | .event cause => cause.message
  | .store cause => cause.message
  | .failed cause => cause.message

/-- A service that parses texts, or fails. -/
abbrev NlpService := String → Except String Nlp.Parse

/-- A bot with what it needs to take in events. -/
structure Intake where
  /-- The bot that answers. -/
  bot : Bot
  /-- The language service, if there is one. -/
  service : Option NlpService
  /-- How it is used. -/
  nlp : NlpOptions

namespace Intake

/-- What a lookup of the sender fails with. -/
def ofLookup {α : Type} (x : Attempt α) : ExceptT IntakeError Turn α :=
  ExceptT.adapt (fun
    | .store cause => .store cause
    | error => .failed error) x

variable (i : Intake)

/-- The service that is given a text, if it is given to one at all. -/
def serviceFor (text : String) : Option NlpService :=
  i.service.filter fun _ => i.nlp.enabled && !(Text.trim text).isEmpty

/-- The entities of a parse that are sure enough. -/
def sure (p : Nlp.Parse) : Nlp.Parse :=
  ⟨p.entities.filter fun e => i.nlp.threshold ≤ e.confidence⟩

/-- The event with the parse of its text. A service that fails is passed over. -/
def withParse (e : Event) : Turn Event := do
  match i.serviceFor e.text with
  | none => return e
  | some service =>
    modify fun w => { w with asked := w.asked ++ [e.text] }
    match service e.text with
    | .ok p => return e.withNlp (i.sure p)
    | .error _ => return e

/-- Answers an event whose sender is known, unless it starts no turn. -/
def dispatch (e : Event) : ExceptT IntakeError Turn (Option Outcome) := do
  match ← ExceptT.lift (i.bot.serve [] e).run with
  | .ok outcome => return some outcome
  | .error .skipped => return none
  | .error (.failed cause) => throw (.failed cause)

/-- Answers an event. The sender is looked up again right before the turn, since a turn before it
may have changed it. -/
def handle (e : Event) : ExceptT IntakeError Turn (Option Outcome) := do
  if !e.isMessage then return none
  match e.author with
  | .error cause => throw (.event cause)
  | .ok foreignId =>
    let known ← ofLookup (i.bot.getOrCreateSubscriber e.channel foreignId)
    let parsed ← i.withParse e
    let current ← ofLookup (i.bot.findSubscriber known.id)
    i.dispatch (parsed.withSender (current.getD known))

/-- Answers what a channel delivered. -/
def receive (channel : String) (raw : Json) : ExceptT IntakeError Turn (Option Outcome) :=
  match Event.parse channel raw with
  | .error cause => throw (.event cause)
  | .ok e => i.handle e

end Intake

end Chatflow

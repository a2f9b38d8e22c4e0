import Chatflow.Bot.Turn

/-!
# Filters

Only messages start a turn, and rules may let through fewer still.
-/

namespace Chatflow

/-- Why an event was not answered. -/
inductive ServeError where
  /-- A rule keeps the event from the bot. -/
  | skipped
  /-- The turn went wrong. -/
  | failed (cause : BotError)
  deriving DecidableEq, Repr

/-- The text of a reason. -/
def ServeError.message : ServeError → String
  | .skipped => "event skipped by filter"
  | .failed cause => cause.message

/-- Whether an event is a message. -/
def Event.isMessage (e : Event) : Bool := e.kind = .message

/-- Answers an event that is a message and that all rules let through. -/
def Bot.serve (bot : Bot) (rules : List (Event → Bool)) (event : Event) :
    ExceptT ServeError Turn Outcome :=
  if event.isMessage && rules.all (· event) then ExceptT.adapt .failed (bot.handle event)
  else throw .skipped

end Chatflow

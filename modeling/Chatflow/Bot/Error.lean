import Chatflow.Channel.Error
import Chatflow.Rendering.Executor

/-!
# Bot errors

Why a turn went wrong.
-/

namespace Chatflow

/-- Why a turn went wrong. -/
inductive BotError where
  /-- A store failed. -/
  | store (cause : StoreError)
  /-- A channel failed. -/
  | channel (cause : ChannelError)
  /-- A block could not be rendered. -/
  | render (cause : RenderError)
  /-- Nobody is known to have sent the event. -/
  | missingSender
  /-- A chain of attached blocks came back to a block. -/
  | attachedCycle (block : String)
  deriving DecidableEq, Repr

namespace BotError

/-- The text of a bot error. -/
def message : BotError → String
  | .store cause => cause.message
  | .channel cause => cause.message
  | .render cause => cause.message
  | .missingSender => "event has no resolved sender"
  | .attachedCycle block => "attached block cycle detected at '" ++ block ++ "'"

end BotError

end Chatflow

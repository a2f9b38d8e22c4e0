/-!
# Channel errors

Why a message was not sent.
-/

namespace Chatflow

/-- Why a message was not sent. -/
inductive ChannelError where
  /-- There is no channel of that name. -/
  | notRegistered (name : String)
  /-- The channel has no form for such messages. -/
  | unsupportedFormat (format : String)
  /-- Sending failed. -/
  | sendFailed (reason : String)
  /-- Sending took too long. -/
  | timeout
  deriving DecidableEq, Repr

namespace ChannelError

/-- The text of a channel error. -/
def message : ChannelError → String
  | .notRegistered name => "channel '" ++ name ++ "' is not registered"
  | .unsupportedFormat format => "unsupported envelope format: " ++ format
  | .sendFailed reason => "failed to send message: " ++ reason
  | .timeout => "send timed out"

end ChannelError

end Chatflow

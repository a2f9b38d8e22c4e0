import Chatflow.Dict
import Chatflow.Widget.Outbox

/-!
# Channels

The places to which the bot sends its messages, by their names. A widget channel puts them in an
outbox; a recorder takes them as they are.
-/

namespace Chatflow

/-- A place to which messages are sent. -/
inductive Channel where
  | widget (outbox : Widget.Outbox)
  | recorder
  deriving DecidableEq

namespace Channel

/-- Whether a channel is that of a widget. -/
def isWidget : Channel → Bool
  | .widget _ => true
  | .recorder => false

/-- What waits in a channel. -/
def deliveries : Channel → List Widget.Delivery
  | .widget outbox => outbox
  | .recorder => []

/-- The channel with nothing left to pick up. -/
def emptied : Channel → Channel
  | .widget _ => .widget []
  | .recorder => .recorder

/-- The channels by their names. -/
abbrev Registry := Dict Channel

namespace Registry

/-- The registry with an empty widget channel for a site. -/
def withWidget (r : Registry) (site : Widget.Site) : Registry :=
  r.insert site.channelName (.widget [])

/-- The registry with a recorder of a name. -/
def withRecorder (r : Registry) (name : String) : Registry := r.insert name .recorder

/-- The channel of a name. -/
def require (r : Registry) (name : String) : Except ChannelError Channel :=
  (r.find? name).elim (.error (.notRegistered name)) .ok

/-- A line on the channels. -/
def stats (r : Registry) : String :=
  "Channels: " ++ toString r.size ++ " registered [" ++ ", ".intercalate r.keys ++ "]"

end Registry

end Channel

end Chatflow

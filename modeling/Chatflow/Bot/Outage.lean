import Chatflow.Channel.Error
import Chatflow.Store.Error

/-!
# Outages

The calls that a bot makes to its stores and channels may fail. `Outages` says which calls do, by
the number of calls of that kind made before; a failing call does nothing.
-/

namespace Chatflow

/-- A call to a store or a channel. -/
inductive Call where
  | findBlock
  | findBlocks
  | findStarting
  | findActive
  | createConversation
  | updateConversation
  | endConversation
  | findSubscriber
  | getOrCreateSubscriber
  | updateVars
  | applyUpdates
  | getContent
  | send
  deriving DecidableEq, Repr

namespace Call

/-- All calls. -/
def all : List Call :=
  [.findBlock, .findBlocks, .findStarting, .findActive, .createConversation, .updateConversation,
    .endConversation, .findSubscriber, .getOrCreateSubscriber, .updateVars, .applyUpdates,
    .getContent, .send]

/-- The name of a call: the store and what it is asked. -/
def name : Call → String
  | .findBlock => "blocks.find"
  | .findBlocks => "blocks.find_many"
  | .findStarting => "blocks.find_starting"
  | .findActive => "conversations.find_active_by_sender"
  | .createConversation => "conversations.create"
  | .updateConversation => "conversations.update"
  | .endConversation => "conversations.end"
  | .findSubscriber => "subscribers.find"
  | .getOrCreateSubscriber => "subscribers.get_or_create"
  | .updateVars => "subscribers.update_vars"
  | .applyUpdates => "subscribers.apply_updates"
  | .getContent => "content.get_content"
  | .send => "channel.send"

/-- The call of a name. -/
def ofName? (name : String) : Option Call := all.find? (·.name = name)

end Call

/-- How a call fails. -/
inductive Fault where
  | backend (reason : String)
  | conflict (reason : String)
  | notFound (id : String)
  | timeout (reason : String)
  deriving DecidableEq, Repr

namespace Fault

/-- The fault of a kind; a kind of any other name is the plain one. -/
def ofKind (kind reason : String) : Fault :=
  match kind with
  | "conflict" => .conflict reason
  | "not_found" => .notFound reason
  | "timeout" => .timeout reason
  | _ => .backend reason

/-- A fault as the error of a store. -/
def storeError : Fault → StoreError
  | .conflict reason => .conflict reason
  | .notFound id => .notFound "record" id
  | .backend reason | .timeout reason => .backend reason

/-- A fault as the error of a channel. -/
def channelError : Fault → ChannelError
  | .timeout _ => .timeout
  | .backend reason | .conflict reason | .notFound reason => .sendFailed reason

end Fault

/-- The fault that a call meets, by the number of such calls made before. -/
abbrev Outages := Call → (earlier : Nat) → Option Fault

namespace Outages

/-- No call fails. -/
def none : Outages := fun _ _ => .none

/-- Outages in which a call fails after some that pass, or no longer fails. -/
def withFault (o : Outages) (call : Call) (passing : Nat) (fault : Option Fault) : Outages :=
  fun c earlier => if c = call then (if passing ≤ earlier then fault else .none) else o c earlier

end Outages

end Chatflow

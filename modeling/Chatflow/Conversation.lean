import Chatflow.Block.Basic
import Chatflow.Context

/-!
# Conversations

Where a subscriber stands in the flow: the block whose message was sent last, the blocks that may
answer the next event, and the context. A conversation that has ended stays on record.
-/

namespace Chatflow

/-- The place of a subscriber in the flow. -/
structure Conversation where
  /-- The id of the record. -/
  id : String
  /-- The id of the subscriber. -/
  sender : String
  /-- Whether it is still going on. -/
  active : Bool
  /-- The block whose message was sent last. -/
  current : Option Block
  /-- The blocks that may answer the next event. -/
  next : List Block
  /-- What it carries from turn to turn. -/
  context : Context
  deriving DecidableEq

namespace Conversation

/-- A conversation about to begin. -/
def fresh (id sender : String) : Conversation := ⟨id, sender, true, none, [], .empty⟩

/-- The ids of the blocks that may answer the next event, in order. -/
def nextIds (c : Conversation) : List String := c.next.map (·.id)

/-- Reads a conversation. -/
def ofJson? : Decoder Conversation := fun v => do
  let r ← Record.ofJson? ["id", "sender", "active", "current", "next", "context"] v
  return {
    id := ← r.required "id" Decode.text
    sender := ← r.required "sender" Decode.text
    active := ← r.required "active" Decode.bool
    current := ← r.optional "current" Block.ofJson?
    next := ← r.withDefault "next" (Decode.list Block.ofJson?) []
    context := ← r.withDefault "context" Context.ofJson? .empty }

/-- The JSON form of a conversation. -/
def toJson (c : Conversation) : Json :=
  .record [("id", .str c.id), ("sender", .str c.sender), ("active", .bool c.active),
    ("current", Json.orNull Block.toJson c.current), ("next", .arr (c.next.map Block.toJson)),
    ("context", c.context.toJson)]

/-- The fields of a conversation beside its id, with its blocks by their ids. -/
def outlineFields (c : Conversation) : List (String × Json) :=
  [("sender", .str c.sender), ("active", .bool c.active),
    ("current", Json.orNull (fun b => .str b.id) c.current), ("next", .texts c.nextIds),
    ("context", c.context.toJson)]

/-- The JSON form of a conversation with its blocks by their ids. -/
def outline (c : Conversation) : Json := .record (("id", .str c.id) :: c.outlineFields)

end Conversation

end Chatflow

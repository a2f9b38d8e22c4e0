import Chatflow.Conversation
import Chatflow.Store.Error

/-!
# Conversation store

The conversations by their ids. A subscriber with an active conversation is given no other;
conversations that have ended stay.
-/

namespace Chatflow

/-- The conversations on record. -/
structure ConversationStore where
  /-- The conversations by their ids. -/
  records : Dict Conversation
  /-- The number of conversations created so far. -/
  created : Nat
  deriving DecidableEq

namespace ConversationStore

/-- No conversation yet. -/
def empty : ConversationStore := ⟨.empty, 0⟩

/-- The conversation with an id. -/
def find? (s : ConversationStore) (id : String) : Option Conversation := s.records.find? id

/-- Whether a conversation is an active one of a sender. -/
def isActiveOf (sender : String) (c : Conversation) : Bool := c.active && c.sender = sender

/-- An active conversation of a sender. -/
def active? (s : ConversationStore) (sender : String) : Option Conversation :=
  s.records.values.find? (isActiveOf sender)

/-- The number of active conversations of a sender. -/
def activeCount (s : ConversationStore) (sender : String) : Nat :=
  s.records.values.countP (isActiveOf sender)

/-- The store with a conversation as it is, over the one with its id. -/
def insert (s : ConversationStore) (c : Conversation) : ConversationStore :=
  { s with records := s.records.insert c.id c }

/-- The id of the conversation created after some others. -/
def idAfter (created : Nat) : String := "conv-" ++ toString (created + 1)

/-- Creates a conversation for a sender who has no active one. -/
def create (s : ConversationStore) (sender : String) :
    Except StoreError (Conversation × ConversationStore) :=
  if s.records.values.any (isActiveOf sender) then
    .error (.conflict ("subscriber '" ++ sender ++ "' already has an active conversation"))
  else
    let c := Conversation.fresh (idAfter s.created) sender
    .ok (c, ⟨s.records.insert c.id c, s.created + 1⟩)

/-- Replaces the conversation with the id of the given one. -/
def update (s : ConversationStore) (c : Conversation) : Except StoreError ConversationStore :=
  match s.find? c.id with
  | some _ => .ok (s.insert c)
  | none => .error (.notFound "conversation" c.id)

/-- Ends the conversation with an id. -/
def finish (s : ConversationStore) (id : String) : Except StoreError ConversationStore :=
  match s.find? id with
  | some c => .ok { s with records := s.records.insert id { c with active := false } }
  | none => .error (.notFound "conversation" id)

end ConversationStore

end Chatflow

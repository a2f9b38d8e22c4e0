import Chatflow.Store.Error
import Chatflow.Subscriber

/-!
# Subscriber store

The subscribers by their ids. A subscriber is created the first time its channel and the id it
has there are asked for.
-/

namespace Chatflow

/-- The subscribers on record. -/
structure SubscriberStore where
  /-- The subscribers by their ids. -/
  records : Dict Subscriber
  /-- The number of subscribers created so far. -/
  created : Nat
  deriving DecidableEq

namespace SubscriberStore

/-- No subscriber yet. -/
def empty : SubscriberStore := ⟨.empty, 0⟩

/-- The subscriber with an id. -/
def find? (s : SubscriberStore) (id : String) : Option Subscriber := s.records.find? id

/-- The subscriber with an id on a channel. -/
def findForeign? (s : SubscriberStore) (channel foreignId : String) : Option Subscriber :=
  s.records.values.find? fun r => r.channel = channel && r.foreignId = foreignId

/-- The store with a subscriber as it is, over the one with its id. -/
def insert (s : SubscriberStore) (r : Subscriber) : SubscriberStore :=
  { s with records := s.records.insert r.id r }

/-- The id of the subscriber created after some others. -/
def idAfter (created : Nat) : String := "sub-" ++ toString (created + 1)

/-- The subscriber with an id on a channel, created if there is none. -/
def getOrCreate (s : SubscriberStore) (channel foreignId : String) :
    Subscriber × SubscriberStore :=
  match s.findForeign? channel foreignId with
  | some r => (r, s)
  | none =>
    let r := Subscriber.fresh (idAfter s.created) foreignId channel
    (r, ⟨s.records.insert r.id r, s.created + 1⟩)

/-- Changes the subscriber with an id. -/
def modify (s : SubscriberStore) (id : String) (change : Subscriber → Subscriber) :
    Except StoreError (Subscriber × SubscriberStore) :=
  match s.find? id with
  | some r => .ok (change r, { s with records := s.records.insert id (change r) })
  | none => .error (.notFound "subscriber" id)

/-- Lays variables over those of the subscriber with an id. -/
def updateVars (s : SubscriberStore) (id : String) (vars : Dict Json) :
    Except StoreError (Subscriber × SubscriberStore) :=
  s.modify id fun r => { r with vars := r.vars.overlay vars }

/-- Labels with those of a list added that are not among them. -/
def addLabels (labels added : List String) : List String :=
  added.foldl (fun ls l => if ls.contains l then ls else ls ++ [l]) labels

/-- Gives labels to the subscriber with an id, and hands it over to an agent if one is named. -/
def applyUpdates (s : SubscriberStore) (id : String) (labels : List String)
    (agent : Option String) : Except StoreError (Subscriber × SubscriberStore) :=
  s.modify id fun r =>
    { r with labels := addLabels r.labels labels, assignedTo := agent <|> r.assignedTo }

end SubscriberStore

end Chatflow

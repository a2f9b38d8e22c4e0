import Chatflow.Json.Decode

/-!
# Language understanding

What a language service finds in a text: named entities with a value and a confidence. A pattern
asks for entities by `Nlp.Condition`s.
-/

namespace Chatflow

namespace Nlp

/-- An entity found in a text. -/
structure Entity where
  /-- The name of the entity. -/
  entity : String
  /-- The value found. -/
  value : String
  /-- How sure the service is, from 0 to 1. -/
  confidence : Float
  deriving DecidableEq, Repr

/-- Reads an entity; the confidence may be missing. -/
def Entity.ofJson? : Decoder Entity := fun v => do
  let r ← Record.ofJson? ["entity", "value", "confidence"] v
  return ⟨← r.required "entity" Decode.text, ← r.required "value" Decode.text,
    ← r.withDefault "confidence" Decode.float 0⟩

/-- The JSON form of an entity. -/
def Entity.toJson (e : Entity) : Json :=
  .record [("entity", .str e.entity), ("value", .str e.value),
    ("confidence", .ofFloat e.confidence)]

/-- All that was found in a text. -/
structure Parse where
  /-- The entities, in the order they were found. -/
  entities : List Entity
  deriving DecidableEq, Repr

namespace Parse

/-- Nothing was found. -/
def empty : Parse := ⟨[]⟩

/-- The parse with the given entities and values, all fully sure. -/
def ofPairs (pairs : List (String × String)) : Parse :=
  ⟨pairs.map fun p => ⟨p.1, p.2, 1⟩⟩

/-- The first entity of a name. -/
def find? (p : Parse) (entity : String) : Option Entity :=
  p.entities.find? (·.entity = entity)

/-- Whether an entity of a name was found with a value. -/
def hasValue (p : Parse) (entity value : String) : Bool :=
  p.entities.any fun e => e.entity = entity && e.value = value

/-- Whether nothing was found. -/
def isEmpty (p : Parse) : Bool := p.entities.isEmpty

/-- Reads a parse; the entities may be missing. -/
def ofJson? : Decoder Parse := fun v => do
  let r ← Record.ofJson? ["entities"] v
  return ⟨← r.withDefault "entities" (Decode.list Entity.ofJson?) []⟩

/-- The JSON form of a parse. -/
def toJson (p : Parse) : Json := .record [("entities", .arr (p.entities.map Entity.toJson))]

end Parse

/-! ### Conditions -/

/-- How a condition is checked. -/
inductive Test where
  /-- The entity has exactly the value. -/
  | value
  /-- The entity is there. -/
  | entity
  deriving DecidableEq, Repr

/-- The name of a test. -/
def Test.name : Test → String
  | .value => "value"
  | .entity => "entity"

/-- The names of the tests. -/
def Test.names : List (String × Test) := [("value", .value), ("entity", .entity)]

/-- One condition on a parse. -/
structure Condition where
  /-- The entity asked for. -/
  entity : String
  /-- How it is checked. -/
  test : Test
  /-- The value asked for. -/
  value : String
  deriving DecidableEq, Repr

namespace Condition

/-- The condition that an entity has a value. -/
def hasValue (entity value : String) : Condition := ⟨entity, .value, value⟩

/-- The condition that an entity is there. -/
def isPresent (entity : String) : Condition := ⟨entity, .entity, entity⟩

/-- Whether a parse meets the condition. -/
def holds (c : Condition) (p : Parse) : Bool :=
  match c.test with
  | .value => p.hasValue c.entity c.value
  | .entity => (p.find? c.entity).isSome

/-- Reads a condition; the value may be missing. -/
def ofJson? : Decoder Condition := fun v => do
  let r ← Record.ofJson? ["entity", "match", "value"] v
  return ⟨← r.required "entity" Decode.text, ← r.required "match" (Decode.choice Test.names),
    ← r.withDefault "value" Decode.text ""⟩

/-- The JSON form of a condition. -/
def toJson (c : Condition) : Json :=
  .record [("entity", .str c.entity), ("match", .str c.test.name), ("value", .str c.value)]

end Condition

end Nlp

end Chatflow

import Chatflow.Nlp

/-!
# Patterns

What triggers a block: the payload of a button, the conditions of a language parse, or a text,
which stands for itself or, between slashes, for a regular expression.
-/

namespace Chatflow

/-- A pattern on payloads. -/
structure PayloadPattern where
  /-- The text on the button; typing it counts as pressing. -/
  label : String
  /-- The code asked for; content payloads add `:` and a value to it. -/
  value : String
  /-- The type asked for of payloads that are not codes. -/
  kind : Option String
  deriving DecidableEq, Repr

namespace PayloadPattern

/-- Reads a payload pattern; the type may be missing. -/
def ofJson? : Decoder PayloadPattern := fun v => do
  let r ← Record.ofJson? ["label", "value", "type"] v
  return ⟨← r.required "label" Decode.text, ← r.required "value" Decode.text,
    ← r.optional "type" Decode.text⟩

/-- The JSON form of a payload pattern. -/
def toJson (p : PayloadPattern) : Json :=
  .record ([("label", .str p.label), ("value", .str p.value)] ++ Json.field? "type" .str p.kind)

end PayloadPattern

/-- What triggers a block. -/
inductive Pattern where
  /-- All conditions hold. -/
  | nlp (conditions : List Nlp.Condition)
  | payload (pattern : PayloadPattern)
  /-- A literal text, or `/…/` around a regular expression. -/
  | text (text : String)
  deriving DecidableEq, Repr

namespace Pattern

/-- The regular expression of a text between slashes. -/
def regexSource? : Pattern → Option String
  | .text t =>
    match t.toList with
    | '/' :: rest => if rest.getLast? = some '/' then some (String.ofList rest.dropLast) else none
    | _ => none
  | _ => none

/-- The name of the kind of a pattern. -/
def kind : Pattern → String
  | .nlp _ => "nlp"
  | .payload _ => "payload"
  | .text _ => "text"

/-- Reads a pattern: the first of its three shapes that fits. -/
def ofJson? : Decoder Pattern := Decode.firstOf [
  fun v => (Decode.list Nlp.Condition.ofJson? v).map .nlp,
  fun v => (PayloadPattern.ofJson? v).map .payload,
  fun v => (Decode.text v).map .text]

/-- The JSON form of a pattern. -/
def toJson : Pattern → Json
  | .nlp conditions => .arr (conditions.map Nlp.Condition.toJson)
  | .payload p => p.toJson
  | .text t => .str t

end Pattern

end Chatflow

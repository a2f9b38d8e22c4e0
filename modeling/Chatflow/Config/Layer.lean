import Chatflow.Json.Basic

/-!
# Layers

A configuration is gathered from layers of values. `Layer.merge` lays one on another: objects are
merged field by field, and any other value takes the place of the one below. `Layer.pile` does so
with any number of them, and `Layer.atPath` makes a layer of one value.
-/

namespace Chatflow

/-- The fields of an object; other values have none. -/
def Json.fields : Json → List (String × Json)
  | .obj fields => fields
  | _ => []

namespace Layer

mutual

/-- A value laid over another: an object over the fields of an object, or else over no fields. -/
def merge (below : Json) : Json → Json
  | .obj fields => .obj (overFields below.fields fields)
  | v => v

/-- Fields laid over others. -/
def overFields (under : List (String × Json)) : List (String × Json) → List (String × Json)
  | [] => under
  | (key, v) :: rest =>
    let below := (Dict.findEntry key under).getD (.obj [])
    Dict.insertEntry key (merge below v) (overFields under rest)

end

/-- Layers on one another, the lowest first. -/
def pile (layers : List Json) : Json := layers.foldl merge (.obj [])

/-- A value under the parts of a path; an empty part ends the path. -/
def nest (value : Json) : List String → Json
  | [] => value
  | part :: rest => if part.isEmpty then value else .obj [(part, nest value rest)]

/-- The layer of a value at a path with points, if that makes an object. -/
def atPath (path : String) (value : Json) : Option Json :=
  let layer := nest value (path.splitToList (· = '.'))
  if layer.isObject then some layer else none

end Layer

end Chatflow

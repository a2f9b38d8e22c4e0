import Chatflow.Json.Basic

/-!
# TOML tables

How the headers and keys of a document build up its tables. A table comes about by its own header,
by the header of a table in it, or by a key with points; only one that came about by the header of
another may still get a header of its own, and keys with points add only to tables that such keys
made.
-/

namespace Chatflow

namespace Toml

/-- How a table came about. -/
inductive Origin where
  /-- By a header of its own. -/
  | header
  /-- By the header of a table in it. -/
  | implied
  /-- By a key with points. -/
  | dotted
  deriving DecidableEq

/-- What stands under a key. -/
inductive Node where
  | value (value : Json)
  | table (origin : Origin) (fields : List (String × Node))
  /-- Tables under headers in double brackets. -/
  | tables (items : List (List (String × Node)))

/-- What stands under the keys of a table. -/
abbrev Fields := List (String × Node)

/-- Changes what stands under a key. -/
def Fields.change (fields : Fields) (key : String) (f : Option Node → Option Node) :
    Option Fields :=
  (f (Dict.findEntry key fields)).map fun node => Dict.insertEntry key node fields

/-- Changes the last of some tables. -/
def changeLast (f : Fields → Option Fields) (items : List Fields) : Option (List Fields) :=
  items.getLast?.bind fun last => (f last).map fun last => items.dropLast ++ [last]

namespace Fields

/-- Changes the table at the path of a header. Tables on the way are made. -/
def under (f : Fields → Option Fields) : (path : List String) → Fields → Option Fields
  | [], fields => f fields
  | key :: path, fields => fields.change key fun
    | none => (under f path []).map (.table .implied)
    | some (.table origin inner) => (under f path inner).map (.table origin)
    | some (.tables items) => (changeLast (under f path) items).map .tables
    | some (.value _) => none

/-- Opens a table by a header of its own. -/
def openTable (key : String) (fields : Fields) : Option Fields :=
  fields.change key fun
    | none => some (.table .header [])
    | some (.table .implied inner) => some (.table .header inner)
    | some _ => none

/-- Adds a table to those under headers in double brackets. -/
def addTable (key : String) (fields : Fields) : Option Fields :=
  fields.change key fun
    | none => some (.tables [[]])
    | some (.tables items) => some (.tables (items ++ [[]]))
    | some _ => none

/-- Gives a key its value, once. The path holds the parts of the key before its last. -/
def assign (key : String) (value : Json) : (path : List String) → Fields → Option Fields
  | [], fields => fields.change key fun
    | none => some (.value value)
    | some _ => none
  | part :: path, fields => fields.change part fun
    | none => (assign key value path []).map (.table .dotted)
    | some (.table origin inner) =>
      if origin = .header || (path.isEmpty && origin ≠ .dotted) then none
      else (assign key value path inner).map (.table origin)
    | some (.tables items) =>
      if path.isEmpty then none else (changeLast (assign key value path) items).map .tables
    | some (.value _) => none

end Fields

mutual

/-- The value of what stands under a key. -/
def Node.toJson : Node → Json
  | .value v => v
  | .table _ fields => .obj (fieldValues fields)
  | .tables items => .arr (tableValues items)

/-- The values of the keys of a table. -/
def fieldValues : List (String × Node) → List (String × Json)
  | [] => []
  | (key, node) :: rest => (key, node.toJson) :: fieldValues rest

/-- The values of some tables. -/
def tableValues : List (List (String × Node)) → List Json
  | [] => []
  | fields :: rest => .obj (fieldValues fields) :: tableValues rest

end

end Toml

end Chatflow

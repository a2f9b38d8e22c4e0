import Chatflow.Json.Basic

/-!
# Reading records from JSON

A decoder takes a value to what it stands for, or fails; it gives no reason. A record is written
as an object of named fields or as the array of its fields in order (`Record`); names that it
does not know are passed over, places that it does not have are not. A choice between named
shapes carries its name in a tag field, or at the front of the array (`splitTag`). Values that
were gathered from several places are read less strictly than those of one document (`Reading`).
-/

namespace Chatflow

/-- Reads a value of one type, or fails. -/
abbrev Decoder (α : Type) := Json → Option α

/-- How strictly names and records are read. -/
inductive Reading where
  /-- A name is given as such, and an array has no more items than the record has fields. -/
  | strict
  /-- A name may be given by its number, and items behind the last field are passed over. -/
  | lax
  deriving DecidableEq, Repr

namespace Decode

/-! ### Single values -/

/-- A string. -/
def text : Decoder String
  | .str s => some s
  | _ => none

/-- A truth value. -/
def bool : Decoder Bool
  | .bool b => some b
  | _ => none

/-- A whole number between two bounds, the upper one excluded. -/
def whole (low high : Int) : Decoder Int
  | .int n => if low ≤ n && n < high then some n else none
  | _ => none

/-- An unsigned number of 32 bits. -/
def uint32 : Decoder UInt32 := fun v => (whole 0 4294967296 v).map fun n => UInt32.ofNat n.toNat

/-- An unsigned number of 64 bits. -/
def uint64 : Decoder UInt64 := fun v =>
  (whole 0 18446744073709551616 v).map fun n => UInt64.ofNat n.toNat

/-- A signed number of 64 bits. -/
def int64 : Decoder Int := whole (-9223372036854775808) 9223372036854775808

/-- The double nearest to a whole number of at most 64 bits. -/
def floatOfInt (n : Int) : Float :=
  if n < 0 then -n.natAbs.toUInt64.toFloat else n.natAbs.toUInt64.toFloat

/-- Any number, as a double. -/
def float : Decoder Float
  | .int n => some (floatOfInt n)
  | .real x => some x
  | _ => none

/-- Any value, as it is. -/
def any : Decoder Json := some

/-- A value or `null`. -/
def nullable {α : Type} (item : Decoder α) : Decoder (Option α)
  | .null => some none
  | v => (item v).map some

/-- An array of values of one kind. -/
def list {α : Type} (item : Decoder α) : Decoder (List α)
  | .arr items => items.mapM item
  | _ => none

/-- An object with values of one kind. -/
def dict {α : Type} (item : Decoder α) : Decoder (Dict α)
  | .obj fields => (fields.mapM fun e => (item e.2).map (e.1, ·)).map Dict.ofList
  | _ => none

/-- One of a fixed list of names, alone or as the name of a field that holds `null`. -/
def choice {α : Type} (names : List (String × α)) : Decoder α
  | .str s => Dict.findEntry s names
  | .obj [(s, .null)] => Dict.findEntry s names
  | _ => none

/-- One of a fixed list of names; when it is read laxly also by its number, or as the name of the
first of several fields if that holds `null`. -/
def choiceBy {α : Type} (reading : Reading) (names : List (String × α)) : Decoder α := fun v =>
  match reading, v with
  | .lax, .int n => if 0 ≤ n then (names[n.toNat]?).map (·.2) else none
  | .lax, .obj ((s, .null) :: _) => Dict.findEntry s names
  | _, v => choice names v

/-- The first reading of several that succeeds. -/
def firstOf {α : Type} (readings : List (Decoder α)) : Decoder α := fun v =>
  readings.findSome? (· v)

end Decode

/-! ### Records -/

/-- The fields that a value gives for a record. -/
structure Record where
  /-- The values with the names of their fields. -/
  fields : List (String × Json)
  /-- The fields were given by their place. -/
  byPlace : Bool

namespace Record

variable {α : Type}

/-- The fields of an object, or of an array with at most as many items as the record has. -/
def ofJson? (names : List String) : Decoder Record
  | .obj fields => some ⟨fields, false⟩
  | .arr items => if items.length ≤ names.length then some ⟨names.zip items, true⟩ else none
  | _ => none

/-- The fields of an object or an array. -/
def read (reading : Reading) (names : List String) : Decoder Record := fun v =>
  match reading, v with
  | .lax, .arr items => some ⟨names.zip items, true⟩
  | _, v => ofJson? names v

/-- The fields of an object; the shapes of an untagged choice are read from objects alone. -/
def ofObject? : Decoder Record
  | .obj fields => some ⟨fields, false⟩
  | _ => none

/-- The value given for a field. -/
def find? (r : Record) (name : String) : Option Json := Dict.findEntry name r.fields

/-- A field that must be given. -/
def required (r : Record) (name : String) (item : Decoder α) : Option α :=
  (r.find? name).bind item

/-- A field with a value of its own when it is not given. -/
def withDefault (r : Record) (name : String) (item : Decoder α) (default : α) : Option α :=
  match r.find? name with
  | some v => item v
  | none => some default

/-- A field that may be `null` or not given. -/
def optional (r : Record) (name : String) (item : Decoder α) : Option (Option α) :=
  r.withDefault name (Decode.nullable item) none

/-- A field that may be `null`, or not given in an object. -/
def optionalByName (r : Record) (name : String) (item : Decoder α) : Option (Option α) :=
  if r.byPlace then r.required name (Decode.nullable item) else r.optional name item

/-- A field with a second name; giving both is refused. -/
def withAlias (r : Record) (name second : String) (item : Decoder α) (default : α) : Option α :=
  match r.find? name, r.find? second with
  | some _, some _ => none
  | none, some v => item v
  | _, none => r.withDefault name item default

end Record

/-! ### Tagged choices -/

/-- The name that a tag stands for: itself, or its place when tags may be numbers. -/
def tagName (names : List String) (byNumber : Bool) : Decoder String
  | .str s => if names.contains s then some s else none
  | .int n => if byNumber && 0 ≤ n then names[n.toNat]? else none
  | _ => none

/-- Splits a tagged value into its name and what is left of it. Tags may be numbers where the
value was set aside before its shape was known. -/
def splitTag (tag : String) (names : List String) (byNumber : Bool) : Decoder (String × Json)
  | .obj fields => do
    let name ← (Dict.findEntry tag fields).bind (tagName names byNumber)
    return (name, .obj (fields.filter (·.1 ≠ tag)))
  | .arr (first :: rest) => do
    let name ← tagName names byNumber first
    return (name, .arr rest)
  | _ => none

end Chatflow

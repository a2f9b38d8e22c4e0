import Chatflow.Dict

/-!
# JSON values

`Json` keeps integers and doubles apart, since the two print differently and since records tell
them apart when they are read. The fields of an object stand in increasing key order without
repetition: whatever builds an object does so through `Json.record`, `Json.ofDict` or the reader.
-/

namespace Chatflow

/-- A JSON value. -/
inductive Json where
  | null
  | bool (value : Bool)
  /-- A whole number that fits 64 bits, signed or unsigned. -/
  | int (value : Int)
  /-- A double; finite in every value that was read from text as JSON. -/
  | real (value : Float)
  | str (value : String)
  | arr (items : List Json)
  /-- The fields by increasing name. -/
  | obj (fields : List (String × Json))
  deriving Inhabited, Repr

namespace Json

/-! ### Equality -/

mutual

/-- Decides whether two values are equal. -/
def decEq : (a b : Json) → Decidable (a = b)
  | .null, .null => isTrue rfl
  | .bool a, .bool b => decidable_of_iff (a = b) ⟨congrArg _, Json.bool.inj⟩
  | .int a, .int b => decidable_of_iff (a = b) ⟨congrArg _, Json.int.inj⟩
  | .real a, .real b => decidable_of_iff (a = b) ⟨congrArg _, Json.real.inj⟩
  | .str a, .str b => decidable_of_iff (a = b) ⟨congrArg _, Json.str.inj⟩
  | .arr a, .arr b =>
    match decEqList a b with
    | isTrue h => isTrue (h ▸ rfl)
    | isFalse h => isFalse fun e => h (Json.arr.inj e)
  | .obj a, .obj b =>
    match decEqFields a b with
    | isTrue h => isTrue (h ▸ rfl)
    | isFalse h => isFalse fun e => h (Json.obj.inj e)
  | .null, .bool _ | .null, .int _ | .null, .real _ | .null, .str _ | .null, .arr _
  | .null, .obj _ | .bool _, .null | .bool _, .int _ | .bool _, .real _ | .bool _, .str _
  | .bool _, .arr _ | .bool _, .obj _ | .int _, .null | .int _, .bool _ | .int _, .real _
  | .int _, .str _ | .int _, .arr _ | .int _, .obj _ | .real _, .null | .real _, .bool _
  | .real _, .int _ | .real _, .str _ | .real _, .arr _ | .real _, .obj _ | .str _, .null
  | .str _, .bool _ | .str _, .int _ | .str _, .real _ | .str _, .arr _ | .str _, .obj _
  | .arr _, .null | .arr _, .bool _ | .arr _, .int _ | .arr _, .real _ | .arr _, .str _
  | .arr _, .obj _ | .obj _, .null | .obj _, .bool _ | .obj _, .int _ | .obj _, .real _
  | .obj _, .str _ | .obj _, .arr _ => isFalse (by simp)

/-- Decides whether two lists of values are equal. -/
def decEqList : (a b : List Json) → Decidable (a = b)
  | [], [] => isTrue rfl
  | [], _ :: _ => isFalse (by simp)
  | _ :: _, [] => isFalse (by simp)
  | a :: as, b :: bs =>
    match decEq a b, decEqList as bs with
    | isTrue h, isTrue hs => isTrue (h ▸ hs ▸ rfl)
    | isFalse h, _ => isFalse fun e => h (List.cons.inj e).1
    | _, isFalse hs => isFalse fun e => hs (List.cons.inj e).2

/-- Decides whether two lists of fields are equal. -/
def decEqFields : (a b : List (String × Json)) → Decidable (a = b)
  | [], [] => isTrue rfl
  | [], _ :: _ => isFalse (by simp)
  | _ :: _, [] => isFalse (by simp)
  | (k, a) :: as, (l, b) :: bs =>
    match decEq a b, decEqFields as bs with
    | isTrue h, isTrue hs =>
      decidable_of_iff (k = l)
        ⟨fun e => e ▸ h ▸ hs ▸ rfl, fun e => (Prod.mk.inj (List.cons.inj e).1).1⟩
    | isFalse h, _ => isFalse fun e => h (Prod.mk.inj (List.cons.inj e).1).2
    | _, isFalse hs => isFalse fun e => hs (List.cons.inj e).2

end

instance : DecidableEq Json := decEq

/-! ### Building values -/

/-- The object with the entries of a dictionary. -/
def ofDict (d : Dict Json) : Json := .obj d.entries

/-- The object with the given fields; of two fields of one name the later stays. -/
def record (fields : List (String × Json)) : Json := ofDict (Dict.ofList fields)

/-- A list of texts. -/
def texts (items : List String) : Json := .arr (items.map .str)

/-- A count. -/
def nat (n : Nat) : Json := .int n

/-- A double; what is not finite has no number and becomes `null`. -/
def ofFloat (x : Float) : Json := if x.isFinite then .real x else .null

/-- A value that may be missing, as itself or `null`. -/
def orNull {α : Type} (write : α → Json) : Option α → Json
  | some a => write a
  | none => .null

/-- A field that is left out when its value is missing. -/
def field? {α : Type} (name : String) (write : α → Json) : Option α → List (String × Json)
  | some a => [(name, write a)]
  | none => []

/-! ### Looking into values -/

/-- The field of an object; other values have none. -/
def get? (v : Json) (name : String) : Option Json :=
  match v with
  | .obj fields => Dict.findEntry name fields
  | _ => none

/-- The text of a string value. -/
def text? : Json → Option String
  | .str s => some s
  | _ => none

/-- Whether a value is an object. -/
def isObject : Json → Bool
  | .obj _ => true
  | _ => false

theorem get?_record (fields : List (String × Json)) (name : String) :
    (record fields).get? name = Dict.findEntry name fields.reverse :=
  Dict.find?_ofList fields name

end Json

end Chatflow

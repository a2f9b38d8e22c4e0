import Chatflow.Json.Decode
import Chatflow.Proofs.Dict

/-!
# Reading what was written

A record is written as the object of a dictionary, so what is read of it is what is found in the
dictionary (`Record.find?_ofDict`, `Dict.find?_ofList`). For single values, lists, dictionaries and
missing values there is one lemma each that says when the reader gives back what was written; the
lemmas on records are put together from these.

A missing value is written as `null` or not at all. It comes back only if nothing else is written
as `null`, which holds wherever `null` does not read (`Decode.nullable_orNull`).
-/

namespace Chatflow

/-! ### Single values -/

namespace Decode

variable {α : Type}

@[simp] theorem text_str (s : String) : text (.str s) = some s := rfl

@[simp] theorem bool_bool (b : Bool) : bool (.bool b) = some b := rfl

@[simp] theorem any_eq (v : Json) : any v = some v := rfl

theorem whole_nat {n : Nat} {high : Int} (h : n < high) :
    whole 0 high (.nat n) = some (n : Int) := by
  simp [whole, Json.nat, h]

@[simp] theorem uint32_nat (n : UInt32) : uint32 (.nat n.toNat) = some n := by
  have hn : n.toNat < 4294967296 := n.toNat_lt
  rw [uint32, whole_nat (by omega)]
  simp

@[simp] theorem uint64_nat (n : UInt64) : uint64 (.nat n.toNat) = some n := by
  have hn : n.toNat < 18446744073709551616 := n.toNat_lt
  rw [uint64, whole_nat (by omega)]
  simp

theorem float_ofFloat {x : Float} (h : x.isFinite = true) : float (.ofFloat x) = some x := by
  rw [Json.ofFloat, if_pos h, float]

/-! ### Values of values -/

/-- What reads each of some values back reads them all back. -/
theorem mapM_map {α β : Type} {read : β → Option α} {write : α → β} {l : List α}
    (h : ∀ a ∈ l, read (write a) = some a) : (l.map write).mapM read = some l := by
  induction l with
  | nil => rfl
  | cons a l ih =>
    rw [List.map_cons, List.mapM_cons, h a List.mem_cons_self,
      ih fun b hb => h b (List.mem_cons_of_mem _ hb)]
    rfl

theorem list_map {item : Decoder α} {write : α → Json} {l : List α}
    (h : ∀ a ∈ l, item (write a) = some a) : list item (.arr (l.map write)) = some l :=
  mapM_map h

/-- A record is no list. -/
@[simp] theorem list_ofDict (item : Decoder α) (d : Dict Json) : list item (.ofDict d) = none := rfl

@[simp] theorem list_texts (l : List String) : list text (.texts l) = some l :=
  list_map fun _ _ => rfl

theorem dict_ofDict {item : Decoder α} {write : α → Json} (h : ∀ a, item (write a) = some a)
    (d : Dict α) : dict item (.ofDict (d.map write)) = some d := by
  have hentries : (d.map write).entries.mapM (fun e => (item e.2).map (e.1, ·)) = some d.entries :=
    mapM_map fun e _ => by rw [h]; rfl
  rw [Json.ofDict, dict, hentries, Option.map_some, Dict.ofList_entries]

@[simp] theorem dict_any (d : Dict Json) : dict any (.ofDict d) = some d := by
  have hmap : d.map id = d := Dict.entries_injective (List.map_id _)
  exact (congrArg (fun d => dict any (.ofDict d)) hmap).symm.trans (dict_ofDict (fun _ => rfl) d)

/-! ### Choices -/

@[simp] theorem firstOf_nil (v : Json) : firstOf ([] : List (Decoder α)) v = none := rfl

@[simp] theorem firstOf_cons (read : Decoder α) (readings : List (Decoder α)) (v : Json) :
    firstOf (read :: readings) v = (read v).or (firstOf readings v) := by
  rw [firstOf, List.findSome?_cons]
  cases read v <;> rfl

/-! ### Missing values -/

/-- What is written does not read as `null` does, if that does not read. -/
theorem nullable_eq {item : Decoder α} {a : α} {v : Json} (hnull : item .null = none)
    (h : item v = some a) : nullable item v = some (some a) := by
  cases v with
  | null =>
    rw [hnull] at h
    cases h
  | _ => exact congrArg (Option.map some) h

theorem nullable_orNull {item : Decoder α} {write : α → Json} {x : Option α}
    (hnull : item .null = none) (h : ∀ a ∈ x, item (write a) = some a) :
    nullable item (Json.orNull write x) = some x := by
  cases x with
  | none => rfl
  | some a => exact nullable_eq hnull (h a rfl)

end Decode

/-! ### Records -/

namespace Dict

variable {α : Type}

@[simp] theorem findEntry_nil (k : String) : findEntry k ([] : List (String × α)) = none := rfl

@[simp] theorem findEntry_cons (k : String) (e : String × α) (l : List (String × α)) :
    findEntry k (e :: l) = if k = e.1 then some e.2 else findEntry k l := rfl

attribute [simp] findEntry_append find?_ofList find?_erase

end Dict

/-- A field that is left out is not found, and not under any other name either. -/
@[simp] theorem Json.findEntry_field? {α : Type} (k name : String) (write : α → Json)
    (x : Option α) :
    Dict.findEntry k (Json.field? name write x) = if k = name then x.map write else none := by
  cases x with
  | none => simp [Json.field?]
  | some a => simp [Json.field?]

@[simp] theorem Json.reverse_field? {α : Type} (name : String) (write : α → Json) (x : Option α) :
    (Json.field? name write x).reverse = Json.field? name write x := by
  cases x <;> rfl

namespace Record

variable {α : Type}

/-- The record that a dictionary is read as. -/
def ofDict (d : Dict Json) : Record := ⟨d.entries, false⟩

@[simp] theorem find?_ofDict (d : Dict Json) (name : String) :
    (ofDict d).find? name = d.find? name := rfl

@[simp] theorem ofJson?_ofDict (names : List String) (d : Dict Json) :
    ofJson? names (.ofDict d) = some (ofDict d) := rfl

@[simp] theorem ofObject?_ofDict (d : Dict Json) : ofObject? (.ofDict d) = some (ofDict d) := rfl

section

variable {d : Dict Json} {name : String} {item : Decoder α} {write : α → Json} {v : Json} {a : α}
  {x : Option α}

theorem required_ofDict (hfind : d.find? name = some v) (h : item v = some a) :
    (ofDict d).required name item = some a := by
  rw [required, find?_ofDict, hfind, Option.bind_some, h]

theorem withDefault_ofDict {default : α} (hfind : d.find? name = some v) (h : item v = some a) :
    (ofDict d).withDefault name item default = some a := by
  rw [withDefault, find?_ofDict, hfind]
  exact h

/-- A field that is left out when its value is missing. -/
theorem optional_ofDict (hfind : d.find? name = x.map write) (hnull : item .null = none)
    (h : ∀ a ∈ x, item (write a) = some a) : (ofDict d).optional name item = some x := by
  rw [optional, withDefault, find?_ofDict, hfind]
  cases x with
  | none => rfl
  | some a => exact Decode.nullable_eq hnull (h a rfl)

/-- A text that is left out when it is missing. -/
theorem optional_text_ofDict {x : Option String} (hfind : d.find? name = x.map .str) :
    (ofDict d).optional name Decode.text = some x :=
  optional_ofDict hfind rfl fun _ _ => rfl

/-- A field that holds `null` when its value is missing. -/
theorem optional_orNull (hfind : d.find? name = some (Json.orNull write x))
    (hnull : item .null = none) (h : ∀ a ∈ x, item (write a) = some a) :
    (ofDict d).optional name item = some x :=
  withDefault_ofDict hfind (Decode.nullable_orNull hnull h)

end

end Record

/-- A record is written as a dictionary, of which nothing matters but what is found. -/
theorem exists_ofDict (fields : List (String × Json)) : ∃ d : Dict Json,
    Json.record fields = .ofDict d ∧ ∀ name, d.find? name = Dict.findEntry name fields.reverse :=
  ⟨_, rfl, Dict.find?_ofList fields⟩

/-- **A record is read through its dictionary.** -/
theorem read_record {α : Type} {read : Decoder α} {fields : List (String × Json)} {a : α}
    (h : ∀ d : Dict Json, (∀ name, d.find? name = Dict.findEntry name fields.reverse) →
      read (.ofDict d) = some a) : read (.record fields) = some a := by
  obtain ⟨d, hd, hfind⟩ := exists_ofDict fields
  rw [hd]
  exact h d hfind

/-- A tagged record is split into its tag and the rest. -/
theorem splitTag_ofDict {tag name : String} {names : List String} {byNumber : Bool} {d : Dict Json}
    (hname : name ∈ names) (hfind : d.find? tag = some (.str name)) :
    splitTag tag names byNumber (.ofDict d) = some (name, .ofDict (d.erase tag)) := by
  have hsplit : splitTag tag names byNumber (.ofDict d) =
      ((d.find? tag).bind (tagName names byNumber)).bind fun name =>
        some (name, .ofDict (d.erase tag)) := rfl
  rw [hsplit, hfind, Option.bind_some, tagName, if_pos (List.contains_iff_mem.mpr hname)]
  rfl

end Chatflow

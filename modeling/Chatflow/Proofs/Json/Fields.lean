import Chatflow.Json.Decode
import Chatflow.Proofs.Dict

/-!
# What a record gives

A record gives a field under its name if it is an object, and at its place if it is an array with
no more items than the record has fields (`Json.given?`). What is found in a record is what it
gives (`Record.ofJson?_cases`), so a reader of records is known by what it makes of these fields
(`Record.bind_ofJson?_eq_some_iff`). For each reader of a field there is the condition under which
it reads: a text is read from itself and from nothing else (`Decode.Inverts`), a double from any
number (`Json.IsNumber`).

The tag of an object is one of some names, and the number of a name stands for it
(`Json.HasType`, `splitTag_obj_eq_some_iff`).
-/

namespace Chatflow

/-! ### Fields -/

namespace Json

/-- The field of a record with fields of the given names. -/
def given? (data : Json) (names : List String) (name : String) : Option Json :=
  match data with
  | .obj fields => Dict.findEntry name fields
  | .arr items => if items.length ≤ names.length then items[names.idxOf name]? else none
  | _ => none

/-- What is found for a field is what is written of a value, or `null` or nothing if there is no
value. -/
def IsFor? {α : Type} (write : α → Json) (found : Option Json) : Option α → Prop
  | some a => found = some (write a)
  | none => found = none ∨ found = some .null

/-- A number, whole or not, as a double. -/
def IsNumber (v : Json) (x : Float) : Prop :=
  v = .real x ∨ ∃ n, v = .int n ∧ Decode.floatOfInt n = x

/-- An object has the type of a name: that name among some, or the number of it. -/
def HasType (raw : Json) (names : List String) (name : String) : Prop :=
  raw.get? "type" = some (.str name) ∧ name ∈ names ∨
    ∃ n : Nat, raw.get? "type" = some (.int n) ∧ names[n]? = some name

end Json

/-! ### Single values -/

namespace Decode

variable {α : Type}

/-- A value is read from what is written of it, and from nothing else. -/
def Inverts (item : Decoder α) (write : α → Json) : Prop :=
  ∀ v a, item v = some a ↔ v = write a

theorem inverts_text : Inverts text .str := by
  intro v s
  cases v <;> simp [text]

theorem whole_eq_some_iff {low high n : Int} {v : Json} :
    whole low high v = some n ↔ v = .int n ∧ low ≤ n ∧ n < high := by
  cases v with
  | int m =>
    simp only [whole, Bool.and_eq_true, decide_eq_true_eq, Option.ite_none_right_eq_some,
      Option.some.injEq, Json.int.injEq]
    constructor
    · rintro ⟨hm, rfl⟩
      exact ⟨rfl, hm⟩
    · rintro ⟨rfl, hm⟩
      exact ⟨hm, rfl⟩
  | _ => simp [whole]

theorem inverts_uint64 : Inverts uint64 (fun n => .nat n.toNat) := by
  intro v n
  have hn : n.toNat < 18446744073709551616 := n.toNat_lt
  rw [uint64, Option.map_eq_some_iff]
  constructor
  · rintro ⟨m, hm, rfl⟩
    obtain ⟨rfl, hlow, hhigh⟩ := whole_eq_some_iff.mp hm
    have hm : ((UInt64.ofNat m.toNat).toNat : Int) = m := by
      rw [UInt64.toNat_ofNat_of_lt' (by simp only [UInt64.size]; omega), Int.toNat_of_nonneg hlow]
    exact congrArg Json.int hm.symm
  · rintro rfl
    exact ⟨n.toNat, whole_eq_some_iff.mpr ⟨rfl, by omega, by omega⟩, by simp⟩

theorem float_eq_some_iff {v : Json} {x : Float} : float v = some x ↔ v.IsNumber x := by
  cases v <;> simp [float, Json.IsNumber]

theorem Inverts.bind_eq_some_iff {item : Decoder α} {write : α → Json} (h : Inverts item write)
    {found : Option Json} {a : α} : found.bind item = some a ↔ found = some (write a) := by
  rw [Option.bind_eq_some_iff]
  constructor
  · rintro ⟨v, hv, ha⟩
    rw [hv, (h v a).mp ha]
  · intro hv
    exact ⟨_, hv, (h _ a).mpr rfl⟩

/-- Where no value is written as `null`, `null` stands for a missing value. -/
theorem Inverts.nullable_eq_some_iff {item : Decoder α} {write : α → Json}
    (h : Inverts item write) (hnull : ∀ a, write a ≠ .null) {v : Json} {x : Option α} :
    nullable item v = some x ↔ Json.IsFor? write (some v) x := by
  by_cases hv : v = .null
  · subst hv
    cases x <;> simp [Json.IsFor?, nullable, Ne.symm (hnull _)]
  · have hread : nullable item v = (item v).map some := by
      cases v <;> first | rfl | exact absurd rfl hv
    rw [hread, Option.map_eq_some_iff]
    cases x <;> simp [Json.IsFor?, h _ _, hv]

end Decode

/-! ### Records -/

/-- What is found by its name among items that are named in order is found at its place. -/
theorem findEntry_zip {names : List String} {name : String} (h : name ∈ names) (items : List Json) :
    Dict.findEntry name (names.zip items) = items[names.idxOf name]? := by
  induction names generalizing items with
  | nil => cases h
  | cons n names ih =>
    cases items with
    | nil => simp [Dict.findEntry]
    | cons item items =>
      rw [List.zip_cons_cons, Dict.findEntry, List.idxOf_cons]
      by_cases hn : name = n
      · simp [hn]
      · have hmem : name ∈ names := (List.mem_cons.mp h).resolve_left hn
        have hne : (n == name) = false := by simpa using Ne.symm hn
        rw [if_neg hn, hne, cond_false, List.getElem?_cons_succ, ih hmem]

namespace Record

variable {α : Type}

/-- **What is found in a record is what the value gives**, and a value that is no record gives
nothing. -/
theorem ofJson?_cases (names : List String) (data : Json) :
    (∃ r, ofJson? names data = some r ∧
      ∀ name ∈ names, r.find? name = data.given? names name) ∨
    ofJson? names data = none ∧ ∀ name, data.given? names name = none := by
  cases data with
  | obj fields => exact .inl ⟨_, rfl, fun _ _ => rfl⟩
  | arr items =>
    by_cases hlength : items.length ≤ names.length
    · refine .inl ⟨_, if_pos hlength, fun name h => ?_⟩
      rw [find?, findEntry_zip h, Json.given?, if_pos hlength]
    · exact .inr ⟨if_neg hlength, fun _ => if_neg hlength⟩
  | _ => exact .inr ⟨rfl, fun _ => rfl⟩

/-- **A record is read by what it gives**, if a value that gives nothing is none. -/
theorem bind_ofJson?_eq_some_iff {names : List String} {data : Json} {read : Record → Option α}
    {a : α} {P : Prop} (hgiven : P → ∃ name v, data.given? names name = some v)
    (h : ∀ r, (∀ name ∈ names, r.find? name = data.given? names name) → (read r = some a ↔ P)) :
    (ofJson? names data).bind read = some a ↔ P := by
  obtain ⟨r, hr, hfind⟩ | ⟨hr, hnone⟩ := ofJson?_cases names data
  · rw [hr, Option.bind_some]
    exact h r hfind
  · rw [hr]
    refine iff_of_false (fun h => ?_) fun hP => ?_
    · cases h
    · obtain ⟨name, v, hv⟩ := hgiven hP
      rw [hnone] at hv
      cases hv

variable {r : Record} {name : String} {item : Decoder α} {write : α → Json}

/-- A field that must be given. -/
theorem required_eq_some_iff (h : Decode.Inverts item write) {a : α} :
    r.required name item = some a ↔ r.find? name = some (write a) :=
  h.bind_eq_some_iff

/-- A field that may hold a value. -/
theorem optional_eq_some_iff (h : Decode.Inverts item write) (hnull : ∀ a, write a ≠ .null)
    {x : Option α} :
    r.optional name item = some x ↔ Json.IsFor? write (r.find? name) x := by
  rw [optional, withDefault]
  cases r.find? name with
  | none => cases x <;> simp [Json.IsFor?]
  | some v => exact h.nullable_eq_some_iff hnull

end Record

/-! ### Tags -/

theorem tagName_eq_some_iff {names : List String} {v : Json} {name : String} :
    tagName names true v = some name ↔
      v = .str name ∧ name ∈ names ∨ ∃ n : Nat, v = .int n ∧ names[n]? = some name := by
  cases v with
  | str s =>
    simp only [tagName, List.contains_iff_mem, Option.ite_none_right_eq_some, Option.some.injEq,
      Json.str.injEq, reduceCtorEq, false_and, exists_false, or_false]
    constructor
    · rintro ⟨hs, rfl⟩
      exact ⟨rfl, hs⟩
    · rintro ⟨rfl, hs⟩
      exact ⟨hs, rfl⟩
  | int n =>
    simp only [tagName, Bool.true_and, decide_eq_true_eq, reduceCtorEq, false_and, false_or,
      Json.int.injEq]
    constructor
    · intro h
      split at h
      · rename_i hn
        exact ⟨n.toNat, (Int.toNat_of_nonneg hn).symm, h⟩
      · cases h
    · rintro ⟨m, rfl, hm⟩
      simpa using hm
  | _ => simp [tagName]

/-- A tagged object is split where its tag stands for a name. -/
theorem splitTag_obj_eq_some_iff {names : List String} {fields : List (String × Json)}
    {name : String} {rest : Json} :
    splitTag "type" names true (.obj fields) = some (name, rest) ↔
      (Json.obj fields).HasType names name ∧ rest = .obj (fields.filter (·.1 ≠ "type")) := by
  have hsplit : splitTag "type" names true (.obj fields) =
      ((Dict.findEntry "type" fields).bind (tagName names true)).bind fun name =>
        some (name, .obj (fields.filter (·.1 ≠ "type"))) := rfl
  rw [hsplit, Option.bind_eq_some_iff]
  constructor
  · rintro ⟨n, hn, heq⟩
    obtain ⟨v, hv, htag⟩ := Option.bind_eq_some_iff.mp hn
    cases heq
    refine ⟨?_, rfl⟩
    obtain ⟨rfl, hmem⟩ | ⟨k, rfl, hk⟩ := tagName_eq_some_iff.mp htag
    · exact .inl ⟨hv, hmem⟩
    · exact .inr ⟨k, hv, hk⟩
  · rintro ⟨htype, rfl⟩
    refine ⟨name, ?_, rfl⟩
    obtain ⟨hv, hmem⟩ | ⟨k, hv, hk⟩ := htype
    · exact Option.bind_eq_some_iff.mpr ⟨_, hv, tagName_eq_some_iff.mpr (.inl ⟨rfl, hmem⟩)⟩
    · exact Option.bind_eq_some_iff.mpr ⟨_, hv, tagName_eq_some_iff.mpr (.inr ⟨k, rfl, hk⟩)⟩

theorem Json.isObject_of_hasType {raw : Json} {names : List String} {name : String}
    (h : raw.HasType names name) : raw.isObject = true := by
  cases raw with
  | obj => rfl
  | _ => obtain ⟨hv, -⟩ | ⟨n, hv, -⟩ := h <;> cases hv

/-- The other fields of an object stand where its tag is taken out. -/
theorem get?_filter_ne {fields : List (String × Json)} {tag name : String} (h : name ≠ tag) :
    (Json.obj (fields.filter (·.1 ≠ tag))).get? name = (Json.obj fields).get? name := by
  rw [Json.get?, Dict.findEntry_filter_ne, if_neg h, Json.get?]

end Chatflow

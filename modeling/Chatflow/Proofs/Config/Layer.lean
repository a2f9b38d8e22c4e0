import Chatflow.Config.Layer
import Chatflow.Proofs.Dict
import Mathlib.Data.List.Induction

/-!
# What layers say together

A layer gives a value to a key path (`Json.at?`), or says nothing of it: then it has nothing at the
path, and nothing but objects on the way (`Json.IsSilent`). A layer that says nothing leaves what is
below it (`Layer.at?_merge_of_isSilent`), and a value that is no object stands whatever is below it
(`Layer.at?_merge_of_leaf`). So in a pile the last layer that says anything of a path has its way:
`Layer.at?_merge_pile`, for a pile that is laid over another.

Whatever the layers are, a pile is in key order (`Json.IsOrdered`), so that no field of it is hidden
by another.
-/

namespace Chatflow

namespace Json

variable {v w : Json} {key : String} {path : List String}

/-! ### Key paths -/

/-- The value at a key path. -/
def at? (v : Json) : List String → Option Json
  | [] => some v
  | key :: path => (v.get? key).bind fun w => w.at? path

@[simp] theorem at?_nil (v : Json) : v.at? [] = some v := rfl

@[simp] theorem at?_cons (v : Json) (key : String) (path : List String) :
    v.at? (key :: path) = (v.get? key).bind fun w => w.at? path := rfl

theorem at?_singleton (v : Json) (key : String) : v.at? [key] = v.get? key := by
  rw [at?_cons]
  exact Option.bind_fun_some _

theorem at?_append (v : Json) (path path' : List String) :
    v.at? (path ++ path') = (v.at? path).bind fun w => w.at? path' := by
  induction path generalizing v with
  | nil => rfl
  | cons key path ih =>
    rw [List.cons_append, at?_cons, at?_cons, Option.bind_assoc]
    exact congrArg _ (funext ih)

theorem get?_eq (v : Json) (key : String) : v.get? key = Dict.findEntry key v.fields := by
  cases v <;> rfl

/-- Only an object has fields. -/
theorem isObject_of_get? (h : v.get? key = some w) : v.isObject = true := by
  cases v with
  | obj => rfl
  | _ => cases h

/-- A value says nothing of a path: it has nothing there, and nothing but objects on the way. -/
def IsSilent (v : Json) (path : List String) : Prop :=
  v.at? path = none ∧ ∀ way, way <+: path → ∀ w, v.at? way = some w → w.isObject = true

theorem not_isSilent_nil : ¬v.IsSilent [] := fun h => nomatch h.1

theorem isSilent_cons_iff : v.IsSilent (key :: path) ↔
    v.isObject = true ∧ ∀ w, v.get? key = some w → w.IsSilent path := by
  constructor
  · rintro ⟨hnone, hway⟩
    refine ⟨hway [] List.nil_prefix v rfl, fun w hw => ⟨?_, fun way hpre u hu => ?_⟩⟩
    · simpa [hw] using hnone
    · refine hway (key :: way) (List.cons_prefix_cons.mpr ⟨rfl, hpre⟩) u ?_
      rw [at?_cons, hw]
      exact hu
  · rintro ⟨hobj, h⟩
    refine ⟨?_, fun way hpre u hu => ?_⟩
    · rw [at?_cons, Option.bind_eq_none_iff]
      exact fun w hw => (h w hw).1
    · cases way with
      | nil => exact Option.some.inj hu ▸ hobj
      | cons k way =>
        obtain ⟨rfl, htail⟩ := List.cons_prefix_cons.mp hpre
        obtain ⟨w, hw, hu⟩ := Option.bind_eq_some_iff.mp hu
        exact (h w hw).2 way htail u hu

/-- Nothing is said by an object without fields. -/
theorem isSilent_empty (h : path ≠ []) : (obj []).IsSilent path := by
  cases path with
  | nil => exact absurd rfl h
  | cons key path => exact isSilent_cons_iff.mpr ⟨rfl, fun _ hw => nomatch hw⟩

/-! ### Order -/

/-- Every object in a value has its fields in key order, but for those in arrays. -/
inductive IsOrdered : Json → Prop
  | obj {fields : List (String × Json)} (sorted : fields.Pairwise fun a b => a.1 < b.1)
    (fields_ordered : ∀ e ∈ fields, IsOrdered e.2) : IsOrdered (.obj fields)
  | leaf {v : Json} (h : v.isObject = false) : IsOrdered v

theorem IsOrdered.sorted_fields (h : v.IsOrdered) : v.fields.Pairwise fun a b => a.1 < b.1 := by
  cases h with
  | obj sorted => exact sorted
  | leaf h =>
    cases v with
    | obj => cases h
    | _ => exact .nil

theorem IsOrdered.of_mem (h : v.IsOrdered) {e : String × Json} (he : e ∈ v.fields) :
    e.2.IsOrdered := by
  cases h with
  | obj _ fields_ordered => exact fields_ordered e he
  | leaf h =>
    cases v with
    | obj => cases h
    | _ => cases he

theorem IsOrdered.get? (h : v.IsOrdered) (hw : v.get? key = some w) : w.IsOrdered := by
  rw [get?_eq] at hw
  exact h.of_mem (Dict.mem_of_findEntry hw)

theorem IsOrdered.at? (h : v.IsOrdered) (hw : v.at? path = some w) : w.IsOrdered := by
  induction path generalizing v with
  | nil => exact Option.some.inj hw ▸ h
  | cons key path ih =>
    obtain ⟨u, hu, hw⟩ := Option.bind_eq_some_iff.mp hw
    exact ih (h.get? hu) hw

theorem isOrdered_empty : (Json.obj []).IsOrdered := .obj .nil fun _ h => nomatch h

theorem IsOrdered.getD_get? (h : v.IsOrdered) (key : String) :
    ((v.get? key).getD (.obj [])).IsOrdered := by
  cases hw : v.get? key with
  | none => exact isOrdered_empty
  | some w => exact h.get? hw

end Json

namespace Layer

open Json (IsSilent IsOrdered isSilent_cons_iff not_isSilent_nil)

variable {below above v : Json} {path : List String}

/-! ### One layer over another -/

theorem merge_of_leaf (h : v.isObject = false) : merge below v = v := by
  cases v with
  | obj => cases h
  | _ => rfl

theorem merge_obj (below : Json) (fields : List (String × Json)) :
    merge below (.obj fields) = .obj (overFields below.fields fields) := by rw [merge]

/-- A field is laid over the field of its name, or over an empty object. -/
theorem findEntry_overFields (k : String) (under fields : List (String × Json)) :
    Dict.findEntry k (overFields under fields) =
      ((Dict.findEntry k fields).map (merge ((Dict.findEntry k under).getD (.obj [])))).or
        (Dict.findEntry k under) := by
  induction fields with
  | nil => rw [overFields]; rfl
  | cons e fields ih =>
    obtain ⟨key, v⟩ := e
    rw [overFields, Dict.findEntry_insertEntry, ih, Dict.findEntry]
    by_cases h : k = key
    · rw [if_pos h, if_pos h, h]
      rfl
    · rw [if_neg h, if_neg h]

theorem get?_merge (habove : above.isObject = true) (below : Json) (key : String) :
    (merge below above).get? key =
      ((above.get? key).map (merge ((below.get? key).getD (.obj [])))).or (below.get? key) := by
  cases above with
  | obj fields =>
    rw [merge_obj, Json.get?_eq below]
    exact findEntry_overFields key below.fields fields
  | _ => cases habove

theorem isObject_merge (habove : above.isObject = true) (below : Json) :
    (merge below above).isObject = true := by
  cases above with
  | obj fields => rw [merge_obj]; rfl
  | _ => cases habove

/-- **A layer that says nothing of a path leaves what is below it.** -/
theorem at?_merge_of_isSilent (h : above.IsSilent path) (below : Json) :
    (merge below above).at? path = below.at? path := by
  induction path generalizing below above with
  | nil => exact absurd h not_isSilent_nil
  | cons key path ih =>
    obtain ⟨hobj, h⟩ := isSilent_cons_iff.mp h
    rw [Json.at?_cons, get?_merge hobj, Json.at?_cons]
    cases ha : above.get? key with
    | none => rfl
    | some a =>
      have hsilent := h a ha
      cases hb : below.get? key with
      | none =>
        have hpath : path ≠ [] := by
          rintro rfl
          exact not_isSilent_nil hsilent
        exact (ih hsilent (.obj [])).trans (Json.isSilent_empty hpath).1
      | some b => exact ih hsilent b

/-- **A value that is no object stands, whatever is below it.** -/
theorem at?_merge_of_leaf (h : above.at? path = some v) (hv : v.isObject = false) (below : Json) :
    (merge below above).at? path = some v := by
  induction path generalizing below above with
  | nil =>
    obtain rfl := Option.some.inj h
    rw [merge_of_leaf hv]
    rfl
  | cons key path ih =>
    obtain ⟨a, ha, h⟩ := Option.bind_eq_some_iff.mp h
    rw [Json.at?_cons, get?_merge (Json.isObject_of_get? ha), ha]
    exact ih h _

theorem isSilent_merge (hbelow : below.IsSilent path) (habove : above.IsSilent path) :
    (merge below above).IsSilent path := by
  induction path generalizing below above with
  | nil => exact absurd habove not_isSilent_nil
  | cons key path ih =>
    obtain ⟨-, hb⟩ := isSilent_cons_iff.mp hbelow
    obtain ⟨hobj, ha⟩ := isSilent_cons_iff.mp habove
    refine isSilent_cons_iff.mpr ⟨isObject_merge hobj below, fun w hw => ?_⟩
    rw [get?_merge hobj] at hw
    cases hak : above.get? key with
    | none =>
      rw [hak] at hw
      exact hb w hw
    | some a =>
      have hsilent := ha a hak
      rw [hak] at hw
      obtain rfl := Option.some.inj hw
      cases hbk : below.get? key with
      | none =>
        have hpath : path ≠ [] := by
          rintro rfl
          exact not_isSilent_nil hsilent
        exact ih (Json.isSilent_empty hpath) hsilent
      | some b => exact ih (hb b hbk) hsilent

/-! ### Piles -/

theorem at?_foldl_of_isSilent {layers : List Json} (h : ∀ layer ∈ layers, layer.IsSilent path)
    (below : Json) : (layers.foldl merge below).at? path = below.at? path := by
  induction layers generalizing below with
  | nil => rfl
  | cons layer layers ih =>
    rw [List.foldl_cons, ih fun l hl => h l (List.mem_cons_of_mem _ hl)]
    exact at?_merge_of_isSilent (h layer List.mem_cons_self) below

/-- A pile of layers that say nothing says nothing. -/
theorem isSilent_pile {layers : List Json} (hpath : path ≠ [])
    (h : ∀ layer ∈ layers, layer.IsSilent path) : (pile layers).IsSilent path := by
  induction layers using List.reverseRecOn with
  | nil => exact Json.isSilent_empty hpath
  | append_singleton layers layer ih =>
    rw [pile, List.foldl_concat]
    refine isSilent_merge (ih fun l hl => h l ?_) (h layer ?_)
    · exact List.mem_append_left _ hl
    · exact List.mem_append_right _ List.mem_cons_self

/-- The last layer of a pile that says anything of a path has its way. -/
theorem at?_pile {before after : List Json} {top : Json} (htop : top.at? path = some v)
    (hv : v.isObject = false) (hafter : ∀ layer ∈ after, layer.IsSilent path) :
    (pile (before ++ top :: after)).at? path = some v := by
  rw [pile, List.foldl_append, List.foldl_cons, at?_foldl_of_isSilent hafter]
  exact at?_merge_of_leaf htop hv _

/-- **Of the layers of two piles, one laid over the other, the last that says anything of a path has
its way.** -/
theorem at?_merge_pile {lower upper before after : List Json} {top : Json} (hpath : path ≠ [])
    (hlayers : lower ++ upper = before ++ top :: after) (htop : top.at? path = some v)
    (hv : v.isObject = false) (hafter : ∀ layer ∈ after, layer.IsSilent path) :
    (merge (pile lower) (pile upper)).at? path = some v := by
  -- either the layer is one of the upper pile, or all of that pile says nothing
  obtain ⟨between, -, rfl⟩ | ⟨between, rfl, hrest⟩ := List.append_eq_append_iff.mp hlayers
  · exact at?_merge_of_leaf (at?_pile htop hv hafter) hv _
  · cases between with
    | nil =>
      obtain rfl : upper = top :: after := hrest.symm
      have hupper : (pile (top :: after)).at? path = some v := by
        rw [← List.nil_append (top :: after)]
        exact at?_pile htop hv hafter
      exact at?_merge_of_leaf hupper hv _
    | cons l between =>
      obtain ⟨rfl, rfl⟩ := List.cons.inj hrest
      have hupper := isSilent_pile hpath fun l hl => hafter l (List.mem_append_right _ hl)
      rw [at?_merge_of_isSilent hupper]
      exact at?_pile htop hv fun l hl => hafter l (List.mem_append_left _ hl)

/-! ### Order -/

/-- What is laid over a value in key order comes in key order. -/
theorem isOrdered_merge (h : below.IsOrdered) (v : Json) : (merge below v).IsOrdered := by
  refine merge.induct (fun below v => below.IsOrdered → (merge below v).IsOrdered)
    (fun under fields =>
      (Json.obj under).IsOrdered → (Json.obj (overFields under fields)).IsOrdered)
    ?object ?leaf ?nil ?cons below v h
  case object =>
    intro below fields ih h
    rw [merge_obj]
    exact ih (.obj h.sorted_fields fun e he => h.of_mem he)
  case leaf =>
    intro v below hv h
    have hleaf : v.isObject = false := by
      cases v with
      | obj fields => exact absurd rfl (hv fields)
      | _ => rfl
    rw [merge_of_leaf hleaf]
    exact .leaf hleaf
  case nil =>
    intro under h
    rw [overFields]
    exact h
  case cons =>
    intro under key v rest below ihv ihrest h
    rw [overFields]
    refine .obj (Dict.sorted_insertEntry _ _ (ihrest h).sorted_fields) fun e he => ?_
    rcases Dict.mem_insertEntry he with rfl | he
    · exact ihv (h.getD_get? key)
    · exact (ihrest h).of_mem he

theorem overFields_nil {fields : List (String × Json)}
    (sorted : fields.Pairwise fun a b => a.1 < b.1)
    (h : ∀ e ∈ fields, merge (.obj []) e.2 = e.2) : overFields [] fields = fields := by
  induction fields with
  | nil => rw [overFields]
  | cons e fields ih =>
    obtain ⟨hlt, hrest⟩ := List.pairwise_cons.mp sorted
    rw [overFields, ih hrest fun e' he' => h e' (List.mem_cons_of_mem _ he')]
    have he : merge (.obj []) e.2 = e.2 := h e List.mem_cons_self
    -- the first key comes before all others
    cases fields with
    | nil => exact congrArg (fun v => [(e.1, v)]) he
    | cons e' fields =>
      refine (if_pos (hlt e' List.mem_cons_self)).trans ?_
      exact congrArg (fun v => (e.1, v) :: e' :: fields) he

/-- A value in key order is what comes of it over nothing. -/
theorem merge_empty (h : v.IsOrdered) : merge (.obj []) v = v := by
  induction h with
  | leaf h => exact merge_of_leaf h
  | obj sorted _ ih =>
    rw [merge_obj]
    exact congrArg Json.obj (overFields_nil sorted ih)

theorem isOrdered_pile (layers : List Json) : (pile layers).IsOrdered := by
  induction layers using List.reverseRecOn with
  | nil => exact Json.isOrdered_empty
  | append_singleton layers layer ih =>
    rw [pile, List.foldl_concat]
    exact isOrdered_merge ih layer

end Layer

end Chatflow

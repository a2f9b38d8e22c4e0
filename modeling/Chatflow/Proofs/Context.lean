import Chatflow.Context.Update
import Chatflow.Proofs.Dict

/-!
# What an event leaves in a context

Each part of a context is changed by itself when an event is taken in (`Context.fold_eq`): what is
known of the sender (`UserSnapshot.told`), the place (`UserLocation.moved`), the variables that the
block captures, and the reading positions (`Block.turned`). The count of attempts is left, and the
rest is what the event says.

The reading position of a block that shows content is moved on by a page or back to the start
(`Context.skipFor_fold`).
-/

namespace Chatflow

/-- A sum of 32 bits stops at the largest such number. -/
theorem toNat_saturatingAdd_eq_min (a b : UInt32) :
    (saturatingAdd a b).toNat = min (a.toNat + b.toNat) (UInt32.size - 1) := by
  rw [saturatingAdd]
  split
  · rename_i h
    rw [UInt32.toNat_add, Nat.mod_eq_of_lt h]
    exact (Nat.min_eq_left (Nat.le_pred_of_lt h)).symm
  · rename_i h
    exact (Nat.min_eq_right (Nat.le_trans (Nat.sub_le _ 1) (Nat.le_of_not_lt h))).symm

/-- What does not leave the range is a sum. -/
theorem toNat_saturatingAdd {a b : UInt32} (h : a.toNat + b.toNat < UInt32.size) :
    (saturatingAdd a b).toNat = a.toNat + b.toNat := by
  rw [toNat_saturatingAdd_eq_min]
  exact Nat.min_eq_left (Nat.le_pred_of_lt h)

/-! ### Captures -/

section

variable {captures : List Capture} {e : Event} {x : String} {v : Json}

/-- What is captured was read by one of the captures. -/
theorem exists_capture (h : Dict.findEntry x (captured captures e).reverse = some v) :
    ∃ c ∈ captures, c.variableName = x ∧
      ∃ value, c.source.read? e = some value ∧ v = value.trim := by
  obtain ⟨c, hc, hread⟩ := List.mem_filterMap.mp (List.mem_reverse.mp (Dict.mem_of_findEntry h))
  obtain ⟨value, hvalue, heq⟩ := Option.map_eq_some_iff.mp hread
  obtain ⟨rfl, rfl⟩ := Prod.mk.inj heq
  exact ⟨c, hc, rfl, value, hvalue, rfl⟩

/-- A capture that reads something counts, unless a later one of the same variable does. -/
theorem findEntry_captured {before later : List Capture} {c : Capture}
    (hcaptures : captures = before ++ c :: later) (hread : c.source.read? e = some v) :
    Dict.findEntry c.variableName (captured captures e).reverse =
      (Dict.findEntry c.variableName (captured later e).reverse).or (some v.trim) := by
  have hcaptured : captured captures e =
      captured before e ++ (c.variableName, v.trim) :: captured later e := by
    rw [hcaptures, captured, List.filterMap_append, List.filterMap_cons, hread]
    rfl
  rw [hcaptured, List.reverse_append, List.reverse_cons, List.append_assoc, Dict.findEntry_append,
    List.singleton_append, Dict.findEntry, if_pos rfl]

end

/-! ### The parts of a context -/

/-- What is known of a sender after an event, of which the language is kept if it says none. -/
def UserSnapshot.told (u : UserSnapshot) (e : Event) : UserSnapshot :=
  e.sender.elim u fun s => ⟨s.id, s.firstName, s.lastName, s.language <|> u.language⟩

/-- The place after an event, which is the one before unless the event tells one. -/
def UserLocation.moved (l : UserLocation) (e : Event) : UserLocation :=
  e.coordinates?.elim l fun p => ⟨p.lat, p.lon, none⟩

/-- The reading positions after an event that triggers a block. -/
def Block.turned (b : Block) (e : Event) (skip : Dict UInt32) : Dict UInt32 :=
  b.options.content.elim skip fun o => skip.insert b.id
    (if e.asksForMore then saturatingAdd ((skip.find? b.id).getD 0) o.limit else 0)

namespace Context

variable (c : Context) (b : Block) (e : Event)

/-- **Each part of a context is changed by itself.** -/
theorem fold_eq : c.fold b e =
    { user := c.user.told e
      userLocation := c.userLocation.moved e
      vars := c.vars.insertAll (captured b.captures e)
      skip := b.turned e c.skip
      attempt := c.attempt
      nlp := e.nlp
      payload := e.payload?
      channel := some e.channel
      text := some e.text } := by
  rw [fold, withSkip, withPlace, UserSnapshot.told, UserLocation.moved, Block.turned]
  cases e.sender <;> cases e.coordinates? <;> cases b.options.content <;> rfl

theorem attempt_fold : (c.fold b e).attempt = c.attempt := by rw [fold_eq]

theorem vars_fold : (c.fold b e).vars = c.vars.insertAll (captured b.captures e) := by rw [fold_eq]

theorem skip_fold : (c.fold b e).skip = b.turned e c.skip := by rw [fold_eq]

/-- An event leaves the name of its sender. -/
theorem user_fold {s : Subscriber} (hs : e.sender = some s) :
    (c.fold b e).user = ⟨s.id, s.firstName, s.lastName, s.language <|> c.user.language⟩ := by
  rw [fold_eq, UserSnapshot.told, hs]
  rfl

/-- An event that asks for more moves the reading position of a block on by a page. Any other moves
it back to the start. -/
theorem skipFor_fold {o : Content.Options} (ho : b.options.content = some o) :
    (c.fold b e).skipFor b.id =
      if e.asksForMore then saturatingAdd (c.skipFor b.id) o.limit else 0 := by
  rw [skipFor, skip_fold, Block.turned, ho, Option.elim_some, Dict.find?_insert_self]
  rfl

/-- A block that shows no content leaves all reading positions. -/
theorem skip_fold_of_none (ho : b.options.content = none) : (c.fold b e).skip = c.skip := by
  rw [skip_fold, Block.turned, ho, Option.elim_none]

/-- A block leaves the reading positions of the others. -/
theorem find?_skip_fold {id : String} (hid : id ≠ b.id) :
    (c.fold b e).skip.find? id = c.skip.find? id := by
  rw [skip_fold, Block.turned]
  cases b.options.content with
  | none => rfl
  | some o => exact (Dict.find?_insert ..).trans (if_neg hid)

theorem skipFor_fold_of_ne {id : String} (hid : id ≠ b.id) :
    (c.fold b e).skipFor id = c.skipFor id := by
  rw [skipFor, find?_skip_fold c b e hid, skipFor]

end Context

end Chatflow

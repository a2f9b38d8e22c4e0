import Chatflow.Store.Blocks

/-!
# The block store

The blocks found by their ids are blocks of the store, and are found again by the ids that they
have.
-/

namespace Chatflow

namespace BlockStore

variable {s : BlockStore} {b : Block} {id : String} {ids : List String}

theorem mem_of_find? (h : s.find? id = some b) : b ∈ s.blocks := List.mem_of_find?_eq_some h

theorem id_of_find? (h : s.find? id = some b) : b.id = id := by
  simpa using List.find?_some h

theorem mem_of_mem_findMany (h : b ∈ s.findMany ids) : b ∈ s.blocks := by
  obtain ⟨id, -, hb⟩ := List.mem_filterMap.mp h
  exact mem_of_find? hb

theorem mem_of_mem_starting (h : b ∈ s.starting) : b ∈ s.blocks := (List.mem_filter.mp h).1

/-- What was found by some ids is found again by its own. -/
theorem findMany_ids (s : BlockStore) (ids : List String) :
    s.findMany ((s.findMany ids).map (·.id)) = s.findMany ids := by
  induction ids with
  | nil => rfl
  | cons id ids ih =>
    cases h : s.find? id with
    | none =>
      have hskip : s.findMany (id :: ids) = s.findMany ids := List.filterMap_cons_none h
      rw [hskip, ih]
    | some b =>
      have hfound : s.findMany (id :: ids) = b :: s.findMany ids := List.filterMap_cons_some h
      have hagain : s.find? b.id = some b := by rw [id_of_find? h, h]
      rw [hfound, List.map_cons, findMany, List.filterMap_cons_some hagain]
      exact congrArg (b :: ·) ih

end BlockStore

end Chatflow

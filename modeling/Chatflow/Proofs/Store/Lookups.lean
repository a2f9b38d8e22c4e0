import Chatflow.Proofs.Store.Blocks
import Mathlib.Data.List.Basic

/-!
# The lookups of the block store

A store is filled with blocks and then changed by blocks that take the place of those with their
ids. What the lookups give is told by two views: the ids of the blocks in their order
(`BlockStore.ids`), and the block found by an id. One change puts a new id behind the others and
leaves the order of those there are (`ids_upsert`), and it is what is found from then on
(`find?_upsert`). Where no two blocks have the same id, a store is known by these two views
(`blocks_eq_filterMap`), so that all lookups agree on the block of an id (`BlockStore.Agrees`).

The blocks that a store is filled with are all kept, also those of one id. Of these the first one is
found by the id, and the others are still listed among the starting and previous blocks. They are
the only ones on which the lookups differ, so the lookups agree exactly when the given blocks have
ids of their own: `BlockStore.agrees_iff`.
-/

namespace Chatflow

namespace BlockStore

open List (Sublist)

variable {s : BlockStore} {b c : Block} {id : String} {l : List Block}

/-- The ids of the blocks, in the order of the store. -/
def ids (s : BlockStore) : List String := s.blocks.map (·.id)

/-! ### One change -/

theorem map_id_upsertInto (b : Block) (l : List Block) : (upsertInto b l).map (·.id) =
    if b.id ∈ l.map (·.id) then l.map (·.id) else l.map (·.id) ++ [b.id] := by
  induction l with
  | nil => rfl
  | cons x l ih =>
    rw [upsertInto]
    by_cases hx : x.id = b.id
    · rw [if_pos hx, if_pos (List.mem_map.mpr ⟨x, List.mem_cons_self, hx⟩), List.map_cons,
        List.map_cons, hx]
    · rw [if_neg hx, List.map_cons, ih, List.map_cons]
      simp only [List.mem_cons, Ne.symm hx, false_or]
      split <;> rfl

/-- A change leaves the order of the ids, and puts a new one behind them. -/
theorem ids_upsert (s : BlockStore) (b : Block) :
    (s.upsert b).ids = if b.id ∈ s.ids then s.ids else s.ids ++ [b.id] :=
  map_id_upsertInto b s.blocks

theorem find?_upsertInto (b : Block) (id : String) (l : List Block) :
    (upsertInto b l).find? (·.id = id) = if b.id = id then some b else l.find? (·.id = id) := by
  induction l with
  | nil => simp [upsertInto, List.find?_singleton]
  | cons x l ih =>
    rw [upsertInto]
    by_cases hx : x.id = b.id
    · rw [if_pos hx, List.find?_cons, List.find?_cons, hx]
      by_cases hid : b.id = id <;> simp [hid]
    · rw [if_neg hx, List.find?_cons, List.find?_cons, ih]
      by_cases hid : x.id = id
      · have hne : b.id ≠ id := fun h => hx (hid.trans h.symm)
        simp [hid, hne]
      · simp [hid]

/-- A block put into the store is the one found by its id. -/
theorem find?_upsert (s : BlockStore) (b : Block) (id : String) :
    (s.upsert b).find? id = if b.id = id then some b else s.find? id :=
  find?_upsertInto b id s.blocks

theorem mem_of_mem_upsertInto (h : c ∈ upsertInto b l) : c = b ∨ c ∈ l := by
  induction l with
  | nil => exact .inl (List.mem_singleton.mp h)
  | cons x l ih =>
    rw [upsertInto] at h
    split at h
    · exact (List.mem_cons.mp h).imp_right (List.mem_cons_of_mem x)
    · obtain rfl | h := List.mem_cons.mp h
      · exact .inr List.mem_cons_self
      · exact (ih h).imp_right (List.mem_cons_of_mem x)

/-! ### Blocks that are not found by their ids -/

/-- A block stands behind another one of its id. -/
def IsHidden (l : List Block) (c : Block) : Prop := ∃ a, Sublist [a, c] l ∧ a.id = c.id

theorem isHidden_cons_iff {x : Block} :
    IsHidden (x :: l) c ↔ IsHidden l c ∨ c ∈ l ∧ x.id = c.id := by
  simp only [IsHidden, List.cons_sublist_cons', List.singleton_sublist]
  constructor
  · rintro ⟨a, h | ⟨rfl, hc⟩, hid⟩
    · exact .inl ⟨a, h, hid⟩
    · exact .inr ⟨hc, hid⟩
  · rintro (⟨a, h, hid⟩ | ⟨hc, hid⟩)
    · exact ⟨a, .inl h, hid⟩
    · exact ⟨x, .inr ⟨rfl, hc⟩, hid⟩

theorem not_isHidden_nil : ¬ IsHidden [] c := fun ⟨_, h, _⟩ => by cases h

/-- A block of a store is found by its id, unless it stands behind another one. -/
theorem find?_eq_or_isHidden (h : c ∈ l) : l.find? (·.id = c.id) = some c ∨ IsHidden l c := by
  induction l with
  | nil => cases h
  | cons x l ih =>
    rw [List.find?_cons, isHidden_cons_iff]
    by_cases hx : x.id = c.id
    · obtain rfl | h := List.mem_cons.mp h
      · exact .inl (by simp)
      · exact .inr (.inr ⟨h, hx⟩)
    · have hmem : c ∈ l := (List.mem_cons.mp h).resolve_left fun hc => hx (hc ▸ rfl)
      rw [decide_eq_false hx]
      exact (ih hmem).imp_right .inl

/-- A change hides no block: it takes the place of the one that would stand before it. -/
theorem isHidden_of_upsertInto (h : IsHidden (upsertInto b l) c) : IsHidden l c := by
  induction l with
  | nil =>
    rw [upsertInto, isHidden_cons_iff] at h
    exact h.elim (absurd · not_isHidden_nil) fun h => nomatch h.1
  | cons x l ih =>
    rw [upsertInto] at h
    rw [isHidden_cons_iff]
    split at h
    · rename_i hx
      rw [hx]
      exact isHidden_cons_iff.mp h
    · rename_i hx
      obtain h | ⟨hc, hid⟩ := isHidden_cons_iff.mp h
      · exact .inl (ih h)
      · obtain rfl | hc := mem_of_mem_upsertInto hc
        · exact absurd hid hx
        · exact .inr ⟨hc, hid⟩

theorem nodup_iff_not_isHidden : (l.map (·.id)).Nodup ↔ ∀ c, ¬ IsHidden l c := by
  induction l with
  | nil => exact iff_of_true List.nodup_nil fun _ => not_isHidden_nil
  | cons x l ih =>
    simp only [List.map_cons, List.nodup_cons, ih, isHidden_cons_iff, not_or, not_and, forall_and,
      List.mem_map, not_exists]
    rw [and_comm]
    exact and_congr_right fun _ => forall_congr' fun c => imp_congr_right fun _ => not_congr eq_comm

/-! ### Stores in which ids are not repeated -/

/-- Where no two blocks have the same id, each is found by its own. -/
theorem find?_of_mem (h : s.ids.Nodup) (hb : b ∈ s.blocks) : s.find? b.id = some b :=
  (find?_eq_or_isHidden hb).resolve_right (nodup_iff_not_isHidden.mp h b)

/-- **Where no two blocks have the same id, a store is known by its ids and what is found by
them.** -/
theorem blocks_eq_filterMap (h : s.ids.Nodup) : s.blocks = s.ids.filterMap s.find? := by
  rw [ids, List.filterMap_map]
  calc s.blocks = s.blocks.filterMap some := List.filterMap_some.symm
    _ = s.blocks.filterMap (s.find? ∘ (·.id)) :=
      List.filterMap_congr fun _ hb => (find?_of_mem h hb).symm

/-! ### Any changes -/

/-- New ids come behind the others, each where it was given first. -/
theorem ids_foldl_upsert (s : BlockStore) (changes : List Block) : (changes.foldl upsert s).ids =
    s.ids ++ ((changes.map (·.id)).removeAll s.ids).eraseDups := by
  induction changes generalizing s with
  | nil => simp [List.removeAll]
  | cons b changes ih =>
    rw [List.foldl_cons, ih, ids_upsert, List.map_cons]
    by_cases hold : b.id ∈ s.ids
    · simp [List.removeAll, hold]
    · simp [List.removeAll, hold, List.eraseDups_cons, List.filter_filter, Bool.and_comm,
        beq_eq_decide]

/-- The block that was put into the store last is the one found by its id. -/
theorem find?_foldl_upsert (s : BlockStore) (changes : List Block) (id : String) :
    (changes.foldl upsert s).find? id = (changes.reverse.find? (·.id = id)).or (s.find? id) := by
  induction changes generalizing s with
  | nil => rfl
  | cons b changes ih =>
    rw [List.foldl_cons, ih, find?_upsert, List.reverse_cons, List.find?_append, Option.or_assoc]
    by_cases hid : b.id = id <;> simp [hid]

theorem isHidden_of_foldl_upsert {changes : List Block}
    (h : IsHidden (changes.foldl upsert s).blocks c) : IsHidden s.blocks c := by
  induction changes generalizing s with
  | nil => exact h
  | cons b changes ih => exact isHidden_of_upsertInto (ih h)

/-- Changes repeat no id. -/
theorem nodup_ids_foldl_upsert {changes : List Block} :
    (changes.foldl upsert s).ids.Nodup ↔ s.ids.Nodup := by
  constructor
  · intro h
    rw [ids_foldl_upsert] at h
    exact (List.nodup_append.mp h).1
  · intro h
    exact nodup_iff_not_isHidden.mpr fun c hc =>
      nodup_iff_not_isHidden.mp h c (isHidden_of_foldl_upsert hc)

/-! ### The lookups -/

/-- **All lookups of a store agree** on the blocks that were given to it, one after the other. -/
structure Agrees (s : BlockStore) (given : List Block) : Prop where
  /-- No two blocks have the same id. -/
  nodup : s.ids.Nodup
  /-- The block found by an id is the one last given for it. -/
  find? : ∀ id, s.find? id = given.reverse.find? (·.id = id)
  /-- The blocks of some ids are those found by them. -/
  findMany : ∀ ids, ∀ b ∈ s.findMany ids, s.find? b.id = some b
  /-- The starting blocks are those found by their ids. -/
  starting : ∀ b ∈ s.starting, s.find? b.id = some b
  /-- The previous blocks are those found by their ids. -/
  previous : ∀ id, ∀ b ∈ s.previous id, s.find? b.id = some b
  /-- The starting blocks stand in the order in which their ids were first given. -/
  starting_eq : s.starting =
    ((given.map (·.id)).eraseDups.filterMap s.find?).filter (·.startsConversation)
  /-- The previous blocks stand in the order in which their ids were first given. -/
  previous_eq : ∀ id, s.previous id =
    ((given.map (·.id)).eraseDups.filterMap s.find?).filter (·.nextBlocks.contains id)

theorem find?_of_mem_findMany {ids : List String} (h : b ∈ s.findMany ids) :
    s.find? b.id = some b := by
  obtain ⟨id, -, hb⟩ := List.mem_filterMap.mp h
  rw [id_of_find? hb, hb]

/-- Where no id is repeated, the block found first is also the one found last. -/
theorem find?_reverse (h : (l.map (·.id)).Nodup) (id : String) :
    l.reverse.find? (·.id = id) = l.find? (·.id = id) := by
  induction l with
  | nil => rfl
  | cons x l ih =>
    obtain ⟨hx, hl⟩ := List.nodup_cons.mp h
    rw [List.reverse_cons, List.find?_append, ih hl, List.find?_cons]
    by_cases hid : x.id = id
    · have hnone : l.find? (·.id = id) = none :=
        List.find?_eq_none.mpr fun c hc hcid =>
          hx (List.mem_map.mpr ⟨c, hc, (of_decide_eq_true hcid).trans hid.symm⟩)
      simp [hnone, hid]
    · simp [hid]

theorem eraseDups_of_nodup {l : List String} (h : l.Nodup) : l.eraseDups = l := by
  induction l with
  | nil => rfl
  | cons x l ih =>
    obtain ⟨hx, hl⟩ := List.nodup_cons.mp h
    have hfilter : l.filter (fun y => !y == x) = l :=
      List.filter_eq_self.mpr fun y hy => by simpa using fun hyx : y = x => hx (hyx ▸ hy)
    rw [List.eraseDups_cons, hfilter, ih hl]

/-- The store that is filled with some blocks and then changed by others, one after the other. -/
def changed (blocks changes : List Block) : BlockStore := changes.foldl upsert (ofList blocks)

theorem agrees_changed {blocks : List Block} (h : (blocks.map (·.id)).Nodup)
    (changes : List Block) : (changed blocks changes).Agrees (blocks ++ changes) := by
  have hnodup : (changed blocks changes).ids.Nodup := nodup_ids_foldl_upsert.mpr h
  have hids : (changed blocks changes).ids = ((blocks ++ changes).map (·.id)).eraseDups := by
    rw [changed, ids_foldl_upsert, List.map_append, List.eraseDups_append, eraseDups_of_nodup h]
    rfl
  have hblocks := hids ▸ blocks_eq_filterMap hnodup
  refine ⟨hnodup, fun id => ?_, fun ids b hb => find?_of_mem_findMany hb, fun b hb => ?_,
    fun id b hb => ?_, ?_, fun id => ?_⟩
  · rw [changed, find?_foldl_upsert, List.reverse_append, List.find?_append, find?_reverse h]
    rfl
  · exact find?_of_mem hnodup (List.mem_of_mem_filter hb)
  · exact find?_of_mem hnodup (List.mem_of_mem_filter hb)
  · rw [← hblocks]
    rfl
  · rw [← hblocks]
    rfl

/-- **When the lookups agree.** Whatever blocks a store is filled with, and by whatever blocks it is
changed after that, the lookups agree exactly if the first blocks have ids of their own. In any case
the changes add their new ids in order, the last change of an id is found by it, or else the first
of the blocks, and a block that is listed is found by its id, unless it is one of those that the
store was filled with and stands behind another one of its id there. -/
theorem agrees_iff (blocks changes : List Block) :
    ((changed blocks changes).Agrees (blocks ++ changes) ↔ (blocks.map (·.id)).Nodup) ∧
    (changed blocks changes).ids = blocks.map (·.id) ++
      ((changes.map (·.id)).removeAll (blocks.map (·.id))).eraseDups ∧
    (∀ id, (changed blocks changes).find? id =
      (changes.reverse.find? (·.id = id)).or (blocks.find? (·.id = id))) ∧
    (∀ ids, ∀ b ∈ (changed blocks changes).findMany ids,
      (changed blocks changes).find? b.id = some b) ∧
    ∀ b, (b ∈ (changed blocks changes).starting ∨ ∃ id, b ∈ (changed blocks changes).previous id) →
      (changed blocks changes).find? b.id = some b ∨ IsHidden blocks b := by
  refine ⟨⟨fun h => ?_, fun h => agrees_changed h changes⟩, ids_foldl_upsert _ _,
    find?_foldl_upsert _ _, fun ids b hb => find?_of_mem_findMany hb, fun b hb => ?_⟩
  · exact nodup_ids_foldl_upsert.mp h.nodup
  · have hmem : b ∈ (changed blocks changes).blocks := by
      obtain hb | ⟨id, hb⟩ := hb
      · exact List.mem_of_mem_filter hb
      · exact List.mem_of_mem_filter hb
    exact (find?_eq_or_isHidden hmem).imp_right isHidden_of_foldl_upsert

end BlockStore

namespace Sample

/-- Two blocks of one id, of which only the second one starts conversations. -/
def menus : List Block :=
  [Block.plain "menu" "Menu" (.texts ["Old"]),
    { Block.plain "menu" "New menu" (.texts ["New"]) with startsConversation := true }]

end Sample

namespace BlockStore

/-- A store that was filled with two blocks of one id: it holds both, starts conversations at the
second one and finds the first one by the id. -/
theorem lookups_disagree :
    (changed Sample.menus []).ids = ["menu", "menu"] ∧
      (changed Sample.menus []).starting.map (·.name) = ["New menu"] ∧
      ((changed Sample.menus []).find? "menu").map (·.name) = some "Menu" ∧
      ¬ (changed Sample.menus []).Agrees Sample.menus := by
  refine ⟨rfl, rfl, by decide, fun h => ?_⟩
  exact absurd h.nodup (by decide)

end BlockStore

end Chatflow

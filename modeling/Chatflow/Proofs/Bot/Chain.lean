import Chatflow.Bot.Chain
import Mathlib.Data.List.Nodup
import Mathlib.Data.List.Perm.Subperm

/-!
# Chains of attached blocks

How a chain goes on after a block: three lemmas are the cases of `BlockStore.chainAfter`, without
the proofs that it carries for its termination.

What the blocks of a chain are can be said without the search for them (`BlockStore.IsChain`): they
follow a block link by link, and the links are cut where the next block has the id of one before
it. `BlockStore.isChain_chain` says that the search finds them, and `BlockStore.IsChain.length_le`
that there is one more of them than blocks in the store at most.
-/

namespace Chatflow

namespace BlockStore

variable {s : BlockStore} {visited : List String} {b next : Block} {id : String}

theorem chainAfter_last (h : b.attachedBlock = none) : s.chainAfter visited b = .last b := by
  rw [chainAfter]
  split
  · rfl
  · simp_all

theorem chainAfter_missing (h : b.attachedBlock = some id) (hf : s.find? id = none) :
    s.chainAfter visited b = .missing b id := by
  rw [chainAfter]
  split
  · simp_all
  · rename_i id' hid
    obtain rfl : id = id' := Option.some.inj (h.symm.trans hid)
    split <;> simp_all

theorem chainAfter_found (h : b.attachedBlock = some id) (hf : s.find? id = some next) :
    s.chainAfter visited b =
      if (b.id :: visited).contains next.id then .cycle b next.id
      else .link b (s.chainAfter (b.id :: visited) next) := by
  rw [chainAfter]
  split
  · simp_all
  · rename_i id' hid
    obtain rfl : id = id' := Option.some.inj (h.symm.trans hid)
    split
    · simp_all
    · rename_i next' hf'
      obtain rfl : next = next' := Option.some.inj (hf.symm.trans hf')
      split <;> simp_all

end BlockStore

/-! ### The blocks of a chain -/

namespace Chain

/-- The blocks of a chain, in order. -/
def blocks : Chain → List Block
  | .last b | .missing b _ | .cycle b _ => [b]
  | .link b rest => b :: rest.blocks

/-- A chain stops at a block for a reason that the block and the store give. -/
inductive Stops (s : BlockStore) (final : Block) : Chain → Prop where
  | last (h : final.attachedBlock = none) : Stops s final (.last final)
  | missing {id : String} (h : final.attachedBlock = some id) (hf : s.find? id = none) :
      Stops s final (.missing final id)
  | cycle {id : String} {next : Block} (h : final.attachedBlock = some id)
      (hf : s.find? id = some next) : Stops s final (.cycle final next.id)
  | link {b : Block} {rest : Chain} (h : Stops s final rest) : Stops s final (.link b rest)

end Chain

namespace BlockStore

variable {s : BlockStore} {visited : List String} {b next : Block} {blocks : List Block}

/-- The block attached to a block, if it is there. -/
def attached? (s : BlockStore) (b : Block) : Option Block := b.attachedBlock.bind s.find?

/-- The block to which a number of links lead from a block. -/
def linked? (s : BlockStore) (b : Block) : Nat → Option Block
  | 0 => some b
  | n + 1 => (s.linked? b n).bind s.attached?

/-- Some blocks are the chain of a block: they follow it link by link, no two of them have the same
id, and if there is a next block it has the id of one of them. -/
structure IsChain (s : BlockStore) (b : Block) (blocks : List Block) : Prop where
  /-- The blocks follow link by link. -/
  linked : ∀ n < blocks.length, blocks[n]? = s.linked? b n
  /-- No two have the same id. -/
  nodup : (blocks.map (·.id)).Nodup
  /-- The next block has the id of one of them. -/
  stops : ∀ next, s.linked? b blocks.length = some next → next.id ∈ blocks.map (·.id)

/-- The first link may be taken by itself. -/
theorem linked?_succ (h : s.attached? b = some next) (n : Nat) :
    s.linked? b (n + 1) = s.linked? next n := by
  induction n with
  | zero => exact h
  | succ n ih => exact congrArg (·.bind s.attached?) ih

namespace IsChain

theorem ne_nil (h : s.IsChain b blocks) : blocks ≠ [] := by
  rintro rfl
  exact absurd (h.stops b rfl) List.not_mem_nil

/-- Of two chains of a block neither is longer. -/
theorem length_le_length {blocks' : List Block} (h : s.IsChain b blocks)
    (h' : s.IsChain b blocks') : blocks'.length ≤ blocks.length := by
  refine Nat.le_of_not_lt fun hlt => ?_
  -- the block after the shorter chain is in the longer one, but its id was there before
  have hnext : s.linked? b blocks.length = some blocks'[blocks.length] := by
    rw [← h'.linked _ hlt, List.getElem?_eq_getElem hlt]
  obtain ⟨x, hx, hid⟩ := List.mem_map.mp (h.stops _ hnext)
  obtain ⟨n, hn, rfl⟩ := List.mem_iff_getElem.mp hx
  have hn' : n < blocks'.length := Nat.lt_trans hn hlt
  have hsame : blocks[n]? = blocks'[n]? := by rw [h.linked n hn, h'.linked n hn']
  rw [List.getElem?_eq_getElem hn, List.getElem?_eq_getElem hn'] at hsame
  have hmap : n < (blocks'.map (·.id)).length := by rwa [List.length_map]
  have hmap' : blocks.length < (blocks'.map (·.id)).length := by rwa [List.length_map]
  have hids : (blocks'.map (·.id))[n] = (blocks'.map (·.id))[blocks.length] := by
    rw [List.getElem_map, List.getElem_map, ← Option.some.inj hsame, hid]
  exact absurd (h'.nodup.getElem_inj_iff.mp hids) (Nat.ne_of_lt hn)

/-- A block has one chain. -/
theorem unique {blocks' : List Block} (h : s.IsChain b blocks) (h' : s.IsChain b blocks') :
    blocks = blocks' := by
  have hlength := Nat.le_antisymm (h'.length_le_length h) (h.length_le_length h')
  refine List.ext_getElem? fun n => ?_
  obtain hn | hn := Nat.lt_or_ge n blocks.length
  · rw [h.linked n hn, h'.linked n (hlength ▸ hn)]
  · rw [List.getElem?_eq_none hn, List.getElem?_eq_none (hlength ▸ hn)]

/-- What is attached to the last block has the id of a block of the chain. -/
theorem mem_of_attached {final : Block} (h : s.IsChain b blocks)
    (hlast : blocks.getLast? = some final) (hnext : s.attached? final = some next) :
    next.id ∈ blocks.map (·.id) := by
  refine h.stops next ?_
  rw [List.getLast?_eq_getElem?] at hlast
  have hlength := List.length_pos_iff.mpr h.ne_nil
  obtain ⟨n, hn⟩ := Nat.exists_eq_add_of_lt hlength
  rw [Nat.zero_add] at hn
  rw [hn, Nat.add_sub_cancel, h.linked n (by omega)] at hlast
  rw [hn, linked?, hlast, Option.bind_some, hnext]

/-- All blocks of a chain but the first are in the store. -/
theorem mem_of_mem_tail (h : s.IsChain b blocks) {x : Block} (hx : x ∈ blocks.tail) :
    x ∈ s.blocks := by
  obtain ⟨n, hn, rfl⟩ := List.mem_iff_getElem.mp hx
  rw [List.length_tail] at hn
  have hlinked := h.linked (n + 1) (by omega)
  rw [List.getElem?_eq_getElem (by omega)] at hlinked
  obtain ⟨y, -, hy⟩ := Option.bind_eq_some_iff.mp hlinked.symm
  obtain ⟨id, -, hid⟩ := Option.bind_eq_some_iff.mp hy
  rw [List.getElem_tail]
  exact List.mem_of_find?_eq_some hid

/-- A chain is no longer than the store, but for the first block. -/
theorem length_le (h : s.IsChain b blocks) : blocks.length ≤ s.size + 1 := by
  have htail : blocks.tail.Nodup := (h.nodup.of_map _).tail
  have hsub := (List.subperm_of_subset htail fun x hx => h.mem_of_mem_tail hx).length_le
  rw [List.length_tail] at hsub
  exact Nat.le_add_of_sub_le hsub

end IsChain

/-- What the chain after some visited ids is. -/
structure IsChainAfter (s : BlockStore) (visited : List String) (b : Block)
    (blocks : List Block) : Prop where
  /-- The blocks follow link by link. -/
  linked : ∀ n < blocks.length, blocks[n]? = s.linked? b n
  /-- No two have the same id, and none has a visited one. -/
  nodup : (visited.reverse ++ blocks.map (·.id)).Nodup
  /-- The next block has the id of one of them, or a visited one. -/
  stops : ∀ next, s.linked? b blocks.length = some next →
    next.id ∈ visited.reverse ++ blocks.map (·.id)

/-- A chain of one block. -/
theorem IsChainAfter.single (hnodup : (b.id :: visited).Nodup)
    (h : ∀ next, s.attached? b = some next → next.id ∈ b.id :: visited) :
    s.IsChainAfter visited b [b] where
  linked n hn := by
    obtain rfl : n = 0 := Nat.lt_one_iff.mp hn
    rfl
  nodup := by
    have hreverse := List.nodup_reverse.mpr hnodup
    rwa [List.reverse_cons] at hreverse
  stops next hnext := by
    have hmem := List.mem_reverse.mpr (h next hnext)
    rwa [List.reverse_cons] at hmem

/-- A chain goes on with the chain of the next block. -/
theorem IsChainAfter.cons (hnext : s.attached? b = some next)
    (h : s.IsChainAfter (b.id :: visited) next blocks) :
    s.IsChainAfter visited b (b :: blocks) where
  linked n hn := by
    cases n with
    | zero => rfl
    | succ n =>
      rw [linked?_succ hnext, List.getElem?_cons_succ]
      exact h.linked n (Nat.lt_of_succ_lt_succ hn)
  nodup := by
    have hnodup := h.nodup
    rwa [List.reverse_cons, List.append_assoc] at hnodup
  stops last hlast := by
    rw [List.length_cons, linked?_succ hnext] at hlast
    have hmem := h.stops last hlast
    rwa [List.reverse_cons, List.append_assoc] at hmem

theorem isChainAfter_chainAfter (hnodup : (b.id :: visited).Nodup) :
    s.IsChainAfter visited b (s.chainAfter visited b).blocks := by
  -- the induction is that of the search, which carries the visited ids
  induction visited, b using chainAfter.induct (s := s) with
  | case1 visited b h =>
    rw [chainAfter_last h]
    exact .single hnodup fun next hnext => by simp [attached?, h] at hnext
  | case2 visited b id h hf =>
    rw [chainAfter_missing h hf]
    exact .single hnodup fun next hnext => by simp [attached?, h, hf] at hnext
  | case3 visited b id h next hf hv =>
    rw [chainAfter_found h hf, if_pos hv]
    refine .single hnodup fun next' hnext => ?_
    obtain rfl : next = next' := by simpa [attached?, h, hf] using hnext
    simpa using hv
  | case4 visited b id h next hf hv _ ih =>
    rw [chainAfter_found h hf, if_neg hv]
    have hnext : s.attached? b = some next := by simp [attached?, h, hf]
    have hfresh : next.id ∉ b.id :: visited := by simpa using hv
    exact .cons hnext (ih (List.nodup_cons.mpr ⟨hfresh, hnodup⟩))

/-- **The search finds the chain.** -/
theorem isChain_chain (s : BlockStore) (b : Block) : s.IsChain b (s.chain b).blocks := by
  have hchain := isChainAfter_chainAfter (s := s) (List.nodup_singleton b.id)
  exact ⟨hchain.linked, hchain.nodup, hchain.stops⟩

/-- The blocks of a chain are its first one and others of the store. -/
theorem mem_of_mem_chain {x : Block} (hx : x ∈ (s.chain b).blocks) : x = b ∨ x ∈ s.blocks := by
  have hchain := s.isChain_chain b
  cases hblocks : (s.chain b).blocks with
  | nil => exact absurd hblocks hchain.ne_nil
  | cons first rest =>
    have hfirst := hchain.linked 0 (List.length_pos_iff.mpr hchain.ne_nil)
    rw [hblocks] at hfirst hx
    obtain rfl := Option.some.inj hfirst
    obtain rfl | hx := List.mem_cons.mp hx
    · exact .inl rfl
    · refine .inr (hchain.mem_of_mem_tail ?_)
      rwa [hblocks]

/-- A chain stops at its last block. -/
theorem exists_stops_chainAfter (s : BlockStore) (visited : List String) (b : Block) :
    ∃ final, (s.chainAfter visited b).blocks.getLast? = some final ∧
      (s.chainAfter visited b).Stops s final := by
  induction visited, b using chainAfter.induct (s := s) with
  | case1 visited b h =>
    rw [chainAfter_last h]
    exact ⟨b, rfl, .last h⟩
  | case2 visited b id h hf =>
    rw [chainAfter_missing h hf]
    exact ⟨b, rfl, .missing h hf⟩
  | case3 visited b id h next hf hv =>
    rw [chainAfter_found h hf, if_pos hv]
    exact ⟨b, rfl, .cycle h hf⟩
  | case4 visited b id h next hf hv _ ih =>
    rw [chainAfter_found h hf, if_neg hv]
    obtain ⟨final, hlast, hstops⟩ := ih
    refine ⟨final, ?_, .link hstops⟩
    rw [Chain.blocks, List.getLast?_cons, hlast]
    rfl

theorem exists_stops_chain (s : BlockStore) (b : Block) :
    ∃ final, (s.chain b).blocks.getLast? = some final ∧ (s.chain b).Stops s final :=
  s.exists_stops_chainAfter [] b

end BlockStore

end Chatflow

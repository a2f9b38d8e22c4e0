import Chatflow.Store.Blocks

/-!
# Chains of attached blocks

A block may have another attached to it, which is sent right after it. `BlockStore.chain` follows
the attached blocks from a block on until one has none, names one that is not there, or comes back
to a block of the chain. It ends, since no id of the store occurs twice.
-/

namespace Chatflow

/-- A block with the blocks sent after it, down to how they stop. -/
inductive Chain where
  /-- Nothing is attached to the block. -/
  | last (block : Block)
  /-- What is attached to the block is not there. -/
  | missing (block : Block) (attached : String)
  /-- What is attached to the block is itself or a block before it. -/
  | cycle (block : Block) (attached : String)
  /-- More blocks follow the block. -/
  | link (block : Block) (rest : Chain)

namespace BlockStore

/-- The number of blocks whose ids are not among some. -/
def unvisited (s : BlockStore) (visited : List String) : Nat :=
  s.blocks.countP fun b => !visited.contains b.id

theorem unvisited_lt {s : BlockStore} {visited : List String} {b : Block} (hb : b ∈ s.blocks)
    (hv : visited.contains b.id = false) : s.unvisited (b.id :: visited) < s.unvisited visited := by
  simp only [unvisited, List.countP_eq_length_filter]
  have hsub : s.blocks.filter (fun x => !(b.id :: visited).contains x.id) =
      (s.blocks.filter fun x => !visited.contains x.id).filter fun x => x.id ≠ b.id := by
    rw [List.filter_filter]
    apply List.filter_congr
    intro x _
    by_cases h : x.id = b.id <;> simp [h]
  rw [hsub]
  exact List.length_filter_lt_length_iff_exists.2
    ⟨b, List.mem_filter.2 ⟨hb, by simpa using hv⟩, by simp⟩

/-- The chain of a block after some whose ids were visited. -/
def chainAfter (s : BlockStore) (visited : List String) (b : Block) : Chain :=
  match b.attachedBlock with
  | none => .last b
  | some id =>
    match h : s.find? id with
    | none => .missing b id
    | some next =>
      if hv : (b.id :: visited).contains next.id then .cycle b next.id
      else
        have : s.unvisited (next.id :: b.id :: visited) < s.unvisited (b.id :: visited) :=
          unvisited_lt (List.mem_of_find?_eq_some h) (by simpa using hv)
        .link b (s.chainAfter (b.id :: visited) next)
termination_by s.unvisited (b.id :: visited)

/-- The chain of a block. -/
def chain (s : BlockStore) (b : Block) : Chain := s.chainAfter [] b

end BlockStore

end Chatflow

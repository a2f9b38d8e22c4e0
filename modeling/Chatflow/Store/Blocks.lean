import Chatflow.Block.Basic

/-!
# Block store

The blocks of a flow, in the order in which they were given.
-/

namespace Chatflow

/-- The blocks of a flow. -/
structure BlockStore where
  /-- The blocks, oldest first. -/
  blocks : List Block
  deriving DecidableEq

namespace BlockStore

/-- The store with the given blocks, all of them kept. -/
def ofList (blocks : List Block) : BlockStore := ⟨blocks⟩

/-- A block put in the place of the first one with its id, or at the end. -/
def upsertInto (b : Block) : List Block → List Block
  | [] => [b]
  | x :: rest => if x.id = b.id then b :: rest else x :: upsertInto b rest

/-- The store with a block added, in the place of the one with its id. -/
def upsert (s : BlockStore) (b : Block) : BlockStore := ⟨upsertInto b s.blocks⟩

/-- The first block with an id. -/
def find? (s : BlockStore) (id : String) : Option Block := s.blocks.find? (·.id = id)

/-- The blocks of some ids, in that order; ids without a block are passed over. -/
def findMany (s : BlockStore) (ids : List String) : List Block := ids.filterMap s.find?

/-- The blocks that can start a conversation. -/
def starting (s : BlockStore) : List Block := s.blocks.filter (·.startsConversation)

/-- The blocks that name an id among their next blocks. -/
def previous (s : BlockStore) (id : String) : List Block :=
  s.blocks.filter (·.nextBlocks.contains id)

/-- The number of blocks. -/
def size (s : BlockStore) : Nat := s.blocks.length

end BlockStore

end Chatflow

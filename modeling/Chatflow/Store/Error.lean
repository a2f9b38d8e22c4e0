/-!
# Store errors

Why a store did not do what it was asked.
-/

namespace Chatflow

/-- Why a store did not do what it was asked. -/
inductive StoreError where
  /-- There is no such record. -/
  | notFound (entity id : String)
  /-- The write would break a rule of the store. -/
  | conflict (reason : String)
  /-- The store itself failed. -/
  | backend (reason : String)
  deriving DecidableEq, Repr

namespace StoreError

/-- The text of a store error. -/
def message : StoreError → String
  | .notFound entity id => entity ++ " '" ++ id ++ "' not found"
  | .conflict reason => "conflict: " ++ reason
  | .backend reason => "store backend error: " ++ reason

end StoreError

end Chatflow

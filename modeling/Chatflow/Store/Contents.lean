import Chatflow.Message.Envelope

/-!
# Content store

The entries of each content type, in the order in which they were given, and their pages.
-/

namespace Chatflow

/-- The entries of all content types. -/
structure ContentStore where
  /-- The entries by their type, oldest first. -/
  entries : Dict (List Json)
  deriving DecidableEq

namespace ContentStore

/-- No entry yet. -/
def empty : ContentStore := ⟨.empty⟩

/-- The entries of a type. -/
def ofType (s : ContentStore) (type : String) : List Json := (s.entries.find? type).getD []

/-- The store with an entry added at the end of its type. -/
def insert (s : ContentStore) (type : String) (entry : Json) : ContentStore :=
  ⟨s.entries.insert type (s.ofType type ++ [entry])⟩

/-- The page of the entries that options ask for, after some entries. -/
def page (s : ContentStore) (options : Content.Options) (skip : UInt32) : ContentPage :=
  let all := s.ofType options.contentType
  ⟨(all.drop skip.toNat).take options.limit.toNat,
    ⟨UInt64.ofNat all.length, skip.toUInt64, options.limit.toUInt64⟩, options⟩

end ContentStore

end Chatflow

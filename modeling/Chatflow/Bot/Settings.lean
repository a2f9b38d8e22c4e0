import Chatflow.Json.Decode

/-!
# Settings

What a bot does when no block answers, the contact data for its texts, and its languages.
-/

namespace Chatflow

/-- The settings of a bot. -/
structure Settings where
  /-- Whether it answers when no block does. -/
  globalFallback : Bool
  /-- The block that answers then. -/
  fallbackBlock : Option String
  /-- The texts of which one answers then, if that block is not there. -/
  fallbackMessages : List String
  /-- The contact data for tokens. -/
  contact : Dict String
  /-- The accepted languages. -/
  languages : List String
  deriving DecidableEq

namespace Settings

/-- The settings of a bot that was not told any. -/
def none : Settings := ⟨false, .none, [], .empty, []⟩

/-- Reads settings; each may be missing. -/
def ofJson? : Decoder Settings := fun v => do
  let r ← Record.ofJson?
    ["global_fallback", "fallback_block", "fallback_message", "contact", "languages"] v
  return {
    globalFallback := ← r.withDefault "global_fallback" Decode.bool false
    fallbackBlock := ← r.optional "fallback_block" Decode.text
    fallbackMessages := ← r.withDefault "fallback_message" (Decode.list Decode.text) []
    contact := ← r.withDefault "contact" (Decode.dict Decode.text) .empty
    languages := ← r.withDefault "languages" (Decode.list Decode.text) [] }

/-- The JSON form of settings. -/
def toJson (s : Settings) : Json :=
  .record [("global_fallback", .bool s.globalFallback),
    ("fallback_block", Json.orNull .str s.fallbackBlock),
    ("fallback_message", .texts s.fallbackMessages), ("contact", .ofDict (s.contact.map .str)),
    ("languages", .texts s.languages)]

end Settings

end Chatflow

import Chatflow.Block.Basic
import Chatflow.Context
import Chatflow.Store.Error
import Chatflow.Text.Quoted

/-!
# Executors

Named functions that answer in place of a block's own message. A registry holds them by their
names; `Registry.validate` finds a block that names none of them. This module also has the reasons
why a block cannot be rendered.
-/

namespace Chatflow

/-! ### Errors -/

/-- Why a block could not be rendered. -/
inductive RenderError where
  /-- The file of an attachment is not a stored one. -/
  | remoteAttachment
  /-- There is no executor of that name. -/
  | unknownExecutor (name : String)
  /-- A block that shows content does not say which. -/
  | missingContentOptions (block : String)
  /-- There is no text to choose. -/
  | invalidFormat (block : String)
  /-- The content could not be had. -/
  | content (cause : StoreError)
  /-- An executor failed. -/
  | executor (name reason : String)
  deriving DecidableEq, Repr

namespace RenderError

/-- The text of a rendering error. -/
def message : RenderError → String
  | .remoteAttachment => "Remote attachments are no longer supported"
  | .unknownExecutor name => "unknown block executor '" ++ name ++ "'"
  | .missingContentOptions block => "block '" ++ block ++ "' has no content options"
  | .invalidFormat block => "invalid message format for block '" ++ block ++ "'"
  | .content cause => "unable to retrieve content: " ++ cause.message
  | .executor name reason => "executor '" ++ name ++ "' failed: " ++ reason

end RenderError

/-! ### Executors -/

/-- A function that answers for a block, in a context and for a conversation, if there is one. -/
abbrev Executor := Block → Context → (conversationId : Option String) →
  Except RenderError Envelope

namespace Executor

/-- The executors by their names. -/
abbrev Registry := Dict Executor

namespace Registry

/-- The name of the first block that asks for an executor which is not there. -/
def validate (r : Registry) : List Block → Except RenderError Unit
  | [] => .ok ()
  | b :: rest =>
    match b.message with
    | .plugin name _ => if r.contains name then validate r rest else .error (.unknownExecutor name)
    | .texts _ | .quickReplies _ _ | .buttons _ _ | .attachment _ _ | .content _ => validate r rest

/-- The text of a registry in diagnostics. -/
def describe (r : Registry) : String :=
  "ExecutorRegistry \x7b executors: " ++ Text.quoteAll r.keys ++ " \x7d"

end Registry

end Executor

end Chatflow

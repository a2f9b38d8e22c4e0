import Chatflow.Rendering.Executor
import Chatflow.Rendering.Template
import Chatflow.Store.Contents

/-!
# Rendering blocks

The envelope of a block's message, or of the text with which it asks again. Where a block has
several texts one is chosen by a number drawn for it (`pick?`). The content store is given as a
function, since getting a page may fail.
-/

namespace Chatflow

/-- Where pages of content come from. -/
abbrev PageSource := Content.Options → (skip : UInt32) → Except StoreError ContentPage

/-- The text chosen by a drawn number; none when there is none to choose. -/
def pick? (roll : Nat) (texts : List String) : Option String := texts[roll % texts.length]?

/-- What rendering draws on beside the block. -/
structure Renderer where
  /-- Where pages of content come from. -/
  pages : PageSource
  /-- The executors. -/
  executors : Executor.Registry
  /-- The contact data for tokens. -/
  contact : Dict String

/-- The content that the message of a block shows; none when it asks again. -/
def Block.shownContent? (b : Block) (fallback : Bool) : Option Content.Options :=
  if fallback && b.options.fallback.isSome then none
  else
    match b.message with
    | .content _ => b.options.content
    | _ => none

namespace Renderer

/-- The envelope of one of some texts. -/
def oneOf (block : Block) (roll : Nat) (texts : List String) (text : String → String) :
    Except RenderError Envelope :=
  match pick? roll texts with
  | some t => .ok (.text (text t))
  | none => .error (.invalidFormat block.id)

/-- The envelope of the message of a block. -/
def message (r : Renderer) (block : Block) (c : Context) (vars : Dict Json)
    (conversationId : Option String) (roll : Nat) : Except RenderError Envelope :=
  let text (t : String) := Template.render t c vars r.contact
  match block.message with
  | .texts ts => oneOf block roll ts text
  | .quickReplies t replies =>
    if replies.isEmpty then .ok (.text (text t))
    else .ok (.quickReplies (text t) (replies.map fun q => { q with title := q.title.map text }))
  | .buttons t bs =>
    if bs.isEmpty then .ok (.text (text t))
    else .ok (.buttons (text t) (bs.map fun b => b.withTitle (text b.title)))
  | .attachment file replies =>
    if file.id.isNone then .error .remoteAttachment else .ok (.attachment file replies)
  | .content _ =>
    match block.options.content with
    | none => .error (.missingContentOptions block.id)
    | some options =>
      match r.pages options (c.skipFor block.id) with
      | .error cause => .error (.content cause)
      | .ok page =>
        match options.display with
        | .list => .ok (.list page)
        | .carousel => .ok (.carousel page)
  | .plugin name _ =>
    match r.executors.find? name with
    | none => .error (.unknownExecutor name)
    | some execute => execute block c conversationId

/-- The envelope of a block: of its message, or when it asks again of one of its texts for that,
if it has a policy. -/
def process (r : Renderer) (block : Block) (c : Context) (vars : Dict Json) (fallback : Bool)
    (conversationId : Option String) (roll : Nat) : Except RenderError Envelope :=
  match fallback, block.options.fallback with
  | true, some policy =>
    oneOf block roll policy.messages fun t => Template.render t c vars r.contact
  | _, _ => r.message block c vars conversationId roll

end Renderer

end Chatflow

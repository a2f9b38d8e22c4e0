import Chatflow.Bot.Chain
import Chatflow.Bot.Sending
import Chatflow.Matching.Basic

/-!
# Turns

A turn is what a bot does on one event (`Bot.handle`). An active conversation of the sender is
continued: by the next block that answers the event, or else by asking again, as long as the
current block allows it (`Bot.proceed`). If that comes to nothing the conversation ends, and a block
that can start a conversation may answer (`Bot.start`). If none does, the bot falls back on what
the settings say (`Bot.fallBack`).

A step of a conversation that fails leaves the conversation as it was then (`Step`), so that it
can be ended and reported.
-/

namespace Chatflow

/-- What came of a turn. -/
inductive Outcome where
  /-- The conversation went on. -/
  | conversation
  /-- A block started a conversation. -/
  | started (block : String)
  /-- The fallback block started a conversation. -/
  | fallbackBlock (block : String)
  /-- A fallback text was sent. -/
  | fallbackMessage
  /-- Nothing was said. -/
  | unhandled
  deriving DecidableEq, Repr

namespace Outcome

/-- The name of an outcome. -/
def name : Outcome → String
  | .conversation => "conversation"
  | .started _ => "started"
  | .fallbackBlock _ => "fallback_block"
  | .fallbackMessage => "fallback_message"
  | .unhandled => "unhandled"

/-- The name of the block that started a conversation. -/
def block? : Outcome → Option String
  | .started block => some block
  | .fallbackBlock block => some block
  | _ => none

/-- Whether something was said. -/
def isHandled (o : Outcome) : Bool := o ≠ .unhandled

/-- The JSON form of an outcome. -/
def toJson (o : Outcome) : Json :=
  .record ([("outcome", .str o.name), ("handled", .bool o.isHandled)] ++
    Json.field? "block" .str o.block?)

end Outcome

/-! ### Asking again -/

namespace Conversation

/-- Whether the current block asks again when no block answers. -/
def asksAgain (c : Conversation) : Bool :=
  match c.current.bind (·.options.fallback) with
  | some policy => policy.active && c.context.attempt ≤ policy.maxAttempts
  | none => false

/-- The current block as it asks again: it leads to the blocks that the conversation waits for, and
does nothing to the subscriber. -/
def askingBlock? (c : Conversation) : Option Block :=
  c.current.map fun b => { b with
    nextBlocks := c.nextIds
    assignLabels := []
    triggerLabels := []
    captures := []
    attachedBlock := none
    category := none }

/-- The conversation with another count of attempts. -/
def withAttempt (c : Conversation) (attempt : UInt32) : Conversation :=
  { c with context := { c.context with attempt := attempt } }

end Conversation

/-- A step of a conversation: the conversation after it, or an error and the conversation as it
was then. -/
abbrev Step := ExceptT (BotError × Conversation) Turn Conversation

namespace Bot

variable (bot : Bot)

/-- A step that fails with the conversation as it is. -/
def keeping {α : Type} (c : Conversation) (x : Attempt α) :
    ExceptT (BotError × Conversation) Turn α :=
  ExceptT.adapt (·, c) x

/-! ### Steps of a conversation -/

/-- Ends a conversation, on an error if there is one. That the store cannot end it is passed
over. -/
def finish (c : Conversation) (error : Option String) : Turn Conversation := do
  let c := { c with active := false }
  emit (.conversationEnd c error)
  let _ ← (bot.endConversation c.id).run
  return c

/-- Takes the event that triggers a block into the context of a conversation. What is kept with
the subscriber is written first. -/
def enter (event : Event) (block : Block) (permanent : Bool) (c : Conversation) : Step := do
  let update := c.context.update block event permanent
  if !update.kept.isEmpty then
    if let some sender := event.sender then
      keeping c (bot.updateVars sender.id update.kept)
  let c := { c with context := update.context }
  keeping c (bot.updateConversation c)
  return c

/-- Stands a conversation at a block whose message was sent, or ends it if nothing can follow. -/
def settle (block : Block) (c : Conversation) : Step := do
  if block.nextBlocks.isEmpty then bot.finish c none
  else
    let next ← keeping c (bot.findBlocks block.nextBlocks)
    let c := { c with current := some block, next := next }
    keeping c (bot.updateConversation c)
    return c

/-- Looks up what is attached to a block. A fault ends the conversation. -/
def lookUp (c : Conversation) (found : Step) : Step := do
  match ← bot.meet .findBlock with
  | some fault => bot.finish c (some fault.storeError.message)
  | none => found

/-- Sends the message of a block in a conversation. -/
def say (event : Event) (fallback : Bool) (c : Conversation) (block : Block) :
    ExceptT (BotError × Conversation) Turn String :=
  keeping c (bot.send event block c.context fallback (some c.id))

/-- Sends the messages of a chain of blocks and stands the conversation at the last of them. -/
def walk (event : Event) (fallback : Bool) (c : Conversation) : Chain → Step
  | .last block => do
    let _ ← bot.say event fallback c block
    bot.settle block c
  | .missing block attached => do
    let _ ← bot.say event fallback c block
    bot.lookUp c (bot.finish c (some ("attached block '" ++ attached ++ "' not found")))
  | .cycle block attached => do
    let _ ← bot.say event fallback c block
    bot.lookUp c (bot.finish c (some (BotError.attachedCycle attached).message))
  | .link block rest => do
    let _ ← bot.say event fallback c block
    bot.lookUp c (walk event fallback c rest)

/-- Sends the message of a block and of those attached to it. -/
def trigger (event : Event) (block : Block) (fallback : Bool) (c : Conversation) : Step :=
  bot.walk event fallback c (bot.blocks.chain block)

/-! ### Starting and continuing -/

/-- Starts a conversation with the sender of an event at a block. If that fails it is ended. -/
def start (event : Event) (block : Block) : Attempt Unit := do
  let sender ← event.requireSender
  emit (.entry .popular block.name)
  let c ← bot.createConversation sender.id
  emit (.count .newConversations)
  let begin : Step := do
    let c ← bot.enter event block true c
    bot.trigger event block false c
  match ← begin.run with
  | .ok _ => return
  | .error (error, c) =>
    let _ ← bot.finish c (some error.message)
    throw error

/-- The next block of a conversation that answers an event. -/
def findNext (event : Event) (c : Conversation) : Attempt (Option BlockMatch) := do
  return event.matchBlock? (← bot.findBlocks c.nextIds)

/-- Counts an attempt in a conversation. -/
def countAttempt (fallback : Bool) (c : Conversation) : Turn Conversation := do
  if fallback then
    modify fun w =>
      { w with overflowed := w.overflowed || c.context.attempt.toNat + 1 = UInt32.size }
    return c.withAttempt (c.context.attempt + 1)
  else return c.withAttempt 0

/-- Goes on with a conversation at a block, which answers the event or asks again. If that fails
the conversation is ended. -/
def proceed (event : Event) (next : Block) (fallback : Bool) (c : Conversation) : Turn Bool := do
  let c ← countAttempt fallback c
  let advance : Step := do
    let c ← bot.enter event next (!fallback) c
    emit (.entry .popular next.name)
    bot.trigger event next fallback c
  match ← advance.run with
  | .ok _ => return true
  | .error (error, c) =>
    let _ ← bot.finish c (some error.message)
    return false

/-- Answers an event in a conversation, if possible; if not the conversation is ended. -/
def answer (event : Event) (c : Conversation) : Attempt Bool := do
  match ← ExceptT.lift (bot.findNext event c).run with
  | .error error =>
    let _ ← bot.finish c (some error.message)
    throw error
  | .ok (some found) => bot.proceed event found.block false c
  | .ok none =>
    match if c.asksAgain then c.askingBlock? else none with
    | some block => bot.proceed event block true c
    | none =>
      let _ ← bot.finish c none
      return false

/-- Answers an event in the active conversation of its sender, if there is one. -/
def continueActive (event : Event) : Attempt Bool := do
  let sender ← event.requireSender
  match ← bot.findActive sender.id with
  | none => return false
  | some c =>
    let handled ← bot.answer event c
    if handled then emit (.count .existingConversations)
    return handled

/-! ### Events -/

/-- The block whose message is one of the fallback texts. -/
def fallbackMessageBlock : Block :=
  { Block.plain "global-fallback" "Global Fallback" (.texts bot.settings.fallbackMessages) with
    builtin := true }

/-- Sends one of the fallback texts, if there are any. -/
def sayFallback (event : Event) : Attempt Outcome := do
  if bot.settings.fallbackMessages.isEmpty then return .unhandled
  else
    let _ ← bot.send event bot.fallbackMessageBlock .empty false none
    return .fallbackMessage

/-- Does what the settings say when no block answers an event. -/
def fallBack (event : Event) : Attempt Outcome := do
  if !bot.settings.globalFallback then return .unhandled
  let sender ← event.requireSender
  emit (.globalFallback sender.id)
  match bot.settings.fallbackBlock with
  | none => bot.sayFallback event
  | some id =>
    match ← bot.findBlock id with
    | none => bot.sayFallback event
    | some block =>
      bot.start event block
      return .fallbackBlock block.name

/-- Answers an event. -/
def handle (event : Event) : Attempt Outcome := do
  let _ ← event.requireSender
  let event := event.detectLanguage bot.settings.languages
  if ← bot.continueActive event then return .conversation
  let starting ← bot.findStarting
  match event.matchBlock? starting with
  | some found =>
    bot.start event found.block
    return .started found.block.name
  | none => bot.fallBack event

end Bot

end Chatflow

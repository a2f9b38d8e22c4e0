import Chatflow.Bot.World

/-!
# Sending

`Bot.send` renders the message of a block for the sender of an event, hands it to the channel that
the event came by, reports it and applies what the block does to the subscriber.
-/

namespace Chatflow

namespace Bot

variable (bot : Bot)

/-- The renderer of a bot in a world. -/
def renderer (w : World) : Renderer where
  pages options skip :=
    match bot.outages .getContent (w.made .getContent) with
    | some fault => .error fault.storeError
    | none => .ok (bot.contents.page options skip)
  executors := bot.executors
  contact := bot.settings.contact

/-- The envelope of a block, for a subscriber with variables of its own. -/
def render (block : Block) (c : Context) (vars : Dict Json) (fallback : Bool)
    (conversation : Option String) : Attempt Envelope := fun w =>
  let rendered :=
    (bot.renderer w).process block c vars fallback conversation (bot.rolls w.drawn)
  let w := { w with drawn := w.drawn + 1 }
  let w := if (block.shownContent? fallback).isSome then (bot.meet .getContent w).2 else w
  (rendered.mapError .render, w)

/-- How the message of a block is sent. -/
def sendOptions (block : Block) : SendOptions :=
  ⟨block.options.typing, block.options.assignTo, block.options.content⟩

/-- Hands a message to its channel. Gives its id. -/
def deliver (event : Event) (sent : Sent) : Attempt String := fun w =>
  let mid := w.nextMessageId
  match w.channels.find? sent.channel with
  | none => (.error (.channel (.notRegistered sent.channel)), w.failed .send)
  | some .recorder =>
    match bot.outages .send (w.made .send) with
    | some fault => (.error (.channel fault.channelError), (w.counted .send).failed .send)
    | none => (.ok mid, { w.counted .send with journal := w.journal ++ [sent] })
  | some (.widget outbox) =>
    match Widget.Outbox.delivery event sent.envelope sent.options mid with
    | .error cause => (.error (.channel cause), w.failed .send)
    | .ok (delivery, overflow) =>
      (.ok mid, { w with
        channels := w.channels.insert sent.channel (.widget (outbox.push delivery))
        journal := w.journal ++ [sent]
        overflowed := w.overflowed || overflow })

/-- Reports that a message was sent. -/
def report (mid : String) (recipient : Subscriber) (block : Block) (fallback : Bool) :
    Turn Unit := do
  emit (.count .outgoing)
  emit (.count .allMessages)
  emit (.messageSent mid recipient.id block.options.assignTo)
  emit (.blockTriggered block.name fallback)

/-- Sends the message of a block to the sender of an event. Gives its id. -/
def send (event : Event) (block : Block) (c : Context) (fallback : Bool)
    (conversation : Option String) : Attempt String := do
  let recipient ← event.requireSender
  let envelope ← bot.render block c recipient.vars fallback conversation
  let mid ← bot.deliver event
    ⟨event.channel, recipient.foreignId, block, fallback, c, conversation, envelope,
      sendOptions block⟩
  report mid recipient block fallback
  bot.applyUpdates recipient.id block.assignLabels block.options.assignTo
  return mid

end Bot

end Chatflow

import Chatflow.Bot.Turn
import Chatflow.Proofs.Bot.Calls

/-!
# Computations that keep to a relation

What a computation does to the world can be said as a relation between the world before it and the
world after it (`Keeps`). A relation that passes from two computations to one after the other is
known for a whole move once it is known for the few calls that matter to it. To send a message these
are the deliveries (`Bot.Carries`). To send a chain of messages, and to let the conversation stand at
its end or be over, these are besides what is written of the conversation (`Bot.Follows`). All else
is bookkeeping, across which the relation has to hold anyway (`World.Rests`).
-/

namespace Chatflow

/-- A computation leads from every world to one in relation to it. -/
def Keeps (R : World → World → Prop) {β : Type} (x : World → β × World) : Prop :=
  ∀ w, R w (x w).2

namespace World

/-- The conversations, the channels and the journal stay as they are, and no count leaves its
range. -/
structure Rests (w w' : World) : Prop where
  conversations : w'.conversations = w.conversations
  channels : w'.channels = w.channels
  journal : w'.journal = w.journal
  overflowed : w'.overflowed = w.overflowed

end World

namespace Keeps

variable {R : World → World → Prop} {ε ε' α β : Type}

theorem lift {x : Turn α} (hx : Keeps R x) : Keeps R (liftM x : ExceptT ε Turn α) := hx

theorem adapt {f : ε → ε'} {x : ExceptT ε Turn α} (hx : Keeps R x) :
    Keeps R (ExceptT.adapt f x) := hx

end Keeps

namespace Bot

/-- A relation holds across all that is done to send a message to the sender of an event. -/
structure Carries (bot : Bot) (e : Event) (R : World → World → Prop) : Prop where
  /-- It holds across bookkeeping. -/
  rests : ∀ {w w' : World}, w.Rests w' → R w w'
  /-- It holds across two things if it does across each. -/
  trans : ∀ {w₁ w₂ w₃ : World}, R w₁ w₂ → R w₂ w₃ → R w₁ w₃
  /-- It holds across a delivery to the sender. -/
  deliver : ∀ (x : Sent) (s : Subscriber), e.sender = some s → x.channel = e.channel →
    x.recipient = s.foreignId → Keeps R (bot.deliver e x)

/-- A relation holds across all that is done in a conversation once a block is entered. -/
structure Follows (bot : Bot) (e : Event) (c : Conversation) (R : World → World → Prop) : Prop
    extends Carries bot e R where
  /-- It holds when the conversation comes to stand at a block. -/
  stand : ∀ current next,
    Keeps R (bot.updateConversation { c with current := current, next := next })
  /-- It holds when a conversation is ended on record. -/
  ended : ∀ id, Keeps R (bot.endConversation id)

variable {bot : Bot} {e : Event} {R : World → World → Prop} {ε α β : Type}

/-! ### Sending -/

namespace Carries

variable (r : bot.Carries e R)

include r

theorem of_rests {x : World → α × World} (h : ∀ w : World, w.Rests (x w).2) : Keeps R x :=
  fun w => r.rests (h w)

theorem pure (a : α) : Keeps R (Pure.pure a : ExceptT ε Turn α) :=
  r.of_rests fun _ => ⟨rfl, rfl, rfl, rfl⟩

theorem bind {x : ExceptT ε Turn α} {f : α → ExceptT ε Turn β} (hx : Keeps R x)
    (hf : ∀ a, Keeps R (f a)) : Keeps R (x >>= f) := by
  intro w
  have hfirst := hx w
  rw [run_bind]
  generalize x w = run at hfirst
  obtain ⟨err | a, w'⟩ := run
  · exact hfirst
  · exact r.trans hfirst (hf a w')

theorem turn_bind {x : Turn α} {f : α → Turn β} (hx : Keeps R x) (hf : ∀ a, Keeps R (f a)) :
    Keeps R (x >>= f) := fun w => r.trans (hx w) (hf _ _)

theorem emit (event : Telemetry.Event) : Keeps R (Chatflow.emit event) :=
  r.of_rests fun _ => ⟨rfl, rfl, rfl, rfl⟩

theorem meet (call : Call) : Keeps R (bot.meet call) := r.of_rests fun w => by
  obtain ⟨fault, h⟩ | h := bot.meet_cases w call <;> rw [h] <;> exact ⟨rfl, rfl, rfl, rfl⟩

/-- A call that only reads. -/
theorem ask_read {call : Call} (f : World → α) :
    Keeps R (bot.ask call fun w => .ok (f w, w)) := r.of_rests fun w => by
  obtain ⟨err, h⟩ | h := bot.ask_read w call f <;> rw [h] <;> exact ⟨rfl, rfl, rfl, rfl⟩

/-- A call that writes to the subscribers. -/
theorem ask_write {call : Call} (act : World → Except StoreError (Subscriber × SubscriberStore)) :
    Keeps R (bot.ask call fun w =>
      act w >>= fun r => Pure.pure ((), { w with subscribers := r.2 })) := by
  refine r.of_rests fun w => ?_
  obtain ⟨err, h⟩ | ⟨r, -, h⟩ := bot.ask_write w call act (fun _ => ())
    fun w r => { w with subscribers := r.2 }
  · rw [h]
    exact ⟨rfl, rfl, rfl, rfl⟩
  · rw [h]
    exact ⟨rfl, rfl, rfl, rfl⟩

theorem findBlocks (ids : List String) : Keeps R (bot.findBlocks ids) :=
  r.ask_read fun _ => bot.blocks.findMany ids

theorem updateVars (id : String) (vars : Dict Json) : Keeps R (bot.updateVars id vars) :=
  r.ask_write fun w => w.subscribers.updateVars id vars

theorem applyUpdates (id : String) (labels : List String) (agent : Option String) :
    Keeps R (bot.applyUpdates id labels agent) :=
  r.ask_write fun w => w.subscribers.applyUpdates id labels agent

/-- Where the sender is not known, nothing is done. -/
theorem requireSender_bind {f : Subscriber → Attempt α}
    (hf : ∀ s, e.sender = some s → Keeps R (f s)) : Keeps R (e.requireSender >>= f) := by
  cases hs : e.sender with
  | none =>
    have hmissing : e.requireSender = throw .missingSender := by rw [Event.requireSender, hs]
    rw [hmissing]
    exact r.of_rests fun _ => ⟨rfl, rfl, rfl, rfl⟩
  | some s =>
    intro w
    rw [run_bind_ok (run_requireSender hs w)]
    exact hf s hs w

theorem render (b : Block) (c : Context) (vars : Dict Json) (fallback : Bool)
    (conversation : Option String) : Keeps R (bot.render b c vars fallback conversation) := by
  have hdrawn (w : World) : R w { w with drawn := w.drawn + 1 } := r.rests ⟨rfl, rfl, rfl, rfl⟩
  intro w
  change R w (if _ then _ else _)
  split
  · exact r.trans (hdrawn w) (r.meet _ _)
  · exact hdrawn w

theorem report (mid : String) (s : Subscriber) (b : Block) (fallback : Bool) :
    Keeps R (Bot.report mid s b fallback) :=
  r.turn_bind (r.emit _) fun _ => r.turn_bind (r.emit _) fun _ => r.turn_bind (r.emit _) fun _ =>
    r.emit _

/-- **A relation that holds across deliveries holds across sendings.** -/
theorem send (b : Block) (c : Context) (fallback : Bool) (conversation : Option String) :
    Keeps R (bot.send e b c fallback conversation) :=
  r.requireSender_bind fun s hs => r.bind (r.render _ _ _ _ _) fun _ =>
    r.bind (r.deliver _ s hs rfl rfl) fun _ => r.bind (.lift (r.report _ _ _ _)) fun _ =>
      r.bind (r.applyUpdates _ _ _) fun _ => r.pure _

end Carries

/-! ### A chain of messages -/

namespace Follows

variable {c : Conversation} (r : bot.Follows e c R) {b : Block} {fallback : Bool}

include r

theorem finish (c : Conversation) (error : Option String) : Keeps R (bot.finish c error) :=
  r.turn_bind (r.emit _) fun _ => r.turn_bind (r.ended _) fun _ => r.of_rests fun _ =>
    ⟨rfl, rfl, rfl, rfl⟩

theorem settle : Keeps R (bot.settle b c) := by
  unfold Bot.settle
  split
  · exact .lift (r.finish c none)
  · exact r.bind (.adapt (r.findBlocks _)) fun _ => r.bind (.adapt (r.stand _ _)) fun _ =>
      r.pure _

theorem lookUp {found : Step} (h : Keeps R found) : Keeps R (bot.lookUp c found) := by
  refine r.bind (.lift (r.meet _)) fun fault => ?_
  cases fault with
  | some fault => exact .lift (r.finish c _)
  | none => exact h

/-- **A relation that a conversation follows holds across a chain of messages.** -/
theorem walk (chain : Chain) : Keeps R (bot.walk e fallback c chain) := by
  have hsay (b : Block) : Keeps R (bot.say e fallback c b) := .adapt (r.send _ _ _ _)
  induction chain with
  | last b => exact r.bind (hsay b) fun _ => r.settle
  | missing b attached => exact r.bind (hsay b) fun _ => r.lookUp (.lift (r.finish c _))
  | cycle b attached => exact r.bind (hsay b) fun _ => r.lookUp (.lift (r.finish c _))
  | link b rest ih => exact r.bind (hsay b) fun _ => r.lookUp ih

theorem trigger : Keeps R (bot.trigger e b fallback c) := r.walk _

end Follows

end Bot

end Chatflow

import Chatflow.Proofs.Bot.Chain
import Chatflow.Proofs.Bot.History
import Chatflow.Proofs.Bot.Shift
import Chatflow.Proofs.Store.Blocks

/-!
# What a chain of blocks comes to

A block that is triggered is sent, and the blocks attached to it after it: `Bot.trigger_chain` says
which messages are sent, and what becomes of the conversation. The messages are those of the chain
of the block (`BlockStore.IsChain`), so there are only so many of them and no block is sent twice;
what follows depends on how the chain stops.

* A block with nothing attached leaves the conversation waiting for its next blocks, or ends it if
  there are none.
* A block whose attachment is not there, or was sent already, ends the conversation on an error.

The walk along a chain is cut in two for this: the messages, of which each may fail to be sent
(`Bot.SendsAll`), and the stop (`Bot.halt`).
-/

namespace Chatflow

open ConversationStore

/-- Some calls never meet a fault. -/
def Outages.Never (o : Outages) (calls : List Call) : Prop :=
  ∀ call ∈ calls, ∀ earlier, o call earlier = .none

namespace Bot

/-- The calls that decide what becomes of a conversation once its messages are sent. -/
def closing : List Call := [.findBlock, .findBlocks, .updateConversation, .endConversation]

/-! ### The messages -/

/-- The world once the message of a block was sent in a conversation and what is attached to the
block was looked up. -/
def past (bot : Bot) (e : Event) (fallback : Bool) (c : Conversation) (b : Block) (w : World) :
    World :=
  (bot.meet .findBlock (bot.send e b c.context fallback (some c.id) w).2).2

/-- The messages of some blocks are all sent, one after the other, in a conversation. -/
def SendsAll (bot : Bot) (e : Event) (fallback : Bool) (c : Conversation) :
    List Block → World → Prop
  | [], _ => True
  | b :: rest, w =>
    (∃ mid, (bot.send e b c.context fallback (some c.id) w).1 = .ok mid) ∧
      SendsAll bot e fallback c rest (bot.past e fallback c b w)

end Bot

/-- A message of a conversation that was sent in answer to an event of a subscriber. -/
structure Sent.Within (x : Sent) (e : Event) (s : Subscriber) (fallback : Bool)
    (c : Conversation) : Prop where
  /-- It is of the conversation. -/
  conversation : x.conversation = some c.id
  /-- It was rendered in its context. -/
  context : x.context = c.context
  /-- It asks again, or does not. -/
  fallback : x.fallback = fallback
  /-- It is for the subscriber. -/
  recipient : x.recipient = s.foreignId
  /-- It was sent by the channel of the event. -/
  channel : x.channel = e.channel

/-- The messages of some blocks were sent between two worlds, and nothing was done with the
conversations. -/
structure World.Said (w w' : World) (e : Event) (s : Subscriber) (fallback : Bool)
    (c : Conversation) (blocks : List Block) : Prop where
  sent : ∃ xs, w'.journal = w.journal ++ xs ∧ xs.map (·.block) = blocks ∧
    ∀ x ∈ xs, x.Within e s fallback c
  spares : w.Spares w'

namespace World.Said

variable {w w₁ w₂ : World} {e : Event} {s : Subscriber} {fallback : Bool} {c : Conversation}
  {b : Block} {blocks blocks' : List Block}

theorem nil (h : w.Quiet w₁) : w.Said w₁ e s fallback c [] :=
  ⟨⟨[], by rw [h.journal, List.append_nil], rfl, fun _ hx => absurd hx List.not_mem_nil⟩, h.spares⟩

theorem trans (h : w.Said w₁ e s fallback c blocks) (h' : w₁.Said w₂ e s fallback c blocks') :
    w.Said w₂ e s fallback c (blocks ++ blocks') := by
  obtain ⟨xs, hxs, rfl, hwithin⟩ := h.sent
  obtain ⟨ys, hys, rfl, hwithin'⟩ := h'.sent
  refine ⟨⟨xs ++ ys, ?_, List.map_append, fun x hx => ?_⟩, h.spares.trans h'.spares⟩
  · rw [hys, hxs, List.append_assoc]
  · exact (List.mem_append.mp hx).elim (hwithin x) (hwithin' x)

/-- The blocks of the messages sent. -/
theorem map_block (h : w.Said w₁ e s fallback c blocks) :
    (w₁.sentSince w).map (·.block) = blocks ∧ ∀ x ∈ w₁.sentSince w, x.Within e s fallback c := by
  obtain ⟨xs, hxs, rfl, hwithin⟩ := h.sent
  rw [World.sentSince, hxs, List.drop_left]
  exact ⟨rfl, hwithin⟩

end World.Said

namespace Bot

variable {bot : Bot} {e : Event} {s : Subscriber} {b : Block} {fallback : Bool} {c : Conversation}
  {w : World}

/-- A message that is sent is that of its block. One that is not may still be out. -/
theorem Sends.said {w' : World} {r : Except BotError String}
    (h : Sends bot e s b c.context fallback (some c.id) w r w') :
    w.Said w' e s fallback c [b] ∨ (∃ err, r = .error err) ∧ w.Said w' e s fallback c [] := by
  have hspares := h.spares
  have hwithin : ∀ envelope, ∀ x ∈ [record e s b c.context fallback (some c.id) envelope],
      x.Within e s fallback c := by
    intro envelope x hx
    obtain rfl := List.mem_singleton.mp hx
    exact ⟨rfl, rfl, rfl, rfl, rfl⟩
  cases h with
  | unrendered _ hquiet | undelivered hquiet => exact .inr ⟨⟨_, rfl⟩, .nil hquiet⟩
  | unapplied _ hheard | applied _ hheard =>
    exact .inl ⟨⟨_, hheard.journal, rfl, hwithin _⟩, hspares⟩

/-! ### The stop -/

/-- What is done with a conversation where a chain stops. -/
def halt (bot : Bot) (c : Conversation) : Chain → Step
  | .last b => bot.settle b c
  | .missing _ attached =>
    bot.lookUp c (bot.finish c (some ("attached block '" ++ attached ++ "' not found")))
  | .cycle _ attached => bot.lookUp c (bot.finish c (some (BotError.attachedCycle attached).message))
  | .link _ rest => halt bot c rest

/-- A lookup that meets no fault finds what there is. -/
theorem lookUp_of_never (hup : bot.outages.Never closing) (found : Step) :
    bot.lookUp c found w = found (w.counted .findBlock) := by
  rw [lookUp, run_lift_bind, meet_of_never bot w (hup .findBlock (by decide))]

/-- A message that is sent, and what follows it. -/
theorem run_say_bind {α : Type}
    (h : ∃ mid, (bot.send e b c.context fallback (some c.id) w).1 = .ok mid)
    (f : ExceptT (BotError × Conversation) Turn α) :
    (bot.say e fallback c b >>= fun _ => f) w =
      f (bot.send e b c.context fallback (some c.id) w).2 := by
  obtain ⟨mid, hmid⟩ := h
  have hrun : bot.say e fallback c b w =
      ((bot.send e b c.context fallback (some c.id) w).1.mapError (·, c),
        (bot.send e b c.context fallback (some c.id) w).2) := rfl
  rw [run_bind, hrun, hmid]
  rfl

theorem said_send (hs : e.sender = some s)
    (h : ∃ mid, (bot.send e b c.context fallback (some c.id) w).1 = .ok mid) :
    w.Said (bot.send e b c.context fallback (some c.id) w).2 e s fallback c [b] := by
  refine (send_cases bot e s b c.context fallback (some c.id) hs w).said.resolve_right ?_
  rintro ⟨⟨err, herr⟩, -⟩
  obtain ⟨mid, hmid⟩ := h
  rw [hmid] at herr
  cases herr

/-- **A walk is the messages and the stop.** If every message is sent the messages are those of the
chain, and then the chain stops. -/
theorem walk_of_sendsAll (hs : e.sender = some s) (hup : bot.outages.Never closing)
    {chain : Chain} (hsends : bot.SendsAll e fallback c chain.blocks w) :
    ∃ v, w.Said v e s fallback c chain.blocks ∧
      bot.walk e fallback c chain w = bot.halt c chain v := by
  induction chain generalizing w with
  | last b | missing b attached | cycle b attached =>
    exact ⟨_, said_send hs hsends.1, run_say_bind hsends.1 _⟩
  | link b rest ih =>
    obtain ⟨hsend, hrest⟩ := hsends
    rw [past, meet_of_never _ _ (hup .findBlock (by decide))] at hrest
    obtain ⟨v, hsaid, hwalk⟩ := ih hrest
    refine ⟨v, (said_send hs hsend).trans ((World.Said.nil (World.quiet_counted _ _)).trans hsaid),
      ?_⟩
    rw [walk, run_say_bind hsend, lookUp_of_never hup, hwalk, halt]

/-! ### Messages when calls fail -/

theorem journal_finish (c : Conversation) (error : Option String) (w : World) :
    (bot.finish c error w).2.journal = w.journal := by
  rw [finish_snd]
  obtain ⟨err, h⟩ | ⟨store, -, h⟩ := bot.endConversation_cases
    (w.emitted [.conversationEnd { c with active := false } error]) c.id
  · rw [h]
    rfl
  · rw [h]
    rfl

/-- A computation sends the messages of some blocks, up to one of them. -/
def Utters {α : Type} (blocks : List Block) (x : ExceptT (BotError × Conversation) Turn α) :
    Prop :=
  ∀ w, ∃ xs, (x w).2.journal = w.journal ++ xs ∧ xs.map (·.block) <+: blocks

namespace Utters

variable {α β : Type} {blocks : List Block} {x : ExceptT (BotError × Conversation) Turn α}

theorem of_journal (h : ∀ w, (x w).2.journal = w.journal) : Utters blocks x := fun w =>
  ⟨[], by rw [h, List.append_nil], List.nil_prefix⟩

/-- What sends the messages of no block sends none. -/
theorem journal_eq (h : Utters [] x) (w : World) : (x w).2.journal = w.journal := by
  obtain ⟨xs, hxs, hprefix⟩ := h w
  rw [List.prefix_nil, List.map_eq_nil_iff] at hprefix
  rw [hxs, hprefix, List.append_nil]

theorem finish (c : Conversation) (error : Option String) :
    Utters blocks (ExceptT.lift (bot.finish c error)) :=
  of_journal (journal_finish c error)

/-- A computation that is silent adds no message to those before it. -/
theorem bind {f : α → ExceptT (BotError × Conversation) Turn β} (hx : Utters blocks x)
    (hf : ∀ a w, (f a w).2.journal = w.journal) : Utters blocks (x >>= f) := by
  intro w
  obtain ⟨xs, hxs, hprefix⟩ := hx w
  refine ⟨xs, ?_, hprefix⟩
  rw [run_bind, ← hxs]
  rcases x w with ⟨_ | a, w'⟩
  · rfl
  · exact hf a w'

theorem settle (b : Block) (c : Conversation) : Utters blocks (bot.settle b c) := by
  rw [Bot.settle]
  split
  · exact finish c none
  · refine bind (of_journal fun w => ?_) fun next w => ?_
    · rw [keeping, run_adapt]
      obtain ⟨err, h⟩ | h := bot.findBlocks_cases w b.nextBlocks
      · rw [h]
        rfl
      · rw [h]
        rfl
    · rw [run_bind, keeping, run_adapt]
      obtain ⟨err, h⟩ | ⟨store, -, h⟩ :=
        bot.updateConversation_cases w { c with current := some b, next := next }
      · rw [h]
        rfl
      · rw [h]
        rfl

/-- A lookup, and what follows it. -/
theorem lookUp {x : Step} (h : Utters blocks x) : Utters blocks (bot.lookUp c x) := by
  intro w
  rw [Bot.lookUp, run_lift_bind]
  obtain ⟨fault, hmeet⟩ | hmeet := bot.meet_cases w .findBlock
  · rw [hmeet]
    exact finish c (some fault.storeError.message) _
  · rw [hmeet]
    exact h _

/-- A message, and what follows it. -/
theorem say (hs : e.sender = some s) (h : Utters blocks x) :
    Utters (b :: blocks) (bot.say e fallback c b >>= fun _ => x) := by
  intro w
  have hsaid := (send_cases bot e s b c.context fallback (some c.id) hs w).said
  cases hresult : (bot.send e b c.context fallback (some c.id) w).1 with
  | ok mid =>
    obtain ⟨xs, hxs, hblocks, -⟩ := (said_send hs ⟨mid, hresult⟩).sent
    obtain ⟨ys, hys, hprefix⟩ := h (bot.send e b c.context fallback (some c.id) w).2
    rw [run_say_bind ⟨mid, hresult⟩]
    refine ⟨xs ++ ys, by rw [hys, hxs, List.append_assoc], ?_⟩
    rw [List.map_append, hblocks]
    exact List.prefix_append_right_inj [b] |>.mpr hprefix
  | error err =>
    have hrun : (bot.say e fallback c b >>= fun _ => x) w =
        (.error (err, c), (bot.send e b c.context fallback (some c.id) w).2) := by
      refine run_bind_error ?_
      rw [Bot.say, keeping, run_adapt, hresult]
      rfl
    rw [hrun]
    obtain hsaid | ⟨-, hsaid⟩ := hsaid
    · obtain ⟨xs, hxs, hblocks, -⟩ := hsaid.sent
      exact ⟨xs, hxs, hblocks ▸ List.prefix_append [b] blocks⟩
    · obtain ⟨xs, hxs, hblocks, -⟩ := hsaid.sent
      exact ⟨xs, hxs, hblocks ▸ List.nil_prefix⟩

end Utters

/-- Nothing is sent where a chain stops. -/
theorem utters_halt (c : Conversation) (blocks : List Block) (chain : Chain) :
    Utters blocks (bot.halt c chain) := by
  induction chain with
  | last b => exact .settle b c
  | missing b attached | cycle b attached => exact .lookUp (.finish c _)
  | link b rest ih => exact ih

/-- Whatever fails, a walk sends the messages of its chain up to one of them. -/
theorem utters_walk (hs : e.sender = some s) (chain : Chain) :
    Utters chain.blocks (bot.walk e fallback c chain) := by
  induction chain with
  | last b => exact .say hs (.settle b c)
  | missing b attached | cycle b attached => exact .say hs (.lookUp (.finish c _))
  | link b rest ih => exact .say hs (.lookUp ih)

end Bot

/-! ### What becomes of the conversation -/

namespace World

variable {w v w' : World} {c c' : Conversation} {error : Option String}

/-- The conversation of an id was changed on record, if it is there, and no other was. -/
def Rewrites (w w' : World) (id : String) (f : Conversation → Conversation) : Prop :=
  ∀ id', w'.conversations.find? id' =
    if id' = id then (w.conversations.find? id').map f else w.conversations.find? id'

/-- A conversation was ended, on an error if there is one, and no other was. -/
structure Ends (w w' : World) (c : Conversation) (error : Option String) : Prop where
  /-- Its end is reported last, with the error. -/
  reported : w'.telemetry.getLast? = some (.conversationEnd { c with active := false } error)
  /-- No other end is reported. -/
  endings : w'.endings = w.endings ++ [{ c with active := false }]
  /-- It is no longer active on record. -/
  ended : w.Rewrites w' c.id ({ · with active := false })

/-- A conversation was written, and none was ended. -/
structure Writes (w w' : World) (c : Conversation) : Prop where
  /-- No end is reported. -/
  endings : w'.endings = w.endings
  /-- It is on record as it is. -/
  written : w.Rewrites w' c.id fun _ => c

theorem Ends.of_spares (hspares : w.Spares v) (h : v.Ends w' c error) : w.Ends w' c error :=
  ⟨h.reported, hspares.endings ▸ h.endings, fun id => hspares.conversations ▸ h.ended id⟩

theorem Writes.of_spares (hspares : w.Spares v) (h : v.Writes w' c) : w.Writes w' c :=
  ⟨hspares.endings ▸ h.endings, fun id => hspares.conversations ▸ h.written id⟩

/-- To put the changed conversation in its place is to rewrite it. -/
theorem Rewrites.of_find? {id : String} {r : Conversation} {f : Conversation → Conversation}
    (hr : w.conversations.find? id = some r)
    (h : ∀ id', w'.conversations.find? id' =
      if id' = id then some (f r) else w.conversations.find? id') : w.Rewrites w' id f := by
  intro id'
  rw [h]
  split
  · rename_i hid
    rw [hid, hr]
    rfl
  · rfl

/-- What is not on record is not rewritten. -/
theorem Rewrites.refl_of_none {id : String} (h : w.conversations.find? id = none)
    (f : Conversation → Conversation) : w.Rewrites w id f := by
  intro id'
  split
  · rename_i hid
    rw [hid, h]
    rfl
  · rfl

end World

namespace Bot

variable {bot : Bot} {e : Event} {s : Subscriber} {b : Block} {fallback : Bool} {c : Conversation}
  {w : World}

/-- To end a conversation is to report its end and to end it on record. -/
theorem ends_finish (hup : bot.outages.Never closing) (c : Conversation) (error : Option String)
    (w : World) : w.Ends (bot.finish c error w).2 c error := by
  have hends := w.endings_emitted [.conversationEnd { c with active := false } error]
  obtain ⟨herror, hok⟩ := endConversation_of_never
    (w.emitted [.conversationEnd { c with active := false } error])
    (hup .endConversation (by decide)) c.id
  rw [finish_snd]
  cases hstore : w.conversations.finish c.id with
  | error cause =>
    rw [herror cause hstore]
    exact ⟨List.getLast?_concat, hends, .refl_of_none (finish_eq_error_iff.mp hstore).1 _⟩
  | ok store =>
    obtain ⟨r, hr, -⟩ := finish_eq_ok_iff.mp hstore
    rw [hok store hstore]
    exact ⟨List.getLast?_concat, hends, .of_find? hr (find?_finish hstore hr)⟩

/-- To write a conversation is to put it in the place of the one on record, if there is one. -/
theorem writes_updateConversation (hup : bot.outages.Never closing) (c : Conversation)
    (w : World) :
    w.Writes (bot.updateConversation c w).2 c ∧
      ((∃ r, w.conversations.find? c.id = some r) ∧ (bot.updateConversation c w).1 = .ok () ∨
        w.conversations.find? c.id = none ∧
          (bot.updateConversation c w).1 = .error (.store (.notFound "conversation" c.id))) := by
  obtain ⟨herror, hok⟩ := updateConversation_of_never w (hup .updateConversation (by decide)) c
  cases hstore : w.conversations.update c with
  | error cause =>
    obtain ⟨hnone, rfl⟩ := update_eq_error_iff.mp hstore
    rw [herror _ hstore]
    exact ⟨⟨rfl, .refl_of_none hnone _⟩, .inr ⟨hnone, rfl⟩⟩
  | ok store =>
    obtain ⟨⟨r, hr⟩, -⟩ := update_eq_ok_iff.mp hstore
    rw [hok store hstore]
    exact ⟨⟨rfl, .of_find? hr (find?_update hstore)⟩, .inl ⟨⟨r, hr⟩, rfl⟩⟩

/-- A conversation that stands at a block. -/
def standing (bot : Bot) (b : Block) (c : Conversation) : Conversation :=
  { c with current := some b, next := bot.blocks.findMany b.nextBlocks }

/-- What becomes of a conversation where the chain of a block stops. -/
inductive Halts (bot : Bot) (c : Conversation) (blocks : List Block) (final : Block)
    (w w' : World) : Except (BotError × Conversation) Conversation → Prop
  /-- The attached block is there, but was sent already. -/
  | cycle {id : String} {next : Block} (h : final.attachedBlock = some id)
      (hf : bot.blocks.find? id = some next) (hmem : id ∈ blocks.map (·.id))
      (hends : w.Ends w' c (some (BotError.attachedCycle id).message)) :
      Halts bot c blocks final w w' (.ok { c with active := false })
  /-- The attached block is not there. -/
  | missing {id : String} (h : final.attachedBlock = some id) (hf : bot.blocks.find? id = none)
      (hends : w.Ends w' c (some ("attached block '" ++ id ++ "' not found"))) :
      Halts bot c blocks final w w' (.ok { c with active := false })
  /-- Nothing is attached, and no block follows. -/
  | ended (h : final.attachedBlock = none) (hnext : final.nextBlocks = [])
      (hends : w.Ends w' c none) : Halts bot c blocks final w w' (.ok { c with active := false })
  /-- Nothing is attached, and some blocks may follow. -/
  | stood (h : final.attachedBlock = none) (hnext : final.nextBlocks ≠ [])
      (hr : ∃ r, w.conversations.find? c.id = some r) (hwrites : w.Writes w' (bot.standing final c)) :
      Halts bot c blocks final w w' (.ok (bot.standing final c))
  /-- Some blocks may follow, but the conversation is not on record. -/
  | unrecorded (h : final.attachedBlock = none) (hnext : final.nextBlocks ≠ [])
      (hnone : w.conversations.find? c.id = none) (hwrites : w.Writes w' (bot.standing final c)) :
      Halts bot c blocks final w w'
        (.error (.store (.notFound "conversation" c.id), bot.standing final c))

/-- A conversation is stood at a block by a write. -/
theorem settle_of_ne_nil (hup : bot.outages.Never closing) (hnext : b.nextBlocks ≠ []) (v : World) :
    bot.settle b c v =
      ((bot.updateConversation (bot.standing b c) (v.counted .findBlocks)).1.mapError
          (·, bot.standing b c) |>.map fun _ => bot.standing b c,
        (bot.updateConversation (bot.standing b c) (v.counted .findBlocks)).2) := by
  have hempty : b.nextBlocks.isEmpty ≠ true := fun h => hnext (List.isEmpty_iff.mp h)
  have hfind : keeping c (bot.findBlocks b.nextBlocks) v =
      (.ok (bot.blocks.findMany b.nextBlocks), v.counted .findBlocks) := by
    rw [keeping, run_adapt, findBlocks, ask_read_of_never bot v (hup .findBlocks (by decide))]
    rfl
  rw [settle, if_neg hempty, run_bind_ok hfind, run_bind, keeping, run_adapt, ← standing]
  rcases bot.updateConversation (bot.standing b c) (v.counted .findBlocks) with ⟨_ | _, _⟩ <;> rfl

/-- A block with nothing attached leaves the conversation standing at it, or ends it. -/
theorem halts_settle (hup : bot.outages.Never closing) {v : World} (hspares : w.Spares v)
    (h : b.attachedBlock = none) (blocks : List Block) :
    Halts bot c blocks b w (bot.settle b c v).2 (bot.settle b c v).1 := by
  by_cases hnext : b.nextBlocks = []
  · rw [settle, if_pos (List.isEmpty_iff.mpr hnext)]
    exact .ended h hnext (.of_spares hspares (ends_finish hup c none v))
  · have hspares' := hspares.trans (World.spares_counted v .findBlocks)
    obtain ⟨hwrites, hresult⟩ :=
      writes_updateConversation hup (bot.standing b c) (v.counted .findBlocks)
    have hwrites := World.Writes.of_spares hspares' hwrites
    rw [settle_of_ne_nil hup hnext]
    obtain ⟨hr, hok⟩ | ⟨hnone, herror⟩ := hresult
    · rw [hok]
      exact .stood h hnext (hspares'.conversations ▸ hr) hwrites
    · rw [herror]
      exact .unrecorded h hnext (hspares'.conversations ▸ hnone) hwrites

/-- What becomes of a conversation where a chain stops. -/
theorem halts_halt (hup : bot.outages.Never closing) {chain : Chain} {final : Block}
    (hstops : chain.Stops bot.blocks final) {v : World} (hspares : w.Spares v)
    {blocks : List Block}
    (hcycle : ∀ next, bot.blocks.attached? final = some next → next.id ∈ blocks.map (·.id)) :
    Halts bot c blocks final w (bot.halt c chain v).2 (bot.halt c chain v).1 := by
  have hspares' := hspares.trans (World.spares_counted v .findBlock)
  induction hstops with
  | last h => exact halts_settle hup hspares h blocks
  | missing h hf =>
    rw [halt, lookUp_of_never hup]
    exact .missing h hf (.of_spares hspares' (ends_finish hup c _ _))
  | @cycle id next h hf =>
    have hmem := hcycle next (by rw [BlockStore.attached?, h, Option.bind_some, hf])
    obtain rfl := BlockStore.id_of_find? hf
    rw [halt, lookUp_of_never hup]
    exact .cycle h hf hmem (.of_spares hspares' (ends_finish hup c _ _))
  | link _ ih => exact ih

/-! ### Triggering a block -/

/-- **What a chain of blocks comes to.** There is a chain to every block, with one block more than
the store at most. Whatever fails, the messages sent are those of the chain up to one of its blocks.
If they can all be sent they all are, in the conversation and to the sender of the event; and unless
a call to a store fails the way the chain stops decides what becomes of the conversation. -/
theorem trigger_chain (hs : e.sender = some s) {r : Except (BotError × Conversation) Conversation}
    {w' : World} (hrun : bot.trigger e b fallback c w = (r, w')) :
    ∃ blocks final, bot.blocks.IsChain b blocks ∧ blocks.length ≤ bot.blocks.size + 1 ∧
      blocks.getLast? = some final ∧ (w'.sentSince w).map (·.block) <+: blocks ∧
      (bot.outages.Never closing → bot.SendsAll e fallback c blocks w →
        (w'.sentSince w).map (·.block) = blocks ∧
        (∀ x ∈ w'.sentSince w, x.Within e s fallback c) ∧ Halts bot c blocks final w w' r) := by
  have hchain := bot.blocks.isChain_chain b
  obtain ⟨final, hlast, hstops⟩ := bot.blocks.exists_stops_chain b
  rw [trigger] at hrun
  generalize bot.blocks.chain b = chain at hchain hlast hstops hrun
  refine ⟨_, final, hchain, hchain.length_le, hlast, ?_, fun hup hsends => ?_⟩
  · have hutters : Utters chain.blocks (bot.walk e fallback c chain) := utters_walk hs chain
    obtain ⟨xs, hxs, hprefix⟩ := hutters w
    rw [hrun] at hxs
    rwa [World.sentSince, hxs, List.drop_left]
  · obtain ⟨v, hsaid, hwalk⟩ := walk_of_sendsAll hs hup hsends
    have hhalts := halts_halt (c := c) hup hstops hsaid.spares
      fun next => hchain.mem_of_attached hlast
    have hutters : Utters [] (bot.halt c chain) := utters_halt c [] chain
    have hjournal := hutters.journal_eq v
    rw [← hwalk, hrun] at hhalts hjournal
    have hsent : w'.sentSince w = v.sentSince w := by
      rw [World.sentSince, hjournal, World.sentSince]
    rw [hsent]
    exact ⟨hsaid.map_block.1, hsaid.map_block.2, hhalts⟩

end Bot

namespace Sample

/-- A block to which another is attached. -/
def ping : Block :=
  { Block.plain "ping" "Ping" (.texts ["Ping!"]) with attachedBlock := some "pong" }

/-- The other block, to which the first is attached. -/
def pong : Block :=
  { Block.plain "pong" "Pong" (.texts ["Pong!"]) with attachedBlock := some "ping" }

/-- A bot with the two blocks. -/
def looping : Bot := { bot with blocks := ⟨[ping, pong]⟩ }

/-- The conversation with Ann. -/
def talk : Conversation := .fresh "conv-1" "sub-1"

end Sample

/-- Both blocks of a loop are sent once, and the conversation ends. -/
theorem Bot.trigger_chain_looping :
    ∃ w', Sample.looping.trigger (Sample.saying "hi") Sample.ping false Sample.talk
        (Sample.world ["hi"]) = (.ok { Sample.talk with active := false }, w') ∧
      (w'.sentSince (Sample.world ["hi"])).map (·.block) = [Sample.ping, Sample.pong] ∧
      (Sample.world ["hi"]).Ends w' Sample.talk
        (some "attached block cycle detected at 'ping'") := by
  generalize hrun : Sample.looping.trigger (Sample.saying "hi") Sample.ping false Sample.talk
    (Sample.world ["hi"]) = run
  obtain ⟨r, w'⟩ := run
  obtain ⟨blocks, final, hchain, -, hlast, -, h⟩ :=
    Bot.trigger_chain (s := Sample.ann) rfl hrun
  obtain rfl : [Sample.ping, Sample.pong] = blocks := by
    rw [hchain.unique (Sample.looping.blocks.isChain_chain Sample.ping)]
    decide +kernel
  obtain rfl : Sample.pong = final := Option.some.inj hlast
  obtain ⟨hsent, -, hhalts⟩ := h (fun _ _ _ => rfl) ⟨⟨"mid-2", by decide +kernel⟩,
    ⟨"mid-3", by decide +kernel⟩, trivial⟩
  refine ⟨w', ?_⟩
  cases hhalts with
  | cycle hattached _ _ hends =>
    obtain rfl := Option.some.inj hattached
    exact ⟨rfl, hsent, hends⟩
  | missing hattached hf =>
    obtain rfl := Option.some.inj hattached
    exact absurd hf (by decide)
  | ended hattached | stood hattached | unrecorded hattached => cases hattached

end Chatflow

import Chatflow.Console.Summary
import Chatflow.Proofs.Bot.Failing
import Chatflow.Proofs.Bot.History
import Chatflow.Proofs.Bot.Moments
import Chatflow.Proofs.Bot.Shift
import Chatflow.Proofs.Content.Pages
import Chatflow.Proofs.Matching
import Chatflow.Proofs.Store.Blocks

/-!
# No executor is missed

A flow is validated once, and the blocks rendered later come from many places: from the store, by a
pattern, by an id or attached to another block; from a conversation, whose current block asks again;
and from the settings. All of them ask for executors of the registry only (`Stage.Served`): a block
that asks again has the message of the block that it is a copy of, and every other one is of the
flow or has texts of its own.

This is said in three ways. At no moment of a turn is a block rendered for which an executor is
missed (`Bot.RendersAt`); a turn is the same with more executors (`Bot.handle_withExecutors`), so
that none is asked for in vain; and no turn fails because an executor is missed
(`Bot.handle_ne_unknownExecutor`).
-/

namespace Chatflow

/-! ### Validation -/

namespace Executor.Registry

/-- A block asks for no executor that the registry does not have. -/
def Serves (r : Registry) (b : Block) : Prop :=
  ∀ name args, b.message = .plugin name args → r.contains name = true

/-- Another registry has all executors of this one, under the same names. -/
def Within (r more : Registry) : Prop :=
  ∀ name execute, r.find? name = some execute → more.find? name = some execute

/-- No executor reports that an executor is missing. -/
def Candid (r : Registry) : Prop :=
  ∀ name execute, r.find? name = some execute → ∀ b c conversation missing,
    execute b c conversation ≠ .error (.unknownExecutor missing)

variable {r : Registry} {b : Block}

theorem serves_of_message_eq {b' : Block} (h : b'.message = b.message) (hb : r.Serves b) :
    r.Serves b' := fun name args hmessage => hb name args (h ▸ hmessage)

/-- **A flow is valid if every block of it is served.** -/
theorem validate_eq_ok_iff {flow : List Block} :
    r.validate flow = .ok () ↔ ∀ b ∈ flow, r.Serves b := by
  induction flow with
  | nil => simp [validate]
  | cons b flow ih =>
    rw [List.forall_mem_cons, ← ih, validate]
    cases hmessage : b.message with
    | plugin name args =>
      have hserves : r.Serves b ↔ r.contains name = true :=
        ⟨fun h => h name args hmessage, fun h name' args' hmessage' => by
          cases hmessage.symm.trans hmessage'
          exact h⟩
      rw [hserves]
      by_cases hname : r.contains name = true <;> simp [hname]
    | _ =>
      have hserves : r.Serves b := fun name args hplugin => by
        rw [hmessage] at hplugin
        cases hplugin
      exact ⟨fun h => ⟨hserves, h⟩, fun h => h.2⟩

end Executor.Registry

/-! ### Rendering a block that is served -/

namespace Renderer

open Executor

variable {r : Renderer} {b : Block} (c : Context) (vars : Dict Json) (fallback : Bool)
  (conversation : Option String) (roll : Nat)

theorem oneOf_ne_unknownExecutor (texts : List String) (text : String → String) (name : String) :
    oneOf b roll texts text ≠ .error (.unknownExecutor name) := by
  rw [oneOf]
  cases pick? roll texts <;> rintro ⟨⟩

/-- No executor is missed when a block is rendered that is served. -/
theorem process_ne_unknownExecutor (hb : r.executors.Serves b) (hcandid : r.executors.Candid)
    (name : String) :
    r.process b c vars fallback conversation roll ≠ .error (.unknownExecutor name) := by
  have hmessage : r.message b c vars conversation roll ≠ .error (.unknownExecutor name) := by
    rw [message]
    cases hmessage : b.message with
    | texts ts => exact oneOf_ne_unknownExecutor roll ts _ name
    | quickReplies t replies => simp only; split <;> rintro ⟨⟩
    | buttons t bs => simp only; split <;> rintro ⟨⟩
    | attachment file replies => simp only; split <;> rintro ⟨⟩
    | content elements =>
      simp only
      split
      · rintro ⟨⟩
      · split
        · rintro ⟨⟩
        · split <;> rintro ⟨⟩
    | plugin asked args =>
      obtain ⟨execute, hexecute⟩ := Option.isSome_iff_exists.mp (hb asked args hmessage)
      simp only [hexecute]
      exact hcandid asked execute hexecute b c conversation name
  unfold process
  split
  · exact oneOf_ne_unknownExecutor roll _ _ name
  · exact hmessage

/-- A block that is served is rendered to the same with more executors. -/
theorem process_of_within (hb : r.executors.Serves b) {more : Registry}
    (hmore : r.executors.Within more) :
    { r with executors := more }.process b c vars fallback conversation roll =
      r.process b c vars fallback conversation roll := by
  have hmessage : { r with executors := more }.message b c vars conversation roll =
      r.message b c vars conversation roll := by
    rw [message, message]
    cases hmessage : b.message with
    | plugin asked args =>
      obtain ⟨execute, hexecute⟩ := Option.isSome_iff_exists.mp (hb asked args hmessage)
      simp only [hexecute, hmore asked execute hexecute]
    | _ => rfl
  unfold process
  rw [hmessage]

end Renderer

/-! ### Turns with blocks that are served -/

section

variable {r : Executor.Registry}

/-- A conversation stands at a block that is served, if it stands at any. -/
def Conversation.Served (r : Executor.Registry) (c : Conversation) : Prop :=
  ∀ b, c.current = some b → r.Serves b

theorem Conversation.served_fresh (id sender : String) : (Conversation.fresh id sender).Served r :=
  fun _ hb => by cases hb

/-- So do all conversations on record. -/
def World.Served (r : Executor.Registry) (w : World) : Prop :=
  ∀ id c, w.conversations.find? id = some c → c.Served r

/-- What a turn has in hand is served. -/
def Stage.Served (r : Executor.Registry) : Stage → Prop
  | .found c | .standing _ c => c.Served r
  | .entering _ b c | .storing _ b c | .entered _ b c | .sending _ _ b c | .sent _ _ b c =>
    r.Serves b ∧ c.Served r
  | .opening b _ => r.Serves b
  | .waiting | .ending _ _ _ | .exit _ | .unmatched | .falling | .voicing => True

namespace World.Served

variable {w w' : World} {c : Conversation}

theorem of_eq (h : w.Served r) (hw : w'.conversations = w.conversations) : w'.Served r :=
  fun id c hc => h id c (hw ▸ hc)

theorem active? (h : w.Served r) {sender : String}
    (hc : w.conversations.active? sender = some c) : c.Served r := by
  obtain ⟨id, hid⟩ := Dict.mem_values.mp (List.mem_of_find?_eq_some hc)
  exact h id c hid

/-- A conversation that is served may be put over another. -/
theorem insert (h : w.Served r) (hc : c.Served r) {k : String}
    (hw : ∀ id, w'.conversations.find? id =
      if id = k then some c else w.conversations.find? id) : w'.Served r := by
  intro id c' hc'
  rw [hw] at hc'
  split at hc'
  · cases hc'
    exact hc
  · exact h id c' hc'

end World.Served

/-- A block that asks again is served if the current block is. -/
theorem Conversation.Served.askingBlock? {c : Conversation} {b : Block} (h : c.Served r)
    (hb : c.askingBlock? = some b) : r.Serves b := by
  obtain ⟨b₀, hb₀, rfl⟩ := Option.map_eq_some_iff.mp hb
  exact Executor.Registry.serves_of_message_eq rfl (h b₀ hb₀)

namespace Bot

variable {bot : Bot} {e : Event} {s : Subscriber} {p q : Stage × World}

/-- **Every transition leads to a stage with blocks that are served**, and leaves such on record. -/
theorem Moves.served (hstore : ∀ b ∈ bot.blocks.blocks, r.Serves b) (h : bot.Moves e s p q)
    (hp : p.1.Served r ∧ p.2.Served r) : q.1.Served r ∧ q.2.Served r := by
  obtain ⟨hstage, hworld⟩ := hp
  cases h with
  | found h => exact ⟨hworld.active? h, hworld⟩
  | answered h =>
    have hmem := BlockStore.mem_of_mem_findMany (Event.mem_of_matchBlock? h)
    exact ⟨⟨hstore _ hmem, hstage⟩, hworld⟩
  | asked _ _ _ hb => exact ⟨⟨hstage.askingBlock? hb, hstage⟩, hworld⟩
  | bare | kept | entered => exact ⟨hstage, hworld⟩
  | stored h => exact ⟨hstage, hworld.insert hstage.2 (ConversationStore.find?_update h)⟩
  | said hsends => exact ⟨hstage, hworld.of_eq hsends.spares.conversations⟩
  | unsaid hsends => exact ⟨trivial, hworld.of_eq hsends.spares.conversations⟩
  | read => exact ⟨fun b hb => Option.some.inj hb ▸ hstage.1, hworld⟩
  | linked _ hf => exact ⟨⟨hstore _ (BlockStore.mem_of_find? hf), hstage.2⟩, hworld⟩
  | stood h => exact ⟨trivial, hworld.insert hstage (ConversationStore.find?_update h)⟩
  | @ended w c error x store h =>
    obtain ⟨c₀, hc₀, -⟩ := ConversationStore.finish_eq_ok_iff.mp h
    have hended : Conversation.Served r { c₀ with active := false } := hworld _ c₀ hc₀
    exact ⟨trivial, hworld.insert hended (ConversationStore.find?_finish h hc₀)⟩
  | matched h =>
    exact ⟨hstore _ (BlockStore.mem_of_mem_starting (Event.mem_of_matchBlock? h)), hworld⟩
  | @opened w b o created h =>
    have hfresh : created.1.Served r := by
      rw [(ConversationStore.create_eq_ok_iff.mp h).2.1]
      exact Conversation.served_fresh _ _
    exact ⟨⟨hstage, hfresh⟩, hworld.insert hfresh (ConversationStore.find?_create h)⟩
  | sought _ hf => exact ⟨hstore _ (BlockStore.mem_of_find? hf), hworld⟩
  | voiced _ hsends | unvoiced hsends => exact ⟨trivial, hworld.of_eq hsends.spares.conversations⟩
  | _ => exact ⟨trivial, hworld⟩

theorem Path.served (hstore : ∀ b ∈ bot.blocks.blocks, r.Serves b) (h : bot.Path e s p q)
    (hp : p.1.Served r ∧ p.2.Served r) : q.1.Served r ∧ q.2.Served r :=
  h.preserves (fun _ _ hmove => hmove.served hstore) hp

/-- In a turn on an event, begun in a world, a block is rendered, and this is what comes of it. -/
inductive RendersAt (bot : Bot) (event : Event) (w : World) : Except RenderError Envelope → Prop
  /-- The message of a block is to be sent in a conversation. -/
  | inside {s : Subscriber} {m : Move} {visited : List String} {b : Block} {c : Conversation}
      {v : World} (hs : (event.detectLanguage bot.settings.languages).sender = some s)
      (h : bot.Path (event.detectLanguage bot.settings.languages) s (.waiting, w)
        (.sending m visited b c, v)) :
      RendersAt bot event w ((bot.renderer v).process b c.context s.vars m.fallback (some c.id)
        (bot.rolls v.drawn))
  /-- A fallback text is to be sent outside of any. -/
  | outside {s : Subscriber} {v : World}
      (hs : (event.detectLanguage bot.settings.languages).sender = some s)
      (h : bot.Path (event.detectLanguage bot.settings.languages) s (.waiting, w) (.voicing, v)) :
      RendersAt bot event w ((bot.renderer v).process bot.fallbackMessageBlock .empty s.vars false
        none (bot.rolls v.drawn))

/-- Every message that is sent was rendered in its turn. -/
theorem SendsAt.rendersAt {event : Event} {x : Sent} {w v w' : World}
    {steps : List (Stage × Stage)} (h : bot.SendsAt event x w steps v w') :
    bot.RendersAt event w (.ok x.envelope) := by
  cases h with
  | @intro s _ stage _ _ _ _ hs hbefore hsends =>
    obtain ⟨hof, hrendered⟩ := hsends.isOf
    have henvelope := hrendered.envelope
    cases hof with
    | inside hcontext hfallback hconversation =>
      rw [← henvelope, hcontext, hfallback, hconversation]
      exact .inside hs hbefore.path
    | outside hblock hcontext hconversation =>
      -- the fallback text has no policy for asking again
      have hnot (fallback : Bool) :
          (fallback && bot.fallbackMessageBlock.options.fallback.isSome) = false :=
        Bool.and_false _
      have houtside := RendersAt.outside hs hbefore.path
      rwa [Renderer.process_of_not_asks (hnot _),
        ← Renderer.process_of_not_asks (hnot x.fallback), ← hblock, ← hcontext, ← hconversation,
        henvelope] at houtside

/-- The fallback text asks for no executor. -/
theorem serves_fallbackMessageBlock (bot : Bot) : r.Serves bot.fallbackMessageBlock :=
  fun _ _ h => by cases h

/-- **No rendering misses an executor** in a turn that begins with conversations that are served. -/
theorem RendersAt.ne_unknownExecutor {event : Event} {w : World}
    {result : Except RenderError Envelope} (h : bot.RendersAt event w result)
    (hcandid : bot.executors.Candid) (hstore : ∀ b ∈ bot.blocks.blocks, bot.executors.Serves b)
    (hw : w.Served bot.executors) (name : String) : result ≠ .error (.unknownExecutor name) := by
  cases h with
  | inside _ h =>
    have hserved := (h.served hstore ⟨trivial, hw⟩).1
    exact Renderer.process_ne_unknownExecutor _ _ _ _ _ hserved.1 hcandid name
  | outside =>
    exact Renderer.process_ne_unknownExecutor _ _ _ _ _ bot.serves_fallbackMessageBlock hcandid name

/-- **No turn fails because an executor is missed**, if the blocks of the flow are served: what a
turn fails by is a block of the flow, or the fallback text. -/
theorem handle_ne_unknownExecutor (hcandid : bot.executors.Candid)
    (hstore : ∀ b ∈ bot.blocks.blocks, bot.executors.Serves b) (event : Event) (w : World)
    (name : String) : (bot.handle event w).1 ≠ .error (.render (.unknownExecutor name)) := by
  have hrenders {b : Block} (hb : bot.executors.Serves b) :
      bot.RendersOnly (· ≠ .render (.unknownExecutor name)) b := by
    rintro w context vars fallback conversation roll err herr ⟨⟩
    exact Renderer.process_ne_unknownExecutor _ _ _ _ _ hb hcandid name herr
  have hcovers : bot.Covers (· ≠ .render (.unknownExecutor name)) :=
    ⟨nofun, nofun, nofun, fun b hb => hrenders (hstore b hb),
      hrenders bot.serves_fallbackMessageBlock⟩
  exact fun herr => hcovers.failsOnly_handle event w _ herr rfl

/-! ### Turns with more executors -/

/-- A bot with other executors. -/
def withExecutors (bot : Bot) (more : Executor.Registry) : Bot := { bot with executors := more }

section

variable {more : Executor.Registry} {b : Block} {c : Conversation} {fallback : Bool}

theorem send_withExecutors (hmore : bot.executors.Within more) (hb : bot.executors.Serves b)
    (context : Context) (conversation : Option String) :
    (bot.withExecutors more).send e b context fallback conversation =
      bot.send e b context fallback conversation := by
  have hrender (vars : Dict Json) :
      (bot.withExecutors more).render b context vars fallback conversation =
        bot.render b context vars fallback conversation := by
    funext w
    have hprocess := Renderer.process_of_within (r := bot.renderer w) context vars fallback
      conversation (bot.rolls w.drawn) hb hmore
    have hrenderer : (bot.withExecutors more).renderer w =
        { bot.renderer w with executors := more } := rfl
    unfold render
    rw [hrenderer, ← hprocess]
    rfl
  unfold send
  simp only [hrender]
  rfl

theorem walk_withExecutors (hmore : bot.executors.Within more) {chain : Chain}
    (hchain : ∀ b ∈ chain.blocks, bot.executors.Serves b) :
    (bot.withExecutors more).walk e fallback c chain = bot.walk e fallback c chain := by
  have hsay {b : Block} (hb : bot.executors.Serves b) :
      (bot.withExecutors more).say e fallback c b = bot.say e fallback c b := by
    rw [say, say, send_withExecutors hmore hb]
  induction chain with
  | last b | missing b attached | cycle b attached =>
    rw [walk, walk, hsay (hchain b List.mem_cons_self)]
    rfl
  | link b rest ih =>
    rw [walk, walk, hsay (hchain b List.mem_cons_self),
      ih fun b' hb' => hchain b' (List.mem_cons_of_mem _ hb')]
    rfl

theorem trigger_withExecutors (hmore : bot.executors.Within more)
    (hstore : ∀ b ∈ bot.blocks.blocks, bot.executors.Serves b) (hb : bot.executors.Serves b) :
    (bot.withExecutors more).trigger e b fallback c = bot.trigger e b fallback c :=
  walk_withExecutors hmore fun b' hb' => (BlockStore.mem_of_mem_chain hb').elim
    (fun heq => heq ▸ hb) (hstore b')

theorem proceed_withExecutors (hmore : bot.executors.Within more)
    (hstore : ∀ b ∈ bot.blocks.blocks, bot.executors.Serves b) (hb : bot.executors.Serves b) :
    (bot.withExecutors more).proceed e b fallback c = bot.proceed e b fallback c := by
  unfold proceed
  simp only [trigger_withExecutors hmore hstore hb]
  rfl

theorem start_withExecutors (hmore : bot.executors.Within more)
    (hstore : ∀ b ∈ bot.blocks.blocks, bot.executors.Serves b) (hb : bot.executors.Serves b) :
    (bot.withExecutors more).start e b = bot.start e b := by
  unfold start
  simp only [trigger_withExecutors hmore hstore hb]
  rfl

/-- What answers within a conversation is served if the conversation is. -/
theorem answer_withExecutors (hmore : bot.executors.Within more)
    (hstore : ∀ b ∈ bot.blocks.blocks, bot.executors.Serves b) (hc : c.Served bot.executors)
    (w : World) : (bot.withExecutors more).answer e c w = bot.answer e c w := by
  have hfind : (bot.withExecutors more).findNext e c = bot.findNext e c := rfl
  rw [answer_apply, answer_apply, hfind]
  obtain ⟨err, hrun⟩ | hrun := bot.findNext_cases (e := e) (c := c) w
  · rw [hrun]
    rfl
  rw [hrun]
  cases hmatch : e.matchBlock? (bot.blocks.findMany c.nextIds) with
  | some found =>
    have hfound := hstore _ (BlockStore.mem_of_mem_findMany (Event.mem_of_matchBlock? hmatch))
    simp only [proceed_withExecutors hmore hstore hfound]
  | none =>
    cases hasking : if c.asksAgain then c.askingBlock? else none with
    | none => rfl
    | some b =>
      have hb : c.askingBlock? = some b := by
        split at hasking
        · exact hasking
        · cases hasking
      simp only [proceed_withExecutors hmore hstore (hc.askingBlock? hb)]

theorem continueActive_withExecutors (hmore : bot.executors.Within more)
    (hstore : ∀ b ∈ bot.blocks.blocks, bot.executors.Serves b) {w : World}
    (hw : w.Served bot.executors) (hs : e.sender = some s) :
    (bot.withExecutors more).continueActive e w = bot.continueActive e w := by
  have hfind : (bot.withExecutors more).findActive s.id = bot.findActive s.id := rfl
  rw [continueActive_apply hs, continueActive_apply hs, hfind]
  obtain ⟨err, hrun⟩ | hrun := bot.findActive_cases w s.id
  · rw [hrun]
  rw [hrun]
  cases hactive : w.conversations.active? s.id with
  | none => rfl
  | some c => simp only [answer_withExecutors hmore hstore (hw.active? hactive)]

theorem fallBackUntilStart_withExecutors (hmore : bot.executors.Within more) :
    (bot.withExecutors more).fallBackUntilStart e = bot.fallBackUntilStart e := by
  have hsay : (bot.withExecutors more).sayFallback e = bot.sayFallback e := by
    have hblock : (bot.withExecutors more).fallbackMessageBlock = bot.fallbackMessageBlock := rfl
    unfold sayFallback
    rw [hblock, send_withExecutors hmore bot.serves_fallbackMessageBlock]
    rfl
  unfold fallBackUntilStart
  rw [hsay]
  rfl

theorem untilStart_withExecutors (hmore : bot.executors.Within more)
    (hstore : ∀ b ∈ bot.blocks.blocks, bot.executors.Serves b) {event : Event} {w : World}
    (hw : w.Served bot.executors)
    (hs : (event.detectLanguage bot.settings.languages).sender = some s) :
    (bot.withExecutors more).untilStart event w = bot.untilStart event w := by
  have hstarting : (bot.withExecutors more).findStarting = bot.findStarting := rfl
  have hsettings : (bot.withExecutors more).settings = bot.settings := rfl
  have hs' : (event.detectLanguage (bot.withExecutors more).settings.languages).sender = some s :=
    hs
  rw [untilStart_apply hs', untilStart_apply hs, run_bind, run_bind, hsettings,
    continueActive_withExecutors hmore hstore hw hs, hstarting]
  simp only [fallBackUntilStart_withExecutors hmore]

/-- **A turn is the same with more executors.** -/
theorem handle_withExecutors (hmore : bot.executors.Within more)
    (hstore : ∀ b ∈ bot.blocks.blocks, bot.executors.Serves b) (event : Event) {w : World}
    (hw : w.Served bot.executors) :
    (bot.withExecutors more).handle event w = bot.handle event w := by
  cases hsender : event.sender with
  | none => rw [handle_unsent hsender, handle_unsent hsender]
  | some s =>
    obtain ⟨s', hs, -⟩ := sender_detectLanguage event bot.settings.languages hsender
    have hpath := path_untilStart hs w
    have hsettings : (bot.withExecutors more).settings = bot.settings := rfl
    rw [handle_eq, handle_eq, run_bind, run_bind, hsettings,
      untilStart_withExecutors hmore hstore hw hs]
    generalize bot.untilStart event w = run at hpath
    obtain ⟨err | verdict, w'⟩ := run
    · rfl
    cases verdict with
    | settled o => rfl
    | starts b o =>
      -- the path to the start of a conversation leads to a block that is served
      have hb : bot.executors.Serves b := (hpath.served hstore ⟨trivial, hw⟩).1
      simp only [conclude, start_withExecutors hmore hstore hb]

end

end Bot

/-! ### Runs of a valid flow -/

/-- A bot plays a flow with the executors of a registry. -/
structure Bot.Plays (bot : Bot) (r : Executor.Registry) (flow : List Block) : Prop where
  /-- It has these executors. -/
  executors : bot.executors = r
  /-- It has these blocks, and no others. -/
  blocks : ∀ b, b ∈ bot.blocks.blocks ↔ b ∈ flow

/-- The blocks of a valid flow are served. -/
theorem Bot.Plays.serves {bot : Bot} {flow : List Block} (h : bot.Plays r flow)
    (hvalid : r.validate flow = .ok ()) : ∀ b ∈ bot.blocks.blocks, r.Serves b := fun b hb =>
  Executor.Registry.validate_eq_ok_iff.mp hvalid b ((h.blocks b).mp hb)

/-- In a turn, the bot plays the flow. -/
def Occurrence.Plays (o : Occurrence) (r : Executor.Registry) (flow : List Block) : Prop :=
  ∀ bot event, o = .turn bot event → bot.Plays r flow

namespace World

variable {flow : List Block}

/-- Turns of a valid flow leave conversations that are served. -/
theorem Served.occur (hvalid : r.validate flow = .ok ()) {w : World} (hw : w.Served r)
    {o : Occurrence} (ho : o.Plays r flow) : (w.occur o).Served r := by
  cases o with
  | outside subscribers channels => exact hw
  | turn bot event =>
    cases hsender : event.sender with
    | none =>
      rw [World.occur, Bot.handle_unsent hsender]
      exact hw
    | some s =>
      obtain ⟨s', hs, -⟩ := Bot.sender_detectLanguage event bot.settings.languages hsender
      have hstore := (ho bot event rfl).serves hvalid
      exact ((Bot.path_handle hs w).served hstore ⟨trivial, hw⟩).2

/-- So do all runs of it. -/
theorem Served.after (hvalid : r.validate flow = .ok ()) {w : World} (hw : w.Served r)
    {history : List Occurrence} (h : ∀ o ∈ history, o.Plays r flow) :
    (w.after history).Served r := by
  induction history generalizing w with
  | nil => exact hw
  | cons o history ih =>
    exact ih (hw.occur hvalid (h o List.mem_cons_self)) fun o' ho' =>
      h o' (List.mem_cons_of_mem o ho')

/-- **A valid flow never misses an executor.** In every run of turns by bots that play it, from a
world without conversations, and in every further turn, no rendering fails because there is no
executor of a name, if no executor reports that itself. Nor would a turn be another one if there
were more executors, nor does one fail because there is none of a name. -/
theorem executors_found (hvalid : r.validate flow = .ok ()) (hcandid : r.Candid) {w₀ : World}
    (hempty : w₀.conversations = .empty) {history : List Occurrence}
    (hhistory : ∀ o ∈ history, o.Plays r flow) {bot : Bot} (hbot : bot.Plays r flow)
    (event : Event) :
    (∀ result, bot.RendersAt event (w₀.after history) result →
        ∀ name, result ≠ .error (.unknownExecutor name)) ∧
      (∀ more : Executor.Registry, r.Within more →
        (bot.withExecutors more).handle event (w₀.after history) =
          bot.handle event (w₀.after history)) ∧
      ∀ name, (bot.handle event (w₀.after history)).1 ≠
        .error (.render (.unknownExecutor name)) := by
  have hw₀ : w₀.Served r := fun id c hc => by
    rw [hempty] at hc
    cases hc
  have hw := hw₀.after hvalid hhistory
  have hstore := hbot.serves hvalid
  obtain rfl := hbot.executors
  exact ⟨fun result hresult name => hresult.ne_unknownExecutor hcandid hstore hw name,
    fun more hmore => Bot.handle_withExecutors hmore hstore event hw,
    Bot.handle_ne_unknownExecutor hcandid hstore event _⟩

end World

end

namespace Sample

/-- A block that says what is known. -/
def reminder : Block :=
  { Block.plain "recall" "Recall" (.plugin "summary" .null) with patterns := [.text "fine"] }

/-- A salute, after which it may be asked what is known. -/
def salute : Block := { hello with nextBlocks := ["recall"] }

/-- A bot that says what it knows. -/
def rememberer : Bot :=
  { bot with blocks := ⟨[salute, reminder]⟩, executors := Console.executors }

/-- The executors of a console and one more. -/
def moreExecutors : Executor.Registry :=
  Console.executors.insert "other" fun _ _ _ => .ok (.text "Other.")

/-- Ann is met and greeted. -/
def greeted : List Occurrence :=
  [.outside (SubscriberStore.empty.insert ann) channels, .turn rememberer (saying "hi")]

theorem candid_executors : Console.executors.Candid := by
  intro name execute h b c conversation missing
  rw [Console.executors, Dict.find?_ofList, List.reverse_singleton, Dict.findEntry] at h
  split at h
  · obtain rfl := Option.some.inj h
    rintro ⟨⟩
  · cases h

theorem within_moreExecutors : Console.executors.Within moreExecutors := by
  intro name execute h
  rw [moreExecutors, Dict.find?_insert, if_neg, h]
  rintro rfl
  exact absurd h (by rw [show Console.executors.find? "other" = none from rfl]; rintro ⟨⟩)

theorem plays_rememberer : rememberer.Plays Console.executors [salute, reminder] :=
  ⟨rfl, fun _ => Iff.rfl⟩

theorem plays_greeted : ∀ o ∈ greeted, o.Plays Console.executors [salute, reminder] := by
  intro o ho bot event hturn
  subst hturn
  obtain ho | ho := List.mem_cons.mp ho
  · cases ho
  · cases List.mem_singleton.mp ho
    exact plays_rememberer

end Sample

namespace World

/-- The executor that says what is known is found. -/
theorem executors_found_rememberer :
    Executor.Registry.validate Console.executors [Sample.salute, Sample.reminder] = .ok () ∧
      (∃ result, Sample.rememberer.RendersAt (Sample.saying "fine")
          ((World.fresh Sample.channels).after Sample.greeted) result ∧
        result = .ok (.text "I don't know anything about you yet.") ∧
        ∀ name, result ≠ .error (.unknownExecutor name)) ∧
      (Sample.rememberer.withExecutors Sample.moreExecutors).handle (Sample.saying "fine")
          ((World.fresh Sample.channels).after Sample.greeted) =
        Sample.rememberer.handle (Sample.saying "fine")
          ((World.fresh Sample.channels).after Sample.greeted) ∧
      ∀ name, (Sample.rememberer.handle (Sample.saying "fine")
          ((World.fresh Sample.channels).after Sample.greeted)).1 ≠
        .error (.render (.unknownExecutor name)) := by
  have hvalid : Executor.Registry.validate Console.executors [Sample.salute, Sample.reminder] =
      .ok () := rfl
  have hempty : (World.fresh Sample.channels).conversations = .empty := rfl
  have hsender : (Sample.saying "fine").sender = some Sample.ann := rfl
  obtain ⟨hfound, hmore, hsucceeds⟩ := executors_found hvalid Sample.candid_executors hempty
    Sample.plays_greeted Sample.plays_rememberer (Sample.saying "fine")
  have hsent : ∃ x ∈ (Sample.rememberer.handle (Sample.saying "fine")
      ((World.fresh Sample.channels).after Sample.greeted)).2.sentSince
        ((World.fresh Sample.channels).after Sample.greeted),
      x.envelope = .text "I don't know anything about you yet." := by decide +kernel
  obtain ⟨x, hx, henvelope⟩ := hsent
  obtain ⟨_, _, -, -, hmoments⟩ := Sample.rememberer.exists_sendsAt hsender
    ((World.fresh Sample.channels).after Sample.greeted)
  obtain ⟨_, _, -, hat⟩ := hmoments x hx
  exact ⟨hvalid, ⟨_, hat.rendersAt, congrArg _ henvelope, hfound _ hat.rendersAt⟩,
    hmore _ Sample.within_moreExecutors, hsucceeds⟩

end World

end Chatflow

import Chatflow.Proofs.Bot.Chain
import Chatflow.Proofs.Bot.Simulation
import Chatflow.Proofs.Matching
import Chatflow.Proofs.Store.Blocks

/-!
# What turns fail with

A computation fails with errors of some kind only (`FailsOnly`) if all that it is made of does, and
so does what follows from a result if this result is one that the computation can give. A turn that
fails does so by a call to a store or a channel, or by a block that cannot be rendered and is one of
the flow or the fallback text: `Bot.Covers.failsOnly_handle`.

What goes wrong while a conversation is continued is no failure of the turn: the conversation is
ended on it, and the turn goes on. So the block that asks again, which may be none of the flow, is
not among those that a turn fails by.
-/

namespace Chatflow

/-- A computation fails with errors of a kind only. -/
def FailsOnly {ε α : Type} (P : ε → Prop) (x : ExceptT ε Turn α) : Prop :=
  ∀ w err, (x w).1 = .error err → P err

namespace FailsOnly

variable {ε ε' α β : Type} {P : ε → Prop} {x : ExceptT ε Turn α}

theorem pure (a : α) : FailsOnly P (Pure.pure a : ExceptT ε Turn α) := nofun

theorem throw {err : ε} (h : P err) : FailsOnly P (throw err : ExceptT ε Turn α) := by
  rintro w err' ⟨⟩
  exact h

/-- What cannot fail may be lifted. -/
theorem lift (x : Turn α) : FailsOnly P (liftM x : ExceptT ε Turn α) := nofun

theorem adapt {f : ε' → ε} {x : ExceptT ε' Turn α} (h : FailsOnly (fun err => P (f err)) x) :
    FailsOnly P (ExceptT.adapt f x) := by
  intro w err herr
  rw [run_adapt] at herr
  have hx := h w
  generalize (x w).1 = r at herr hx
  cases r with
  | ok a => cases herr
  | error err' =>
    obtain rfl := Except.error.inj herr
    exact hx err' rfl

/-- What follows a computation may rest on the result being one of the computation. -/
theorem bind {f : α → ExceptT ε Turn β} (hx : FailsOnly P x)
    (hf : ∀ w a, (x w).1 = .ok a → FailsOnly P (f a)) : FailsOnly P (x >>= f) := by
  intro w err herr
  have hfirst := hx w
  have hrest := hf w
  rw [run_bind] at herr
  generalize x w = run at herr hfirst hrest
  obtain ⟨err' | a, w'⟩ := run
  · obtain rfl := Except.error.inj herr
    exact hfirst err' rfl
  · exact hrest a rfl w' err herr

/-- A failure that is caught may be thrown again. -/
theorem caught {f : Except ε' α → ExceptT ε Turn β} {x : ExceptT ε' Turn α} {P' : ε' → Prop}
    (hx : FailsOnly P' x) (hok : ∀ a, FailsOnly P (f (.ok a)))
    (herror : ∀ err, P' err → FailsOnly P (f (.error err))) :
    FailsOnly P ((liftM x.run : ExceptT ε Turn (Except ε' α)) >>= f) := by
  refine bind (lift _) fun w r hr => ?_
  obtain rfl : (x w).1 = r := Except.ok.inj hr
  cases hresult : (x w).1 with
  | ok a => exact hok a
  | error err => exact herror err (hx w err hresult)

end FailsOnly

namespace Bot

variable {bot : Bot} {P : BotError → Prop} {e : Event} {b : Block}

/-- Whenever a block is rendered for somebody, it fails with errors of a kind only. -/
def RendersOnly (bot : Bot) (P : BotError → Prop) (b : Block) : Prop :=
  ∀ w context vars fallback conversation roll err,
    (bot.renderer w).process b context vars fallback conversation roll = .error err →
      P (.render err)

/-- The errors of a kind are all that a turn can fail with. -/
structure Covers (bot : Bot) (P : BotError → Prop) : Prop where
  store : ∀ cause, P (.store cause)
  channel : ∀ cause, P (.channel cause)
  sender : P .missingSender
  /-- A block of the flow cannot be rendered. -/
  flow : ∀ b ∈ bot.blocks.blocks, bot.RendersOnly P b
  /-- Nor can the fallback text. -/
  text : bot.RendersOnly P bot.fallbackMessageBlock

namespace Covers

variable (h : bot.Covers P)

include h

/-! ### Calls and messages -/

theorem ask {α : Type} (call : Call) (work : World → Except StoreError (α × World)) :
    FailsOnly P (bot.ask call work) := by
  intro w err herr
  rw [Bot.ask] at herr
  split at herr
  · obtain rfl := Except.error.inj herr
    exact h.store _
  · split at herr
    · cases herr
    · obtain rfl := Except.error.inj herr
      exact h.store _

theorem requireSender (e : Event) : FailsOnly P e.requireSender := by
  rw [Event.requireSender]
  split
  · exact .pure _
  · exact .throw h.sender

theorem deliver (e : Event) (x : Sent) : FailsOnly P (bot.deliver e x) := by
  intro w err herr
  unfold Bot.deliver at herr
  split at herr
  · obtain rfl := Except.error.inj herr
    exact h.channel _
  · split at herr
    · obtain rfl := Except.error.inj herr
      exact h.channel _
    · cases herr
  · dsimp only at herr
    split at herr
    · obtain rfl := Except.error.inj herr
      exact h.channel _
    · cases herr

omit h in
theorem render (hb : bot.RendersOnly P b) (context : Context) (vars : Dict Json)
    (fallback : Bool) (conversation : Option String) :
    FailsOnly P (bot.render b context vars fallback conversation) := by
  intro w err herr
  have hresult : ((bot.renderer w).process b context vars fallback conversation
      (bot.rolls w.drawn)).mapError BotError.render = .error err := herr
  cases hprocess : (bot.renderer w).process b context vars fallback conversation
      (bot.rolls w.drawn) with
  | ok envelope =>
    rw [hprocess] at hresult
    cases hresult
  | error cause =>
    rw [hprocess] at hresult
    obtain rfl := Except.error.inj hresult
    exact hb w context vars fallback conversation _ cause hprocess

theorem send (hb : bot.RendersOnly P b) (context : Context) (fallback : Bool)
    (conversation : Option String) :
    FailsOnly P (bot.send e b context fallback conversation) :=
  .bind (h.requireSender e) fun _ s _ =>
    .bind (render hb context s.vars fallback conversation) fun _ _ _ =>
      .bind (h.deliver e _) fun _ _ _ => .bind (.lift _) fun _ _ _ =>
        .bind (h.ask _ _) fun _ _ _ => .pure _

/-! ### Steps of a conversation -/

variable {c : Conversation} {fallback : Bool}

theorem enter (permanent : Bool) :
    FailsOnly (fun failure => P failure.1) (bot.enter e b permanent c) := by
  have hstore : FailsOnly (fun failure : BotError × Conversation => P failure.1) (do
      keeping { c with context := (c.context.update b e permanent).context }
        (bot.updateConversation
          { c with context := (c.context.update b e permanent).context })
      return { c with context := (c.context.update b e permanent).context } : Step) :=
    .bind (.adapt (h.ask _ _)) fun _ _ _ => .pure _
  rw [Bot.enter]
  dsimp only
  split
  · split
    · exact .bind (.adapt (h.ask _ _)) fun _ _ _ => hstore
    · exact hstore
  · exact hstore

theorem settle : FailsOnly (fun failure => P failure.1) (bot.settle b c) := by
  rw [Bot.settle]
  split
  · exact .lift _
  · exact .bind (.adapt (h.ask _ _)) fun _ _ _ =>
      .bind (.adapt (h.ask _ _)) fun _ _ _ => .pure _

omit h in
theorem lookUp {found : Step} (hfound : FailsOnly (fun failure => P failure.1) found) :
    FailsOnly (fun failure => P failure.1) (bot.lookUp c found) := by
  refine .bind (.lift _) fun _ fault _ => ?_
  cases fault with
  | some fault => exact .lift _
  | none => exact hfound

theorem walk {chain : Chain} (hchain : ∀ b ∈ chain.blocks, bot.RendersOnly P b) :
    FailsOnly (fun failure => P failure.1) (bot.walk e fallback c chain) := by
  have hsay {b : Block} (hb : bot.RendersOnly P b) :
      FailsOnly (fun failure => P failure.1) (bot.say e fallback c b) :=
    .adapt (h.send hb c.context fallback (some c.id))
  induction chain with
  | last b => exact .bind (hsay (hchain b List.mem_cons_self)) fun _ _ _ => h.settle
  | missing b attached | cycle b attached =>
    exact .bind (hsay (hchain b List.mem_cons_self)) fun _ _ _ => lookUp (.lift _)
  | link b rest ih =>
    exact .bind (hsay (hchain b List.mem_cons_self)) fun _ _ _ =>
      lookUp (ih fun b' hb' => hchain b' (List.mem_cons_of_mem _ hb'))

theorem trigger (hb : b ∈ bot.blocks.blocks) :
    FailsOnly (fun failure => P failure.1) (bot.trigger e b fallback c) :=
  h.walk fun b' hb' => (BlockStore.mem_of_mem_chain hb').elim (fun heq => heq ▸ h.flow b hb)
    (h.flow b')

/-- A start fails with what it ends the conversation on. -/
theorem start (hb : b ∈ bot.blocks.blocks) : FailsOnly P (bot.start e b) := by
  have hbegin (c : Conversation) :
      FailsOnly (fun failure => P failure.1) (bot.begin e b c) :=
    .bind (h.enter true) fun _ _ _ => h.trigger hb
  refine .bind (h.requireSender e) fun _ s _ => .bind (.lift _) fun _ _ _ =>
    .bind (h.ask _ _) fun _ c _ => .bind (.lift _) fun _ _ _ =>
      .caught (hbegin c) (fun _ => .pure _) ?_
  rintro ⟨err, c'⟩ herr
  exact .bind (.lift _) fun _ _ _ => .throw herr

/-! ### Turns -/

/-- A conversation that cannot be continued is no failure, but for what is read for it. -/
theorem answer : FailsOnly P (bot.answer e c) := by
  have hfind : FailsOnly P (bot.findNext e c) := .bind (h.ask _ _) fun _ _ _ => .pure _
  refine .caught hfind (fun found => ?_) fun err herr =>
    .bind (.lift _) fun _ _ _ => .throw herr
  cases found with
  | some found => exact .lift _
  | none =>
    dsimp only
    split
    · exact .lift _
    · exact .bind (.lift _) fun _ _ _ => .pure _

theorem continueActive : FailsOnly P (bot.continueActive e) := by
  refine .bind (h.requireSender e) fun _ s _ => .bind (h.ask _ _) fun _ found _ => ?_
  cases found with
  | none => exact .pure _
  | some c =>
    refine .bind h.answer fun _ handled _ => ?_
    dsimp only
    split
    · exact .bind (.lift _) fun _ _ _ => .pure _
    · exact .pure _

theorem sayFallback : FailsOnly P (bot.sayFallback e) := by
  rw [Bot.sayFallback]
  split
  · exact .pure _
  · exact .bind (h.send h.text .empty false none) fun _ _ _ => .pure _

theorem fallBack : FailsOnly P (bot.fallBack e) := by
  rw [Bot.fallBack]
  split
  · exact .pure _
  refine .bind (h.requireSender e) fun _ s _ => .bind (.lift _) fun _ _ _ => ?_
  cases bot.settings.fallbackBlock with
  | none => exact h.sayFallback
  | some id =>
    refine .bind (h.ask _ _) fun w found hfound => ?_
    cases found with
    | none => exact h.sayFallback
    | some b =>
      -- what is found in the store is of the flow
      have hb : bot.blocks.find? id = some b := by
        obtain ⟨err, hrun⟩ | hrun := bot.findBlock_cases w id
        · cases hrun ▸ hfound
        · exact Except.ok.inj (hrun ▸ hfound)
      exact .bind (h.start (BlockStore.mem_of_find? hb)) fun _ _ _ => .pure _

/-- **What a turn fails with.** -/
theorem failsOnly_handle (event : Event) : FailsOnly P (bot.handle event) := by
  refine .bind (h.requireSender event) fun _ _ _ => .bind h.continueActive fun _ continued _ => ?_
  cases continued with
  | true => exact .pure _
  | false =>
    refine .bind (h.ask _ _) fun w starting hstarting => ?_
    obtain rfl : bot.blocks.starting = starting := by
      obtain ⟨err, hrun⟩ | hrun := bot.findStarting_cases w
      · cases hrun ▸ hstarting
      · exact Except.ok.inj (hrun ▸ hstarting)
    split
    · rename_i found hmatch
      have hb := BlockStore.mem_of_mem_starting (Event.mem_of_matchBlock? hmatch)
      exact .bind (h.start hb) fun _ _ _ => .pure _
    · exact h.fallBack

end Covers

end Bot

end Chatflow

import Chatflow.Proofs.Bot.Path
import Chatflow.Proofs.Store.Conversations
import Chatflow.Proofs.Telemetry.Snapshot

/-!
# Accounts of what is done

Messages are reported in the transition that sends them, and new conversations in the one that
creates them. So there is an account of each kind of report (`Account`), and every transition keeps
all of them even: as much was reported as was done (`Bot.Moves.balances`), whichever calls fail.
-/

namespace Chatflow

/-- What is reported as it is done. -/
inductive Account where
  /-- Messages sent by the bot. -/
  | outgoing
  /-- All messages. -/
  | allMessages
  /-- Messages with the ids they were given. -/
  | messages
  /-- Messages that ask again. -/
  | localFallbacks
  /-- Conversations that were created. -/
  | newConversations

namespace Account

/-- The reports that an account counts. -/
def counts : Account → Telemetry.Event → Bool
  | outgoing => Telemetry.Event.isEntry .outgoing
  | allMessages => Telemetry.Event.isEntry .allMessages
  | messages => Telemetry.Event.isMessage
  | localFallbacks => Telemetry.Event.isLocalFallback
  | newConversations => Telemetry.Event.isEntry .newConversations

/-- How much was done of what an account is of. -/
def done (w : World) : Account → Nat
  | outgoing | allMessages | messages => w.journal.length
  | localFallbacks => w.journal.countP (·.fallback)
  | newConversations => w.conversations.created

end Account

namespace World

variable {w w' : World}

/-- The number of reports of some kind. -/
def tally (w : World) (p : Telemetry.Event → Bool) : Nat := w.telemetry.countP p

theorem tally_emitted (w : World) (es : List Telemetry.Event) (p : Telemetry.Event → Bool) :
    (w.emitted es).tally p = w.tally p + es.countP p :=
  List.countP_append

/-- From one world to another each account counts as many reports as things were done. -/
def Balances (w w' : World) : Prop :=
  ∀ a : Account, w'.tally a.counts + a.done w = w.tally a.counts + a.done w'

namespace Balances

theorem refl (w : World) : w.Balances w := fun _ => rfl

theorem trans {w₁ w₂ w₃ : World} (h : w₁.Balances w₂) (h' : w₂.Balances w₃) :
    w₁.Balances w₃ := by
  intro a
  have h := h a
  have h' := h' a
  omega

end Balances

/-- Where nothing is reported, nothing is sent and no conversation is created, the accounts are
even. -/
theorem balances_of_eq (ht : w'.telemetry = w.telemetry) (hj : w'.journal = w.journal)
    (hc : w'.conversations.created = w.conversations.created) : w.Balances w' := by
  intro a
  have hdone : a.done w' = a.done w := by
    cases a with
    | outgoing | allMessages | messages => exact congrArg List.length hj
    | localFallbacks => exact congrArg (List.countP (·.fallback)) hj
    | newConversations => exact hc
  rw [hdone, tally, ht, tally]

theorem Quiet.balances (h : w.Quiet w') : w.Balances w' :=
  balances_of_eq h.telemetry h.journal (congrArg _ h.conversations)

theorem balances_counted (w : World) (call : Call) : w.Balances (w.counted call) :=
  (w.quiet_counted call).balances

theorem balances_refused (w : World) (call : Call) : w.Balances (w.refused call) :=
  (w.quiet_refused call).balances

/-- Reports that no account counts. -/
theorem balances_emitted (w : World) {es : List Telemetry.Event}
    (h : ∀ a : Account, es.countP a.counts = 0) : w.Balances (w.emitted es) := by
  intro a
  have hdone : a.done (w.emitted es) = a.done w := by cases a <;> rfl
  rw [tally_emitted, h, hdone, Nat.add_zero]

end World

namespace Bot

variable {bot : Bot} {e : Event} {s : Subscriber} {p q : Stage × World} {w w' : World}

/-- **A message that was accepted and reported** is on each account of messages once, and on that of
those that ask again if it asks again. -/
theorem Heard.balances {x : Sent} {mid : String} (h : Heard x (reports mid s x) w w') :
    w.Balances w' := by
  intro a
  have hdone : a.done w' = a.done w + (reports mid s x).countP a.counts := by
    cases a with
    | outgoing | allMessages | messages =>
      simp only [Account.done, h.journal, List.length_append]
      rfl
    | localFallbacks =>
      simp only [Account.done, h.journal, List.countP_append]
      cases hx : x.fallback <;>
        simp [reports, Account.counts, Telemetry.Event.isLocalFallback, Telemetry.Event.count, hx]
    | newConversations =>
      simp only [Account.done, h.conversations]
      rfl
  rw [hdone, World.tally, h.telemetry, List.countP_append, World.tally]
  omega

theorem Sends.balances {b : Block} {c : Context} {fallback : Bool} {conversation : Option String}
    {r : Except BotError String} (h : Sends bot e s b c fallback conversation w r w') :
    w.Balances w' := by
  cases h with
  | unrendered _ hquiet => exact hquiet.balances
  | undelivered hquiet _ => exact hquiet.balances
  | unapplied _ hheard => exact hheard.balances.trans (World.balances_refused _ _)
  | applied _ hheard _ => exact hheard.balances.trans (World.balances_of_eq rfl rfl rfl)

/-- **Every transition keeps the accounts even.** -/
theorem Moves.balances (h : bot.Moves e s p q) : p.2.Balances q.2 := by
  cases h with
  | unfound | unloaded | unkept | unstored | unread | unlinked | unstood | unlisted | unsought =>
    exact World.balances_refused _ _
  | absent | found | answered | unanswered | read | missing | cycle | linked | matched |
      unmatched | sought | lost => exact World.balances_counted _ _
  | asked | kept => exact World.balances_of_eq rfl rfl rfl
  | stored h | stood h =>
    exact World.balances_of_eq rfl rfl (ConversationStore.created_update h)
  | bare | last | silent | plain | mute => exact .refl _
  | @entered _ m | @credited _ m =>
    exact World.balances_emitted _ fun a => by cases m <;> cases a <;> rfl
  | fallen => exact World.balances_emitted _ fun a => by cases a <;> rfl
  | said hsends | unsaid hsends | voiced _ hsends | unvoiced hsends => exact hsends.balances
  | @ended w _ _ _ _ h =>
    exact (w.balances_emitted fun a => by cases a <;> rfl).trans
      (World.balances_of_eq rfl rfl (ConversationStore.created_finish h))
  | @unended w =>
    exact (w.balances_emitted fun a => by cases a <;> rfl).trans (World.balances_refused _ _)
  | @unopened w =>
    exact (w.balances_emitted fun a => by cases a <;> rfl).trans (World.balances_refused _ _)
  | @opened w b _ r h =>
    -- the creation and its report come together
    have hcreated := ConversationStore.created_create h
    have hvisited : w.Balances (w.emitted [.entry .popular b.name]) :=
      w.balances_emitted fun a => by cases a <;> rfl
    refine hvisited.trans fun a => ?_
    rw [World.tally_emitted]
    cases a with
    | newConversations =>
      simp only [Account.done, World.emitted, hcreated]
      simp [World.tally, World.counted, Account.counts, Telemetry.Event.isEntry,
        Telemetry.Event.count]
      omega
    | _ => rfl

theorem Path.balances (h : bot.Path e s p q) : p.2.Balances q.2 :=
  h.preserves (I := fun r => p.2.Balances r.2) (fun _ _ hmove hp => hp.trans hmove.balances)
    (.refl _)

end Bot

end Chatflow

import Chatflow.Proofs.Bot.History
import Chatflow.Proofs.Conversation.Asking
import Chatflow.Proofs.Telemetry.Remarks

/-!
# The statistics of turns

What the statistics say was done is what was done (`World.Tallied`), after any history and at any
stage of the turn that follows it (`World.tallied_after`), whichever calls fail.
-/

namespace Chatflow

/-- Whether the outcome of a turn is that the conversation went on. -/
def Bot.continues (bot : Bot) (event : Event) (w : World) : Bool :=
  (Stage.exit (.finished (bot.handle event w).1)).isContinued

namespace World

variable {w w₀ : World}

/-- The number of turns of a history that have a property. -/
def turnsIn (p : Bot → Event → World → Bool) : World → List Occurrence → Nat
  | _, [] => 0
  | w, .turn bot event :: history =>
    (if p bot event w then 1 else 0) + turnsIn p (bot.handle event w).2 history
  | w, .outside subscribers channels :: history =>
    turnsIn p (w.occur (.outside subscribers channels)) history

/-- **What a turn with a property counts once, and any other not at all**, a history counts as often
as it has such turns. -/
theorem count_after {f : World → Nat} {p : Bot → Event → World → Bool}
    (houtside : ∀ (w : World) subscribers channels,
      f (w.occur (.outside subscribers channels)) = f w)
    (hunsent : ∀ bot event w, event.sender = none → p bot event w = false)
    (hturn : ∀ (bot : Bot) (event : Event) (w : World) (s : Subscriber), event.sender = some s →
      f (bot.handle event w).2 = f w + if p bot event w then 1 else 0)
    (w : World) (history : List Occurrence) : f (w.after history) = f w + turnsIn p w history := by
  induction history generalizing w with
  | nil => rfl
  | cons o history ih =>
    have hrest := ih (w.occur o)
    cases o with
    | outside subscribers channels =>
      rw [houtside] at hrest
      exact hrest
    | turn bot event =>
      have hfirst : f (bot.handle event w).2 = f w + if p bot event w then 1 else 0 := by
        cases hs : event.sender with
        | none =>
          rw [Bot.handle_unsent hs, hunsent bot event w hs]
          rfl
        | some s => exact hturn bot event w s hs
      rw [turnsIn, ← Nat.add_assoc, ← hfirst]
      exact hrest

theorem continuations_after (w : World) (history : List Occurrence) :
    (w.after history).continuations = w.continuations + turnsIn Bot.continues w history := by
  refine count_after (fun _ _ _ => rfl) (fun bot event w hs => ?_) (fun bot event w s hs => ?_) w
    history
  · rw [Bot.continues, Bot.handle_unsent hs]
    rfl
  · obtain ⟨s', hs', -⟩ := Bot.sender_detectLanguage event bot.settings.languages hs
    exact (Bot.path_handle hs' w).continuations rfl

theorem fallbacks_after (w : World) (history : List Occurrence) :
    (w.after history).fallbacks = w.fallbacks + turnsIn Bot.fallsBack w history :=
  count_after (fun _ _ _ => rfl) (fun _ _ _ hs => Bot.fallsBack_unsent hs)
    (fun _ _ w _ hs => Bot.fallbacks_handle hs w) w history

theorem balances_after (w : World) (history : List Occurrence) :
    w.Balances (w.after history) := by
  refine after_preserves (I := fun w' => w.Balances w') (fun w' o h => h.trans ?_) history (.refl w)
  exact occur_induction o (.refl w') (fun _ _ => balances_of_eq rfl rfl rfl)
    fun hpath => hpath.balances

/-- The statistics of what was reported since an earlier world. -/
def statsSince (w w₀ : World) : Telemetry.Snapshot := .ofEvents (w.reportedSince w₀)

/-- What the statistics say was done since an earlier world was done: so many messages were sent,
so many of them asked again, so many conversations were created. And so many turns went on with
conversations, and so many fell back. -/
structure Tallied (w w₀ : World) (continued fallen : Nat) : Prop where
  messagesSent : (w.statsSince w₀).messagesSent = (w.sentSince w₀).length
  outgoing : (w.statsSince w₀).total .outgoing = (w.sentSince w₀).length
  allMessages : (w.statsSince w₀).total .allMessages = (w.sentSince w₀).length
  localFallbacks : (w.statsSince w₀).localFallbacks = (w.sentSince w₀).countP (·.fallback)
  newConversations : w₀.conversations.created + (w.statsSince w₀).total .newConversations =
    w.conversations.created
  existingConversations : (w.statsSince w₀).total .existingConversations = continued
  globalFallbacks : (w.statsSince w₀).globalFallbacks = fallen

theorem countP_reportedSince (h : w₀.Grows w) (f : Telemetry.Event → Bool) :
    w₀.tally f + (w.reportedSince w₀).countP f = w.tally f := by
  obtain ⟨es, hes⟩ := h.telemetry
  rw [tally, tally, reportedSince, ← hes, List.drop_left, List.countP_append]

theorem countP_sentSince (h : w₀.Grows w) (f : Sent → Bool) :
    w₀.journal.countP f + (w.sentSince w₀).countP f = w.journal.countP f := by
  obtain ⟨xs, hxs⟩ := h.journal
  rw [sentSince, ← hxs, List.drop_left, List.countP_append]

theorem length_sentSince (h : w₀.Grows w) :
    w₀.journal.length + (w.sentSince w₀).length = w.journal.length := by
  have hall := countP_sentSince h fun _ => true
  simpa only [List.countP_true] using hall

/-- Where the accounts are even the statistics are those of what was done. -/
theorem Balances.tallied (h : w₀.Balances w) (hgrows : w₀.Grows w) {continued fallen : Nat}
    (hcontinued : w.continuations = w₀.continuations + continued)
    (hfallen : w.fallbacks = w₀.fallbacks + fallen) : w.Tallied w₀ continued fallen := by
  have hlength := length_sentSince hgrows
  have hfallbacks := countP_sentSince hgrows (·.fallback)
  -- what was reported since is what was done since
  have haccount : ∀ a : Account, (w.reportedSince w₀).countP a.counts + a.done w₀ = a.done w := by
    intro a
    have heven := h a
    have hsince := countP_reportedSince hgrows a.counts
    omega
  have hsent : ∀ a : Account, a.done w₀ = w₀.journal.length → a.done w = w.journal.length →
      (w.reportedSince w₀).countP a.counts = (w.sentSince w₀).length := by
    intro a hdone₀ hdone
    have ha := haccount a
    omega
  constructor
  · exact (Telemetry.Snapshot.messagesSent_ofEvents _).trans (hsent .messages rfl rfl)
  · exact (Telemetry.Snapshot.total_ofEvents _ _).trans (hsent .outgoing rfl rfl)
  · exact (Telemetry.Snapshot.total_ofEvents _ _).trans (hsent .allMessages rfl rfl)
  · have ha := haccount .localFallbacks
    rw [statsSince, Telemetry.Snapshot.localFallbacks_ofEvents]
    simp only [Account.done, Account.counts] at ha
    omega
  · have ha := haccount .newConversations
    rw [statsSince, Telemetry.Snapshot.total_ofEvents]
    simp only [Account.done, Account.counts] at ha
    omega
  · have hsince := countP_reportedSince hgrows Telemetry.Event.isContinuation
    have htotal := Telemetry.Snapshot.total_ofEvents (w.reportedSince w₀) .existingConversations
    exact htotal.trans (Nat.add_left_cancel (hsince.trans hcontinued))
  · have hsince := countP_reportedSince hgrows Telemetry.Event.isGlobalFallback
    exact (Telemetry.Snapshot.globalFallbacks_ofEvents _).trans
      (Nat.add_left_cancel (hsince.trans hfallen))

/-- **The statistics are those of what was done.** After any history, and whichever calls failed in
it, as many messages are reported as sent, outgoing and in all as the channels have accepted, and as
many local fallbacks as there are among them that ask again; as many new conversations as were
created; as many conversations that go on as turns had that outcome; and as many global fallbacks as
turns came to where a bot falls back. The same holds at every stage of the turn that comes next: its
outcome counts once it is over, and that it falls back counts as soon as it does. -/
theorem tallied_after (w : World) (history : List Occurrence) :
    (w.after history).Tallied w (turnsIn Bot.continues w history)
        (turnsIn Bot.fallsBack w history) ∧
      ∀ {bot : Bot} {e : Event} {s : Subscriber} {steps : List (Stage × Stage)} {stage : Stage}
        {v : World}, bot.Trail e s (.waiting, w.after history) steps (stage, v) →
        v.Tallied w (turnsIn Bot.continues w history + if stage.isContinued then 1 else 0)
          (turnsIn Bot.fallsBack w history +
            if steps.any Stage.fallsBetween then 1 else 0) := by
  have hbalances := balances_after w history
  have hgrows := grows_after w history
  have hcontinued := continuations_after w history
  have hfallen := fallbacks_after w history
  refine ⟨hbalances.tallied hgrows hcontinued hfallen, fun htrail => ?_⟩
  refine (hbalances.trans htrail.path.balances).tallied (hgrows.trans htrail.path.grows) ?_ ?_
  · rw [htrail.path.continuations rfl, hcontinued, Nat.add_assoc]
  · rw [htrail.fallbacks, htrail.countP_fallsBetween, hfallen, Nat.add_assoc]

end World

namespace Sample

/-- A bot that apologises where no block answers. -/
def polite : Bot :=
  { bot with
    settings := { Settings.none with globalFallback := true, fallbackMessages := ["Oh."] } }

end Sample

namespace World

/-- A conversation is started, asks again, and ends; then no block answers. -/
theorem tallied_after_apology :
    (Sample.worldOf Sample.polite ["hi", "well", "fine", "bye"]).Tallied (Sample.world []) 2 1 ∧
      ((Sample.worldOf Sample.polite ["hi", "well", "fine", "bye"]).sentSince
        (Sample.world [])).map (·.fallback) = [false, true, false, false] ∧
      ∃ v, Sample.polite.Trail (Sample.saying "hi") Sample.ann
          (.waiting, Sample.worldOf Sample.polite ["hi", "well", "fine", "bye"])
          [(.waiting, .exit .free)] (.exit .free, v) ∧ v.Tallied (Sample.world []) 2 1 := by
  have hcontinued : turnsIn Bot.continues (Sample.world [])
      (["hi", "well", "fine", "bye"].map fun t => .turn Sample.polite (Sample.saying t)) = 2 := by
    decide +kernel
  have hfallen : turnsIn Bot.fallsBack (Sample.world [])
      (["hi", "well", "fine", "bye"].map fun t => .turn Sample.polite (Sample.saying t)) = 1 := by
    decide +kernel
  have hactive : (Sample.worldOf Sample.polite
      ["hi", "well", "fine", "bye"]).conversations.active? Sample.ann.id = none := by
    decide +kernel
  obtain ⟨hafter, hduring⟩ := tallied_after (Sample.world [])
    (["hi", "well", "fine", "bye"].map fun t => .turn Sample.polite (Sample.saying t))
  rw [hcontinued, hfallen] at hafter
  have htrail : Sample.polite.Trail (Sample.saying "hi") Sample.ann _ _ _ :=
    Bot.Trail.refl.tail (.absent hactive)
  have hnext := hduring htrail
  rw [hcontinued, hfallen] at hnext
  exact ⟨hafter, by decide +kernel, _, htrail, hnext⟩

end World

end Chatflow

import Chatflow.Bot.Intake
import Chatflow.Proofs.Bot.Path
import Chatflow.Proofs.Store.Subscribers

/-!
# From the channel to the turn

What a channel delivers leads to a turn or to none (`Intake.receive_leads`). Before the turn nothing
is sent and no conversation is touched, and the sender of the event that is served is the one on
record then. Subscribers lie under their ids all along, also in a turn (`Bot.Path.keyed`), and no
two have the same id on a channel (`Bot.Path.distinct`).
-/

namespace Chatflow

/-- Nothing was said and no conversation touched, but somebody may have been met. -/
structure World.Prepares (w w' : World) : Prop where
  conversations : w'.conversations = w.conversations
  journal : w'.journal = w.journal
  /-- The subscribers lie under their ids. -/
  keyed : w'.subscribers.Keyed

theorem World.Prepares.trans {w₁ w₂ w₃ : World} (h : w₁.Prepares w₂) (h' : w₂.Prepares w₃) :
    w₁.Prepares w₃ where
  conversations := h'.conversations.trans h.conversations
  journal := h'.journal.trans h.journal
  keyed := h'.keyed

/-! ### The calls before a turn -/

/-- Only a fault keeps a sender from being met. -/
theorem Bot.getOrCreateSubscriber_faults (bot : Bot) (w : World) (channel foreignId : String) :
    (∃ fault, bot.outages .getOrCreateSubscriber (w.made .getOrCreateSubscriber) = some fault ∧
        bot.getOrCreateSubscriber channel foreignId w =
          (.error (.store fault.storeError), w.refused .getOrCreateSubscriber)) ∨
      bot.getOrCreateSubscriber channel foreignId w =
        (.ok (w.subscribers.getOrCreate channel foreignId).1,
          { w.counted .getOrCreateSubscriber with
            subscribers := (w.subscribers.getOrCreate channel foreignId).2 }) :=
  bot.ask_faults w .getOrCreateSubscriber fun w =>
    ((w.subscribers.getOrCreate channel foreignId).1,
      { w with subscribers := (w.subscribers.getOrCreate channel foreignId).2 })

theorem Bot.findSubscriber_faults (bot : Bot) (w : World) (id : String) :
    (∃ fault, bot.outages .findSubscriber (w.made .findSubscriber) = some fault ∧
        bot.findSubscriber id w =
          (.error (.store fault.storeError), w.refused .findSubscriber)) ∨
      bot.findSubscriber id w = (.ok (w.subscribers.find? id), w.counted .findSubscriber) :=
  bot.ask_faults w .findSubscriber fun w => (w.subscribers.find? id, w)

/-- A language service only adds a parse, and only has it noted that it was asked. -/
theorem Intake.withParse_apply (i : Intake) (e : Event) (w : World) :
    ∃ nlp asked, i.withParse e w = ({ e with nlp := nlp }, { w with asked := asked }) := by
  rw [withParse]
  cases i.serviceFor e.text with
  | none => exact ⟨e.nlp, w.asked, rfl⟩
  | some service =>
    cases hparse : service e.text with
    | error message => exact ⟨e.nlp, w.asked ++ [e.text], by simp only [hparse]; rfl⟩
    | ok p => exact ⟨some (i.sure p), w.asked ++ [e.text], by simp only [hparse]; rfl⟩

section

variable (bot : Bot) {w : World} (hkeyed : w.subscribers.Keyed)

include hkeyed

/-- The sender of an event is met and then on record, or the call fails. -/
theorem Bot.getOrCreateSubscriber_cases (channel foreignId : String) :
    (∃ err w', bot.getOrCreateSubscriber channel foreignId w = (.error err, w') ∧ w.Prepares w') ∨
      ∃ known w', bot.getOrCreateSubscriber channel foreignId w = (.ok known, w') ∧
        w.Prepares w' ∧ w'.subscribers.find? known.id = some known := by
  obtain ⟨fault, -, h⟩ | h := bot.getOrCreateSubscriber_faults w channel foreignId
  · exact .inl ⟨_, _, h, rfl, rfl, hkeyed⟩
  · exact .inr ⟨_, _, h, ⟨rfl, rfl, hkeyed.getOrCreate channel foreignId⟩,
      hkeyed.find?_getOrCreate channel foreignId⟩

theorem Bot.findSubscriber_cases (id : String) :
    (∃ err w', bot.findSubscriber id w = (.error err, w') ∧ w.Prepares w') ∨
      ∃ w', bot.findSubscriber id w = (.ok (w'.subscribers.find? id), w') ∧ w.Prepares w' ∧
        w'.subscribers = w.subscribers := by
  obtain ⟨fault, -, h⟩ | h := bot.findSubscriber_faults w id
  · exact .inl ⟨_, _, h, rfl, rfl, hkeyed⟩
  · exact .inr ⟨w.counted .findSubscriber, h, ⟨rfl, rfl, hkeyed⟩, rfl⟩

/-- To have a text parsed leaves the subscribers alone. -/
theorem Intake.withParse_cases (i : Intake) (e : Event) :
    ∃ parsed w', i.withParse e w = (parsed, w') ∧ w.Prepares w' ∧
      w'.subscribers = w.subscribers ∧ parsed.isMessage = e.isMessage := by
  obtain ⟨nlp, asked, h⟩ := i.withParse_apply e w
  exact ⟨_, _, h, ⟨rfl, rfl, hkeyed⟩, rfl, rfl⟩

end

/-! ### The subscribers in a turn -/

namespace Bot

variable {bot : Bot} {e : Event} {s : Subscriber} {p q : Stage × World}

/-- To send a message leaves the subscribers alone, or changes one of them but for its ids. -/
theorem Sends.subscribers_cases {b : Block} {c : Context} {fallback : Bool}
    {conversation : Option String} {w w' : World} {r : Except BotError String}
    (h : Sends bot e s b c fallback conversation w r w') :
    w.subscribers.Becomes w'.subscribers := by
  cases h with
  | unrendered _ hquiet | undelivered hquiet _ => exact .inl hquiet.subscribers
  | unapplied _ hheard => exact .inl hheard.subscribers
  | applied _ hheard hupdates =>
    rw [hheard.subscribers] at hupdates
    exact .inr ⟨_, _, _, hupdates, rfl, fun _ => ⟨rfl, rfl, rfl⟩⟩

theorem Moves.subscribers_cases (h : bot.Moves e s p q) :
    p.2.subscribers.Becomes q.2.subscribers := by
  cases h with
  | kept _ hr => exact .inr ⟨_, _, _, hr, rfl, fun _ => ⟨rfl, rfl, rfl⟩⟩
  | said hsends | unsaid hsends | voiced _ hsends | unvoiced hsends =>
    exact hsends.subscribers_cases
  | _ => exact .inl rfl

theorem Path.keyed (h : bot.Path e s p q) (hkeyed : p.2.subscribers.Keyed) :
    q.2.subscribers.Keyed :=
  h.preserves (I := fun r => r.2.subscribers.Keyed)
    (fun _ _ hmove hr => hr.becomes hmove.subscribers_cases) hkeyed

theorem Path.distinct (h : bot.Path e s p q) (hdistinct : p.2.subscribers.Distinct) :
    q.2.subscribers.Distinct :=
  h.preserves (I := fun r => r.2.subscribers.Distinct)
    (fun _ _ hmove hr => hr.becomes hmove.subscribers_cases) hdistinct

end Bot

namespace Intake

variable {i : Intake} {w w' : World} {α : Type} {x : Attempt α}

theorem ofLookup_ok {a : α} (h : x w = (.ok a, w')) : ofLookup x w = (.ok a, w') := by
  rw [ofLookup, run_adapt, h]
  rfl

theorem ofLookup_store {cause : StoreError} (h : x w = (.error (.store cause), w')) :
    ofLookup x w = (.error (.store cause), w') := by
  rw [ofLookup, run_adapt, h]
  rfl

theorem ofLookup_error {err : BotError} (h : x w = (.error err, w')) :
    ∃ cause, ofLookup x w = (.error cause, w') := by
  rw [ofLookup, run_adapt, h]
  exact ⟨_, rfl⟩

/-- A message is answered by a turn. -/
theorem dispatch_apply {e : Event} (h : e.isMessage = true) (w : World) :
    i.dispatch e w =
      (((i.bot.handle e w).1.mapError .failed).map some, (i.bot.handle e w).2) := by
  have hserve : i.bot.serve [] e = ExceptT.adapt .failed (i.bot.handle e) := by
    rw [Bot.serve, if_pos (by simp [h])]
  have hlift : (ExceptT.lift (ExceptT.adapt ServeError.failed (i.bot.handle e)).run :
      ExceptT IntakeError Turn _) w =
      (.ok ((i.bot.handle e w).1.mapError .failed), (i.bot.handle e w).2) := rfl
  rw [dispatch, hserve, run_bind_ok hlift]
  cases (i.bot.handle e w).1 <;> rfl

theorem dispatch_snd {e : Event} (h : e.isMessage = true) (w : World) :
    (i.dispatch e w).2 = (i.bot.handle e w).2 :=
  congrArg Prod.snd (dispatch_apply h w)

/-! ### What becomes of an event -/

/-- Nothing happens, or there is a turn on an event whose sender is as on record. -/
def Serves (i : Intake) (w w' : World) : Prop :=
  w' = w ∨ ∃ event s, event.sender = some s ∧ w.subscribers.find? s.id = some s ∧
    w' = (i.bot.handle event w).2

/-- Before what is served somebody may be met. -/
def Leads (i : Intake) (w w' : World) : Prop := ∃ w₁, w.Prepares w₁ ∧ i.Serves w₁ w'

/-- **What becomes of an event.** -/
theorem handle_leads (e : Event) (hkeyed : w.subscribers.Keyed) : i.Leads w (i.handle e w).2 := by
  have hsame : w.Prepares w := ⟨rfl, rfl, hkeyed⟩
  rw [handle]
  cases hmessage : e.isMessage with
  | false => exact ⟨w, hsame, .inl rfl⟩
  | true =>
    simp only [Bool.not_true, Bool.false_eq_true, if_false]
    cases e.author with
    | error cause => exact ⟨w, hsame, .inl rfl⟩
    | ok foreignId =>
      dsimp only
      obtain ⟨err, w₁, hmet, hprepares⟩ | ⟨known, w₁, hmet, hprepares, hknown⟩ :=
        i.bot.getOrCreateSubscriber_cases hkeyed e.channel foreignId
      · obtain ⟨cause, hfailed⟩ := ofLookup_error hmet
        rw [run_bind_error hfailed]
        exact ⟨w₁, hprepares, .inl rfl⟩
      obtain ⟨parsed, w₂, hparse, hparses, hsubscribers, hparsed⟩ :=
        i.withParse_cases hprepares.keyed e
      rw [run_bind_ok (ofLookup_ok hmet), run_lift_bind, hparse]
      have hprepares := hprepares.trans hparses
      obtain ⟨err, w₃, hfound, hfinds⟩ | ⟨w₃, hfound, hfinds, hsubscribers'⟩ :=
        i.bot.findSubscriber_cases hparses.keyed known.id
      · obtain ⟨cause, hfailed⟩ := ofLookup_error hfound
        rw [run_bind_error hfailed]
        exact ⟨w₃, hprepares.trans hfinds, .inl rfl⟩
      -- the sender is still on record, and is served as it is there
      have hcurrent : w₃.subscribers.find? known.id = some known := by
        rw [hsubscribers', hsubscribers, hknown]
      have hserved : (parsed.withSender known).isMessage = true := hparsed.trans hmessage
      rw [run_bind_ok (ofLookup_ok hfound), hcurrent, Option.getD_some, dispatch_snd hserved]
      exact ⟨w₃, hprepares.trans hfinds, .inr ⟨parsed.withSender known, known, rfl, hcurrent, rfl⟩⟩

/-- **What becomes of what a channel delivers.** -/
theorem receive_leads (channel : String) (raw : Json) (hkeyed : w.subscribers.Keyed) :
    i.Leads w (i.receive channel raw w).2 := by
  rw [receive]
  cases Event.parse channel raw with
  | error cause => exact ⟨w, ⟨rfl, rfl, hkeyed⟩, .inl rfl⟩
  | ok e => exact handle_leads e hkeyed

end Intake

end Chatflow

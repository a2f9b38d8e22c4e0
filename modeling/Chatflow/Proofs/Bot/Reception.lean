import Chatflow.Proofs.Bot.History
import Chatflow.Proofs.Bot.Intake
import Chatflow.Proofs.Telemetry.Snapshot

/-!
# Which events start turns

What a channel delivers starts a turn exactly when it is a message with an author, unless the
sender cannot be looked up. What starts none, because it is no message or an event error, leaves the
world as it was, in all its parts. A turn runs for the one subscriber who has the author's id on the
channel of the event, whom the lookup finds or creates (`Intake.receive_admits`).
-/

namespace Chatflow

/-- A call counts for the calls of its name only. -/
theorem World.made_counted (w : World) (call other : Call) :
    (w.counted call).made other = w.made other + if other.name = call.name then 1 else 0 :=
  w.calls.find?_bump call.name other.name

namespace Intake

variable {i : Intake} {e : Event} {author : String} {w : World}

/-- A lookup of the sender of an event meets a fault, which is what comes of the event: the sender
is not met, or is met but not found again. Either lookup is the first of its kind since `w`. -/
def LookupFails (i : Intake) (e : Event) (author : String) (w : World)
    (r : Except IntakeError (Option Outcome) × World) : Prop :=
  ∃ call fault w', i.bot.outages call (w.made call) = some fault ∧
    r = (.error (.store fault.storeError), w') ∧
    (call = .getOrCreateSubscriber ∧ w'.subscribers = w.subscribers ∨
      call = .findSubscriber ∧ w'.subscribers = (w.subscribers.getOrCreate e.channel author).2)

/-- **A message with an author starts a turn**, unless the sender cannot be looked up. The turn
begins in the world as it was but for the lookups. -/
theorem handle_of_author (hmessage : e.isMessage = true) (hauthor : e.author = .ok author)
    (w : World) :
    i.LookupFails e author w (i.handle e w) ∨
      ∃ known store nlp calls asked,
        w.subscribers.getOrCreate e.channel author = (known, store) ∧
        i.handle e w = i.dispatch
          { e with nlp := nlp, sender := some ((store.find? known.id).getD known) }
          { w with subscribers := store, calls := calls, asked := asked } := by
  rw [handle, hmessage]
  simp only [Bool.not_true, Bool.false_eq_true, if_false, hauthor]
  obtain ⟨fault, hfault, hmeet⟩ | hmeet :=
    i.bot.getOrCreateSubscriber_faults w e.channel author
  · rw [run_bind_error (ofLookup_store hmeet)]
    exact .inl ⟨_, fault, _, hfault, rfl, .inl ⟨rfl, rfl⟩⟩
  rw [run_bind_ok (ofLookup_ok hmeet), run_lift_bind]
  obtain ⟨nlp, asked, hparse⟩ := i.withParse_apply e
    { w.counted .getOrCreateSubscriber with
      subscribers := (w.subscribers.getOrCreate e.channel author).2 }
  rw [hparse, LookupFails]
  generalize w.subscribers.getOrCreate e.channel author = met
  obtain ⟨known, store⟩ := met
  obtain ⟨fault, hfault, hfind⟩ | hfind := i.bot.findSubscriber_faults
    { w.counted .getOrCreateSubscriber with subscribers := store, asked := asked } known.id
  · -- the call that met the sender does not count for this one
    have hmade : (w.counted .getOrCreateSubscriber).made .findSubscriber =
        w.made .findSubscriber := w.made_counted .getOrCreateSubscriber .findSubscriber
    exact .inl ⟨.findSubscriber, fault, _, hmade ▸ hfault, run_bind_error (ofLookup_store hfind),
      .inr ⟨rfl, rfl⟩⟩
  · refine .inr ⟨known, store, nlp,
      ((w.counted .getOrCreateSubscriber).counted .findSubscriber).calls, asked, rfl, ?_⟩
    exact run_bind_ok (ofLookup_ok hfind)

/-- Nothing came of an event, or it was an event error. -/
def StartsNone (r : Except IntakeError (Option Outcome)) : Prop :=
  r = .ok none ∨ ∃ cause, r = .error (.event cause)

/-- Whether an event is a message does not depend on what was found out about it. -/
theorem isMessage_with (h : e.isMessage = true) (sender : Option Subscriber)
    (nlp : Option Nlp.Parse) :
    Event.isMessage { e with sender := sender, nlp := nlp } = true := h

theorem not_startsNone_dispatch (h : e.isMessage = true) (w : World) :
    ¬StartsNone (i.dispatch e w).1 := by
  rw [dispatch_apply h]
  cases (i.bot.handle e w).1 with
  | error err => exact fun h => h.elim nofun fun ⟨_, hcause⟩ => nomatch hcause
  | ok o => exact fun h => h.elim nofun fun ⟨_, hcause⟩ => nomatch hcause

theorem not_startsNone_of_lookupFails {r : Except IntakeError (Option Outcome) × World}
    (h : i.LookupFails e author w r) : ¬StartsNone r.1 := by
  obtain ⟨call, fault, w', -, rfl, -⟩ := h
  exact fun h => h.elim nofun fun ⟨_, hcause⟩ => nomatch hcause

/-- What starts no turn leaves the world as it was. -/
theorem handle_of_startsNone (h : StartsNone (i.handle e w).1) : (i.handle e w).2 = w := by
  cases hmessage : e.isMessage with
  | false =>
    rw [handle, hmessage]
    rfl
  | true =>
    cases hauthor : e.author with
    | error cause =>
      rw [handle, hmessage, hauthor]
      rfl
    | ok author =>
      exfalso
      obtain hfails | ⟨known, store, nlp, calls, asked, -, hrun⟩ :=
        i.handle_of_author hmessage hauthor w
      · exact not_startsNone_of_lookupFails hfails h
      · rw [hrun] at h
        exact not_startsNone_dispatch (isMessage_with hmessage _ nlp) _ h

theorem handle_distinct (e : Event) (hkeyed : w.subscribers.Keyed)
    (hdistinct : w.subscribers.Distinct) : (i.handle e w).2.subscribers.Distinct := by
  cases hmessage : e.isMessage with
  | false =>
    rw [handle, hmessage]
    exact hdistinct
  | true =>
    cases hauthor : e.author with
    | error cause =>
      rw [handle, hmessage, hauthor]
      exact hdistinct
    | ok author =>
      have hmet := hdistinct.of_meets
        (w.subscribers.meets_getOrCreate hkeyed hdistinct e.channel author)
      obtain ⟨call, fault, w', -, hfails, ⟨-, hsame⟩ | ⟨-, hsame⟩⟩ |
        ⟨known, store, nlp, calls, asked, hstore, hrun⟩ := i.handle_of_author hmessage hauthor w
      · rw [hfails, hsame]
        exact hdistinct
      · rw [hfails, hsame]
        exact hmet
      · rw [hstore] at hmet
        obtain ⟨s', hs', -⟩ := Bot.sender_detectLanguage
          { e with nlp := nlp, sender := some ((store.find? known.id).getD known) }
          i.bot.settings.languages rfl
        rw [hrun, dispatch_snd (isMessage_with hmessage _ nlp)]
        exact (Bot.path_handle hs' _).distinct hmet

/-- **No second record of a subscriber comes about**, whatever a channel delivers. -/
theorem receive_distinct (channel : String) (raw : Json) (hkeyed : w.subscribers.Keyed)
    (hdistinct : w.subscribers.Distinct) :
    (i.receive channel raw w).2.subscribers.Distinct := by
  rw [receive]
  cases Event.parse channel raw with
  | error cause => exact hdistinct
  | ok e => exact handle_distinct e hkeyed hdistinct

end Intake

/-- A turn may begin for a subscriber on an event that came from its author: nothing was done before
but that the subscriber was looked up and the event perhaps parsed. -/
structure World.Admits (w : World) (e : Event) (author : String) (s : Subscriber) (event : Event)
    (w₁ : World) : Prop where
  /-- The subscriber who has the author's id on the channel of the event was on record, or is
  created. -/
  meets : w.subscribers.Meets e.channel author s w₁.subscribers
  /-- Nobody else has it. -/
  sole : w₁.subscribers.Sole e.channel author s
  /-- The event is the one that came, sent by the subscriber. -/
  event : event = { e with sender := some s, nlp := event.nlp }
  /-- The rest of the world is as it was. -/
  world : w₁ = { w with subscribers := w₁.subscribers, calls := w₁.calls, asked := w₁.asked }

namespace Intake

/-- **Who is answered.** What a channel delivers and starts no turn, because it is no message or an
event error, leaves the world as it was: its stores, channels, telemetry and what the language
service was asked. But a message with an author starts a turn, unless a fault keeps the sender from
being looked up: where subscribers lie under their ids and no two have the same id on a channel, the
turn runs for the one with the author's id on the channel of the event, who is created if need
be. -/
theorem receive_admits (i : Intake) (channel : String) (raw : Json) (w : World) :
    (StartsNone (i.receive channel raw w).1 → (i.receive channel raw w).2 = w) ∧
      ∀ (e : Event) (author : String), Event.parse channel raw = .ok e → e.isMessage = true →
        e.author = .ok author → w.subscribers.Keyed → w.subscribers.Distinct →
        i.LookupFails e author w (i.receive channel raw w) ∨
          ∃ s event w₁, w.Admits e author s event w₁ ∧ i.receive channel raw w =
            (((i.bot.handle event w₁).1.mapError .failed).map some,
              (i.bot.handle event w₁).2) := by
  constructor
  · intro hnone
    rw [receive] at hnone ⊢
    cases hparse : Event.parse channel raw with
    | error cause => rfl
    | ok e =>
      rw [hparse] at hnone
      exact handle_of_startsNone hnone
  · intro e author hparse hmessage hauthor hkeyed hdistinct
    rw [receive, hparse]
    refine (i.handle_of_author hmessage hauthor w).imp_right ?_
    rintro ⟨known, store, nlp, calls, asked, hstore, hrun⟩
    have hmeets := w.subscribers.meets_getOrCreate hkeyed hdistinct e.channel author
    rw [hstore] at hmeets
    -- the sender is still on record when it is looked up again
    have hsole := hmeets.sole
    rw [hsole.found, Option.getD_some] at hrun
    rw [dispatch_apply (isMessage_with hmessage _ nlp)] at hrun
    exact ⟨known, _, _, ⟨hmeets, hsole, rfl, rfl⟩, hrun⟩

end Intake

namespace Sample

/-- Ann says hi, as her widget has it. -/
def annSaysHi : Json :=
  .record [("type", .str "text"), ("data", .record [("text", .str "hi")]), ("author", .str "ann")]

/-- What her widget is taken to say. -/
def annSaid : Event := ⟨.web, .message ⟨.text "hi", none, some "ann"⟩, none, none⟩

/-- A bot without a language service. -/
def intake : Intake := ⟨bot, none, .standard⟩

end Sample

namespace Intake

/-- Something that is no event changes nothing, and Ann, who is not known yet, is created and
answered. -/
theorem receive_admits_ann :
    StartsNone (Sample.intake.receive "web-channel" .null (World.fresh Sample.channels)).1 ∧
      (Sample.intake.receive "web-channel" .null (World.fresh Sample.channels)).2 =
        World.fresh Sample.channels ∧
      ∃ s event w₁, (World.fresh Sample.channels).Admits Sample.annSaid "ann" s event w₁ ∧
        Sample.intake.receive "web-channel" Sample.annSaysHi (World.fresh Sample.channels) =
          (((Sample.bot.handle event w₁).1.mapError .failed).map some,
            (Sample.bot.handle event w₁).2) := by
  have hnone : StartsNone
      (Sample.intake.receive "web-channel" .null (World.fresh Sample.channels)).1 :=
    .inr ⟨.parse "widget event must be a JSON object", rfl⟩
  refine ⟨hnone, (receive_admits Sample.intake "web-channel" .null _).1 hnone, ?_⟩
  have hparse : Event.parse "web-channel" Sample.annSaysHi = .ok Sample.annSaid := by
    decide +kernel
  refine ((receive_admits Sample.intake "web-channel" Sample.annSaysHi _).2 _ _ hparse rfl rfl
    SubscriberStore.Keyed.empty SubscriberStore.Distinct.empty).resolve_left ?_
  rintro ⟨call, fault, w', hfault, -⟩
  exact nomatch hfault

end Intake

end Chatflow

import Chatflow.Proofs.Bot.Simulation

/-!
# The moments of a turn

Whatever was sent in a turn was sent by one of its transitions: `Bot.exists_sendsAt`. Such a
transition leads away from a stage that sends the message of a block in a conversation, or from the
one that sends a fallback text outside of any (`Sent.IsOf`), and the message is what the block was
rendered to in the world at that moment (`Sent.IsRendered`). So what holds of every message of a
turn is proved of the stages from which messages are sent.

A turn that has no conversation in hand any more does not come back to one (`Stage.isPast`): what
is said from there on starts a conversation or is a fallback text.
-/

namespace Chatflow

/-! ### What was sent since -/

namespace World

/-- Nothing was sent since now. -/
theorem sentSince_self (w : World) : w.sentSince w = [] := List.drop_length

/-- What was sent since an earlier world is what was sent up to a later one and what was sent
since. -/
theorem sentSince_append {w₀ w w' : World} (h : w₀.journal <+: w.journal)
    (h' : w.journal <+: w'.journal) : w'.sentSince w₀ = w.sentSince w₀ ++ w'.sentSince w := by
  obtain ⟨l, hl⟩ := h'
  rw [sentSince, sentSince, sentSince, ← hl, List.drop_append_of_le_length h.length_le,
    List.drop_left]

end World

/-! ### Where messages come from -/

/-- A message is of a stage: it is that of the block to be sent, or the fallback text. -/
inductive Sent.IsOf (x : Sent) (bot : Bot) : Stage → Prop where
  | inside {m : Move} {visited : List String} {c : Conversation} (hcontext : x.context = c.context)
      (hfallback : x.fallback = m.fallback) (hconversation : x.conversation = some c.id) :
      x.IsOf bot (.sending m visited x.block c)
  | outside (hblock : x.block = bot.fallbackMessageBlock) (hcontext : x.context = .empty)
      (hconversation : x.conversation = none) : x.IsOf bot .voicing

/-- A message is what its block was rendered to in a world, for the sender of an event. -/
structure Sent.IsRendered (x : Sent) (bot : Bot) (e : Event) (s : Subscriber) (w : World) :
    Prop where
  /-- It goes out by the channel that the event came by. -/
  channel : x.channel = e.channel
  /-- It goes to the sender. -/
  recipient : x.recipient = s.foreignId
  /-- It is rendered in its context, with the variables of the sender. -/
  envelope : (bot.renderer w).process x.block x.context s.vars x.fallback x.conversation
    (bot.rolls w.drawn) = .ok x.envelope

namespace Bot

variable {bot : Bot} {e : Event} {s : Subscriber} {p q : Stage × World} {x : Sent}

/-- A sending that sends a message sends what the block was rendered to. -/
theorem Sends.eq_record {b : Block} {c : Context} {fallback : Bool} {conversation : Option String}
    {w w' : World} {r : Except BotError String}
    (h : Sends bot e s b c fallback conversation w r w') (hx : w'.journal = w.journal ++ [x]) :
    x = record e s b c fallback conversation x.envelope ∧ x.IsRendered bot e s w := by
  have hnone : w'.journal ≠ w.journal := fun hsame => by simp [hsame] at hx
  have hrecord : ∀ {w'' : World} {envelope : Envelope} {es : List Telemetry.Event},
      (bot.renderer w).process b c s.vars fallback conversation (bot.rolls w.drawn) =
        .ok envelope →
      Heard (record e s b c fallback conversation envelope) es w w'' →
      w''.journal = w'.journal →
      x = record e s b c fallback conversation x.envelope ∧ x.IsRendered bot e s w := by
    intro w'' envelope es hrender hheard hsame
    rw [hx, hheard.journal] at hsame
    obtain rfl := List.singleton_inj.mp (List.append_cancel_left hsame)
    exact ⟨rfl, rfl, rfl, hrender⟩
  cases h with
  | unrendered _ hquiet => exact absurd hquiet.journal hnone
  | undelivered hquiet _ => exact absurd hquiet.journal hnone
  | unapplied hrender hheard => exact hrecord hrender hheard rfl
  | applied hrender hheard _ => exact hrecord hrender hheard rfl

/-- A transition sends a message. -/
structure SendsOff (bot : Bot) (e : Event) (s : Subscriber) (x : Sent) (p q : Stage × World) :
    Prop where
  move : bot.Moves e s p q
  journal : q.2.journal = p.2.journal ++ [x]

/-- **What a transition sends** is of the stage that it leads away from, and rendered in the world
there. -/
theorem SendsOff.isOf (h : bot.SendsOff e s x p q) :
    x.IsOf bot p.1 ∧ x.IsRendered bot e s p.2 := by
  obtain ⟨hmove, hx⟩ := h
  have hsame : ¬ q.2.journal = p.2.journal := fun hsame => by simp [hsame] at hx
  cases hmove with
  | said hsends | unsaid hsends =>
    obtain ⟨hrecord, hrendered⟩ := hsends.eq_record hx
    refine ⟨?_, hrendered⟩
    rw [hrecord]
    exact .inside rfl rfl rfl
  | voiced _ hsends | unvoiced hsends =>
    obtain ⟨hrecord, hrendered⟩ := hsends.eq_record hx
    refine ⟨?_, hrendered⟩
    rw [hrecord]
    exact .outside rfl rfl rfl
  | _ => exact absurd rfl hsame

/-! ### Trails -/

/-- A path with the stages that each of its transitions leads from and to. -/
inductive Trail (bot : Bot) (e : Event) (s : Subscriber) (p : Stage × World) :
    List (Stage × Stage) → Stage × World → Prop
  | refl : Trail bot e s p [] p
  | tail {steps : List (Stage × Stage)} {q r : Stage × World} (h : Trail bot e s p steps q)
      (hmove : bot.Moves e s q r) : Trail bot e s p (steps ++ [(q.1, r.1)]) r

theorem Path.trail (h : bot.Path e s p q) : ∃ steps, bot.Trail e s p steps q := by
  induction h with
  | refl => exact ⟨[], .refl⟩
  | tail _ hmove ih =>
    obtain ⟨steps, hsteps⟩ := ih
    exact ⟨_, hsteps.tail hmove⟩

namespace Trail

variable {steps : List (Stage × Stage)}

theorem path (h : bot.Trail e s p steps q) : bot.Path e s p q := by
  induction h with
  | refl => exact .refl p
  | tail _ hmove ih => exact ih.trans (.single hmove)

/-- **Whatever was sent was sent by a transition**, which the trail leads to. -/
theorem exists_sends (h : bot.Trail e s p steps q) (hx : x ∈ q.2.sentSince p.2) :
    ∃ before r r', before <+: steps ∧ bot.Trail e s p before r ∧ bot.SendsOff e s x r r' ∧
      bot.Path e s r' q := by
  induction h with
  | refl =>
    rw [World.sentSince_self] at hx
    cases hx
  | @tail steps q r h hmove ih =>
    have hbefore : x ∈ q.2.sentSince p.2 → ∃ before r' r'', before <+: steps ++ [(q.1, r.1)] ∧
        bot.Trail e s p before r' ∧ bot.SendsOff e s x r' r'' ∧ bot.Path e s r'' r := by
      intro hx
      obtain ⟨before, r', r'', hbegins, hbefore, hsends, hpath⟩ := ih hx
      exact ⟨before, r', r'', hbegins.trans (List.prefix_append _ _), hbefore, hsends,
        hpath.trans (.single hmove)⟩
    obtain hsame | ⟨y, hy, -⟩ := hmove.sent_cases
    · refine hbefore ?_
      rwa [World.sentSince, hsame] at hx
    · rw [World.sentSince_concat h.path.grows.journal hy, List.mem_append, List.mem_singleton]
        at hx
      obtain hx | rfl := hx
      · exact hbefore hx
      · exact ⟨steps, q, r, List.prefix_append _ _, h, ⟨hmove, hy⟩, .refl r⟩

end Trail

/-- Whatever was sent on a path was sent at a moment of it. -/
theorem Path.exists_sends (h : bot.Path e s p q) (hx : x ∈ q.2.sentSince p.2) :
    ∃ r r', bot.Path e s p r ∧ bot.SendsOff e s x r r' ∧ bot.Path e s r' q := by
  obtain ⟨steps, hsteps⟩ := h.trail
  obtain ⟨before, r, r', -, hbefore, hsends, hafter⟩ := hsteps.exists_sends hx
  exact ⟨r, r', hbefore.path, hsends, hafter⟩

/-- All that is sent in a turn goes to the sender, by the channel that the event came by. -/
theorem Path.sent_to_sender (h : bot.Path e s p q) :
    ∀ x ∈ q.2.sentSince p.2, x.recipient = s.foreignId ∧ x.channel = e.channel := by
  intro x hx
  obtain ⟨r, r', -, hsends, -⟩ := h.exists_sends hx
  exact ⟨hsends.isOf.2.recipient, hsends.isOf.2.channel⟩

/-- In a turn on an event, which leads from the world `w` to `w'`, a message is sent at the moment
`v`, which some transitions lead to. -/
inductive SendsAt (bot : Bot) (event : Event) (x : Sent) (w : World) :
    List (Stage × Stage) → World → World → Prop
  | intro {s : Subscriber} {steps : List (Stage × Stage)} {stage : Stage} {v w' : World}
      {q : Stage × World} {r : Except BotError Outcome}
      (hs : (event.detectLanguage bot.settings.languages).sender = some s)
      (hbefore : bot.Trail (event.detectLanguage bot.settings.languages) s (.waiting, w) steps
        (stage, v))
      (hsends : bot.SendsOff (event.detectLanguage bot.settings.languages) s x (stage, v) q)
      (hafter : bot.Path (event.detectLanguage bot.settings.languages) s q
        (.exit (.finished r), w')) : SendsAt bot event x w steps v w'

/-- What is sent is rendered at that moment for the sender of the event. -/
theorem SendsAt.isRendered {event : Event} {w v w' : World} {steps : List (Stage × Stage)}
    (h : bot.SendsAt event x w steps v w') (hs : event.sender = some s) :
    x.IsRendered bot event s v := by
  obtain ⟨language, hs'⟩ := exists_sender_detectLanguage event bot.settings.languages hs
  cases h with
  | intro hs'' _ hsends =>
    rw [hs'] at hs''
    obtain rfl := Option.some.inj hs''
    obtain ⟨-, hrendered⟩ := hsends.isOf
    exact ⟨hrendered.channel.trans (channel_detectLanguage event _), hrendered.recipient,
      hrendered.envelope⟩

/-- **Every message of a turn has its moment.** -/
theorem exists_sendsAt {event : Event} (hs : event.sender = some s) (w : World) :
    ∃ s' steps, (event.detectLanguage bot.settings.languages).sender = some s' ∧
      bot.Trail (event.detectLanguage bot.settings.languages) s' (.waiting, w) steps
        (.exit (.finished (bot.handle event w).1), (bot.handle event w).2) ∧
      ∀ x ∈ (bot.handle event w).2.sentSince w, ∃ before v, before <+: steps ∧
        bot.SendsAt event x w before v (bot.handle event w).2 := by
  obtain ⟨language, hs'⟩ := exists_sender_detectLanguage event bot.settings.languages hs
  obtain ⟨steps, hsteps⟩ := (path_handle hs' w).trail
  refine ⟨_, steps, hs', hsteps, fun x hx => ?_⟩
  obtain ⟨before, ⟨stage, v⟩, q, hbegins, hbefore, hsends, hafter⟩ := hsteps.exists_sends hx
  exact ⟨before, v, hbegins, .intro hs' hbefore hsends hafter⟩

end Bot

/-! ### Past the active conversation -/

/-- Whether a conversation is started, by a block that may start one or by the fallback block. -/
def Move.starts : Move → Bool
  | .start (.started _) | .start (.fallbackBlock _) => true
  | _ => false

/-- Whether an exit is one out of a conversation that was just started. -/
def Exit.isPast : Exit → Bool
  | .done m => m.starts
  | .finished (.error _) => true
  | .free | .finished (.ok _) => false

/-- Whether a turn is past the conversation that was active when it began. -/
def Stage.isPast : Stage → Bool
  | .waiting | .found _ => false
  | .entering m _ _ | .storing m _ _ | .entered m _ _ | .sending m _ _ _ | .sent m _ _ _
  | .standing m _ => m.starts
  | .ending _ _ x => x.isPast
  | .exit .free | .exit (.finished (.error _)) | .unmatched | .falling | .voicing => true
  | .exit (.done m) => m.starts
  | .exit (.finished (.ok o)) => o ≠ .conversation
  | .opening _ o => (Move.start o).starts

theorem Move.isPast_exitOn {m : Move} (h : m.starts = true) (err : BotError) :
    (m.exitOn err).isPast = true := by
  cases m with
  | answer | again => cases h
  | start o => rfl

namespace Bot

variable {bot : Bot} {e : Event} {s : Subscriber} {p q : Stage × World}

/-- **A turn that is past the active conversation stays past it.** -/
theorem Moves.isPast (h : bot.Moves e s p q) (hp : p.1.isPast = true) : q.1.isPast = true := by
  cases h with
  | unfound | absent | found | unloaded | answered | asked | unanswered => cases hp
  | bare | kept | stored | entered | said | read | linked | last | unlinked | missing | cycle |
      stood | opened => exact hp
  | unkept | unstored | unsaid | unread | unstood => exact Move.isPast_exitOn hp _
  | @ended _ _ _ x | @unended _ _ _ x =>
    cases x with
    | free => rfl
    | done m => exact hp
    | finished r =>
      cases r with
      | error err => rfl
      | ok o => cases hp
  | @credited _ m =>
    -- what starts a conversation has the outcome that it was started with
    match m, hp with
    | .start (.started _), _ => rfl
    | .start (.fallbackBlock _), _ => rfl
  | _ => rfl

theorem Path.isPast (h : bot.Path e s p q) (hp : p.1.isPast = true) : q.1.isPast = true :=
  h.preserves (I := fun r => r.1.isPast = true) (fun _ _ hmove => hmove.isPast) hp

end Bot

end Chatflow

import Chatflow.Proofs.Conversation.Attempts

/-!
# Turns that no block answers

When no candidate answers an event, the active conversation of the sender asks again or ends. Both
kinds of turns are followed stage by stage.

* **It asks again** (`Asking.handle`): one message is sent, with a text of the policy, and the
  conversation stands where it stood, with one more attempt.
* **It may not ask again** (`Leaving.handle`): it ends without an error, and no message of the turn
  asks again.

That no call fails is not assumed at the stages. Rather each of them may be one after a failure, and
this is excluded at the end of the turn.
-/

namespace Chatflow

open ConversationStore

namespace Conversation

/-- The conversation that takes in an event to ask again at a block. -/
def asking (c : Conversation) (b : Block) (e : Event) : Conversation :=
  (c.withAttempt (c.context.attempt + 1)).taking b e

/-- The conversation that has asked again at a block. -/
def asked (c : Conversation) (blocks : BlockStore) (b : Block) (e : Event) : Conversation :=
  { c.asking b e with current := some b, next := blocks.findMany b.nextBlocks }

end Conversation

/-! ### The message -/

/-- A message of a conversation that asks again with a text of a policy. -/
structure Sent.Asks (x : Sent) (bot : Bot) (s : Subscriber) (c : Conversation)
    (p : FallbackPolicy) : Prop where
  /-- It asks again. -/
  fallback : x.fallback = true
  /-- It is of the conversation. -/
  conversation : x.conversation = some c.id
  /-- It is of the block where the conversation stands. -/
  block : c.current.map (·.id) = some x.block.id
  /-- It says one of the texts of the policy. -/
  text : ∃ t ∈ p.messages,
    x.envelope = .text (Template.render t x.context s.vars bot.settings.contact)

theorem exists_pick? (roll : Nat) {texts : List String} (h : texts ≠ []) :
    ∃ t ∈ texts, pick? roll texts = some t := by
  have hlt : roll % texts.length < texts.length :=
    Nat.mod_lt _ (List.length_pos_iff.mpr h)
  exact ⟨texts[roll % texts.length], List.getElem_mem hlt, List.getElem?_eq_getElem hlt⟩

/-- A block with a policy asks again with one of its texts. -/
theorem Renderer.process_fallback (r : Renderer) {b : Block} {p : FallbackPolicy} (c : Context)
    (vars : Dict Json) (conversation : Option String) (roll : Nat)
    (hpolicy : b.options.fallback = some p) (htexts : p.messages ≠ []) :
    ∃ t ∈ p.messages, r.process b c vars true conversation roll =
      .ok (.text (Template.render t c vars r.contact)) := by
  obtain ⟨t, ht, hpick⟩ := exists_pick? roll htexts
  refine ⟨t, ht, ?_⟩
  simp only [process, hpolicy, oneOf, hpick]

/-! ### The way to what no block answers -/

section

variable {bot : Bot} {e : Event} {s : Subscriber} {c : Conversation} {w₀ w : World}

/-- A call that fails is a failure since the beginning of the turn. -/
theorem World.failedSince_refused_ne_nil (hgrows : w₀.Grows w) (call : Call) :
    (w.refused call).failedSince w₀ ≠ [] :=
  List.ne_nil_of_mem (World.mem_failedSince_failed (w := w.counted call) hgrows.failures)

/-- Failures are not forgotten. -/
theorem World.failedSince_ne_nil {w' : World} (hgrows : w.Grows w')
    (h : w.failedSince w₀ ≠ []) : w'.failedSince w₀ ≠ [] := by
  obtain ⟨call, hcall⟩ := List.exists_mem_of_ne_nil _ h
  exact List.ne_nil_of_mem ((hgrows.failures.sublist.drop _).subset hcall)

/-- An active conversation is found, or a call fails. -/
theorem Bot.Moves.of_waiting {r : Stage × World} (h : bot.Moves e s (.waiting, w) r)
    (hquiet : w₀.Quiet w) (hfound : w₀.conversations.active? s.id = some c) :
    r.2.failedSince w₀ ≠ [] ∨ r.1 = .found c ∧ w₀.Quiet r.2 := by
  cases h with
  | unfound => exact .inl (World.failedSince_refused_ne_nil hquiet.grows _)
  | absent hnone =>
    rw [hquiet.conversations, hfound] at hnone
    cases hnone
  | found hc =>
    rw [hquiet.conversations, hfound] at hc
    obtain rfl := Option.some.inj hc
    exact .inr ⟨rfl, hquiet.trans (World.quiet_counted _ _)⟩

/-- Where no candidate answers, the conversation asks again or ends, or a call fails. -/
theorem Bot.Moves.of_found {r : Stage × World} (h : bot.Moves e s (.found c, w) r)
    (hquiet : w₀.Quiet w) (hunanswered : e.matchBlock? (bot.blocks.findMany c.nextIds) = none) :
    r.2.failedSince w₀ ≠ [] ∨ w₀.Quiet r.2 ∧
      ((c.asksAgain = true ∧ ∃ b, c.askingBlock? = some b ∧
          r.1 = .entering .again b (c.withAttempt (c.context.attempt + 1))) ∨
        c.asksAgain = false ∧ r.1 = .ending c none .free) := by
  cases h with
  | unloaded => exact .inl (World.failedSince_refused_ne_nil hquiet.grows _)
  | answered hm =>
    rw [hunanswered] at hm
    cases hm
  | asked overflowed _ ha hb =>
    exact .inr ⟨⟨hquiet.conversations, hquiet.subscribers, hquiet.telemetry, hquiet.journal,
      hquiet.failures⟩, .inl ⟨ha, _, hb, rfl⟩⟩
  | unanswered _ ha => exact .inr ⟨hquiet.trans (World.quiet_counted _ _), .inr ⟨ha, rfl⟩⟩

end

/-! ### Asking again -/

/-- A conversation that has to ask again on an event of its subscriber. -/
structure HasToAsk (bot : Bot) (e : Event) (s : Subscriber) (p : FallbackPolicy)
    (c : Conversation) (b : Block) (w : World) : Prop where
  /-- It is the active conversation of the subscriber. -/
  found : w.conversations.active? s.id = some c
  /-- No block answers the event. -/
  unanswered : e.matchBlock? (bot.blocks.findMany c.nextIds) = none
  /-- It may ask again. -/
  asks : c.asksAgain = true
  /-- It does so with this block. -/
  block : c.askingBlock? = some b
  /-- The block has this policy. -/
  policy : b.options.fallback = some p
  /-- The policy has texts. -/
  texts : p.messages ≠ []
  /-- There are candidates to wait for. -/
  waits : c.nextIds ≠ []

section

variable (bot : Bot) (e : Event) (s : Subscriber) (p : FallbackPolicy) (c : Conversation)
  (b : Block) (w₀ : World)

/-- The stages of a turn, begun in the world `w₀`, in which a conversation asks again. -/
inductive Asking : Stage × World → Prop where
  | waiting {w : World} (h : w₀.Quiet w) : Asking (.waiting, w)
  | found {w : World} (h : w₀.Quiet w) : Asking (.found c, w)
  | entering {w : World} (h : w₀.Quiet w) :
      Asking (.entering .again b (c.withAttempt (c.context.attempt + 1)), w)
  | storing {w : World} (h : w₀.Quiet w) : Asking (.storing .again b (c.asking b e), w)
  | entered {w : World} (hj : w.journal = w₀.journal) :
      Asking (.entered .again b (c.asking b e), w)
  | sending {w : World} (hj : w.journal = w₀.journal) :
      Asking (.sending .again [] b (c.asking b e), w)
  | sent {w : World} {x : Sent} (hj : w.journal = w₀.journal ++ [x]) (hx : x.Asks bot s c p) :
      Asking (.sent .again [] b (c.asking b e), w)
  | standing {w : World} {x : Sent} (hj : w.journal = w₀.journal ++ [x])
      (hx : x.Asks bot s c p) : Asking (.standing .again (c.asked bot.blocks b e), w)
  | done {w : World} {x : Sent} (hj : w.journal = w₀.journal ++ [x]) (hx : x.Asks bot s c p)
      (hc : w.conversations.find? c.id = some (c.asked bot.blocks b e)) :
      Asking (.exit (.done .again), w)
  | finished {w : World} {x : Sent} (hj : w.journal = w₀.journal ++ [x]) (hx : x.Asks bot s c p)
      (hc : w.conversations.find? c.id = some (c.asked bot.blocks b e)) :
      Asking (.exit (.finished (.ok .conversation)), w)
  | failed {st : Stage} {w : World} (h : w.failedSince w₀ ≠ []) : Asking (st, w)

variable {bot e s p c b w₀}

namespace Asking

/-- The message of a block that asks again is sent with a text of its policy, or a call fails. -/
theorem sends (hask : HasToAsk bot e s p c b w₀) {w w' : World} {r : Except BotError String}
    (hgrows : w₀.Grows w)
    (h : Bot.Sends bot e s b (c.asking b e).context true (some c.id) w r w') :
    w'.failedSince w₀ ≠ [] ∨
      (∃ mid, r = .ok mid) ∧ ∃ x, w'.journal = w.journal ++ [x] ∧ x.Asks bot s c p := by
  obtain ⟨t, ht, hprocess⟩ := (bot.renderer w).process_fallback (c.asking b e).context s.vars
    (some c.id) (bot.rolls w.drawn) hask.policy hask.texts
  -- the block that asks again has the id of the one it was made from
  have hblock : c.current.map (·.id) = some b.id := by
    obtain ⟨b₀, hb₀, rfl⟩ := Option.map_eq_some_iff.mp hask.block
    rw [hb₀]
    rfl
  cases h with
  | unrendered hrender =>
    rw [hprocess] at hrender
    cases hrender
  | undelivered _ hfailed =>
    exact .inl (List.ne_nil_of_mem
      (List.drop_subset_drop_left _ hgrows.failures.length_le hfailed))
  | unapplied _ hheard =>
    exact .inl (World.failedSince_refused_ne_nil (hgrows.trans hheard.grows) _)
  | applied hrender hheard _ =>
    rw [hprocess] at hrender
    obtain rfl := Except.ok.inj hrender
    exact .inr ⟨⟨_, rfl⟩, _, hheard.journal, rfl, rfl, hblock, t, ht, rfl⟩

/-- **Every transition keeps to it.** -/
theorem step {q r : Stage × World} (hask : HasToAsk bot e s p c b w₀) (hgrows : w₀.Grows q.2)
    (hq : Asking bot e s p c b w₀ q) (h : bot.Moves e s q r) : Asking bot e s p c b w₀ r := by
  obtain ⟨st, w⟩ := r
  cases hq with
  | failed hfailed => exact .failed (World.failedSince_ne_nil h.grows hfailed)
  | waiting hquiet =>
    obtain hfailed | ⟨rfl, hquiet'⟩ := h.of_waiting hquiet hask.found
    · exact .failed hfailed
    · exact .found hquiet'
  | found hquiet =>
    obtain hfailed | ⟨hquiet', ⟨-, b', hb', rfl⟩ | ⟨ha, -⟩⟩ := h.of_found hquiet hask.unanswered
    · exact .failed hfailed
    · obtain rfl := Option.some.inj (hask.block.symm.trans hb')
      exact .entering hquiet'
    · rw [hask.asks] at ha
      cases ha
  | entering hquiet =>
    -- nothing is kept with the subscriber when a block asks again
    cases h with
    | bare => exact .storing hquiet
    | kept hempty => cases hempty
    | unkept _ hempty => cases hempty
  | storing hquiet =>
    cases h with
    | stored => exact .entered hquiet.journal
    | unstored => exact .failed (World.failedSince_refused_ne_nil hgrows _)
  | entered hj =>
    cases h with
    | entered => exact .sending hj
  | sending hj =>
    cases h with
    | said hsends =>
      obtain hfailed | ⟨-, x, hx, hasks⟩ := sends hask hgrows hsends
      · exact .failed hfailed
      · exact .sent (hx.trans (by rw [hj])) hasks
    | unsaid hsends =>
      obtain hfailed | ⟨⟨mid, hmid⟩, -⟩ := sends hask hgrows hsends
      · exact .failed hfailed
      · cases hmid
  | sent hj hx =>
    -- nothing is attached to the block, and it names the candidates
    obtain ⟨b₀, -, hb⟩ := Option.map_eq_some_iff.mp hask.block
    have hattached : b.attachedBlock = none := by rw [← hb]
    have hnext : b.nextBlocks = c.nextIds := by rw [← hb]
    cases h with
    | last _ hn => exact absurd (hnext.symm.trans hn) hask.waits
    | read => exact .standing hj hx
    | unread => exact .failed (World.failedSince_refused_ne_nil hgrows _)
    | unlinked _ h | missing h | cycle h | linked h =>
      rw [hattached] at h
      cases h
  | standing hj hx =>
    cases h with
    | stood hstore =>
      refine .done hj hx ?_
      rw [find?_update hstore]
      exact if_pos rfl
    | unstood => exact .failed (World.failedSince_refused_ne_nil hgrows _)
  | done hj hx hc =>
    cases h with
    | credited => exact .finished hj hx hc
  | finished => cases h

/-- **A turn in which a conversation asks again.** If no call fails, one message is sent, with a
text of the policy, and the conversation stands where it stood. -/
theorem handle {w : World} {r : Except BotError Outcome} (hask : HasToAsk bot e s p c b w₀)
    (hpath : bot.Path e s (.waiting, w₀) (.exit (.finished r), w))
    (hfailed : w.failedSince w₀ = []) :
    r = .ok .conversation ∧ (∃ x, w.sentSince w₀ = [x] ∧ x.Asks bot s c p) ∧
      w.conversations.find? c.id = some (c.asked bot.blocks b e) := by
  have hfinal := hpath.preserves_grown (I := Asking bot e s p c b w₀)
    (fun _ _ hgrows hmove hq => hq.step hask hgrows hmove) (.waiting (.refl w₀))
  cases hfinal with
  | failed h => exact absurd hfailed h
  | @finished _ x hj hx hc =>
    refine ⟨rfl, ⟨x, ?_, hx⟩, hc⟩
    rw [World.sentSince, hj, List.drop_left]

end Asking

end

/-! ### Leaving -/

/-- Whether a message sent from here on is not one that asks again. -/
def Stage.isClear : Stage → Bool
  | .waiting | .found _ => false
  | .entering m _ _ | .storing m _ _ | .entered m _ _ | .sending m _ _ _ | .sent m _ _ _
  | .standing m _ => !m.fallback
  | .ending _ _ _ | .exit _ | .unmatched | .falling | .voicing | .opening _ _ => true

/-- A turn that is past asking again stays past it. -/
theorem Bot.Moves.isClear {bot : Bot} {e : Event} {s : Subscriber} {p q : Stage × World}
    (h : bot.Moves e s p q) (hp : p.1.isClear = true) : q.1.isClear = true := by
  cases h with
  | absent | found | unfound | unloaded | answered | asked | unanswered => cases hp
  | bare | kept | stored | entered | said | read | linked => exact hp
  | _ => rfl

/-- The reports since an earlier world. -/
def World.reportedSince (w w₀ : World) : List Telemetry.Event :=
  w.telemetry.drop w₀.telemetry.length

namespace World

variable {w₀ w w' : World}

/-- What was reported since stays reported. -/
theorem Grows.reportedSince_subset (h : w.Grows w') :
    w.reportedSince w₀ ⊆ w'.reportedSince w₀ := (h.telemetry.sublist.drop _).subset

/-- What is reported is reported since. -/
theorem mem_reportedSince_concat {x : Telemetry.Event} (h : w₀.telemetry <+: w.telemetry)
    (ht : w'.telemetry = w.telemetry ++ [x]) : x ∈ w'.reportedSince w₀ := by
  rw [reportedSince, ht, List.drop_append_of_le_length h.length_le]
  exact List.mem_append_right _ List.mem_cons_self

end World

/-- Since the world `w₀` a conversation has ended without an error, and no message asked again. -/
structure World.Left (w w₀ : World) (c : Conversation) : Prop where
  /-- It has ended on record. -/
  ended : ∃ r, w.conversations.find? c.id = some r ∧ r.active = false
  /-- The end was reported without an error. -/
  reported : .conversationEnd { c with active := false } none ∈ w.reportedSince w₀
  /-- No message asked again. -/
  said : ∀ x ∈ w.sentSince w₀, x.fallback = false

section

variable (c : Conversation) (w₀ : World)

/-- The stages of a turn, begun in the world `w₀`, in which a conversation may not ask again. -/
inductive Leaving : Stage × World → Prop where
  | waiting {w : World} (h : w₀.Quiet w) : Leaving (.waiting, w)
  | found {w : World} (h : w₀.Quiet w) : Leaving (.found c, w)
  | ending {w : World} (h : w₀.Quiet w) : Leaving (.ending c none .free, w)
  | left {st : Stage} {w : World} (hclear : st.isClear = true) (h : w.Left w₀ c) :
      Leaving (st, w)
  | failed {st : Stage} {w : World} (h : w.failedSince w₀ ≠ []) : Leaving (st, w)

variable {c w₀} {bot : Bot} {e : Event} {s : Subscriber}

/-- A conversation that was left stays left. -/
theorem World.Left.step {q r : Stage × World} (hsteady : Steady s w₀ (q.1.phase, q.2))
    (hgrows : w₀.Grows q.2) (hclear : q.1.isClear = true) (h : bot.Moves e s q r)
    (hq : q.2.Left w₀ c) : r.2.Left w₀ c := by
  obtain ⟨r', hr', hn⟩ := hq.ended
  have hinactive : isActiveOf s.id r' = false := by
    rw [isActiveOf, hn, Bool.false_and]
  refine ⟨⟨r', h.shift.kept hsteady hr' hinactive, hn⟩,
    h.grows.reportedSince_subset hq.reported, fun x hx => ?_⟩
  obtain hsame | ⟨y, hy, hcases⟩ := h.sent_cases
  · rw [World.sentSince, hsame] at hx
    exact hq.said x hx
  · rw [World.sentSince_concat hgrows.journal hy, List.mem_append, List.mem_singleton] at hx
    obtain hx | rfl := hx
    · exact hq.said x hx
    · obtain ⟨-, hfallback⟩ | ⟨m, visited, b, c', hstage, -, hfallback⟩ := hcases
      · exact hfallback
      · rw [hstage] at hclear
        rw [hfallback]
        simpa [Stage.isClear] using hclear

namespace Leaving

/-- **Every transition keeps to it.** -/
theorem step {q r : Stage × World} (hfound : w₀.conversations.active? s.id = some c)
    (hunanswered : e.matchBlock? (bot.blocks.findMany c.nextIds) = none)
    (hasks : c.asksAgain = false) (hsteady : Steady s w₀ (q.1.phase, q.2))
    (hgrows : w₀.Grows q.2) (hq : Leaving c w₀ q) (h : bot.Moves e s q r) : Leaving c w₀ r := by
  obtain ⟨st, w⟩ := r
  cases hq with
  | failed hfailed => exact .failed (World.failedSince_ne_nil h.grows hfailed)
  | left hclear hleft => exact .left (h.isClear hclear) (hleft.step hsteady hgrows hclear h)
  | waiting hquiet =>
    obtain hfailed | ⟨rfl, hquiet'⟩ := h.of_waiting hquiet hfound
    · exact .failed hfailed
    · exact .found hquiet'
  | found hquiet =>
    obtain hfailed | ⟨hquiet', ⟨ha, -⟩ | ⟨-, rfl⟩⟩ := h.of_found hquiet hunanswered
    · exact .failed hfailed
    · rw [hasks] at ha
      cases ha
    · exact .ending hquiet'
  | ending hquiet =>
    cases h with
    | ended hstore =>
      obtain ⟨r, hr, -⟩ := finish_eq_ok_iff.mp hstore
      refine .left rfl ⟨⟨{ r with active := false }, ?_, rfl⟩, ?_, ?_⟩
      · rw [find?_finish hstore hr]
        exact if_pos rfl
      · have htelemetry := hquiet.telemetry
        simp [World.reportedSince, World.emitted, World.counted, htelemetry]
      · have hjournal := hquiet.journal
        simp [World.sentSince, World.emitted, World.counted, hjournal]
    | unended =>
      exact .failed (World.failedSince_refused_ne_nil (hgrows.trans (World.grows_emitted _ _)) _)

/-- **A turn in which a conversation may not ask again.** If no call fails, it is left. -/
theorem handle {w : World} {r : Except BotError Outcome} (hsound : w₀.conversations.Sound)
    (hfound : w₀.conversations.active? s.id = some c)
    (hunanswered : e.matchBlock? (bot.blocks.findMany c.nextIds) = none)
    (hasks : c.asksAgain = false)
    (hpath : bot.Path e s (.waiting, w₀) (.exit (.finished r), w))
    (hfailed : w.failedSince w₀ = []) : w.Left w₀ c := by
  have hfinal := hpath.turn_preserves (I := Leaving c w₀) hsound (.waiting (.refl w₀))
    fun hpath hsteady hmove hq => hq.step hfound hunanswered hasks hsteady hpath.grows hmove
  cases hfinal.2 with
  | failed h => exact absurd hfailed h
  | left _ h => exact h

end Leaving

end

end Chatflow

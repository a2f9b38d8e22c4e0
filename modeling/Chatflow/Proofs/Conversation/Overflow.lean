import Chatflow.Proofs.Bot.Keeping
import Chatflow.Proofs.Conversation.Attempts

/-!
# The end of the count of attempts

The attempts of a conversation are counted in 32 bits. A block asks again as long as the count is
not above what its policy allows, and the policy may allow the largest number there is. Such a block
asks again even if the count has this number, and then the next attempt cannot be counted: the count
begins again at zero, which the world gives away (`World.overflowed`). With every other policy, and
at every other count, what is stored when a conversation asks again is one more than before
(`Conversation.attempt_counted`).

What is stored is the count that the conversation has in hand when the block is entered. Nothing
that the move does from there on changes it, whatever comes of the move: `World.Retains` is a
relation that a conversation with this count follows (`Conversation.CountsAs.follows`).
-/

namespace Chatflow

open ConversationStore

/-! ### What a move leaves of a count -/

namespace World

/-- A conversation is on record with the count that it has in hand. -/
def Records (w : World) (c : Conversation) : Prop :=
  ∃ r, w.conversations.find? c.id = some r ∧ r.context.attempt = c.context.attempt

/-- A conversation that is on record with the count that it has in hand stays so, and a count that
has left its range has left it for good. -/
structure Retains (c : Conversation) (w w' : World) : Prop where
  records : w.Records c → w'.Records c
  overflowed : w.overflowed = true → w'.overflowed = true

variable {c : Conversation} {w w' w₁ w₂ w₃ : World}

theorem Retains.of_conversations (h : w'.conversations = w.conversations)
    (hoverflowed : w.overflowed = true → w'.overflowed = true) : w.Retains c w' where
  records hrecords := by rwa [Records, h]
  overflowed := hoverflowed

theorem Retains.trans (h : w₁.Retains c w₂) (h' : w₂.Retains c w₃) : w₁.Retains c w₃ :=
  ⟨fun hrecords => h'.records (h.records hrecords),
    fun hoverflowed => h'.overflowed (h.overflowed hoverflowed)⟩

end World

/-- A conversation has the id of another, and its count. -/
structure Conversation.CountsAs (c' c : Conversation) : Prop where
  id : c'.id = c.id
  attempt : c'.context.attempt = c.context.attempt

/-- What is captured leaves the count alone. -/
theorem Conversation.countsAs_taking (c : Conversation) (b : Block) (e : Event) :
    (c.taking b e).CountsAs c := ⟨rfl, Context.attempt_fold c.context b e⟩

section

variable {bot : Bot} {e : Event} {b : Block} {c c' : Conversation} {w : World}

/-- A delivery touches no conversation. -/
theorem Bot.retains_deliver (x : Sent) : Keeps (World.Retains c) (bot.deliver e x) := by
  intro w
  unfold Bot.deliver
  cases w.channels.find? x.channel with
  | none => exact .of_conversations rfl id
  | some channel =>
    cases channel with
    | recorder =>
      simp only
      split
      · exact .of_conversations rfl id
      · exact .of_conversations rfl id
    | widget outbox =>
      simp only
      split
      · exact .of_conversations rfl id
      · exact .of_conversations rfl fun h => by rw [h, Bool.true_or]

/-- The end of a conversation on record leaves its count there. -/
theorem Bot.retains_endConversation (id' : String) :
    Keeps (World.Retains c) (bot.endConversation id') := by
  intro w
  obtain ⟨err, h⟩ | ⟨store, hstore, h⟩ := bot.endConversation_cases w id'
  · rw [h]
    exact .of_conversations rfl id
  · rw [h]
    refine ⟨fun ⟨r, hr, hattempt⟩ => ?_, id⟩
    obtain ⟨r', hr', -⟩ := finish_eq_ok_iff.mp hstore
    have hfind := find?_finish hstore hr' c.id
    by_cases hid : c.id = id'
    · obtain rfl : r = r' := Option.some.inj (hr.symm.trans (hid ▸ hr'))
      rw [if_pos hid] at hfind
      exact ⟨_, hfind, hattempt⟩
    · rw [if_neg hid] at hfind
      exact ⟨r, hfind.trans hr, hattempt⟩

namespace Conversation.CountsAs

variable (h : c'.CountsAs c)

include h

/-- Written with the count, a conversation is on record with it. -/
theorem records_update {store : ConversationStore} (hstore : w.conversations.update c' = .ok store) :
    World.Records { w.counted .updateConversation with conversations := store } c := by
  have hfind := find?_update hstore c.id
  rw [if_pos h.id.symm] at hfind
  exact ⟨c', hfind, h.attempt⟩

theorem retains_updateConversation : Keeps (World.Retains c) (bot.updateConversation c') := by
  intro w
  obtain ⟨err, hrun⟩ | ⟨store, hstore, hrun⟩ := bot.updateConversation_cases w c'
  · rw [hrun]
    exact .of_conversations rfl fun h => h
  · rw [hrun]
    exact ⟨fun _ => h.records_update hstore, fun h => h⟩

/-- **A conversation keeps its count**, on record and in hand, once a block is entered. -/
theorem follows : bot.Follows e c' (World.Retains c) where
  rests hrests := .of_conversations hrests.conversations fun h => hrests.overflowed.trans h
  trans := World.Retains.trans
  deliver x _ _ _ _ := Bot.retains_deliver x
  stand _ _ := retains_updateConversation ⟨h.id, h.attempt⟩
  ended := Bot.retains_endConversation

end Conversation.CountsAs

/-! ### Asking again -/

/-- A conversation is on record, and to write it the next time meets no fault. -/
structure World.Accepts (w : World) (bot : Bot) (c : Conversation) : Prop where
  stored : ∃ r, w.conversations.find? c.id = some r
  up : bot.outages .updateConversation (w.made .updateConversation) = none

/-- A conversation that is accepted is written. -/
theorem World.Accepts.updateConversation (h : w.Accepts bot c) (hid : c'.id = c.id) :
    ∃ store, w.conversations.update c' = .ok store ∧ bot.updateConversation c' w =
      (.ok (), { w.counted .updateConversation with conversations := store }) := by
  have hstore : (w.counted .updateConversation).conversations.update c' =
      .ok (w.conversations.insert c') := update_eq_ok_iff.mpr ⟨hid ▸ h.stored, rfl⟩
  refine ⟨_, hstore, ?_⟩
  rw [Bot.updateConversation, Bot.ask, h.up, hstore]
  rfl

namespace Bot

/-- To enter a block to ask again takes one call, which writes the conversation. -/
theorem enter_again (w : World) :
    bot.enter e b false c w =
      match bot.updateConversation (c.taking b e) w with
      | (.ok _, w') => (.ok (c.taking b e), w')
      | (.error err, w') => (.error (err, c.taking b e), w') := by
  have henter : bot.enter e b false c =
      Bot.keeping (c.taking b e) (bot.updateConversation (c.taking b e)) >>= fun _ =>
        pure (c.taking b e) := rfl
  rw [henter, run_bind, Bot.keeping, run_adapt]
  rcases bot.updateConversation (c.taking b e) w with ⟨err | _, w'⟩
  · rfl
  · rfl

/-- A conversation that asks again keeps its count, and it is on record with the count if it was
accepted. -/
theorem retains_advance (w : World) : w.Retains c (bot.advance e b true c w).2 ∧
    (w.Accepts bot c → (bot.advance e b true c w).2.Records c) := by
  have hcounts := c.countsAs_taking b e
  have r : bot.Follows e (c.taking b e) (World.Retains c) := hcounts.follows
  have hrest : Keeps (World.Retains c) (liftM (emit (.entry .popular b.name)) >>= fun _ =>
      bot.trigger e b true (c.taking b e) : Step) := r.bind (.lift (r.emit _)) fun _ => r.trigger
  have hupdate : w.Retains c (bot.updateConversation (c.taking b e) w).2 :=
    hcounts.retains_updateConversation w
  have hadvance : bot.advance e b true c = bot.enter e b false c >>= fun c =>
    (liftM (emit (.entry .popular b.name)) >>= fun _ => bot.trigger e b true c : Step) := rfl
  rw [hadvance, run_bind, enter_again]
  obtain ⟨err, hrun⟩ | ⟨store, hstore, hrun⟩ := bot.updateConversation_cases w (c.taking b e)
  · rw [hrun] at hupdate ⊢
    refine ⟨hupdate, fun haccepts => ?_⟩
    obtain ⟨store, -, hok⟩ := haccepts.updateConversation hcounts.id
    rw [hrun] at hok
    cases hok
  · rw [hrun] at hupdate ⊢
    have hafter := hrest { w.counted .updateConversation with conversations := store }
    exact ⟨hupdate.trans hafter, fun _ => hafter.records (hcounts.records_update hstore)⟩

/-- What becomes of the count when a conversation asks again. -/
theorem retains_proceed (w : World) :
    (countAttempt true c w).2.Retains (countAttempt true c w).1 (bot.proceed e b true c w).2 ∧
      (w.Accepts bot c → (bot.proceed e b true c w).2.Records (countAttempt true c w).1) := by
  obtain ⟨hretains, hrecords⟩ := bot.retains_advance (e := e) (b := b)
    (c := (countAttempt true c w).1) (countAttempt true c w).2
  have hrecords (h : w.Accepts bot c) := hrecords ⟨h.stored, h.up⟩
  rw [proceed_apply]
  generalize bot.advance e b true (countAttempt true c w).1 (countAttempt true c w).2 = run
    at hretains hrecords
  obtain ⟨⟨err, c'⟩ | c', w'⟩ := run
  · have r : bot.Follows e (countAttempt true c w).1 (World.Retains (countAttempt true c w).1) :=
      Conversation.CountsAs.follows ⟨rfl, rfl⟩
    have hfinish := r.finish c' (some err.message) w'
    exact ⟨hretains.trans hfinish, fun h => hfinish.records (hrecords h)⟩
  · exact ⟨hretains, hrecords⟩

end Bot

end

/-! ### The count -/

/-- To count an attempt within the range changes nothing else. -/
theorem Bot.countAttempt_of_lt {c : Conversation} (h : c.context.attempt.toNat + 1 < UInt32.size)
    (w : World) : countAttempt true c w = (c.withAttempt (c.context.attempt + 1), w) := by
  have hne : c.context.attempt.toNat + 1 ≠ UInt32.size := h.ne
  have hrun : countAttempt true c w = (c.withAttempt (c.context.attempt + 1),
    { w with overflowed := w.overflowed || c.context.attempt.toNat + 1 = UInt32.size }) := rfl
  rw [hrun, decide_eq_false hne, Bool.or_false]

/-- The attempt after the last one that can be counted gives itself away. -/
theorem Bot.overflowed_countAttempt {c : Conversation}
    (h : c.context.attempt.toNat + 1 = UInt32.size) (w : World) :
    (countAttempt true c w).2.overflowed = true := by
  have hrun : (countAttempt true c w).2.overflowed =
    (w.overflowed || decide (c.context.attempt.toNat + 1 = UInt32.size)) := rfl
  rw [hrun, decide_eq_true h, Bool.or_true]

namespace Conversation

variable {c : Conversation}

/-- **What is counted when a conversation asks again.** The next attempt can be counted, unless the
count is the largest number and the policy of the block allows as many attempts. If it can, no count
leaves its range by it, and what is on record after the move is one more than before, as long as the
conversation was on record and could be written. If it cannot, the count leaves its range, and what
is on record then is zero. This is so whatever the event is, and whatever comes of the move. -/
theorem attempt_counted (ha : c.asksAgain = true) :
    (c.context.attempt.toNat + 1 < UInt32.size ∨ c.context.attempt.toNat + 1 = UInt32.size ∧
        ∃ b p, c.current = some b ∧ b.options.fallback = some p ∧
          p.maxAttempts = c.context.attempt) ∧
      ∀ (bot : Bot) (e : Event) (b : Block) (w : World),
        (c.context.attempt.toNat + 1 < UInt32.size →
          (Bot.countAttempt true c w).2 = w ∧ (w.Accepts bot c →
            ∃ r, (bot.proceed e b true c w).2.conversations.find? c.id = some r ∧
              r.context.attempt.toNat = c.context.attempt.toNat + 1)) ∧
        (c.context.attempt.toNat + 1 = UInt32.size →
          (bot.proceed e b true c w).2.overflowed = true ∧ (w.Accepts bot c →
            ∃ r, (bot.proceed e b true c w).2.conversations.find? c.id = some r ∧
              r.context.attempt.toNat = 0)) := by
  have hrange : c.context.attempt.toNat < UInt32.size := c.context.attempt.toNat_lt
  refine ⟨?_, fun bot e b w => ?_⟩
  · obtain ⟨b, p, hcurrent, hpolicy, -, hle⟩ := policy_of_asksAgain ha
    obtain hlt | heq : c.context.attempt.toNat + 1 < UInt32.size ∨
        c.context.attempt.toNat + 1 = UInt32.size := by omega
    · exact .inl hlt
    · -- the policy allows no more than the largest number
      have hmax : p.maxAttempts.toNat < UInt32.size := p.maxAttempts.toNat_lt
      have hle := UInt32.le_iff_toNat_le.mp hle
      exact .inr ⟨heq, b, p, hcurrent, hpolicy, UInt32.toNat_inj.mp (by omega)⟩
  · obtain ⟨hretains, hrecords⟩ := bot.retains_proceed (e := e) (b := b) (c := c) w
    refine ⟨fun hlt => ⟨?_, fun haccepts => ?_⟩, fun heq => ⟨?_, fun haccepts => ?_⟩⟩
    · rw [Bot.countAttempt_of_lt hlt]
    · obtain ⟨r, hr, hattempt⟩ := hrecords haccepts
      have hsucc := toNat_attempt_succ_of_lt hlt
      exact ⟨r, hr, (congrArg UInt32.toNat hattempt).trans hsucc⟩
    · exact hretains.overflowed (Bot.overflowed_countAttempt heq w)
    · obtain ⟨r, hr, hattempt⟩ := hrecords haccepts
      have hzero : (c.context.attempt + 1).toNat = 0 := by
        rw [UInt32.toNat_add, UInt32.toNat_one, heq]
        exact Nat.mod_self _
      exact ⟨r, hr, (congrArg UInt32.toNat hattempt).trans hzero⟩

end Conversation

namespace Sample

/-- A block that asks again for every count of attempts. -/
def insistent : Block :=
  { hello with
    options := { BlockOptions.none with fallback := some ⟨true, 4294967295, ["Pardon?"]⟩ } }

/-- A conversation in which it asked again as often as is counted. -/
def insisting (attempt : UInt32) : Conversation :=
  ⟨"conv-1", "sub-1", true, some insistent, [thanks], { Context.empty with attempt := attempt }⟩

/-- A world with the conversation. -/
def insisted (attempt : UInt32) : World :=
  { world [] with conversations := ConversationStore.empty.insert (insisting attempt) }

end Sample

namespace Conversation

/-- The last attempt that can be counted is counted. -/
theorem attempt_counted_last :
    (Sample.insisting 4294967294).asksAgain = true ∧
      (Sample.insisted 4294967294).Accepts Sample.bot (Sample.insisting 4294967294) ∧
      ∃ r, (Sample.bot.proceed (Sample.saying "what?") Sample.insistent true
          (Sample.insisting 4294967294) (Sample.insisted 4294967294)).2.conversations.find?
            "conv-1" = some r ∧
        r.context.attempt.toNat = 4294967295 := by
  have hasks : (Sample.insisting 4294967294).asksAgain = true := by decide
  have haccepts : (Sample.insisted 4294967294).Accepts Sample.bot (Sample.insisting 4294967294) :=
    ⟨⟨_, rfl⟩, rfl⟩
  have hcounted := (attempt_counted hasks).2 Sample.bot (Sample.saying "what?") Sample.insistent
    (Sample.insisted 4294967294)
  exact ⟨hasks, haccepts, (hcounted.1 (by decide)).2 haccepts⟩

/-- The conversation asks once more, which cannot be counted. -/
theorem attempt_uncounted :
    (Sample.insisting 4294967295).asksAgain = true ∧
      ¬(Sample.insisting 4294967295).context.attempt.toNat + 1 < UInt32.size ∧
      let w := (Sample.bot.handle (Sample.saying "what?") (Sample.insisted 4294967295)).2
      w.overflowed = true ∧
        (w.conversations.find? "conv-1").map (·.context.attempt.toNat) = some 0 := by
  decide +kernel

end Conversation

end Chatflow

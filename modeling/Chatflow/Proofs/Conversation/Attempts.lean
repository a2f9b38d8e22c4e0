import Chatflow.Proofs.Context
import Chatflow.Proofs.Conversation.Standing
import Chatflow.Proofs.Matching
import Chatflow.Proofs.Store.Blocks
import Mathlib.Data.List.Induction

/-!
# The count of attempts

A conversation counts how often in a row the bot had to ask again. The count is checked against
the journal: after every history the count of an active conversation is the number of turns, up to
the last, in which only messages that ask again were sent within it (`World.attempt_eq_streak`).

The heart of it is what one turn does to an active conversation (`Fate`): it has nothing to do
with it, it moves it on, which clears the count, or it asks again, which adds one.
-/

namespace Chatflow

open ConversationStore

/-! ### Streaks -/

/-- The messages sent within a conversation since an earlier world. -/
def World.saidSince (w w₀ : World) (id : String) : List Sent :=
  (w.sentSince w₀).filter (·.conversation = some id)

/-- What the messages of one turn make of a number of turns in a row in which a conversation only
asked again. -/
def streakAfter (said : List Sent) (n : Nat) : Nat :=
  if said = [] then n else if said.all (·.fallback) then n + 1 else 0

/-- The number of turns in a row, up to the last in which anything was said in a conversation, in
which it only asked again. -/
def World.streak (w : World) (history : List Occurrence) (id : String) : Nat :=
  (history.foldl (fun t o => (t.1.occur o, streakAfter ((t.1.occur o).saidSince t.1 id) t.2))
    (w, 0)).2

namespace World

variable {w₀ w w' : World} {id : String}

theorem streak_concat (w : World) (history : List Occurrence) (o : Occurrence) (id : String) :
    w.streak (history ++ [o]) id =
      streakAfter (((w.after history).occur o).saidSince (w.after history) id)
        (w.streak history id) := by
  have hworld : ∀ (history : List Occurrence) (w : World) (n : Nat), (history.foldl
      (fun t o => (t.1.occur o, streakAfter ((t.1.occur o).saidSince t.1 id) t.2)) (w, n)).1 =
      w.after history := by
    intro history
    induction history with
    | nil => exact fun _ _ => rfl
    | cons o history ih => exact fun w n => ih _ _
  rw [streak, List.foldl_append, streak, ← hworld history w 0]
  rfl

theorem saidSince_of_journal_eq (h : w'.journal = w.journal) :
    w'.saidSince w₀ id = w.saidSince w₀ id := by
  rw [saidSince, saidSince, sentSince, sentSince, h]

theorem saidSince_of_journal_concat {x : Sent} (hj : w₀.journal <+: w.journal)
    (hx : w'.journal = w.journal ++ [x]) :
    w'.saidSince w₀ id = w.saidSince w₀ id ++ [x].filter (·.conversation = some id) := by
  rw [saidSince, saidSince, sentSince_concat hj hx, List.filter_append]

theorem saidSince_self (h : w.journal = w₀.journal) : w.saidSince w₀ id = [] := by
  rw [saidSince, sentSince, h, List.drop_length]
  rfl

end World

/-! ### Other conversations -/

/-- What a turn that began in the world `w₀` keeps about the conversations of others, and about the
messages sent in it: those are of conversations of the sender. -/
structure Apart (s : Subscriber) (w₀ : World) (w : World) : Prop where
  /-- The conversations of others are as they were. -/
  others : ∀ {id r}, w.conversations.find? id = some r → r.sender ≠ s.id →
    w₀.conversations.find? id = some r
  /-- What was said was said in conversations of the sender. -/
  own : ∀ x ∈ w.sentSince w₀, ∀ id, x.conversation = some id →
    ∃ r, w.conversations.find? id = some r ∧ r.sender = s.id

namespace Shift

variable {s : Subscriber} {w₀ : World} {p q : Phase × World} {id : String} {r : Conversation}

/-- **A shift touches one record at most**, which is then of the sender, and was an active one of
the sender if it was there before. -/
theorem find?_cases (hsteady : Steady s w₀ p) (h : Shift s p q) (id : String) :
    q.2.conversations.find? id = p.2.conversations.find? id ∨
      ∃ r', q.2.conversations.find? id = some r' ∧ r'.sender = s.id ∧
        ∀ r, p.2.conversations.find? id = some r → isActiveOf s.id r = true := by
  cases h with
  | unseen h | absent h | found h | held h | unended h | idle h =>
    exact .inl (h.conversations ▸ rfl)
  | @written w w' c _ _ store hstore h =>
    obtain ⟨r', hr', hact⟩ := (hsteady.held rfl).stored
    have hconversations : w'.conversations = store := h.conversations
    rw [hconversations, find?_update hstore]
    split
    · rename_i hid
      refine .inr ⟨c, rfl, (hsteady.held rfl).sender, fun r hr => ?_⟩
      obtain rfl : r = r' := Option.some.inj (hr.symm.trans (hid ▸ hr'))
      exact hact
    · exact .inl rfl
  | @ended w w' c _ _ store hstore h =>
    obtain ⟨r', hr', hact⟩ := (hsteady.held rfl).stored
    have hconversations : w'.conversations = store := h.conversations
    rw [hconversations, find?_finish hstore hr']
    split
    · rename_i hid
      refine .inr ⟨_, rfl, (isActiveOf_iff.mp hact).2, fun r hr => ?_⟩
      obtain rfl : r = r' := Option.some.inj (hr.symm.trans (hid ▸ hr'))
      exact hact
    · exact .inl rfl
  | @created w w' c hstore h =>
    have hconversations : w'.conversations = c.2 := h.conversations
    rw [hconversations, find?_create hstore]
    split
    · -- the id of a new conversation is fresh
      rename_i hid
      refine .inr ⟨c.1, rfl, ?_, fun r hr => ?_⟩
      · rw [(create_eq_ok_iff.mp hstore).2.1]
        rfl
      · rw [hid, hsteady.sound.find?_created hstore] at hr
        cases hr
    · exact .inl rfl

/-- A conversation stays with its subscriber. -/
theorem sender_kept (hsteady : Steady s w₀ p) (h : Shift s p q)
    (hr : p.2.conversations.find? id = some r) :
    ∃ r', q.2.conversations.find? id = some r' ∧ r'.sender = r.sender := by
  obtain hsame | ⟨r', hr', hs, hold⟩ := h.find?_cases hsteady id
  · exact ⟨r, hsame.trans hr, rfl⟩
  · exact ⟨r', hr', hs.trans (isActiveOf_iff.mp (hold r hr)).2.symm⟩

/-- A conversation that is not an active one of the sender stays as it is. -/
theorem kept (hsteady : Steady s w₀ p) (h : Shift s p q)
    (hr : p.2.conversations.find? id = some r) (hn : isActiveOf s.id r = false) :
    q.2.conversations.find? id = some r := by
  obtain hsame | ⟨-, -, -, hold⟩ := h.find?_cases hsteady id
  · exact hsame.trans hr
  · rw [hold r hr] at hn
    cases hn

/-- A conversation of another subscriber was there before. -/
theorem others_kept (hsteady : Steady s w₀ p) (h : Shift s p q)
    (hr : q.2.conversations.find? id = some r) (hs : r.sender ≠ s.id) :
    p.2.conversations.find? id = some r := by
  obtain hsame | ⟨r', hr', hs', -⟩ := h.find?_cases hsteady id
  · exact hsame.symm.trans hr
  · obtain rfl : r = r' := Option.some.inj (hr.symm.trans hr')
    exact absurd hs' hs

end Shift

namespace Apart

variable {bot : Bot} {e : Event} {s : Subscriber} {w₀ : World} {p q : Stage × World}

theorem start (s : Subscriber) (w : World) : Apart s w w where
  others h _ := h
  own x hx := by
    rw [World.sentSince, List.drop_length] at hx
    cases hx

/-- **Every transition keeps it.** -/
theorem step (hsteady : Steady s w₀ (p.1.phase, p.2)) (hj : w₀.journal <+: p.2.journal)
    (hp : Apart s w₀ p.2) (h : bot.Moves e s p q) : Apart s w₀ q.2 := by
  refine ⟨fun hr hs => hp.others (h.shift.others_kept hsteady hr hs) hs, fun x hx id hid => ?_⟩
  have hold : x ∈ p.2.sentSince w₀ →
      ∃ r, q.2.conversations.find? id = some r ∧ r.sender = s.id := by
    intro hx
    obtain ⟨r, hr, hs⟩ := hp.own x hx id hid
    obtain ⟨r', hr', hs'⟩ := h.shift.sender_kept hsteady hr
    exact ⟨r', hr', hs'.trans hs⟩
  obtain hsame | ⟨y, hy, hcases⟩ := h.sent_cases
  · rw [World.sentSince, hsame] at hx
    exact hold hx
  · rw [World.sentSince_concat hj hy, List.mem_append, List.mem_singleton] at hx
    obtain hx | rfl := hx
    · exact hold hx
    · -- a new message is of no conversation, or of the one in hand
      obtain ⟨hnone, -⟩ | ⟨m, visited, b, c, hstage, hc, -⟩ := hcases
      · rw [hnone] at hid
        cases hid
      · obtain rfl : c.id = id := Option.some.inj (hc.symm.trans hid)
        have hholding : p.1.phase = .holding c true := by rw [hstage]; rfl
        have hholds := hsteady.held hholding
        obtain ⟨r, hr, hact⟩ := hholds.stored
        obtain ⟨r', hr', hs'⟩ := h.shift.sender_kept hsteady hr
        exact ⟨r', hr', hs'.trans (isActiveOf_iff.mp hact).2⟩

/-- Nothing was said in the conversation of somebody else. -/
theorem saidSince_eq_nil {w : World} {id : String} {r : Conversation} (h : Apart s w₀ w)
    (hr : w.conversations.find? id = some r) (hs : r.sender ≠ s.id) : w.saidSince w₀ id = [] := by
  rw [World.saidSince, List.filter_eq_nil_iff]
  intro x hx hid
  obtain ⟨r', hr', hs'⟩ := h.own x hx id (of_decide_eq_true hid)
  obtain rfl : r = r' := Option.some.inj (hr.symm.trans hr')
  exact hs hs'

/-- Nothing was said yet in a conversation that is not on record. -/
theorem saidSince_eq_nil_of_find? {w : World} {id : String} (h : Apart s w₀ w)
    (hr : w.conversations.find? id = none) : w.saidSince w₀ id = [] := by
  rw [World.saidSince, List.filter_eq_nil_iff]
  intro x hx hid
  obtain ⟨r', hr', -⟩ := h.own x hx id (of_decide_eq_true hid)
  rw [hr] at hr'
  cases hr'

end Apart

/-! ### What a turn does to the count -/

/-- What a move makes of the count of attempts, and at which block. -/
def Move.Counts (m : Move) (w₀ : World) (bot : Bot) (b : Block) (c : Conversation) : Prop :=
  match m with
  | .again => ∃ c₀, w₀.conversations.find? c.id = some c₀ ∧ c₀.active = true ∧
      c₀.asksAgain = true ∧ c₀.askingBlock? = some b ∧
      c.context.attempt = c₀.context.attempt + 1
  | .answer | .start _ => b ∈ bot.blocks.blocks ∧ c.context.attempt = 0

/-- What is known of the count at the stages of a turn that began in the world `w₀`, and of the
messages sent in the conversation. -/
def Paced (bot : Bot) (w₀ : World) : Stage × World → Prop
  | (.waiting, w) => w.conversations = w₀.conversations ∧ w.journal = w₀.journal
  | (.found c, w) => w₀.conversations.find? c.id = some c ∧ c.active = true ∧
      w.journal = w₀.journal
  | (.entering m b c, w) | (.storing m b c, w) | (.entered m b c, w) =>
    m.Counts w₀ bot b c ∧ w.saidSince w₀ c.id = []
  | (.sending m _ b c, w) =>
    m.Counts w₀ bot b c ∧ ∀ x ∈ w.saidSince w₀ c.id, x.fallback = m.fallback
  | (.sent m _ b c, w) =>
    m.Counts w₀ bot b c ∧ (∀ x ∈ w.saidSince w₀ c.id, x.fallback = m.fallback) ∧
      w.saidSince w₀ c.id ≠ []
  | (.standing m c, w) =>
    (∃ b, c.current = some b ∧ c.next = bot.blocks.findMany b.nextBlocks ∧
        m.Counts w₀ bot b c) ∧
      (∀ x ∈ w.saidSince w₀ c.id, x.fallback = m.fallback) ∧ w.saidSince w₀ c.id ≠ []
  | (.opening b _, _) => b ∈ bot.blocks.blocks
  | _ => True

namespace Paced

variable {bot : Bot} {e : Event} {s : Subscriber} {w₀ : World} {p q : Stage × World}

/-- What is sent right now is the only new message. -/
theorem said {w w' : World} {m : Move} {c : Conversation} {x : Sent}
    (hj : w₀.journal <+: w.journal) (hx : w'.journal = w.journal ++ [x])
    (hconversation : x.conversation = some c.id) (hfallback : x.fallback = m.fallback)
    (hold : ∀ y ∈ w.saidSince w₀ c.id, y.fallback = m.fallback) :
    (∀ y ∈ w'.saidSince w₀ c.id, y.fallback = m.fallback) ∧ w'.saidSince w₀ c.id ≠ [] := by
  have hsaid : w'.saidSince w₀ c.id = w.saidSince w₀ c.id ++ [x] := by
    rw [World.saidSince_of_journal_concat hj hx, List.filter_cons_of_pos (by simp [hconversation])]
    rfl
  rw [hsaid]
  refine ⟨fun y hy => ?_, List.concat_ne_nil _ _⟩
  obtain hy | hy := List.mem_append.mp hy
  · exact hold y hy
  · rw [List.mem_singleton.mp hy]
    exact hfallback

/-- **Every transition keeps it.** -/
theorem step (hsteady : Steady s w₀ (p.1.phase, p.2)) (hj : w₀.journal <+: p.2.journal)
    (hapart : Apart s w₀ p.2) (hp : Paced bot w₀ p) (h : bot.Moves e s p q) : Paced bot w₀ q := by
  cases h with
  | @found w c h =>
    obtain ⟨hstored, hact⟩ := hsteady.sound.find?_of_active? h
    exact ⟨hp.1 ▸ hstored, (isActiveOf_iff.mp hact).1, hp.2⟩
  | answered h =>
    refine ⟨⟨BlockStore.mem_of_mem_findMany (Event.mem_of_matchBlock? h), rfl⟩, ?_⟩
    exact World.saidSince_self hp.2.2
  | asked _ h ha hb =>
    exact ⟨⟨_, hp.1, hp.2.1, ha, hb, rfl⟩, World.saidSince_self hp.2.2⟩
  | @bare w m b c | @kept w m b c =>
    -- what is captured leaves the count alone
    refine ⟨?_, hp.2⟩
    have hattempt := Context.attempt_fold c.context b e
    cases m with
    | again =>
      obtain ⟨c₀, hc₀, hactive, hasks, hblock, hcount⟩ := hp.1
      exact ⟨c₀, hc₀, hactive, hasks, hblock, hattempt.trans hcount⟩
    | answer => exact ⟨hp.1.1, hattempt.trans hp.1.2⟩
    | start o => exact ⟨hp.1.1, hattempt.trans hp.1.2⟩
  | stored => exact hp
  | @entered w m b c =>
    have hsaid : (w.emitted (m.visits b)).saidSince w₀ c.id = [] := hp.2
    refine ⟨hp.1, fun x hx => ?_⟩
    rw [hsaid] at hx
    cases hx
  | said hsends =>
    cases hsends with
    | applied _ hheard _ => exact ⟨hp.1, said hj hheard.journal rfl rfl hp.2⟩
  | read h hn => exact ⟨⟨_, rfl, rfl, hp.1⟩, hp.2⟩
  | @linked w m visited b next c id h hf hv =>
    refine ⟨?_, hp.2.1⟩
    cases m with
    | again =>
      -- nothing is attached to a block that asks again
      obtain ⟨c₀, -, -, -, hblock, -⟩ := hp.1
      obtain ⟨b₀, -, rfl⟩ := Option.map_eq_some_iff.mp hblock
      cases h
    | answer => exact ⟨BlockStore.mem_of_find? hf, hp.1.2⟩
    | start o => exact ⟨BlockStore.mem_of_find? hf, hp.1.2⟩
  | matched h => exact BlockStore.mem_of_mem_starting (Event.mem_of_matchBlock? h)
  | sought _ hf => exact BlockStore.mem_of_find? hf
  | opened h =>
    refine ⟨⟨hp, ?_⟩, ?_⟩
    · rw [(create_eq_ok_iff.mp h).2.1]
      rfl
    · rw [World.saidSince_of_journal_eq rfl]
      exact hapart.saidSince_eq_nil_of_find? (hsteady.sound.find?_created h)
  | _ => trivial

end Paced

/-- What became of an active conversation in a turn from the world `w₀` to the world `w`. -/
inductive Fate (bot : Bot) (w₀ w : World) (c : Conversation) : Prop where
  /-- The turn had nothing to do with it. -/
  | aside (hc : w₀.conversations.find? c.id = some c) (hsaid : w.saidSince w₀ c.id = [])
  /-- It was moved on, or started. -/
  | moved (hsaid : w.saidSince w₀ c.id ≠ [])
      (hfallback : ∀ x ∈ w.saidSince w₀ c.id, x.fallback = false)
      (hblock : ∃ b ∈ bot.blocks.blocks, c.current = some b ∧
        c.next = bot.blocks.findMany b.nextBlocks)
      (hattempt : c.context.attempt = 0)
  /-- It asked again. -/
  | asked {c₀ : Conversation} (hsaid : w.saidSince w₀ c.id ≠ [])
      (hfallback : ∀ x ∈ w.saidSince w₀ c.id, x.fallback = true)
      (hc₀ : w₀.conversations.find? c.id = some c₀) (hactive : c₀.active = true)
      (hasks : c₀.asksAgain = true) (hblock : c.current = c₀.askingBlock?)
      (hattempt : c.context.attempt = c₀.context.attempt + 1)

/-- **The fate of an active conversation in a turn** in which the conversations were seen and none
failed to be ended. -/
theorem Bot.Path.fate {bot : Bot} {e : Event} {s : Subscriber} {w w' : World}
    {r : Except BotError Outcome} (h : bot.Path e s (.waiting, w) (.exit (.finished r), w'))
    (hsound : w.conversations.Sound) (hfind : .findActive ∉ w'.failedSince w)
    (hend : .endConversation ∉ w'.failedSince w) {c : Conversation}
    (hc : w'.conversations.find? c.id = some c) (hactive : c.active = true) :
    Fate bot w w' c := by
  have hkept : ∀ {p}, bot.Path e s (.waiting, w) p → Apart s w p.2 ∧ Paced bot w p :=
    fun hpath => (hpath.turn_preserves (I := fun p => Apart s w p.2 ∧ Paced bot w p) hsound
      ⟨.start s w, rfl, rfl⟩ fun hpath hsteady hmove ⟨hapart, hpaced⟩ =>
        ⟨hapart.step hsteady hpath.grows.journal hmove,
          hpaced.step hsteady hpath.grows.journal hapart hmove⟩).2
  have hapart := (hkept h).1
  by_cases hsender : c.sender = s.id
  · -- a move of the turn left it standing, and nothing was sent since
    obtain ⟨m, v, hpath, hjournal⟩ := h.settled hsound hfind hend c.id c hc
      (isActiveOf_iff.mpr ⟨hactive, hsender⟩)
    obtain ⟨-, ⟨b, hb, hnext, hcounts⟩, hfallback, hsaid⟩ := hkept hpath
    rw [← World.saidSince_of_journal_eq hjournal] at hfallback hsaid
    cases m with
    | again =>
      obtain ⟨c₀, hc₀, hactive₀, hasks, hblock, hattempt⟩ := hcounts
      exact .asked hsaid hfallback hc₀ hactive₀ hasks (hb.trans hblock.symm) hattempt
    | answer => exact .moved hsaid hfallback ⟨b, hcounts.1, hb, hnext⟩ hcounts.2
    | start o => exact .moved hsaid hfallback ⟨b, hcounts.1, hb, hnext⟩ hcounts.2
  · exact .aside (hapart.others hc hsender) (hapart.saidSince_eq_nil hc hsender)

/-! ### Runs -/

/-- A policy that allows fewer attempts than the count can hold. -/
def FallbackPolicy.Bounded (p : FallbackPolicy) : Prop := p.maxAttempts.toNat + 1 < UInt32.size

instance FallbackPolicy.decidableBounded (p : FallbackPolicy) : Decidable p.Bounded :=
  inferInstanceAs (Decidable (p.maxAttempts.toNat + 1 < UInt32.size))

/-- A block whose policy, if it has one, is bounded. -/
def Block.Bounded (b : Block) : Prop := ∀ p, b.options.fallback = some p → p.Bounded

/-- A turn on a flow of bounded blocks. -/
def Occurrence.Bounded : Occurrence → Prop
  | .turn bot _ => ∀ b ∈ bot.blocks.blocks, b.Bounded
  | .outside _ _ => True

/-- The blocks of the example are bounded. -/
theorem Sample.bounded_history (texts : List String) : ∀ o ∈ Sample.history texts, o.Bounded := by
  intro o ho
  obtain rfl | ho := List.mem_cons.mp ho
  · trivial
  · obtain ⟨t, -, rfl⟩ := List.mem_map.mp ho
    intro b hb p hp
    obtain rfl | rfl : b = Sample.hello ∨ b = Sample.thanks := by simpa [Sample.bot] using hb
    · cases hp
      decide
    · cases hp

/-- A conversation that asks again stands at a block with a policy that allows it. -/
theorem Conversation.policy_of_asksAgain {c : Conversation} (ha : c.asksAgain = true) :
    ∃ b p, c.current = some b ∧ b.options.fallback = some p ∧ p.active = true ∧
      c.context.attempt ≤ p.maxAttempts := by
  rw [asksAgain] at ha
  split at ha
  · rename_i p hp
    obtain ⟨b, hcurrent, hpolicy⟩ := Option.bind_eq_some_iff.mp hp
    obtain ⟨hactive, hle⟩ := Bool.and_eq_true_iff.mp ha
    exact ⟨b, p, hcurrent, hpolicy, hactive, of_decide_eq_true hle⟩
  · cases ha

/-- A conversation that has not reached the end of the count can count one more attempt. -/
theorem Conversation.toNat_attempt_succ_of_lt {c : Conversation}
    (h : c.context.attempt.toNat + 1 < UInt32.size) :
    (c.context.attempt + 1).toNat = c.context.attempt.toNat + 1 := by
  rw [UInt32.toNat_add, UInt32.toNat_one]
  exact Nat.mod_eq_of_lt h

/-- A conversation that asks again can count it. -/
theorem Conversation.toNat_attempt_succ {c : Conversation} (ha : c.asksAgain = true)
    (hb : ∀ b, c.current = some b → b.Bounded) :
    (c.context.attempt + 1).toNat = c.context.attempt.toNat + 1 := by
  obtain ⟨b, p, hcurrent, hpolicy, -, hle⟩ := policy_of_asksAgain ha
  have hlt : p.maxAttempts.toNat + 1 < UInt32.size := hb b hcurrent p hpolicy
  have hle := UInt32.le_iff_toNat_le.mp hle
  exact toNat_attempt_succ_of_lt (by omega)

namespace World

/-- The fate of an active conversation in a turn, if the turn has a sender at all. -/
theorem fate_turn {w : World} {bot : Bot} {event : Event} (hsound : w.conversations.Sound)
    (hfind : .findActive ∉ (w.occur (.turn bot event)).failures)
    (hend : .endConversation ∉ (w.occur (.turn bot event)).failures) {c : Conversation}
    (hc : (w.occur (.turn bot event)).conversations.find? c.id = some c)
    (hactive : c.active = true) : Fate bot w (w.occur (.turn bot event)) c := by
  cases hs : event.sender with
  | none =>
    rw [occur, Bot.handle_unsent hs] at hc ⊢
    exact .aside hc (saidSince_self rfl)
  | some s =>
    obtain ⟨s', hs', -⟩ := Bot.sender_detectLanguage event bot.settings.languages hs
    exact (Bot.path_handle hs' w).fate hsound (fun hm => hfind (List.mem_of_mem_drop hm))
      (fun hm => hend (List.mem_of_mem_drop hm)) hc hactive

/-- What a fate means for the count and the streak. -/
theorem streak_of_fate {bot : Bot} {w₀ w : World} {c : Conversation} {n : Nat}
    (h : Fate bot w₀ w c) (hblocks : ∀ b ∈ bot.blocks.blocks, b.Bounded)
    (hold : ∀ c₀, w₀.conversations.find? c.id = some c₀ → c₀.active = true →
      c₀.context.attempt.toNat = n ∧ ∀ b, c₀.current = some b → b.Bounded)
    (hactive : c.active = true) :
    c.context.attempt.toNat = streakAfter (w.saidSince w₀ c.id) n ∧
      ∀ b, c.current = some b → b.Bounded := by
  cases h with
  | aside hc hsaid =>
    rw [hsaid]
    exact hold c hc hactive
  | moved hsaid hfallback hblock hattempt =>
    obtain ⟨b, hb, hcurrent, -⟩ := hblock
    refine ⟨?_, fun b' hb' => ?_⟩
    · obtain ⟨x, hx⟩ := List.exists_mem_of_ne_nil _ hsaid
      have hall : (w.saidSince w₀ c.id).all (·.fallback) = false := by
        rw [List.all_eq_false]
        exact ⟨x, hx, by rw [hfallback x hx]; exact Bool.false_ne_true⟩
      rw [streakAfter, if_neg hsaid, hall, hattempt]
      rfl
    · obtain rfl := Option.some.inj (hcurrent.symm.trans hb')
      exact hblocks b hb
  | @asked c₀ hsaid hfallback hc₀ hactive₀ hasks hblock hattempt =>
    obtain ⟨hcount, hbounded⟩ := hold c₀ hc₀ hactive₀
    refine ⟨?_, fun b hb => ?_⟩
    · have hall : (w.saidSince w₀ c.id).all (·.fallback) = true := List.all_eq_true.mpr hfallback
      rw [streakAfter, if_neg hsaid, if_pos hall, hattempt,
        Conversation.toNat_attempt_succ hasks hbounded, hcount]
    · -- the block that asks again has the policy of the one it was made from
      obtain ⟨b₀, hb₀, rfl⟩ := Option.map_eq_some_iff.mp (hblock.symm.trans hb)
      exact hbounded b₀ hb₀

/-- **The count of attempts is the streak.** After every history without failed lookups and ends of
conversations, on flows of bounded blocks, the count of an active conversation is the number of
turns in a row in which it only asked again. -/
theorem attempt_eq_streak (channels : Channel.Registry) (history : List Occurrence)
    (hbounded : ∀ o ∈ history, o.Bounded)
    (hfind : .findActive ∉ ((fresh channels).after history).failures)
    (hend : .endConversation ∉ ((fresh channels).after history).failures) (id : String)
    (c : Conversation) (hc : ((fresh channels).after history).conversations.find? id = some c)
    (hactive : c.active = true) :
    c.context.attempt.toNat = (fresh channels).streak history id ∧
      ∀ b, c.current = some b → b.Bounded := by
  induction history using List.reverseRecOn generalizing id c with
  | nil => cases hc
  | append_singleton history o ih =>
    have hafter : (fresh channels).after (history ++ [o]) =
        ((fresh channels).after history).occur o := after_append _ _ _
    have hsound := sound_after channels history
    have hgrows := ((fresh channels).after history).grows_occur o
    rw [streak_concat]
    rw [hafter] at hfind hend hc
    -- what failed earlier failed by now, so the induction hypothesis applies
    have hold := ih (fun o ho => hbounded o (List.mem_append_left _ ho))
      (fun hm => hfind (hgrows.failures.subset hm)) (fun hm => hend (hgrows.failures.subset hm)) id
    obtain rfl : c.id = id := (sound_occur _ o hsound).id_eq hc
    generalize (fresh channels).streak history c.id = n at *
    generalize (fresh channels).after history = w at *
    cases o with
    | outside subscribers channels =>
      have hsaid : (w.occur (.outside subscribers channels)).saidSince w c.id = [] :=
        saidSince_self rfl
      rw [hsaid]
      exact hold c hc hactive
    | turn bot event =>
      exact streak_of_fate (fate_turn hsound hfind hend hc hactive)
        (hbounded _ (List.mem_append_right _ List.mem_cons_self)) hold hactive

end World

end Chatflow

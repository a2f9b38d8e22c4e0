import Chatflow.Proofs.Conversation.Asking

/-!
# The budget of attempts

A conversation at a block that asks again does so as often as the policy of the block allows, and
then ends: `World.fallback_budget`. The turn that moved the conversation on has cleared its count
(`World.JustMoved.prompts`), each unanswered turn of the subscriber adds one to it and leaves the
conversation where it stood (`Conversation.AskedAgain`), and nothing else that happens touches it.
-/

namespace Chatflow

open ConversationStore

/-! ### A conversation that asks again and again -/

namespace Occurrence

/-- Whether it is a turn of a subscriber. -/
def isTurnOf (sender : String) : Occurrence → Bool
  | .turn _ event => event.sender.any (·.id = sender)
  | .outside _ _ => false

/-- If it is a turn of a subscriber, it is one on some blocks, and no candidate answers in it. -/
def Unanswered (sender : String) (blocks : BlockStore) (candidates : List Block) :
    Occurrence → Prop
  | .turn bot event => ∀ s, event.sender = some s → s.id = sender →
      bot.blocks = blocks ∧ event.matchBlock? candidates = none
  | .outside _ _ => True

end Occurrence

namespace Conversation

/-- A conversation at a block that asks again, waiting for the blocks that this one names. -/
structure Prompts (c : Conversation) (blocks : BlockStore) (b : Block) (p : FallbackPolicy) :
    Prop where
  /-- It stands at the block. -/
  current : c.current = some b
  /-- It waits for the blocks that this one names. -/
  next : c.next = blocks.findMany b.nextBlocks
  /-- The block has a policy. -/
  policy : b.options.fallback = some p
  /-- The policy is in force. -/
  active : p.active = true
  /-- The policy has texts. -/
  texts : p.messages ≠ []
  /-- There are blocks to wait for. -/
  waits : blocks.findMany b.nextBlocks ≠ []

/-- A conversation stands where another stood, and has asked again a number of times. -/
structure AskedAgain (c' c : Conversation) (n : Nat) : Prop where
  /-- It is the same conversation. -/
  id : c'.id = c.id
  /-- It is of the same subscriber. -/
  sender : c'.sender = c.sender
  /-- It is still active. -/
  active : c'.active = true
  /-- It stands at the same block. -/
  block : c'.current.map (·.id) = c.current.map (·.id)
  /-- The block has the same policy. -/
  options : c'.current.map (·.options) = c.current.map (·.options)
  /-- It waits for the same blocks. -/
  nextIds : c'.nextIds = c.nextIds
  /-- Nothing else was captured. -/
  vars : c'.context.vars = c.context.vars
  /-- It counted the times. -/
  attempt : c'.context.attempt.toNat = n

namespace AskedAgain

variable {c c' : Conversation} {blocks : BlockStore} {b : Block} {p : FallbackPolicy} {n : Nat}

/-- The candidates are found again. -/
theorem findMany_nextIds (h : AskedAgain c' c n) (hc : c.Prompts blocks b p) :
    blocks.findMany c'.nextIds = blocks.findMany b.nextBlocks := by
  rw [h.nextIds, Conversation.nextIds, hc.next, BlockStore.findMany_ids]

/-- It asks again until the count is above the bound. -/
theorem asksAgain_eq (h : AskedAgain c' c n) (hc : c.Prompts blocks b p) :
    c'.asksAgain = decide (n ≤ p.maxAttempts.toNat) := by
  have hoptions := h.options
  rw [hc.current] at hoptions
  obtain ⟨b', hb', hsame⟩ := Option.map_eq_some_iff.mp hoptions
  have hpolicy : c'.current.bind (·.options.fallback) = some p := by
    rw [hb', Option.bind_some, hsame, hc.policy]
  rw [asksAgain, hpolicy]
  change (p.active && decide (c'.context.attempt ≤ p.maxAttempts)) = _
  rw [hc.active, Bool.true_and, ← h.attempt]
  exact decide_eq_decide.mpr UInt32.le_iff_toNat_le

/-- After it asked once more it has asked again one time more. -/
theorem asked (h : AskedAgain c' c n) (hc : c.Prompts blocks b p) {b' : Block} {e : Event}
    (hb' : c'.askingBlock? = some b') (hn : n ≤ p.maxAttempts.toNat) (hbounded : p.Bounded) :
    AskedAgain (c'.asked blocks b' e) c (n + 1) := by
  obtain ⟨b₀, hb₀, rfl⟩ := Option.map_eq_some_iff.mp hb'
  -- the block that asks again has no captures
  have hcaptured : (c'.asked blocks { b₀ with
      nextBlocks := c'.nextIds
      assignLabels := []
      triggerLabels := []
      captures := []
      attachedBlock := none
      category := none } e).context.vars = c'.context.vars := Context.vars_fold _ _ _
  refine ⟨h.id, h.sender, h.active, ?_, ?_, ?_, hcaptured.trans h.vars, ?_⟩
  · rw [← h.block, hb₀]
    rfl
  · rw [← h.options, hb₀]
    rfl
  · change (blocks.findMany c'.nextIds).map (·.id) = c.nextIds
    rw [h.findMany_nextIds hc, Conversation.nextIds, hc.next]
  · change (Context.fold _ _ _).attempt.toNat = n + 1
    rw [Context.attempt_fold]
    change (c'.context.attempt + 1).toNat = n + 1
    have hattempt := h.attempt
    have hlt : p.maxAttempts.toNat + 1 < 4294967296 := hbounded
    rw [UInt32.toNat_add, UInt32.toNat_one, hattempt]
    exact Nat.mod_eq_of_lt (by omega)

end AskedAgain

end Conversation

/-! ### Turns -/

/-- What is not an active conversation of the sender is left alone by a turn. -/
theorem Bot.kept_handle {bot : Bot} {event : Event} {s : Subscriber} {w : World} {id : String}
    {r : Conversation} (h : w.conversations.Sound) (hs : event.sender = some s)
    (hr : w.conversations.find? id = some r) (hn : isActiveOf s.id r = false) :
    (bot.handle event w).2.conversations.find? id = some r := by
  obtain ⟨s', hs', hid, -⟩ := sender_detectLanguage event bot.settings.languages hs
  rw [← hid] at hn
  have hfinal := (path_handle hs' w).turn_preserves
    (I := fun p => p.2.conversations.find? id = some r) h hr
    fun _ hsteady hmove hr => hmove.shift.kept hsteady hr hn
  exact hfinal.2

namespace World

variable {w w' : World} {c c' : Conversation} {blocks : BlockStore} {b : Block}
  {p : FallbackPolicy} {n : Nat} {bot : Bot} {event : Event} {s : Subscriber}
  {r : Except BotError Outcome}

/-- **Up to the bound an unanswered turn asks again.** -/
theorem handle_askedAgain (hsound : w.conversations.Sound) (hc : c.Prompts blocks b p)
    (hbounded : p.Bounded) (hstored : w.conversations.find? c.id = some c')
    (hagain : c'.AskedAgain c n)
    (hn : n ≤ p.maxAttempts.toNat) (hs : event.sender = some s) (hid : s.id = c.sender)
    (hblocks : bot.blocks = blocks)
    (hunanswered : event.matchBlock? (blocks.findMany b.nextBlocks) = none)
    (hrun : bot.handle event w = (r, w')) (hfailed : w'.failedSince w = []) :
    r = .ok .conversation ∧ (∃ x, w'.sentSince w = [x] ∧ x.Asks bot s c p) ∧
      ∃ c'', w'.conversations.find? c.id = some c'' ∧ c''.AskedAgain c (n + 1) := by
  obtain ⟨s', hs', hid', -, hvars⟩ := Bot.sender_detectLanguage event bot.settings.languages hs
  obtain ⟨b', hb', hsame⟩ := Option.map_eq_some_iff.mp
    (hagain.options.trans (congrArg (Option.map (·.options)) hc.current))
  have hactive : isActiveOf s'.id c' = true :=
    isActiveOf_iff.mpr ⟨hagain.active, hagain.sender.trans (hid.symm.trans hid'.symm)⟩
  have hasks : HasToAsk bot (event.detectLanguage bot.settings.languages) s' p c'
      { b' with
        nextBlocks := c'.nextIds
        assignLabels := []
        triggerLabels := []
        captures := []
        attachedBlock := none
        category := none } w := by
    refine ⟨hsound.active?_of_find? hstored hactive, ?_, ?_, ?_, ?_, hc.texts, ?_⟩
    · rw [Event.matchBlock?_detectLanguage, hblocks, hagain.findMany_nextIds hc]
      exact hunanswered
    · rw [hagain.asksAgain_eq hc]
      exact decide_eq_true hn
    · rw [Conversation.askingBlock?, hb']
      rfl
    · exact (congrArg (·.fallback) hsame).trans hc.policy
    · -- were there none to wait for, none would be found
      intro hnil
      have hnext := hagain.findMany_nextIds hc
      rw [hnil] at hnext
      exact hc.waits hnext.symm
  have hpath := Bot.path_handle hs' w
  rw [hrun] at hpath
  obtain ⟨hresult, ⟨x, hx, hfallback, hconversation, hblock, t, ht, htext⟩, hafter⟩ :=
    Asking.handle hasks hpath hfailed
  refine ⟨hresult, ⟨x, hx, hfallback, ?_, hagain.block ▸ hblock, t, ht, hvars ▸ htext⟩, ?_⟩
  · rw [hconversation, hagain.id]
  · rw [hblocks] at hafter
    exact ⟨_, hagain.id ▸ hafter, hagain.asked hc hasks.block hn hbounded⟩

/-- **Above the bound an unanswered turn ends the conversation.** -/
theorem handle_left (hsound : w.conversations.Sound) (hc : c.Prompts blocks b p)
    (hstored : w.conversations.find? c.id = some c') (hagain : c'.AskedAgain c n)
    (hn : p.maxAttempts.toNat < n) (hs : event.sender = some s) (hid : s.id = c.sender)
    (hblocks : bot.blocks = blocks)
    (hunanswered : event.matchBlock? (blocks.findMany b.nextBlocks) = none)
    (hrun : bot.handle event w = (r, w')) (hfailed : w'.failedSince w = []) : w'.Left w c' := by
  obtain ⟨s', hs', hid', -⟩ := Bot.sender_detectLanguage event bot.settings.languages hs
  have hactive : isActiveOf s'.id c' = true :=
    isActiveOf_iff.mpr ⟨hagain.active, hagain.sender.trans (hid.symm.trans hid'.symm)⟩
  have hasks : c'.asksAgain = false := by
    rw [hagain.asksAgain_eq hc]
    exact decide_eq_false (Nat.not_le_of_lt hn)
  have hmatch : (event.detectLanguage bot.settings.languages).matchBlock?
      (bot.blocks.findMany c'.nextIds) = none := by
    rw [Event.matchBlock?_detectLanguage, hblocks, hagain.findMany_nextIds hc]
    exact hunanswered
  have hpath := Bot.path_handle hs' w
  rw [hrun] at hpath
  exact Leaving.handle hsound (hsound.active?_of_find? hstored hactive) hmatch hasks hpath hfailed

/-! ### Runs -/

/-- **What one occurrence makes of a conversation that asks again.** -/
theorem occur_askedAgain (hsound : w.conversations.Sound) (hc : c.Prompts blocks b p)
    (hbounded : p.Bounded) (hstored : w.conversations.find? c.id = some c')
    (hagain : c'.AskedAgain c n) {o : Occurrence}
    (hn : n + [o].countP (·.isTurnOf c.sender) ≤ p.maxAttempts.toNat + 1)
    (hunanswered : o.Unanswered c.sender blocks (blocks.findMany b.nextBlocks))
    (hfailed : (w.occur o).failedSince w = []) :
    ∃ c'', (w.occur o).conversations.find? c.id = some c'' ∧
      c''.AskedAgain c (n + [o].countP (·.isTurnOf c.sender)) := by
  cases o with
  | outside subscribers channels => exact ⟨c', hstored, hagain⟩
  | turn bot event =>
    cases hs : event.sender with
    | none =>
      have hturn : [Occurrence.turn bot event].countP (·.isTurnOf c.sender) = 0 := by
        simp [Occurrence.isTurnOf, hs]
      rw [occur, Bot.handle_unsent hs, hturn]
      exact ⟨c', hstored, hagain⟩
    | some s =>
      by_cases hid : s.id = c.sender
      · have hturn : [Occurrence.turn bot event].countP (·.isTurnOf c.sender) = 1 := by
          simp [Occurrence.isTurnOf, hs, hid]
        obtain ⟨hblocks, hmatch⟩ := hunanswered s hs hid
        rw [hturn] at hn ⊢
        exact (handle_askedAgain hsound hc hbounded hstored hagain (by omega) hs hid hblocks hmatch
          (Prod.eta _).symm hfailed).2.2
      · -- the turn of somebody else leaves it alone
        have hturn : [Occurrence.turn bot event].countP (·.isTurnOf c.sender) = 0 := by
          simp [Occurrence.isTurnOf, hs, hid]
        have hother : isActiveOf s.id c' = false := by
          rw [← Bool.not_eq_true, isActiveOf_iff]
          exact fun hact => hid (hact.2.symm.trans hagain.sender)
        rw [hturn]
        exact ⟨c', Bot.kept_handle hsound hs hstored hother, hagain⟩

/-- **Unanswered turns ask again one after the other.** After some, not more than one above the
bound, the conversation stands where it stood, with their number as its count. -/
theorem askedAgain_after (hsound : w.conversations.Sound) (hc : c.Prompts blocks b p)
    (hbounded : p.Bounded) (hstored : w.conversations.find? c.id = some c)
    (hactive : c.active = true)
    (hzero : c.context.attempt = 0) (later : List Occurrence)
    (hunanswered : ∀ o ∈ later, o.Unanswered c.sender blocks (blocks.findMany b.nextBlocks))
    (hfailed : (w.after later).failures = w.failures)
    (hn : later.countP (·.isTurnOf c.sender) ≤ p.maxAttempts.toNat + 1) :
    ∃ c', (w.after later).conversations.find? c.id = some c' ∧
      c'.AskedAgain c (later.countP (·.isTurnOf c.sender)) := by
  induction later using List.reverseRecOn with
  | nil =>
    refine ⟨c, hstored, rfl, rfl, hactive, rfl, rfl, rfl, rfl, ?_⟩
    rw [hzero]
    rfl
  | append_singleton later o ih =>
    have hafter : w.after (later ++ [o]) = (w.after later).occur o := after_append _ _ _
    rw [hafter] at hfailed ⊢
    rw [List.countP_append] at hn ⊢
    -- nothing failed before the last occurrence, nor in it
    have hgrows := (w.after later).grows_occur o
    have hearlier : (w.after later).failures = w.failures :=
      ((w.grows_after later).failures.eq_of_length_le (hfailed ▸ hgrows.failures.length_le)).symm
    have hlast : ((w.after later).occur o).failedSince (w.after later) = [] := by
      rw [failedSince, hearlier, ← hfailed]
      exact List.drop_length
    obtain ⟨c', hc', hagain⟩ := ih (fun o ho => hunanswered o (List.mem_append_left _ ho)) hearlier
      (by omega)
    exact occur_askedAgain (after_preserves sound_occur later hsound) hc hbounded hc' hagain hn
      (hunanswered o (List.mem_append_right _ List.mem_cons_self)) hlast

/-- A turn of a bot from the world `w₀` to the world `w` has just moved a conversation on, or
started it, and left it at a block that asks again. -/
structure JustMoved (w w₀ : World) (bot : Bot) (c : Conversation) (b : Block)
    (p : FallbackPolicy) : Prop where
  /-- The conversation is on record. -/
  stored : w.conversations.find? c.id = some c
  /-- It is active. -/
  active : c.active = true
  /-- A message was sent within it that does not ask again. -/
  said : ∃ x ∈ w.saidSince w₀ c.id, x.fallback = false
  /-- It stands at the block. -/
  current : c.current = some b
  /-- The block has a policy. -/
  policy : b.options.fallback = some p
  /-- The policy is in force. -/
  asks : p.active = true
  /-- The policy has texts. -/
  texts : p.messages ≠ []
  /-- There are blocks to wait for. -/
  waits : bot.blocks.findMany b.nextBlocks ≠ []

/-- What a turn that moves a conversation on makes of it. -/
theorem JustMoved.prompts {w₀ : World} (hsound : w₀.conversations.Sound)
    (hfind : .findActive ∉ (w₀.occur (.turn bot event)).failures)
    (hend : .endConversation ∉ (w₀.occur (.turn bot event)).failures)
    (h : (w₀.occur (.turn bot event)).JustMoved w₀ bot c b p) :
    c.Prompts bot.blocks b p ∧ c.context.attempt = 0 ∧ b ∈ bot.blocks.blocks := by
  obtain ⟨x, hx, hfallback⟩ := h.said
  cases fate_turn hsound hfind hend h.stored h.active with
  | aside _ hsaid =>
    rw [hsaid] at hx
    cases hx
  | asked _ hagain =>
    rw [hagain x hx] at hfallback
    cases hfallback
  | moved _ _ hblock hattempt =>
    obtain ⟨b', hmem, hcurrent, hnext⟩ := hblock
    obtain rfl : b = b' := Option.some.inj (h.current.symm.trans hcurrent)
    exact ⟨⟨hcurrent, hnext, h.policy, h.asks, h.texts, h.waits⟩, hattempt, hmem⟩

/-- **The budget of attempts.** After every history without failing calls to stores, on flows of
bounded blocks, the count of an active conversation is the number of turns in a row in which it only
asked again. And if a turn has just moved it on to a block that asks again up to a bound `m`, and
its subscriber's turns from then on are on the same flow, no candidate answers in them and no
message fails to be sent, then after each number of them up to `m + 1` it stands where it stood,
with nothing else captured. Another such turn only sends a text of the policy if there were up to
`m` before it; after `m + 1` it ends the conversation without an error and asks no more. -/
theorem fallback_budget {channels : Channel.Registry} {history : List Occurrence} {w : World}
    (hw : (fresh channels).after history = w) (hbounded : ∀ o ∈ history, o.Bounded)
    (hstores : ∀ call ∈ w.failures, call = .send) :
    (∀ id c, w.conversations.find? id = some c → c.active = true →
      c.context.attempt.toNat = (fresh channels).streak history id) ∧
    ∀ earlier bot event later w₀ w₁ c b p n, history = earlier ++ .turn bot event :: later →
      (fresh channels).after earlier = w₀ → w₀.occur (.turn bot event) = w₁ →
      w₁.JustMoved w₀ bot c b p →
      (∀ o ∈ later, o.Unanswered c.sender bot.blocks (bot.blocks.findMany b.nextBlocks)) →
      .send ∉ w.failedSince w₁ →
      later.countP (·.isTurnOf c.sender) = n → n ≤ p.maxAttempts.toNat + 1 →
      (∃ c', w.conversations.find? c.id = some c' ∧ c'.AskedAgain c n) ∧
      ∀ (bot' : Bot) (event' : Event) (s : Subscriber) r w', event'.sender = some s →
        s.id = c.sender →
        bot'.blocks = bot.blocks →
        event'.matchBlock? (bot.blocks.findMany b.nextBlocks) = none →
        bot'.handle event' w = (r, w') → w'.failedSince w = [] →
        (n ≤ p.maxAttempts.toNat →
          r = .ok .conversation ∧ (∃ x, w'.sentSince w = [x] ∧ x.Asks bot' s c p) ∧
          ∃ c', w'.conversations.find? c.id = some c' ∧ c'.AskedAgain c (n + 1)) ∧
        (n = p.maxAttempts.toNat + 1 → ∃ c', c'.id = c.id ∧ w'.Left w c') := by
  have hseen : ∀ call ≠ .send, call ∉ w.failures := fun call hne hm => hne (hstores call hm)
  refine ⟨fun id c hc hactive => ?_, ?_⟩
  · subst hw
    exact (attempt_eq_streak channels history hbounded (hseen _ (by decide)) (hseen _ (by decide))
      id c hc hactive).1
  rintro earlier bot event later w₀ w₁ c b p n rfl rfl rfl hmoved hunanswered hsend rfl hn
  have hsound₀ := sound_after channels earlier
  have hsound : w.conversations.Sound := hw ▸ sound_after channels _
  rw [after_append] at hw
  generalize (fresh channels).after earlier = w₀ at *
  obtain rfl : (w₀.occur (.turn bot event)).after later = w := hw
  have hgrows := (w₀.occur (.turn bot event)).grows_after later
  obtain ⟨hprompts, hzero, hmem⟩ := hmoved.prompts hsound₀
    (fun hm => hseen .findActive (by decide) (hgrows.failures.subset hm))
    (fun hm => hseen .endConversation (by decide) (hgrows.failures.subset hm))
  have hbound : p.Bounded :=
    hbounded _ (List.mem_append_right _ List.mem_cons_self) b hmem p hprompts.policy
  -- only messages could have failed to be sent since then, and none did
  have hfailures := hgrows.failures_eq fun call hcall =>
    hsend (hstores call (List.mem_of_mem_drop hcall) ▸ hcall)
  obtain ⟨c', hc', hagain⟩ := askedAgain_after (w₀.sound_occur (.turn bot event) hsound₀) hprompts
    hbound hmoved.stored hmoved.active hzero later hunanswered hfailures hn
  refine ⟨⟨c', hc', hagain⟩, fun bot' event' s r w' hs hid hblocks hmatch hrun hfailed =>
    ⟨fun hle => ?_, fun heq => ?_⟩⟩
  · exact handle_askedAgain hsound hprompts hbound hc' hagain hle hs hid hblocks hmatch hrun hfailed
  · exact ⟨c', hagain.id, handle_left hsound hprompts hc' hagain (by omega) hs hid hblocks hmatch
      hrun hfailed⟩

/-- With a bound of one, the second text that does not fit is still answered by asking again, and
the third ends the conversation. -/
theorem fallback_budget_pardon :
    ∃ c, c.id = "conv-1" ∧
      (∃ x, (Sample.bot.handle (Sample.saying "hi") (Sample.world ["hi", "hi"])).2.sentSince
        (Sample.world ["hi", "hi"]) = [x] ∧ x.Asks Sample.bot Sample.ann c ⟨true, 1, ["Pardon?"]⟩) ∧
      ∃ c', c'.id = "conv-1" ∧
        (Sample.bot.handle (Sample.saying "hi") (Sample.world ["hi", "hi", "hi"])).2.Left
          (Sample.world ["hi", "hi", "hi"]) c' := by
  have hseen : ((Sample.world ["hi"]).conversations.active? "sub-1").map
      (fun c => (c.id, c.sender, c.active, c.current)) =
        some ("conv-1", "sub-1", true, some Sample.hello) := by decide +kernel
  obtain ⟨c, hc, hfields⟩ := Option.map_eq_some_iff.mp hseen
  obtain ⟨hid, hsender, hactive, hcurrent⟩ : c.id = "conv-1" ∧ c.sender = "sub-1" ∧
      c.active = true ∧ c.current = some Sample.hello := by simpa using hfields
  have hstored := (sound_after Sample.channels (Sample.history ["hi"])).find?_of_active? hc
  have hsaid : ∃ x ∈ (Sample.world ["hi"]).saidSince (Sample.world []) c.id,
      x.fallback = false := by
    rw [hid]
    decide +kernel
  have hmoved : (Sample.world ["hi"]).JustMoved (Sample.world []) Sample.bot c Sample.hello
      ⟨true, 1, ["Pardon?"]⟩ :=
    ⟨hstored.1, hactive, hsaid, hcurrent, rfl, rfl, by decide, by decide +kernel⟩
  have hmatch : (Sample.saying "hi").matchBlock?
      (Sample.bot.blocks.findMany Sample.hello.nextBlocks) = none := by decide +kernel
  have hunanswered : ∀ o ∈ (["hi", "hi"].map fun t => Occurrence.turn Sample.bot (Sample.saying t)),
      o.Unanswered c.sender Sample.bot.blocks
        (Sample.bot.blocks.findMany Sample.hello.nextBlocks) := by
    intro o ho
    obtain ⟨t, ht, rfl⟩ := List.mem_map.mp ho
    obtain rfl : t = "hi" := by simpa using ht
    exact fun _ _ _ => ⟨rfl, hmatch⟩
  have hturn : Occurrence.isTurnOf c.sender (.turn Sample.bot (Sample.saying "hi")) = true := by
    rw [hsender]
    rfl
  have hasks := (fallback_budget (w := Sample.world ["hi", "hi"]) rfl
    (Sample.bounded_history _) (by decide +kernel)).2 _ Sample.bot (Sample.saying "hi")
    [.turn Sample.bot (Sample.saying "hi")] (Sample.world []) (Sample.world ["hi"]) c Sample.hello
    ⟨true, 1, ["Pardon?"]⟩ 1 rfl rfl rfl hmoved
    (fun o ho => hunanswered o (List.mem_cons_of_mem _ ho)) (by decide +kernel)
    (by simp [hturn]) (by decide)
  have hends := (fallback_budget (w := Sample.world ["hi", "hi", "hi"]) rfl
    (Sample.bounded_history _) (by decide +kernel)).2 _ Sample.bot (Sample.saying "hi")
    [.turn Sample.bot (Sample.saying "hi"), .turn Sample.bot (Sample.saying "hi")]
    (Sample.world []) (Sample.world ["hi"]) c Sample.hello ⟨true, 1, ["Pardon?"]⟩ 2 rfl rfl rfl
    hmoved hunanswered (by decide +kernel) (by simp [hturn]) (by decide)
  obtain ⟨-, hasked, -⟩ := (hasks.2 Sample.bot (Sample.saying "hi") Sample.ann _ _ rfl hsender.symm
    rfl hmatch (Prod.eta _).symm (by decide +kernel)).1 (by decide)
  obtain ⟨c', hid', hleft⟩ := (hends.2 Sample.bot (Sample.saying "hi") Sample.ann _ _ rfl
    hsender.symm rfl hmatch (Prod.eta _).symm (by decide +kernel)).2 (by decide)
  exact ⟨c, hid, hasked, c', hid'.trans hid, hleft⟩

end World

end Chatflow

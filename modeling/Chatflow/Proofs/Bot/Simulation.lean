import Chatflow.Proofs.Bot.Steps

/-!
# Turns are paths

`Bot.handle` goes along a path of transitions: `Bot.path_handle`. A turn is cut in two at the place
where it starts a conversation, if it comes to that: `Bot.untilStart` is what is done before, and
`Bot.handle_eq` puts the two parts together.
-/

namespace Chatflow

namespace Bot

variable {bot : Bot} {e : Event} {s : Subscriber} {b : Block} {c : Conversation}

/-! ### Continuing a conversation -/

theorem findNext_cases (w : World) :
    (∃ err, bot.findNext e c w = (.error err, w.refused .findBlocks)) ∨
      bot.findNext e c w =
        (.ok (e.matchBlock? (bot.blocks.findMany c.nextIds)), w.counted .findBlocks) := by
  refine (bot.findBlocks_cases w c.nextIds).imp ?_ ?_
  · rintro ⟨err, h⟩
    exact ⟨err, run_bind_error h⟩
  · intro h
    exact run_bind_ok h

theorem answer_apply (w : World) :
    bot.answer e c w =
      match bot.findNext e c w with
      | (.error err, w') => (.error err, (bot.finish c (some err.message) w').2)
      | (.ok (some found), w') => (bot.proceed e found.block false c w').map .ok id
      | (.ok none, w') =>
        match if c.asksAgain then c.askingBlock? else none with
        | some b => (bot.proceed e b true c w').map .ok id
        | none => (.ok false, (bot.finish c none w').2) := by
  have hlift : (ExceptT.lift (bot.findNext e c).run : Attempt _) w =
      (.ok (bot.findNext e c w).1, (bot.findNext e c w).2) := rfl
  rw [answer, run_bind_ok hlift]
  rcases bot.findNext e c w with ⟨err | _ | found, w'⟩
  · rfl
  · cases (if c.asksAgain then c.askingBlock? else none) <;> rfl
  · rfl

/-- The exits of a turn that was to answer within a conversation. -/
inductive Answered : Except BotError Bool → Exit → Prop where
  /-- What may answer could not be read. -/
  | failed (err : BotError) : Answered (.error err) (.finished (.error err))
  /-- The conversation is over. -/
  | no : Answered (.ok false) .free
  /-- The conversation went on. -/
  | yes {m : Move} (hm : m.outcome = .conversation)
      (hc : m.credits = [.count .existingConversations]) : Answered (.ok true) (.done m)

theorem path_answer (hs : e.sender = some s) (w : World) :
    ∃ x, Answered (bot.answer e c w).1 x ∧
      bot.Path e s (.found c, w) (.exit x, (bot.answer e c w).2) := by
  have hdone : ∀ (m : Move) (ok : Bool), m.outcome = .conversation →
      m.credits = [.count .existingConversations] →
      Answered (.ok ok) (if ok then .done m else .free) := by
    intro m ok hm hc
    cases ok
    · exact .no
    · exact .yes hm hc
  rw [answer_apply]
  obtain ⟨err, h⟩ | h := bot.findNext_cases (e := e) (c := c) w
  · rw [h]
    exact ⟨_, .failed err, .head (.unloaded err) (path_finish c _ _ _)⟩
  rw [h]
  cases hmatch : e.matchBlock? (bot.blocks.findMany c.nextIds) with
  | some found =>
    exact ⟨_, hdone .answer _ rfl rfl, .head (.answered hmatch)
      (path_proceed (m := .answer) hs rfl (fun _ => rfl) _)⟩
  | none =>
    cases hasks : c.asksAgain with
    | false => exact ⟨_, .no, .head (.unanswered hmatch hasks) (path_finish c _ _ _)⟩
    | true =>
      simp only [if_true]
      cases hb : c.askingBlock? with
      | some b =>
        exact ⟨_, hdone .again _ rfl rfl, .head (.asked _ hmatch hasks hb)
          (path_proceed (m := .again) hs rfl (fun _ => rfl) _)⟩
      | none =>
        -- a conversation that asks again stands at a block
        rw [Conversation.askingBlock?, Option.map_eq_none_iff] at hb
        simp [Conversation.asksAgain, hb] at hasks

theorem continueActive_apply (hs : e.sender = some s) (w : World) :
    bot.continueActive e w =
      match bot.findActive s.id w with
      | (.error err, w') => (.error err, w')
      | (.ok none, w') => (.ok false, w')
      | (.ok (some c), w') =>
        match bot.answer e c w' with
        | (.error err, w') => (.error err, w')
        | (.ok false, w') => (.ok false, w')
        | (.ok true, w') => (.ok true, w'.emitted [.count .existingConversations]) := by
  rw [continueActive, run_bind_ok (run_requireSender hs w), run_bind]
  rcases bot.findActive s.id w with ⟨err | _ | c, w'⟩
  · rfl
  · rfl
  · simp only [run_bind]
    rcases bot.answer e c w' with ⟨err | _ | _, w'⟩ <;> rfl

theorem path_continueActive (hs : e.sender = some s) (w : World) :
    ∃ x, bot.Path e s (.waiting, w) (.exit x, (bot.continueActive e w).2) ∧
      ((∃ err, (bot.continueActive e w).1 = .error err ∧ x = .finished (.error err)) ∨
        ((bot.continueActive e w).1 = .ok true ∧ x = .finished (.ok .conversation)) ∨
          ((bot.continueActive e w).1 = .ok false ∧ x = .free)) := by
  rw [continueActive_apply hs]
  obtain ⟨err, h⟩ | h := bot.findActive_cases w s.id
  · rw [h]
    exact ⟨_, .single (.unfound err), .inl ⟨err, rfl, rfl⟩⟩
  rw [h]
  cases hactive : w.conversations.active? s.id with
  | none => exact ⟨_, .single (.absent hactive), .inr (.inr ⟨rfl, rfl⟩)⟩
  | some c =>
    obtain ⟨x, hanswered, hpath⟩ := bot.path_answer (c := c) hs (w.counted .findActive)
    have hpath := Path.head (.found hactive) hpath
    dsimp only
    generalize bot.answer e c (w.counted .findActive) = run at hanswered hpath
    obtain ⟨r, w'⟩ := run
    cases hanswered with
    | failed err => exact ⟨_, hpath, .inl ⟨err, rfl, rfl⟩⟩
    | no => exact ⟨_, hpath, .inr (.inr ⟨rfl, rfl⟩)⟩
    | @yes m hm hc =>
      -- the move is credited as that of an ongoing conversation
      have hcredited : bot.Moves e s (.exit (.done m), w')
          (.exit (.finished (.ok m.outcome)), w'.emitted m.credits) := .credited
      rw [hm, hc] at hcredited
      exact ⟨_, hpath.trans (.single hcredited), .inr (.inl ⟨rfl, rfl⟩)⟩

/-! ### Turns -/

/-- What a turn comes to before it starts a conversation. -/
inductive Verdict where
  /-- It starts none. -/
  | settled (o : Outcome)
  /-- It is to start one at a block. -/
  | starts (b : Block) (o : Outcome)
  deriving DecidableEq

/-- The fallback of the settings, up to the start of a conversation. -/
def fallBackUntilStart (bot : Bot) (event : Event) : Attempt Verdict := do
  if !bot.settings.globalFallback then return .settled .unhandled
  let sender ← event.requireSender
  emit (.globalFallback sender.id)
  match bot.settings.fallbackBlock with
  | none => return .settled (← bot.sayFallback event)
  | some id =>
    match ← bot.findBlock id with
    | none => return .settled (← bot.sayFallback event)
    | some block => return .starts block (.fallbackBlock block.name)

/-- A turn up to the start of a conversation. -/
def untilStart (bot : Bot) (event : Event) : Attempt Verdict := do
  let _ ← event.requireSender
  let event := event.detectLanguage bot.settings.languages
  if ← bot.continueActive event then return .settled .conversation
  let starting ← bot.findStarting
  match event.matchBlock? starting with
  | some found => return .starts found.block (.started found.block.name)
  | none => bot.fallBackUntilStart event

/-- The rest of a turn. -/
def conclude (bot : Bot) (event : Event) : Verdict → Attempt Outcome
  | .settled o => return o
  | .starts block o => do
    bot.start event block
    return o

theorem fallBack_eq (event : Event) :
    bot.fallBack event = bot.fallBackUntilStart event >>= bot.conclude event := by
  rw [fallBack, fallBackUntilStart]
  split
  · simp [conclude]
  · simp only [bind_assoc]
    refine bind_congr fun sender => bind_congr fun _ => ?_
    cases bot.settings.fallbackBlock with
    | none => simp [conclude]
    | some id =>
      simp only [bind_assoc]
      refine bind_congr fun found => ?_
      cases found with
      | none => simp [conclude]
      | some block => simp [conclude]

/-- **A turn is what it does before it starts a conversation, and the start.** -/
theorem handle_eq (event : Event) :
    bot.handle event =
      bot.untilStart event >>= bot.conclude (event.detectLanguage bot.settings.languages) := by
  rw [handle, untilStart]
  simp only [bind_assoc]
  refine bind_congr fun _ => bind_congr fun continued => ?_
  cases continued with
  | true => simp [conclude]
  | false =>
    simp only [Bool.false_eq_true, if_false, bind_assoc]
    refine bind_congr fun starting => ?_
    cases (event.detectLanguage bot.settings.languages).matchBlock? starting with
    | none => exact fallBack_eq _
    | some found => simp [conclude]

theorem path_sayFallback (hs : e.sender = some s) (w : World) :
    (∃ err w', bot.sayFallback e w = (.error err, w') ∧
        bot.Path e s (.voicing, w) (.exit (.finished (.error err)), w')) ∨
      ∃ o w', bot.sayFallback e w = (.ok o, w') ∧
        bot.Path e s (.voicing, w) (.exit (.finished (.ok o)), w') := by
  rw [sayFallback]
  cases hempty : bot.settings.fallbackMessages.isEmpty with
  | true => exact .inr ⟨_, _, rfl, .single (.mute (List.isEmpty_iff.mp hempty))⟩
  | false =>
    have hm : bot.settings.fallbackMessages ≠ [] := fun hnil => by simp [hnil] at hempty
    rw [if_neg Bool.false_ne_true]
    have hcases := send_cases bot e s bot.fallbackMessageBlock .empty false none hs w
    generalize hrun : bot.send e bot.fallbackMessageBlock .empty false none w = run at hcases
    obtain ⟨err | mid, w'⟩ := run
    · exact .inl ⟨err, w', run_bind_error hrun, .single (.unvoiced hcases)⟩
    · exact .inr ⟨_, w', run_bind_ok hrun, .single (.voiced hm hcases)⟩

/-- The stages at which a turn has its verdict. -/
def Verdict.stage : Verdict → Stage
  | .settled o => .exit (.finished (.ok o))
  | .starts b o => .opening b o

/-- Where a turn is when it is over, or has its verdict. -/
def verdictStage : Except BotError Verdict → Stage
  | .ok v => v.stage
  | .error err => .exit (.finished (.error err))

theorem path_settle (hs : e.sender = some s) (w : World) :
    bot.Path e s (.voicing, w)
      (verdictStage ((bot.sayFallback e >>= fun o => Pure.pure (.settled o)) w).1,
        ((bot.sayFallback e >>= fun o => Pure.pure (.settled o) : Attempt Verdict) w).2) := by
  obtain ⟨err, w', h, hpath⟩ | ⟨o, w', h, hpath⟩ := bot.path_sayFallback hs w
  · rw [run_bind_error h]
    exact hpath
  · rw [run_bind_ok h]
    exact hpath

theorem path_fallBackUntilStart (hs : e.sender = some s) (w : World) :
    bot.Path e s (.unmatched, w)
      (verdictStage (bot.fallBackUntilStart e w).1, (bot.fallBackUntilStart e w).2) := by
  rw [fallBackUntilStart]
  cases hglobal : bot.settings.globalFallback with
  | false => exact .single (.silent hglobal)
  | true =>
    simp only [Bool.not_true, Bool.false_eq_true, if_false]
    rw [run_bind_ok (run_requireSender hs w)]
    refine .head (.fallen hglobal) ?_
    rw [run_lift_bind, emit_snd]
    generalize w.emitted [.globalFallback s.id] = w
    cases hblock : bot.settings.fallbackBlock with
    | none => exact .head (.plain hblock) (path_settle hs w)
    | some id =>
      dsimp only
      obtain ⟨err, h⟩ | h := bot.findBlock_cases w id
      · rw [run_bind_error h]
        exact .single (.unsought err)
      · rw [run_bind_ok h]
        cases hf : bot.blocks.find? id with
        | none => exact .head (.lost hblock hf) (path_settle hs _)
        | some b => exact .single (.sought hblock hf)

/-- What is known of the sender, the language apart, does not change. -/
theorem exists_sender_detectLanguage (event : Event) (languages : List String)
    (hs : event.sender = some s) :
    ∃ language, (event.detectLanguage languages).sender = some { s with language := language } := by
  rw [Event.detectLanguage]
  split
  · rename_i language _
    exact ⟨some language, by simp [hs]⟩
  · exact ⟨s.language, hs⟩

theorem sender_detectLanguage (event : Event) (languages : List String)
    (hs : event.sender = some s) :
    ∃ s', (event.detectLanguage languages).sender = some s' ∧ s'.id = s.id ∧
      s'.foreignId = s.foreignId ∧ s'.vars = s.vars := by
  obtain ⟨language, h⟩ := exists_sender_detectLanguage event languages hs
  exact ⟨_, h, rfl, rfl, rfl⟩

theorem channel_detectLanguage (event : Event) (languages : List String) :
    (event.detectLanguage languages).channel = event.channel := by
  rw [Event.detectLanguage]
  split <;> rfl

section

variable {event : Event} (hs : (event.detectLanguage bot.settings.languages).sender = some s)

include hs

/-- What a turn does before it starts a conversation begins with what continues one. -/
theorem untilStart_apply (w : World) :
    bot.untilStart event w =
      (bot.continueActive (event.detectLanguage bot.settings.languages) >>= fun continued =>
        if continued then pure (.settled .conversation)
        else bot.findStarting >>= fun starting =>
          match (event.detectLanguage bot.settings.languages).matchBlock? starting with
          | some found => pure (.starts found.block (.started found.block.name))
          | none => bot.fallBackUntilStart (event.detectLanguage bot.settings.languages)) w := by
  -- an event has a sender if it has one once its language is detected
  obtain ⟨s', hs'⟩ : ∃ s', event.sender = some s' := by
    rw [Event.detectLanguage] at hs
    split at hs
    · exact Option.map_eq_some_iff.mp hs |>.imp fun _ h => h.1
    · exact ⟨s, hs⟩
  rw [untilStart, run_bind_ok (run_requireSender hs' w)]

/-- A turn fails if it fails to continue a conversation. -/
theorem handle_of_failed {w w' : World} {err : BotError}
    (hrun : bot.continueActive (event.detectLanguage bot.settings.languages) w =
      (.error err, w')) : bot.handle event w = (.error err, w') := by
  rw [handle_eq, run_bind_error]
  rw [untilStart_apply hs, run_bind_error hrun]

/-- A turn is over when it has continued a conversation. -/
theorem handle_of_continued {w w' : World}
    (hrun : bot.continueActive (event.detectLanguage bot.settings.languages) w =
      (.ok true, w')) : bot.handle event w = (.ok .conversation, w') := by
  have hsettled : bot.untilStart event w = (.ok (.settled .conversation), w') := by
    rw [untilStart_apply hs, run_bind_ok hrun]
    rfl
  rw [handle_eq, run_bind_ok hsettled]
  rfl

/-- A turn fails if it cannot create the conversation that it is to start. -/
theorem handle_of_uncreated {w w' w'' : World} {o : Outcome} {err : BotError}
    (hrun : bot.untilStart event w = (.ok (.starts b o), w'))
    (hcreate : bot.createConversation s.id (w'.emitted [.entry .popular b.name]) =
      (.error err, w'')) : bot.handle event w = (.error err, w'') := by
  have hstart : bot.start (event.detectLanguage bot.settings.languages) b w' =
      (.error err, w'') := by
    rw [start_apply hs, hcreate]
  rw [handle_eq, run_bind_ok hrun, conclude, run_bind_error hstart]

/-- Where no conversation answers, a turn goes on to its verdict. -/
theorem path_untilStart_of_free {w w' : World}
    (hrun : bot.continueActive (event.detectLanguage bot.settings.languages) w =
      (.ok false, w')) :
    bot.Path (event.detectLanguage bot.settings.languages) s (.exit .free, w')
      (verdictStage (bot.untilStart event w).1, (bot.untilStart event w).2) := by
  rw [untilStart_apply hs, run_bind_ok hrun]
  generalize event.detectLanguage bot.settings.languages = e at hs
  simp only [Bool.false_eq_true, if_false]
  obtain ⟨err, h⟩ | h := bot.findStarting_cases w'
  · rw [run_bind_error h]
    exact .single (.unlisted err)
  · rw [run_bind_ok h]
    cases hmatch : e.matchBlock? bot.blocks.starting with
    | some found => exact .single (.matched hmatch)
    | none => exact .head (.unmatched hmatch) (path_fallBackUntilStart hs _)

/-- **A turn has its verdict at the end of a path.** -/
theorem path_untilStart (w : World) :
    bot.Path (event.detectLanguage bot.settings.languages) s (.waiting, w)
      (verdictStage (bot.untilStart event w).1, (bot.untilStart event w).2) := by
  obtain ⟨x, hpath, hx⟩ := bot.path_continueActive hs w
  generalize hrun : bot.continueActive (event.detectLanguage bot.settings.languages) w = run
    at hpath hx
  obtain ⟨r, w'⟩ := run
  obtain ⟨err, rfl, rfl⟩ | ⟨rfl, rfl⟩ | ⟨rfl, rfl⟩ := hx
  · rw [untilStart_apply hs, run_bind_error hrun]
    exact hpath
  · rw [untilStart_apply hs, run_bind_ok hrun]
    exact hpath
  · exact hpath.trans (path_untilStart_of_free hs hrun)

/-- A path to the verdict of a turn goes on to where the turn is over. -/
theorem path_conclude {p : Stage × World} {w : World}
    (hpath : bot.Path (event.detectLanguage bot.settings.languages) s p
      (verdictStage (bot.untilStart event w).1, (bot.untilStart event w).2)) :
    bot.Path (event.detectLanguage bot.settings.languages) s p
      (.exit (.finished (bot.handle event w).1), (bot.handle event w).2) := by
  rw [handle_eq]
  generalize hrun : bot.untilStart event w = run at hpath
  obtain ⟨err | v, w'⟩ := run
  · rw [run_bind_error hrun]
    exact hpath
  rw [run_bind_ok hrun]
  refine hpath.trans ?_
  cases v with
  | settled o => exact .refl _
  | starts b o =>
    -- a start is credited by itself: nothing more is reported
    rw [conclude]
    obtain ⟨w'', h, hpath'⟩ | ⟨err, w'', h, hpath'⟩ :=
      bot.path_start (b := b) hs o w'
    · rw [run_bind_ok h]
      have hcredited : bot.Moves (event.detectLanguage bot.settings.languages) s
          (.exit (.done (.start o)), w'') (.exit (.finished (.ok o)), w''.emitted []) := .credited
      rw [World.emitted_nil] at hcredited
      exact hpath'.trans (.single hcredited)
    · rw [run_bind_error h]
      exact hpath'

/-- **A turn is a path**, from where nothing was looked up to where the turn is over. -/
theorem path_handle (w : World) :
    bot.Path (event.detectLanguage bot.settings.languages) s (.waiting, w)
      (.exit (.finished (bot.handle event w).1), (bot.handle event w).2) :=
  path_conclude hs (path_untilStart hs w)

/-- Where no conversation answers, a turn goes on to where it is over. -/
theorem path_handle_of_free {w w' : World}
    (hrun : bot.continueActive (event.detectLanguage bot.settings.languages) w =
      (.ok false, w')) :
    bot.Path (event.detectLanguage bot.settings.languages) s (.exit .free, w')
      (.exit (.finished (bot.handle event w).1), (bot.handle event w).2) :=
  path_conclude hs (path_untilStart_of_free hs hrun)

end

end Bot

end Chatflow

import Chatflow.Proofs.Bot.Moments
import Chatflow.Proofs.Telemetry.Accounts

/-!
# Reports on how turns go

Two reports are about a turn as a whole: that a conversation went on, and that no block answered.
What a transition says of the two is known from the stages it leads from and to
(`Bot.Moves.remarks`).

A conversation that goes on is credited in the last transition of its turn, which needs that no
start is taken for one (`Stage.isFair`). That no block answered is reported at the one place where a
turn may fall back: what is before it and what is after it say nothing of the kind (`Stage.isPast`,
`Stage.isSettled`), and a turn comes there as `Bot.fallsBack` says.
-/

namespace Chatflow

/-! ### How turns go -/

namespace Telemetry.Event

/-- Whether a conversation went on. -/
def isContinuation (e : Event) : Bool := e.isEntry .existingConversations

/-- Whether an event says how a turn went: a conversation went on, or no block answered. -/
def isRemark (e : Event) : Bool := e.isContinuation || e.isGlobalFallback

end Telemetry.Event

namespace World

variable {w w' : World}

/-- What was reported on how turns went. -/
def remarks (w : World) : List Telemetry.Event := w.telemetry.filter Telemetry.Event.isRemark

theorem remarks_emitted (w : World) (es : List Telemetry.Event) :
    (w.emitted es).remarks = w.remarks ++ es.filter Telemetry.Event.isRemark :=
  List.filter_append _ _

/-- How often it was reported that a conversation went on. -/
def continuations (w : World) : Nat := w.tally Telemetry.Event.isContinuation

/-- How often it was reported that no block answered. -/
def fallbacks (w : World) : Nat := w.tally Telemetry.Event.isGlobalFallback

/-- Reports on how turns went are found among the remarks. -/
theorem tally_eq_countP_remarks {f : Telemetry.Event → Bool}
    (hf : ∀ e, f e = true → e.isRemark = true) (w : World) : w.tally f = w.remarks.countP f := by
  rw [tally, remarks, List.countP_filter]
  refine List.countP_congr fun e _ => ?_
  rw [Bool.and_eq_true, iff_self_and]
  exact hf e

theorem continuations_eq (w : World) :
    w.continuations = w.remarks.countP Telemetry.Event.isContinuation :=
  tally_eq_countP_remarks (fun e he => by rw [Telemetry.Event.isRemark, he, Bool.true_or]) w

theorem fallbacks_eq (w : World) :
    w.fallbacks = w.remarks.countP Telemetry.Event.isGlobalFallback :=
  tally_eq_countP_remarks (fun e he => by rw [Telemetry.Event.isRemark, he, Bool.or_true]) w

end World

/-- What is reported between two stages on how the turn goes. -/
def Stage.remarks (s : Subscriber) : Stage → Stage → List Telemetry.Event
  | .exit (.done m), .exit (.finished _) => m.credits
  | .unmatched, .falling => [.globalFallback s.id]
  | _, _ => []

namespace Bot

variable {bot : Bot} {e : Event} {s : Subscriber} {p q : Stage × World} {w w' : World}

/-- To send a message says nothing on how the turn goes. -/
theorem Sends.remarks_eq {b : Block} {c : Context} {fallback : Bool} {conversation : Option String}
    {r : Except BotError String} (h : Sends bot e s b c fallback conversation w r w') :
    w'.remarks = w.remarks := by
  have hheard : ∀ {x : Sent} {mid : String} {w₁ : World}, Heard x (reports mid s x) w w₁ →
      w₁.remarks = w.remarks := by
    intro x mid w₁ hheard
    rw [World.remarks, hheard.telemetry, List.filter_append]
    exact List.append_nil _
  cases h with
  | unrendered _ hquiet | undelivered hquiet _ =>
    rw [World.remarks, hquiet.telemetry, World.remarks]
  | unapplied _ h | applied _ h _ =>
    have hsame := hheard h
    exact hsame

/-- **What a transition reports on how the turn goes** is known from the stages it leads from and
to. -/
theorem Moves.remarks (h : bot.Moves e s p q) :
    q.2.remarks = p.2.remarks ++ Stage.remarks s p.1 q.1 := by
  have hsilent : ∀ {w : World} {es : List Telemetry.Event},
      es.filter Telemetry.Event.isRemark = [] → (w.emitted es).remarks = w.remarks ++ [] :=
    fun hes => by rw [World.remarks_emitted, hes]
  cases h with
  | said hsends | unsaid hsends | voiced _ hsends | unvoiced hsends =>
    exact hsends.remarks_eq.trans (List.append_nil _).symm
  | @entered _ m => exact hsilent (by cases m <;> rfl)
  | @credited w m =>
    have hcredits : m.credits.filter Telemetry.Event.isRemark = m.credits := by cases m <;> rfl
    rw [World.remarks_emitted, hcredits]
    rfl
  | fallen => exact World.remarks_emitted _ _
  | ended | unended | unopened => exact hsilent rfl
  | @opened w b =>
    have hvisited : (w.emitted [.entry .popular b.name]).remarks = w.remarks ++ [] := hsilent rfl
    exact (hsilent rfl).trans ((List.append_nil _).trans hvisited)
  | _ => exact (List.append_nil _).symm

end Bot

/-! ### Conversations that go on -/

/-- Whether a move is credited exactly if its outcome is that the conversation went on. -/
def Move.isFair : Move → Bool
  | .answer | .again => true
  | .start o => o ≠ .conversation

/-- Whether the move at a stage is credited fairly, and no turn ends as if a conversation went on
that was not. -/
def Stage.isFair : Stage → Bool
  | .entering m _ _ | .storing m _ _ | .entered m _ _ | .sending m _ _ _ | .sent m _ _ _
  | .standing m _ | .ending _ _ (.done m) | .exit (.done m) => m.isFair
  | .ending _ _ (.finished (.ok _)) => false
  | .opening _ o => (Move.start o).isFair
  | _ => true

/-- Whether a turn is over and the conversation went on. -/
def Stage.isContinued : Stage → Bool
  | .exit (.finished (.ok .conversation)) => true
  | _ => false

namespace Bot

variable {bot : Bot} {e : Event} {s : Subscriber} {p q : Stage × World} {w w' : World}

/-- **A conversation that goes on is credited at the end of its turn**, and nothing else is. -/
theorem Moves.continued (h : bot.Moves e s p q) (hp : p.1.isFair = true) :
    p.1.isContinued = false ∧ q.1.isFair = true ∧
      (Stage.remarks s p.1 q.1).countP Telemetry.Event.isContinuation =
        if q.1.isContinued then 1 else 0 := by
  have hfailed : ∀ (m : Move) (err : BotError) (c : Conversation),
      (Stage.failed m err c).isFair = true := fun m err c => by cases m <;> rfl
  cases h with
  | unkept | unstored | unsaid | unread | unstood => exact ⟨rfl, hfailed _ _ _, rfl⟩
  | bare | kept | stored | entered | said | read | last | unlinked | missing | cycle | linked |
      stood | opened => exact ⟨rfl, hp, rfl⟩
  | @ended _ _ _ x | @unended _ _ _ x =>
    cases x with
    | free => exact ⟨rfl, rfl, rfl⟩
    | done m => exact ⟨rfl, hp, rfl⟩
    | finished r =>
      cases r with
      | error err => exact ⟨rfl, rfl, rfl⟩
      | ok o => cases hp
  | @credited _ m =>
    refine ⟨rfl, rfl, ?_⟩
    cases m with
    | answer | again => rfl
    | start o =>
      cases o with
      | conversation => cases hp
      | _ => rfl
  | _ => exact ⟨rfl, rfl, rfl⟩

/-- The conversations that go on, on the way of a turn. -/
theorem Path.continuations (h : bot.Path e s p q) (hp : p.1 = .waiting) :
    q.2.continuations =
      p.2.continuations + if q.1.isContinued then 1 else 0 := by
  rw [World.continuations_eq, World.continuations_eq]
  refine (h.preserves (I := fun r => r.1.isFair = true ∧
    r.2.remarks.countP Telemetry.Event.isContinuation =
      p.2.remarks.countP Telemetry.Event.isContinuation + if r.1.isContinued then 1 else 0)
    ?_ ?_).2
  · rintro r r' hmove ⟨hr, htally⟩
    obtain ⟨hbefore, hr', hremarks⟩ := hmove.continued hr
    refine ⟨hr', ?_⟩
    rw [hmove.remarks, List.countP_append, htally, hbefore, hremarks]
    rfl
  · rw [hp]
    exact ⟨rfl, rfl⟩

end Bot

/-! ### Falling back -/

/-- Whether a turn falls back between two stages. -/
def Stage.fallsBetween : Stage × Stage → Bool
  | (.unmatched, .falling) => true
  | _ => false

/-- Whether a turn is past the place where it may fall back. -/
def Stage.isSettled : Stage → Bool
  | .exit .free | .unmatched => false
  | st => st.isPast

namespace Bot

variable {bot : Bot} {e : Event} {s : Subscriber} {p q : Stage × World} {w w' : World}

theorem Moves.fallbacks (h : bot.Moves e s p q) :
    q.2.fallbacks = p.2.fallbacks +
      if Stage.fallsBetween (p.1, q.1) then 1 else 0 := by
  rw [World.fallbacks_eq, World.fallbacks_eq, h.remarks, List.countP_append]
  congr 1
  cases h with
  | @credited _ m => cases m <;> rfl
  | _ => rfl

/-- The times a turn fell back on its way. -/
theorem Trail.fallbacks {steps : List (Stage × Stage)} (h : bot.Trail e s p steps q) :
    q.2.fallbacks =
      p.2.fallbacks + steps.countP Stage.fallsBetween := by
  induction h with
  | refl => rfl
  | tail _ hmove ih =>
    rw [hmove.fallbacks, ih, List.countP_append, List.countP_singleton, Nat.add_assoc]

/-- A turn that is settled stays so, and does not fall back. -/
theorem Moves.isSettled (h : bot.Moves e s p q) (hp : p.1.isSettled = true) :
    q.1.isSettled = true ∧ Stage.fallsBetween (p.1, q.1) = false := by
  have hpast : p.1.isPast = true → q.1.isPast = true := h.isPast
  cases h with
  | unfound | absent | found | unloaded | answered | asked | unanswered | unlisted | matched |
      unmatched | silent | fallen => cases hp
  | @ended _ _ _ x | @unended _ _ _ x =>
    cases x with
    | free => cases hp
    | done m => exact ⟨hp, rfl⟩
    | finished r =>
      cases r with
      | error err => exact ⟨rfl, rfl⟩
      | ok o => cases hp
  | _ => exact ⟨hpast hp, rfl⟩

/-- A turn falls back once at most. -/
theorem Trail.countP_fallsBetween {steps : List (Stage × Stage)} (h : bot.Trail e s p steps q) :
    steps.countP Stage.fallsBetween = if steps.any Stage.fallsBetween then 1 else 0 := by
  -- once it has fallen back it is settled
  have honce : steps.countP Stage.fallsBetween = 0 ∨
      steps.countP Stage.fallsBetween = 1 ∧ q.1.isSettled = true := by
    induction h with
    | refl => exact .inl rfl
    | @tail steps q r _ hmove ih =>
      rw [List.countP_append, List.countP_singleton]
      obtain hnone | ⟨hone, hsettled⟩ := ih
      · cases hfalls : Stage.fallsBetween (q.1, r.1) with
        | false => exact .inl hnone
        | true =>
          rw [hnone]
          refine .inr ⟨rfl, ?_⟩
          cases hmove with
          | fallen => rfl
          | _ => cases hfalls
      · obtain ⟨hsettled', hfalls⟩ := hmove.isSettled hsettled
        rw [hone, hfalls]
        exact .inr ⟨rfl, hsettled'⟩
  have hany : steps.any Stage.fallsBetween = true ↔ 0 < steps.countP Stage.fallsBetween := by
    rw [List.any_eq_true, List.countP_pos_iff]
  split
  · rename_i hfalls
    have hpos := hany.mp hfalls
    omega
  · rename_i hfalls
    have hzero := mt hany.mpr hfalls
    omega

theorem Path.fallbacks_of_isSettled (h : bot.Path e s p q) (hp : p.1.isSettled = true) :
    q.2.fallbacks = p.2.fallbacks := by
  refine (h.preserves (I := fun r => r.1.isSettled = true ∧
    r.2.fallbacks =
      p.2.fallbacks) ?_ ⟨hp, rfl⟩).2
  rintro r r' hmove ⟨hr, htally⟩
  obtain ⟨hr', hfalls⟩ := hmove.isSettled hr
  refine ⟨hr', ?_⟩
  rw [hmove.fallbacks, hfalls, htally]
  rfl

/-- A transition that does not lead past the active conversation, or leads to where one may be
started, leads away from a stage that is not past it. -/
theorem Moves.not_isPast (h : bot.Moves e s p q) (hq : q.1.isPast = false ∨ q.1 = .exit .free) :
    p.1.isPast = false := by
  obtain hq | hq := hq
  · exact Bool.eq_false_iff.mpr fun hp => Bool.eq_false_iff.mp hq (h.isPast hp)
  · cases h with
    | absent => rfl
    | ended | unended =>
      cases hq
      rfl
    | _ => cases hq

/-- A turn does not fall back before it comes to where a conversation may be started. -/
theorem Path.fallbacks_of_not_isPast (h : bot.Path e s p q)
    (hq : q.1.isPast = false ∨ q.1 = .exit .free) :
    q.2.fallbacks = p.2.fallbacks := by
  induction h with
  | refl => rfl
  | @tail r r' _ hmove ih =>
    have hr := hmove.not_isPast hq
    have hfalls : Stage.fallsBetween (r.1, r'.1) = false := by
      cases hmove with
      | fallen => cases hr
      | _ => rfl
    rw [hmove.fallbacks, hfalls, ih (.inl hr)]
    rfl

/-- Where no block starts a conversation, a turn falls back if the settings say so. -/
theorem Path.fallbacks_of_unmatched {x : Exit} (h : bot.Path e s (.unmatched, w) (.exit x, w')) :
    w'.fallbacks = w.fallbacks + if bot.settings.globalFallback then 1 else 0 := by
  obtain heq | ⟨r, hmove, hrest⟩ := Relation.ReflTransGen.cases_head h
  · cases heq
  · have hsettled : r.1.isSettled = true := by cases hmove <;> rfl
    rw [fallbacks_of_isSettled hrest hsettled, hmove.fallbacks]
    cases hmove with
    | silent hglobal | fallen hglobal =>
      rw [hglobal]
      rfl

/-- Where an answer is not given because the candidates cannot be read, the conversation ends. -/
theorem answer_eq_error {c : Conversation} {err : BotError}
    (h : bot.answer e c w = (.error err, w')) :
    w' = (bot.finish c (some err.message) (w.refused .findBlocks)).2 := by
  rw [answer_apply] at h
  obtain ⟨err', hnext⟩ | hnext := bot.findNext_cases (e := e) (c := c) w
  · rw [hnext] at h
    cases h
    rfl
  · rw [hnext] at h
    have hresult := congrArg Prod.fst h
    revert hresult
    cases e.matchBlock? (bot.blocks.findMany c.nextIds) with
    | some found => exact nofun
    | none => cases (if c.asksAgain then c.askingBlock? else none) <;> exact nofun

theorem fallbacks_answer (hs : e.sender = some s) (c : Conversation) (w : World) :
    (bot.answer e c w).2.fallbacks = w.fallbacks := by
  obtain ⟨x, hanswered, hpath⟩ := bot.path_answer (c := c) hs w
  generalize hrun : bot.answer e c w = run at hanswered hpath
  obtain ⟨r, w'⟩ := run
  cases hanswered with
  | failed err =>
    rw [answer_eq_error hrun]
    have hfinish : bot.Path e s (.ending c (some err.message) (.finished (.error err)), _)
        (.exit (.finished (.error err)), _) := path_finish c _ _ (w.refused .findBlocks)
    exact hfinish.fallbacks_of_isSettled rfl
  | no => exact hpath.fallbacks_of_not_isPast (.inr rfl)
  | @yes m hm hc =>
    refine hpath.fallbacks_of_not_isPast (.inl ?_)
    cases m with
    | answer | again => rfl
    | start o => cases hc

/-- To go on with a conversation is not to fall back. -/
theorem fallbacks_continueActive (hs : e.sender = some s) (w : World) :
    (bot.continueActive e w).2.fallbacks = w.fallbacks := by
  rw [continueActive_apply hs]
  obtain ⟨err, h⟩ | h := bot.findActive_cases w s.id
  · rw [h]
    rfl
  rw [h]
  cases w.conversations.active? s.id with
  | none => rfl
  | some c =>
    have hanswer := bot.fallbacks_answer hs c (w.counted .findActive)
    dsimp only
    generalize bot.answer e c (w.counted .findActive) = run at hanswer
    obtain ⟨err | _ | _, w'⟩ := run
    · exact hanswer
    · exact hanswer
    · exact (w'.tally_emitted _ _).trans hanswer

/-- Whether a turn comes to where it falls back: no conversation answers the event, no block starts
one, and the settings say so. -/
def fallsBack (bot : Bot) (event : Event) (w : World) : Bool :=
  match bot.continueActive (event.detectLanguage bot.settings.languages) w with
  | (.ok false, w') =>
    match bot.findStarting w' with
    | (.ok starting, _) =>
      ((event.detectLanguage bot.settings.languages).matchBlock? starting).isNone &&
        bot.settings.globalFallback
    | (.error _, _) => false
  | _ => false

theorem fallsBack_unsent {event : Event} (hs : event.sender = none) :
    bot.fallsBack event w = false := by
  have hdetected : (event.detectLanguage bot.settings.languages).sender = none := by
    rw [Event.detectLanguage]
    split
    · rw [hs]
      rfl
    · exact hs
  have hsender : (event.detectLanguage bot.settings.languages).requireSender w =
      (.error .missingSender, w) := by
    rw [Event.requireSender, hdetected]
    rfl
  rw [fallsBack, continueActive, run_bind_error hsender]

/-- Where no conversation answers, a turn falls back if it comes to where it does. -/
theorem fallbacks_handle_of_free {event : Event}
    (hs : (event.detectLanguage bot.settings.languages).sender = some s)
    (hrun : bot.continueActive (event.detectLanguage bot.settings.languages) w = (.ok false, w')) :
    (bot.handle event w).2.fallbacks =
      w'.fallbacks + if bot.fallsBack event w then 1 else 0 := by
  have huntil := untilStart_apply hs w
  rw [run_bind_ok hrun] at huntil
  simp only [Bool.false_eq_true, if_false] at huntil
  obtain ⟨err, h⟩ | h := bot.findStarting_cases w'
  · have hfalls : bot.fallsBack event w = false := by simp only [fallsBack, hrun, h]
    rw [run_bind_error h] at huntil
    rw [handle_eq, run_bind_error huntil, hfalls]
    rfl
  have hfalls : bot.fallsBack event w =
      (((event.detectLanguage bot.settings.languages).matchBlock? bot.blocks.starting).isNone &&
        bot.settings.globalFallback) := by
    simp only [fallsBack, hrun, h]
  rw [run_bind_ok h] at huntil
  rw [hfalls]
  cases hmatch : (event.detectLanguage bot.settings.languages).matchBlock?
      bot.blocks.starting with
  | some found =>
    rw [hmatch] at huntil
    have hpath := path_conclude hs (p := (.opening found.block (.started found.block.name),
      w'.counted .findStarting)) (w := w) (by rw [huntil]; exact .refl _)
    exact hpath.fallbacks_of_isSettled rfl
  | none =>
    rw [hmatch] at huntil
    have hpath := path_conclude hs (p := (.unmatched, w'.counted .findStarting)) (w := w)
      (by rw [huntil]; exact path_fallBackUntilStart hs _)
    exact hpath.fallbacks_of_unmatched

/-- **A turn falls back once**, if it comes to where it does. -/
theorem fallbacks_handle {event : Event} (hs : event.sender = some s) (w : World) :
    (bot.handle event w).2.fallbacks = w.fallbacks + if bot.fallsBack event w then 1 else 0 := by
  obtain ⟨s', hs', -⟩ := sender_detectLanguage event bot.settings.languages hs
  have hcontinue := bot.fallbacks_continueActive hs' w
  generalize hrun : bot.continueActive (event.detectLanguage bot.settings.languages) w = run
    at hcontinue
  obtain ⟨err | _ | _, w₁⟩ := run
  · have hfalls : bot.fallsBack event w = false := by rw [fallsBack, hrun]
    rw [handle_of_failed hs' hrun, hfalls]
    exact hcontinue
  · rw [fallbacks_handle_of_free hs' hrun]
    exact congrArg (· + _) hcontinue
  · have hfalls : bot.fallsBack event w = false := by rw [fallsBack, hrun]
    rw [handle_of_continued hs' hrun, hfalls]
    exact hcontinue

end Bot

end Chatflow

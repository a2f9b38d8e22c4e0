import Chatflow.Proofs.Bot.Chain
import Chatflow.Proofs.Bot.Path

/-!
# Moves are paths

Each function that a move of a conversation is made of has one lemma, which says from which stage it
leads to which (`Bot.Leads`): if the step succeeds the path ends where it should, and if it fails
the path ends where the conversation is about to be ended. Put together they are `Bot.path_proceed`,
for a conversation that goes on, and `Bot.path_start`, for one that is started.
-/

namespace Chatflow

namespace Bot

variable {bot : Bot} {e : Event} {s : Subscriber} {α β : Type}

/-! ### Steps of a conversation -/

/-- A step leads from a stage to what follows from its result, or to the end of its move. -/
def Leads (bot : Bot) (e : Event) (s : Subscriber) (m : Move) (st : Stage)
    (x : ExceptT (BotError × Conversation) Turn α) (next : α → Stage) : Prop :=
  ∀ w, (∃ err c w', x w = (.error (err, c), w') ∧ bot.Path e s (st, w) (.failed m err c, w')) ∨
    ∃ a w', x w = (.ok a, w') ∧ bot.Path e s (st, w) (next a, w')

variable {m : Move} {st st' : Stage} {next : α → Stage}

namespace Leads

theorem pure (next : α → Stage) (a : α) : Leads bot e s m (next a) (Pure.pure a) next := fun w =>
  .inr ⟨a, w, rfl, Path.refl (next a, w)⟩

theorem bind {x : ExceptT (BotError × Conversation) Turn α}
    {f : α → ExceptT (BotError × Conversation) Turn β} (next : α → Stage) {next' : β → Stage}
    (hx : Leads bot e s m st x next) (hf : ∀ a, Leads bot e s m (next a) (f a) next') :
    Leads bot e s m st (x >>= f) next' := by
  intro w
  obtain ⟨err, c, w', h, hpath⟩ | ⟨a, w', h, hpath⟩ := hx w
  · exact .inl ⟨err, c, w', run_bind_error h, hpath⟩
  · rw [run_bind_ok h]
    obtain ⟨err, c, w'', h', hpath'⟩ | ⟨b, w'', h', hpath'⟩ := hf a w'
    · exact .inl ⟨err, c, w'', h', hpath.trans hpath'⟩
    · exact .inr ⟨b, w'', h', hpath.trans hpath'⟩

/-- A computation that cannot fail leads where it always leads. -/
theorem lift {x : Turn α} (hx : ∀ w, bot.Path e s (st, w) (next (x w).1, (x w).2)) :
    Leads bot e s m st (ExceptT.lift x) next := fun w => .inr ⟨_, _, rfl, hx w⟩

/-- A call leads where its two cases lead. -/
theorem keeping {c : Conversation} {x : Attempt α}
    (hx : ∀ w, (∃ err w', x w = (.error err, w') ∧
          bot.Path e s (st, w) (.failed m err c, w')) ∨
        ∃ a w', x w = (.ok a, w') ∧ bot.Path e s (st, w) (next a, w')) :
    Leads bot e s m st (Bot.keeping c x) next := by
  intro w
  refine (hx w).imp ?_ ?_
  · rintro ⟨err, w', h, hpath⟩
    exact ⟨err, c, w', by rw [Bot.keeping, run_adapt, h]; rfl, hpath⟩
  · rintro ⟨a, w', h, hpath⟩
    exact ⟨a, w', by rw [Bot.keeping, run_adapt, h]; rfl, hpath⟩

/-- A step leads to where it leads after a transition that needs no call. -/
theorem head {x : ExceptT (BotError × Conversation) Turn α} (st' : Stage)
    (h : ∀ w, bot.Moves e s (st, w) (st', w)) (hx : Leads bot e s m st' x next) :
    Leads bot e s m st x next := by
  intro w
  refine (hx w).imp ?_ ?_
  · rintro ⟨err, c, w', hrun, hpath⟩
    exact ⟨err, c, w', hrun, .head (h w) hpath⟩
  · rintro ⟨a, w', hrun, hpath⟩
    exact ⟨a, w', hrun, .head (h w) hpath⟩

end Leads

/-- The end of a conversation is reported before it is ended on record. -/
theorem finish_snd (c : Conversation) (error : Option String) (w : World) :
    (bot.finish c error w).2 = (bot.endConversation c.id
      (w.emitted [.conversationEnd { c with active := false } error])).2 := rfl

theorem path_finish (c : Conversation) (error : Option String) (x : Exit) (w : World) :
    bot.Path e s (.ending c error x, w) (.exit x, (bot.finish c error w).2) := by
  rw [finish_snd]
  obtain ⟨err, h⟩ | ⟨store, hstore, h⟩ := bot.endConversation_cases
    (w.emitted [.conversationEnd { c with active := false } error]) c.id
  · rw [h]
    exact .single .unended
  · rw [h]
    exact .single (.ended hstore)

/-- To end a conversation leads out of it. -/
theorem leads_finish (c : Conversation) (error : Option String) (x : Exit) :
    Leads bot e s m (.ending c error x) (ExceptT.lift (bot.finish c error)) fun _ => .exit x :=
  Leads.lift fun w => bot.path_finish c error x w

/-- Entering a block stores the context. -/
theorem leads_enter (hs : e.sender = some s) (b : Block) (c : Conversation) :
    Leads bot e s m (.entering m b c) (bot.enter e b (!m.fallback) c) fun c => .entered m b c := by
  have hstore : Leads bot e s m (.storing m b (c.taking b e))
      (Bot.keeping (c.taking b e) (bot.updateConversation (c.taking b e)) >>= fun _ =>
        Pure.pure (c.taking b e)) fun c => .entered m b c := by
    refine Leads.bind (fun _ => .entered m b (c.taking b e)) (Leads.keeping fun w => ?_)
      fun _ => Leads.pure _ _
    obtain ⟨err, h⟩ | ⟨store, hstore, h⟩ := bot.updateConversation_cases w (c.taking b e)
    · exact .inl ⟨_, _, h, .single (.unstored err)⟩
    · exact .inr ⟨_, _, h, .single (.stored hstore)⟩
  -- only a block that asks again keeps nothing with the subscriber
  have hkept : (if (!m.fallback) = true then b.permanentCaptures e else .empty) = m.kept b e := by
    rw [Move.kept]
    cases m.fallback <;> rfl
  rw [enter]
  simp only [Context.update, hkept, hs]
  cases hempty : (m.kept b e).isEmpty with
  | true => exact hstore.head _ fun w => .bare hempty
  | false =>
    refine Leads.bind (fun _ => .storing m b (c.taking b e)) (Leads.keeping fun w => ?_)
      fun _ => hstore
    obtain ⟨err, h⟩ | ⟨r, hr, h⟩ := bot.updateVars_cases w s.id (m.kept b e)
    · exact .inl ⟨_, _, h, .single (.unkept err hempty)⟩
    · exact .inr ⟨_, _, h, .single (.kept hempty hr)⟩

/-! ### Sending a chain of blocks -/

variable {visited : List String} {b : Block} {c : Conversation}

theorem leads_say (hs : e.sender = some s) :
    Leads bot e s m (.sending m visited b c) (bot.say e m.fallback c b) fun _ =>
      .sent m visited b c := by
  refine Leads.keeping fun w => ?_
  have hcases := send_cases bot e s b c.context m.fallback (some c.id) hs w
  generalize bot.send e b c.context m.fallback (some c.id) w = run at hcases
  obtain ⟨err | mid, w'⟩ := run
  · exact .inl ⟨err, w', rfl, .single (.unsaid hcases)⟩
  · exact .inr ⟨mid, w', rfl, .single (.said hcases)⟩

theorem leads_settle (h : b.attachedBlock = none) :
    Leads bot e s m (.sent m visited b c) (bot.settle b c) fun _ => .exit (.done m) := by
  rw [settle]
  cases hempty : b.nextBlocks.isEmpty with
  | true =>
    rw [if_pos rfl]
    exact (leads_finish c none (.done m)).head _ fun w => .last h (List.isEmpty_iff.mp hempty)
  | false =>
    have hn : b.nextBlocks ≠ [] := fun hnil => by simp [hnil] at hempty
    rw [if_neg Bool.false_ne_true]
    refine Leads.bind (fun next => .standing m { c with current := some b, next := next })
      (Leads.keeping fun w => ?_) fun next => Leads.bind (fun _ => .exit (.done m))
        (Leads.keeping fun w => ?_) fun _ => Leads.pure (fun _ => .exit (.done m)) _
    · obtain ⟨err, hrun⟩ | hrun := bot.findBlocks_cases w b.nextBlocks
      · exact .inl ⟨_, _, hrun, .single (.unread err h hn)⟩
      · exact .inr ⟨_, _, hrun, .single (.read h hn)⟩
    · obtain ⟨err, hrun⟩ | ⟨store, hstore, hrun⟩ :=
        bot.updateConversation_cases w { c with current := some b, next := next }
      · exact .inl ⟨_, _, hrun, .single (.unstood err)⟩
      · exact .inr ⟨_, _, hrun, .single (.stood hstore)⟩

/-- A lookup of what is attached leads where the found leads. -/
theorem leads_lookUp {id : String} (h : b.attachedBlock = some id) {found : Step}
    (hmove : ∀ w, bot.Moves e s (.sent m visited b c, w) (st', w.counted .findBlock))
    (hfound : Leads bot e s m st' found fun _ => .exit (.done m)) :
    Leads bot e s m (.sent m visited b c) (bot.lookUp c found) fun _ => .exit (.done m) := by
  intro w
  rw [lookUp, run_lift_bind]
  obtain ⟨fault, hmeet⟩ | hmeet := bot.meet_cases w .findBlock
  · rw [hmeet]
    exact .inr ⟨_, _, rfl, .head (.unlinked _ h) (path_finish c _ _ _)⟩
  · rw [hmeet]
    refine (hfound (w.counted .findBlock)).imp ?_ ?_
    · rintro ⟨err, c', w', hrun', hpath⟩
      exact ⟨err, c', w', hrun', .head (hmove w) hpath⟩
    · rintro ⟨a, w', hrun', hpath⟩
      exact ⟨a, w', hrun', .head (hmove w) hpath⟩

/-- A walk along a chain leads through it. -/
theorem leads_walk (hs : e.sender = some s) (visited : List String) (b : Block) :
    Leads bot e s m (.sending m visited b c) (bot.walk e m.fallback c
      (bot.blocks.chainAfter visited b)) fun _ => .exit (.done m) := by
  -- the induction is that of the chain: each link has one unvisited block less before it
  induction visited, b using BlockStore.chainAfter.induct (s := bot.blocks) with
  | case1 visited b h =>
    rw [BlockStore.chainAfter_last h]
    exact Leads.bind _ (leads_say hs) fun _ => leads_settle h
  | case2 visited b id h hf =>
    rw [BlockStore.chainAfter_missing h hf]
    exact Leads.bind _ (leads_say hs) fun _ =>
      leads_lookUp h (fun w => .missing h hf) (leads_finish c _ _)
  | case3 visited b id h next hf hv =>
    rw [BlockStore.chainAfter_found h hf, if_pos hv]
    exact Leads.bind _ (leads_say hs) fun _ =>
      leads_lookUp h (fun w => .cycle h hf hv) (leads_finish c _ _)
  | case4 visited b id h next hf hv _ ih =>
    rw [BlockStore.chainAfter_found h hf, if_neg hv]
    exact Leads.bind _ (leads_say hs) fun _ =>
      leads_lookUp h (fun w => .linked h hf (Bool.not_eq_true _ ▸ hv)) ih

theorem leads_trigger (hs : e.sender = some s) :
    Leads bot e s m (.sending m [] b c) (bot.trigger e b m.fallback c) fun _ =>
      .exit (.done m) :=
  leads_walk hs [] b

/-! ### Moves -/

/-- **A move is done, or its conversation is ended.** -/
theorem Leads.cases {x : Step} (hx : Leads bot e s m st x fun _ => .exit (.done m)) (w : World) :
    (∃ c w', x w = (.ok c, w') ∧ bot.Path e s (st, w) (.exit (.done m), w')) ∨
      ∃ err c w', x w = (.error (err, c), w') ∧
        bot.Path e s (st, w)
          (.exit (m.exitOn err), (bot.finish c (some err.message) w').2) := by
  obtain ⟨err, c, w', h, hpath⟩ | ⟨c, w', h, hpath⟩ := hx w
  · exact .inr ⟨err, c, w', h, hpath.trans (path_finish c _ _ _)⟩
  · exact .inl ⟨c, w', h, hpath⟩

/-- What a move does within a conversation: the block is entered, reported and triggered. -/
def advance (bot : Bot) (e : Event) (b : Block) (fallback : Bool) (c : Conversation) : Step := do
  let c ← bot.enter e b (!fallback) c
  emit (.entry .popular b.name)
  bot.trigger e b fallback c

theorem leads_advance (hs : e.sender = some s) (hm : m.visits b = [.entry .popular b.name]) :
    Leads bot e s m (.entering m b c) (bot.advance e b m.fallback c) fun _ => .exit (.done m) := by
  refine Leads.bind _ (leads_enter hs b c) fun c => Leads.bind (fun _ => .sending m [] b c)
    (Leads.lift fun w => ?_) fun _ => leads_trigger hs
  have hmove : bot.Moves e s (.entered m b c, w) (.sending m [] b c, w.emitted (m.visits b)) :=
    .entered
  rw [hm] at hmove
  exact .single hmove

theorem proceed_apply (fallback : Bool) (w : World) :
    bot.proceed e b fallback c w =
      match bot.advance e b fallback (countAttempt fallback c w).1
        (countAttempt fallback c w).2 with
      | (.ok _, w') => (true, w')
      | (.error (err, c'), w') => (false, (bot.finish c' (some err.message) w').2) := by
  have hrun : bot.proceed e b fallback c = countAttempt fallback c >>= fun c =>
      (bot.advance e b fallback c : Turn _) >>= fun r => _ := rfl
  rw [hrun, run_turn_bind, run_turn_bind]
  rcases bot.advance e b fallback (countAttempt fallback c w).1
    (countAttempt fallback c w).2 with ⟨⟨err, c'⟩ | c', w'⟩
  · rfl
  · rfl

theorem path_proceed (hs : e.sender = some s) (hm : m.visits b = [.entry .popular b.name])
    (hexit : ∀ err, m.exitOn err = .free) (w : World) :
    bot.Path e s
      (.entering m b (countAttempt m.fallback c w).1, (countAttempt m.fallback c w).2)
      (.exit (if (bot.proceed e b m.fallback c w).1 then .done m else .free),
        (bot.proceed e b m.fallback c w).2) := by
  rw [proceed_apply]
  obtain ⟨c', w', h, hpath⟩ | ⟨err, c', w', h, hpath⟩ :=
    (leads_advance hs hm).cases (countAttempt m.fallback c w).2
  · rw [h]
    exact hpath
  · rw [hexit] at hpath
    rw [h]
    exact hpath

/-- What a start does within its conversation: the block is entered and triggered. -/
def begin (bot : Bot) (e : Event) (b : Block) (c : Conversation) : Step := do
  let c ← bot.enter e b true c
  bot.trigger e b false c

theorem leads_begin (hs : e.sender = some s) (o : Outcome) :
    Leads bot e s (.start o) (.entering (.start o) b c) (bot.begin e b c) fun _ =>
      .exit (.done (.start o)) := by
  refine Leads.bind _ (leads_enter (m := .start o) hs b c) fun c =>
    Leads.head (.sending (.start o) [] b c) (fun w => ?_) (leads_trigger hs)
  have hmove : bot.Moves e s (.entered (.start o) b c, w)
      (.sending (.start o) [] b c, w.emitted []) := .entered
  rwa [World.emitted_nil] at hmove

/-- A start, once the conversation is created. -/
theorem start_apply (hs : e.sender = some s) (w : World) :
    bot.start e b w =
      match bot.createConversation s.id (w.emitted [.entry .popular b.name]) with
      | (.error err, w') => (.error err, w')
      | (.ok c, w') =>
        match bot.begin e b c (w'.emitted [.count .newConversations]) with
        | (.ok _, w') => (.ok (), w')
        | (.error (err, c'), w') =>
          (.error err, (bot.finish c' (some err.message) w').2) := by
  rw [start, run_bind_ok (run_requireSender hs w), run_lift_bind, emit_snd, run_bind]
  rcases bot.createConversation s.id (w.emitted [.entry .popular b.name]) with ⟨err | c, w'⟩
  · rfl
  · have hbegin : (do let c ← bot.enter e b true c; bot.trigger e b false c : Step).run =
        bot.begin e b c := rfl
    dsimp only
    rw [run_lift_bind, emit_snd, run_lift_bind, hbegin]
    rcases bot.begin e b c (w'.emitted [.count .newConversations]) with ⟨⟨err, c'⟩ | c', w'⟩
    · rfl
    · rfl

theorem path_start (hs : e.sender = some s) (o : Outcome) (w : World) :
    (∃ w', bot.start e b w = (.ok (), w') ∧
        bot.Path e s (.opening b o, w) (.exit (.done (.start o)), w')) ∨
      ∃ err w', bot.start e b w = (.error err, w') ∧
        bot.Path e s (.opening b o, w) (.exit (.finished (.error err)), w') := by
  rw [start_apply hs]
  obtain ⟨err, hcreate⟩ | ⟨r, hr, hcreate⟩ :=
    bot.createConversation_cases (w.emitted [.entry .popular b.name]) s.id
  · rw [hcreate]
    exact .inr ⟨err, _, rfl, .single (.unopened err)⟩
  · rw [hcreate]
    have hopen : bot.Moves e s (.opening b o, w) (.entering (.start o) b r.1, _) := .opened hr
    obtain ⟨c', w', h, hpath⟩ | ⟨err, c', w', h, hpath⟩ :=
      (bot.leads_begin (b := b) (c := r.1) hs o).cases
        (({ (w.emitted [.entry .popular b.name]).counted .createConversation with
          conversations := r.2 }).emitted [.count .newConversations])
    · simp only [h]
      exact .inl ⟨w', rfl, .head hopen hpath⟩
    · simp only [h]
      exact .inr ⟨err, _, rfl, .head hopen hpath⟩

end Bot

end Chatflow

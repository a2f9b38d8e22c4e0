import Chatflow.Proofs.Bot.Entering
import Chatflow.Proofs.Bot.History
import Chatflow.Proofs.Dict

/-!
# What is kept with a subscriber

The variables of a subscriber change by the captures of the input alone (`Entry.write`): each time
a block is entered on an event of that subscriber, unless it asks again, and unless the call that
keeps them fails. The entries of a run (`World.Recorded`) are told in order, and at every moment
of every run the variables are those from before with each entry's input written over them
(`World.vars_recorded`).

A moment is any stage of a turn: a run may break off anywhere, and so may each of its turns. The
transitions do not say which calls fail, so no pattern of failures is left out.

A run goes on with the turn of any bot on any event, by the entries of the sender of that event
which the turn makes (`Bot.TurnEnters`): it enters perhaps the block at which the active
conversation goes on, and then, if that was not the end of it, perhaps one that starts another. So
a turn that asks again and does no more enters none, and the variables of everybody stay.
-/

namespace Chatflow

/-! ### What is written -/

/-- What an event gives to a capture of the input: what is said in a message or by a quick reply,
or else the payload. -/
def Event.input? (e : Event) : Option Json :=
  match e.messageKind with
  | .message | .quickReply => some (.str (Text.trim e.text))
  | .postback | .location | .attachments | .unknown =>
    match e.payload? with
    | some (.code code) => some (.str (Text.trim code))
    | some payload => some payload.toJson
    | none => none

/-- A block is entered on an event of a sender, and not to ask again. -/
structure Entry where
  /-- The id of the sender. -/
  sender : String
  /-- The event. -/
  event : Event
  /-- The block. -/
  block : Block

namespace Entry

/-- The variables in which a block captures the input. -/
def names (x : Entry) : List String :=
  (x.block.captures.filter (·.source = .input)).map (·.variableName)

/-- Some variables with the input written over those in which the block captures it. -/
def write (x : Entry) (vars : Dict Json) : Dict Json :=
  match x.event.input? with
  | some v => x.names.foldl (fun vars name => vars.insert name v) vars
  | none => vars

/-- The variables of a subscriber after some entries, one after the other. -/
def writeAll (id : String) (entries : List Entry) (vars : Dict Json) : Dict Json :=
  entries.foldl (fun vars x => if x.sender = id then x.write vars else vars) vars

theorem writeAll_append (id : String) (entries entries' : List Entry) (vars : Dict Json) :
    writeAll id (entries ++ entries') vars = writeAll id entries' (writeAll id entries vars) :=
  List.foldl_append

/-- The entries of one subscriber write nothing to another. -/
theorem writeAll_other {id sender : String} (h : sender ≠ id) (event : Event)
    (blocks : List Block) (vars : Dict Json) :
    writeAll id (blocks.map (⟨sender, event, ·⟩)) vars = vars := by
  rw [writeAll, List.foldl_map]
  induction blocks with
  | nil => rfl
  | cons b blocks ih => rw [List.foldl_cons, if_neg h, ih]

theorem writeAll_singleton (id : String) (x : Entry) (vars : Dict Json) :
    writeAll id [x] vars = if x.sender = id then x.write vars else vars := rfl

end Entry

/-- What a capture of the input reads, without the blanks around it. -/
theorem Capture.Source.read?_input (e : Event) :
    (Capture.Source.input.read? e).map Json.trim = e.input? := by
  rw [read?, Event.input?]
  cases e.messageKind with
  | message | quickReply => rfl
  | postback | location | attachments | unknown =>
    cases e.payload? with
    | none => rfl
    | some payload => cases payload <;> rfl

/-- The captures of the input all read the same. -/
theorem captured_inputCaptures (b : Block) (e : Event) :
    captured b.inputCaptures e =
      (e.input?.map fun v => b.inputCaptures.map fun c => (c.variableName, v)).getD [] := by
  have hread : ∀ c ∈ b.inputCaptures, (c.source.read? e).map (fun v => (c.variableName, v.trim)) =
      e.input?.map fun v => (c.variableName, v) := by
    intro c hc
    have hsource : c.source = .input := by simpa using (List.mem_filter.mp hc).2
    rw [hsource, ← Capture.Source.read?_input, Option.map_map]
    rfl
  rw [captured, List.filterMap_congr hread]
  cases e.input? with
  | none => simp
  | some v => exact congrFun List.filterMap_eq_map _

/-- **What is kept at an entry is what is written**: what the block captures of anything but the
input is not. -/
theorem overlay_permanentCaptures (id : String) (b : Block) (e : Event) (vars : Dict Json) :
    vars.overlay (b.permanentCaptures e) = Entry.write ⟨id, e, b⟩ vars := by
  rw [Block.permanentCaptures, Dict.overlay_ofList, captured_inputCaptures, Entry.write]
  cases e.input? with
  | none => rfl
  | some v =>
    simp only [Option.map_some, Option.getD_some, Dict.insertAll, Entry.names, List.foldl_map]
    rfl

/-- If nothing is kept, nothing is written. -/
theorem Entry.write_of_isEmpty {id : String} {b : Block} {e : Event}
    (h : (b.permanentCaptures e).isEmpty = true) (vars : Dict Json) :
    Entry.write ⟨id, e, b⟩ vars = vars := by
  have hnil : (b.permanentCaptures e).entries = [] := List.isEmpty_iff.mp h
  rw [← overlay_permanentCaptures, Dict.overlay, hnil]
  rfl

theorem Event.input?_detectLanguage (e : Event) (languages : List String) :
    (e.detectLanguage languages).input? = e.input? := by
  rw [detectLanguage]
  split <;> rfl

/-- What is written does not depend on the language. -/
theorem Entry.writeAll_detectLanguage (id sender : String) (e : Event) (languages : List String)
    (blocks : List Block) (vars : Dict Json) :
    writeAll id (blocks.map (⟨sender, e.detectLanguage languages, ·⟩)) vars =
      writeAll id (blocks.map (⟨sender, e, ·⟩)) vars := by
  have hwrite : ∀ b, write ⟨sender, e.detectLanguage languages, b⟩ = write ⟨sender, e, b⟩ := by
    intro b
    funext vars
    rw [write, write, Event.input?_detectLanguage]
    rfl
  simp only [writeAll, List.foldl_map, hwrite]

/-! ### Who is written to -/

namespace World

/-- The variables of a subscriber on record. -/
def vars? (w : World) (id : String) : Option (Dict Json) := (w.subscribers.find? id).map (·.vars)

end World

/-- A change of the variables of one subscriber leaves those of the others. -/
theorem SubscriberStore.vars_modify {s : SubscriberStore} {id : String}
    {change : Subscriber → Subscriber} {r : Subscriber × SubscriberStore}
    (h : s.modify id change = .ok r) (write : Dict Json → Dict Json)
    (hwrite : ∀ x, (change x).vars = write x.vars) (id' : String) :
    (r.2.find? id').map (·.vars) =
      ((s.find? id').map (·.vars)).map fun vars => if id = id' then write vars else vars := by
  rw [modify] at h
  cases hs : s.find? id with
  | none =>
    rw [hs] at h
    cases h
  | some old =>
    rw [hs] at h
    cases h
    have hfind : (s.records.insert id (change old)).find? id' =
        if id' = id then some (change old) else s.find? id' := Dict.find?_insert ..
    by_cases hid : id' = id
    · subst hid
      rw [find?, hfind, if_pos rfl, hs]
      simp [hwrite]
    · rw [find?, hfind, if_neg hid]
      simp only [if_neg (Ne.symm hid), Option.map_id']

namespace Bot

variable {bot : Bot} {e : Event} {s : Subscriber} {p q : Stage × World}

/-- Sending a message leaves the variables of everybody. -/
theorem Sends.vars? {b : Block} {c : Context} {fallback : Bool} {conversation : Option String}
    {w w' : World} {r : Except BotError String}
    (h : Sends bot e s b c fallback conversation w r w') (id : String) :
    w'.vars? id = w.vars? id := by
  cases h with
  | unrendered _ hquiet => rw [World.vars?, hquiet.subscribers, World.vars?]
  | undelivered hquiet _ => rw [World.vars?, hquiet.subscribers, World.vars?]
  | unapplied _ hheard =>
    rw [World.vars?, World.vars?, ← hheard.subscribers]
    rfl
  | applied _ hheard hupdates =>
    rw [World.vars?, SubscriberStore.vars_modify hupdates (fun vars => vars) (fun _ => rfl),
      hheard.subscribers]
    simp only [ite_self, Option.map_id']
    rfl

/-- **One transition** changes the variables of the sender by what is written at the entry that it
is, if it is one. -/
theorem Moves.vars? (h : bot.Moves e s p q) (id : String) :
    q.2.vars? id = (p.2.vars? id).map
      (Entry.writeAll id ((p.1.entered? q.1).toList.map (⟨s.id, e, ·⟩))) := by
  have hsame : ∀ vars? : Option (Dict Json), vars? = vars?.map (Entry.writeAll id []) :=
    fun _ => Option.map_id'.symm
  cases h with
  | said hsends | unsaid hsends | voiced _ hsends | unvoiced hsends =>
    rw [hsends.vars?]
    exact hsame _
  | @bare w m b c hbare =>
    rw [Stage.entered?]
    cases hm : m.fallback with
    | true => exact hsame _
    | false =>
      -- nothing is kept, and nothing is written
      rw [Move.kept, hm] at hbare
      have hwrite : Entry.writeAll id [⟨s.id, e, b⟩] = fun vars => vars := by
        funext vars
        rw [Entry.writeAll_singleton, Entry.write_of_isEmpty hbare, ite_self]
      change w.vars? id = (w.vars? id).map (Entry.writeAll id [⟨s.id, e, b⟩])
      rw [hwrite, Option.map_id']
  | @kept w m b c r hkept hr =>
    -- what asks again keeps nothing, so this does not
    have hm : m.fallback = false := by
      rw [Move.kept] at hkept
      split at hkept
      · cases hkept
      · rename_i hm
        exact Bool.eq_false_iff.mpr hm
    rw [Move.kept, hm] at hr
    rw [Stage.entered?, hm]
    refine (SubscriberStore.vars_modify hr (·.overlay (b.permanentCaptures e))
      (fun _ => rfl) id).trans ?_
    simp only [overlay_permanentCaptures s.id]
    rfl
  | _ => exact hsame _

/-- The variables as far as a turn went. -/
theorem Enters.vars? {blocks : List Block} (h : bot.Enters e s p blocks q) (id : String) :
    q.2.vars? id = (p.2.vars? id).map (Entry.writeAll id (blocks.map (⟨s.id, e, ·⟩))) := by
  induction h with
  | refl => exact Option.map_id'.symm
  | tail _ hmove ih =>
    rw [hmove.vars?, ih, Option.map_map]
    refine congrArg (Option.map · _) (funext fun vars => ?_)
    rw [List.map_append, Entry.writeAll_append]
    rfl

end Bot

/-! ### Runs -/

namespace World

/-- **A run**: turns one after the other, each as far as it went, with the blocks that were entered
in them. Between the turns anything may happen that leaves the subscribers on record as they are. -/
inductive Recorded (w₀ : World) : List Entry → World → Prop
  | start : Recorded w₀ [] w₀
  | turn {entries : List Entry} {w w' : World} (h : Recorded w₀ entries w) {bot : Bot}
      {event : Event} {s : Subscriber} {blocks : List Block} {stage : Stage}
      (hs : (event.detectLanguage bot.settings.languages).sender = some s)
      (hturn : bot.Enters (event.detectLanguage bot.settings.languages) s (.waiting, w) blocks
        (stage, w')) : Recorded w₀ (entries ++ blocks.map (⟨s.id, event, ·⟩)) w'
  | outside {entries : List Entry} {w w' : World} (h : Recorded w₀ entries w)
      (hsame : ∀ id s, w.subscribers.find? id = some s → w'.subscribers.find? id = some s) :
      Recorded w₀ entries w'

/-- A run goes on with any turn, by the blocks that it enters. -/
theorem Recorded.handle {w₀ w : World} {entries : List Entry} (h : w₀.Recorded entries w)
    {bot : Bot} {event : Event} {s : Subscriber} {blocks : List Block}
    (hturn : bot.TurnEnters event s w blocks) :
    w₀.Recorded (entries ++ blocks.map (⟨s.id, event, ·⟩)) (bot.handle event w).2 := by
  obtain ⟨s', hs', hid, henters⟩ := hturn.run
  exact hid ▸ h.turn hs' henters

/-- The variables of a subscriber after a run. -/
theorem Recorded.vars? {w₀ w : World} {id : String} {vars₀ : Dict Json}
    (h₀ : w₀.vars? id = some vars₀) {entries : List Entry} (h : w₀.Recorded entries w) :
    w.vars? id = some (Entry.writeAll id entries vars₀) := by
  induction h with
  | start => exact h₀
  | @turn entries w w' _ bot event s blocks stage hs hturn ih =>
    have hvars : w'.vars? id = (w.vars? id).map _ := hturn.vars? id
    rw [hvars, ih, Entry.writeAll_append, Option.map_some]
    exact congrArg some (Entry.writeAll_detectLanguage ..)
  | outside _ hsame ih =>
    obtain ⟨s, hs, hvars⟩ := Option.map_eq_some_iff.mp ih
    exact Option.map_eq_some_iff.mpr ⟨s, hsame id s hs, hvars⟩

/-- **What is kept with a subscriber.** At every moment of every run the variables of a subscriber
are those from before, with the input of each entry of that subscriber written over them in turn. A
run goes on with the turn of any bot on any event: without a sender nothing happens, and otherwise
the blocks that the turn enters are entries of the sender of the event. So a turn for somebody else
leaves the variables, and so does one in which the active conversation only asked again. -/
theorem vars_recorded {w₀ : World} {id : String} {vars₀ : Dict Json}
    (h₀ : w₀.vars? id = some vars₀) {entries : List Entry} {w : World}
    (h : w₀.Recorded entries w) :
    w.vars? id = some (Entry.writeAll id entries vars₀) ∧
      ∀ (bot : Bot) (event : Event),
        (event.sender = none → (bot.handle event w).2 = w) ∧
        ∀ s, event.sender = some s →
          (∃ blocks, bot.TurnEnters event s w blocks ∧
            w₀.Recorded (entries ++ blocks.map (⟨s.id, event, ·⟩)) (bot.handle event w).2 ∧
            (bot.handle event w).2.vars? id =
              some (Entry.writeAll id (entries ++ blocks.map (⟨s.id, event, ·⟩)) vars₀)) ∧
          (s.id ≠ id → (bot.handle event w).2.vars? id = w.vars? id) ∧
          ((∀ b, ¬bot.GoesOnAt (event.detectLanguage bot.settings.languages) s.id w b) →
            (bot.handle event w).1 = .ok .conversation →
            (bot.handle event w).2.vars? id = w.vars? id) := by
  refine ⟨h.vars? h₀, fun bot event => ⟨fun hs => ?_, fun s hs => ?_⟩⟩
  · rw [Bot.handle_unsent hs]
  obtain ⟨blocks, hturn⟩ := bot.exists_turnEnters hs w
  have hvars := (h.handle hturn).vars? h₀
  refine ⟨⟨blocks, hturn, h.handle hturn, hvars⟩, fun hother => ?_, fun hnone hresult => ?_⟩
  · rw [hvars, h.vars? h₀, Entry.writeAll_append, Entry.writeAll_other hother]
  · rw [hvars, h.vars? h₀, hturn.eq_nil hnone hresult, List.map_nil, List.append_nil]

end World

namespace Sample

/-- The first block, which takes down what is said, and then the payload under the same name. -/
def attentive : Block := { hello with captures := [⟨.input, "said"⟩, ⟨.payload, "said"⟩] }

/-- A bot with this block. -/
def listener : Bot := { bot with blocks := ⟨[attentive]⟩ }

/-- Ann chooses a quick reply. -/
def choosing (text payload : String) : Event :=
  { saying text with widget := .message ⟨.quickReply text payload, none, none⟩ }

end Sample

namespace World

/-- Ann chooses a quick reply, and a block is entered for her. Its text is kept with her, and its
payload is not. -/
theorem vars_recorded_hello :
    (Sample.world []).vars? "sub-1" = some .empty ∧
      (Sample.world []).Recorded
        [⟨"sub-1", Sample.choosing " hi " "HI", Sample.attentive⟩]
        (Bot.handle Sample.listener (Sample.choosing " hi " "HI") (Sample.world [])).2 ∧
      (Bot.handle Sample.listener (Sample.choosing " hi " "HI") (Sample.world [])).2.vars?
        "sub-1" = some (Dict.ofList [("said", .str "hi")]) := by
  have hvars : (Sample.world []).vars? "sub-1" = some .empty := by decide +kernel
  have hread : (Bot.handle Sample.listener (Sample.choosing " hi " "HI") (Sample.world [])).2.vars?
      "sub-1" = some (Dict.ofList [("said", .str "hi")]) := by decide +kernel
  obtain ⟨-, hturns⟩ := vars_recorded hvars .start
  obtain ⟨⟨blocks, hturn, hrecorded, hwritten⟩, -⟩ :=
    (hturns Sample.listener (Sample.choosing " hi " "HI")).2 Sample.ann rfl
  obtain ⟨next, start, rfl, hnext, hstart⟩ := hturn.shape
  -- no conversation is active, and without an entry nothing would be kept
  obtain rfl : next = none := by
    cases next with
    | none => rfl
    | some b =>
      obtain ⟨c, m, hactive, -⟩ := hnext b rfl
      have hnone : (Sample.world []).conversations.active? "sub-1" = none := by decide +kernel
      cases hnone.symm.trans hactive
  cases start with
  | none =>
    rw [hread] at hwritten
    exact absurd hwritten (by decide +kernel)
  | some b =>
    obtain ⟨m, hmatch, rfl⟩ | ⟨id, hid, -⟩ := (hstart b rfl).1
    · have hblock : (((Sample.choosing " hi " "HI").detectLanguage
          Sample.listener.settings.languages).matchBlock? Sample.listener.blocks.starting).map
          (·.block) = some Sample.attentive := by decide +kernel
      rw [hmatch] at hblock
      have hattentive : m.block = Sample.attentive := Option.some.inj hblock
      rw [hattentive] at hrecorded
      exact ⟨hvars, hrecorded, hread⟩
    · cases hid

end World

end Chatflow

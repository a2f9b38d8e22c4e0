import Chatflow.Proofs.Bot.Intake
import Chatflow.Proofs.Bot.Moments
import Chatflow.Proofs.Context
import Chatflow.Proofs.Conversation.Handled
import Chatflow.Proofs.Subscriber.Variables

/-!
# What variables a message shows

A message is rendered with the variables of its conversation laid over those of the sender. The
variables of a conversation are what was captured in it (`Note.latest?`), but those of the sender
are the ones with which the event came, as they were on record when the turn began. A turn may keep
captures with the subscriber before it sends anything, so it is to be shown which of them a message
can miss.

Those of its own conversation it cannot miss, since whatever is kept is captured in the conversation
as well (`Current`). So a message shows what is on record at the moment at which it is sent, unless
a conversation broke off earlier in the same turn: what was kept by that one is seen by the turns
after (`World.vars_visible`).
-/

namespace Chatflow

open ConversationStore

/-! ### Captures -/

/-- A block is entered in a conversation on an event, and the context of the conversation is
stored. -/
structure Note where
  /-- The id of the conversation. -/
  conversation : String
  /-- The event. -/
  event : Event
  /-- The block. -/
  block : Block

namespace Note

/-- What is captured in a conversation, oldest first. -/
def captures (id : String) (notes : List Note) : List (String × Json) :=
  (notes.filter (·.conversation = id)).flatMap fun n => captured n.block.captures n.event

/-- The latest capture of a variable in a conversation. -/
def latest? (id name : String) (notes : List Note) : Option Json :=
  Dict.findEntry name (captures id notes).reverse

/-- A note is the latest of its conversation. -/
theorem latest?_concat_self (notes : List Note) (name : String) (n : Note) :
    latest? n.conversation name (notes ++ [n]) =
      (Dict.findEntry name (captured n.block.captures n.event).reverse).or
        (latest? n.conversation name notes) := by
  have hcaptures : captures n.conversation (notes ++ [n]) =
      captures n.conversation notes ++ captured n.block.captures n.event := by
    simp [captures, List.filter_append]
  rw [latest?, hcaptures, List.reverse_append, Dict.findEntry_append, latest?]

/-- A note is nothing to the other conversations. -/
theorem latest?_concat_of_ne {id : String} {n : Note} (h : id ≠ n.conversation)
    (notes : List Note) (name : String) :
    latest? id name (notes ++ [n]) = latest? id name notes := by
  have hcaptures : captures id (notes ++ [n]) = captures id notes := by
    simp [captures, List.filter_append, Ne.symm h]
  rw [latest?, hcaptures, latest?]

end Note

/-- The note that is taken between two stages of a turn on an event. -/
def Stage.note? (e : Event) : Stage → Stage → Option Note
  | .storing _ b c, .entered _ _ _ => some ⟨c.id, e, b⟩
  | _, _ => none

/-- The notes that are taken at some transitions of a turn on an event. -/
def notesOf (e : Event) (steps : List (Stage × Stage)) : List Note :=
  steps.filterMap fun step => step.1.note? e step.2

/-- The notes that a bot takes on the way when it does its turn on an event. -/
def Bot.notes (bot : Bot) (event : Event) (steps : List (Stage × Stage)) : List Note :=
  notesOf (event.detectLanguage bot.settings.languages) steps

/-- A conversation has the variables that were captured in it. -/
def Conversation.Shows (c : Conversation) (notes : List Note) : Prop :=
  ∀ name, c.context.vars.find? name = Note.latest? c.id name notes

/-- So has each conversation on record. -/
def World.Noted (w : World) (notes : List Note) : Prop :=
  ∀ id name, ((w.conversations.find? id).bind (·.context.vars.find? name)) =
    Note.latest? id name notes

/-- So has the conversation in hand; what was taken in and is not stored yet is about to be
noted. -/
def Stage.Shows (e : Event) (notes : List Note) : Stage → Prop
  | .found c | .entering _ _ c | .entered _ _ c | .sending _ _ _ c | .sent _ _ _ c
  | .standing _ c => c.Shows notes
  | .storing _ b c => c.Shows (notes ++ [⟨c.id, e, b⟩])
  | _ => True

section

variable {bot : Bot} {e : Event} {s : Subscriber} {w₀ w : World} {p q : Stage × World}
  {notes : List Note} {c c' : Conversation} {store : ConversationStore}

namespace Conversation.Shows

/-- A conversation that takes in an event has what was captured in it before, and what is captured
then. -/
theorem taking (h : c.Shows notes) (b : Block) (e : Event) :
    (c.taking b e).Shows (notes ++ [⟨c.id, e, b⟩]) := by
  intro name
  have hlatest := Note.latest?_concat_self notes name ⟨c.id, e, b⟩
  rw [Conversation.taking, Context.vars_fold, Dict.find?_insertAll, h name]
  exact hlatest.symm

end Conversation.Shows

namespace World.Noted

theorem of_conversations_eq (h : w.Noted notes) {w' : World}
    (hw : w'.conversations = w.conversations) : w'.Noted notes := by
  intro id name
  rw [hw]
  exact h id name

/-- A conversation on record shows what was captured. -/
theorem shows_of_find? (h : w.Noted notes) (hc : w.conversations.find? c.id = some c) :
    c.Shows notes := by
  intro name
  rw [← h c.id name, hc]
  rfl

/-- A conversation is written whose variables are those that were captured. -/
theorem updated (h : w.Noted notes) (hc : c.Shows notes)
    (hstore : w.conversations.update c = .ok store) {w' : World}
    (hw : w'.conversations = store) : w'.Noted notes := by
  intro id name
  rw [hw, find?_update hstore]
  split
  · rename_i hid
    rw [hid]
    exact hc name
  · exact h id name

/-- A note that is taken of one conversation is not taken of the others. -/
theorem noted (h : w.Noted notes) {b : Block}
    (hc : c.Shows (notes ++ [⟨c.id, e, b⟩])) (hstore : w.conversations.update c = .ok store)
    {w' : World} (hw : w'.conversations = store) :
    w'.Noted (notes ++ [⟨c.id, e, b⟩]) := by
  intro id name
  rw [hw, find?_update hstore]
  split
  · rename_i hid
    rw [hid]
    exact hc name
  · rename_i hid
    rw [Note.latest?_concat_of_ne hid]
    exact h id name

theorem ended (h : w.Noted notes) {id : String} (hstore : w.conversations.finish id = .ok store)
    {w' : World} (hw : w'.conversations = store) : w'.Noted notes := by
  intro id' name
  obtain ⟨r, hr, -⟩ := finish_eq_ok_iff.mp hstore
  rw [hw, find?_finish hstore hr]
  split
  · rename_i hid
    rw [← h id' name, hid, hr]
    rfl
  · exact h id' name

/-- Of a conversation that is created nothing was noted. -/
theorem created (h : w.Noted notes) (hsound : w.conversations.Sound) {sender : String}
    (hstore : w.conversations.create sender = .ok (c, store)) {w' : World}
    (hw : w'.conversations = store) : w'.Noted notes ∧ c.Shows notes := by
  have hshows : c.Shows notes := by
    intro name
    rw [← h c.id name, hsound.find?_created hstore, (create_eq_ok_iff.mp hstore).2.1]
    rfl
  refine ⟨fun id name => ?_, hshows⟩
  rw [hw, find?_create hstore]
  split
  · rename_i hid
    rw [hid]
    exact hshows name
  · exact h id name

end World.Noted

/-- **Every transition keeps the captures on record**, with the note that it takes. -/
theorem Bot.Moves.noted (h : bot.Moves e s p q) (hsteady : Steady s w₀ (p.1.phase, p.2))
    (hp : p.2.Noted notes ∧ p.1.Shows e notes) :
    q.2.Noted (notes ++ (p.1.note? e q.1).toList) ∧
      q.1.Shows e (notes ++ (p.1.note? e q.1).toList) := by
  obtain ⟨hnoted, hshows⟩ := hp
  have hplain : p.1.note? e q.1 = none → q.2.Noted notes ∧ q.1.Shows e notes →
      q.2.Noted (notes ++ (p.1.note? e q.1).toList) ∧
        q.1.Shows e (notes ++ (p.1.note? e q.1).toList) := by
    intro hnone hq
    rwa [hnone, Option.toList_none, List.append_nil]
  cases h with
  | @stored w m b c store hstore => exact ⟨hnoted.noted hshows hstore rfl, hshows⟩
  | found hc =>
    exact hplain rfl ⟨hnoted, hnoted.shows_of_find? (hsteady.sound.find?_of_active? hc).1⟩
  | @bare w m b c | @kept w m b c => exact hplain rfl ⟨hnoted, hshows.taking b e⟩
  | stood hstore => exact hplain rfl ⟨hnoted.updated hshows hstore rfl, trivial⟩
  | ended hstore => exact hplain rfl ⟨hnoted.ended hstore rfl, trivial⟩
  | opened hstore => exact hplain rfl (hnoted.created hsteady.sound hstore rfl)
  | answered | asked | entered | linked | read => exact hplain rfl ⟨hnoted, hshows⟩
  | said hsends =>
    exact hplain rfl ⟨hnoted.of_conversations_eq hsends.spares.conversations, hshows⟩
  | unsaid hsends | voiced _ hsends | unvoiced hsends =>
    exact hplain rfl ⟨hnoted.of_conversations_eq hsends.spares.conversations, trivial⟩
  | _ => exact hplain rfl ⟨hnoted, trivial⟩

/-- The captures on record as far as a turn went. -/
theorem Bot.Trail.noted {steps : List (Stage × Stage)} (h : bot.Trail e s (.waiting, w₀) steps q)
    (hsound : w₀.conversations.Sound) (hnoted : w₀.Noted notes) :
    q.2.Noted (notes ++ notesOf e steps) ∧ q.1.Shows e (notes ++ notesOf e steps) := by
  induction h with
  | refl => exact ⟨by rwa [notesOf, List.filterMap_nil, List.append_nil], trivial⟩
  | @tail steps q r h hmove ih =>
    have hnext := hmove.noted (h.path.steady hsound) ih
    have hnotes : notesOf e (steps ++ [(q.1, r.1)]) =
        notesOf e steps ++ (q.1.note? e r.1).toList := by
      rw [notesOf, List.filterMap_append, notesOf, List.filterMap_cons]
      cases q.1.note? e r.1 <;> rfl
    rwa [hnotes, ← List.append_assoc]

/-! ### What is kept in a turn -/

/-- The variable of a subscriber on record. -/
def World.var? (w : World) (id name : String) : Option Json := (w.vars? id).bind (·.find? name)

/-- Since the world `w₀` a conversation with a variable in it has ended on an error. -/
def World.Lost (w w₀ : World) (name : String) : Prop :=
  ∃ c err, .conversationEnd c (some err) ∈ w.reportedSince w₀ ∧
    c.context.vars.contains name = true

/-- The variable of a subscriber is on record as it was in the world `w₀`, unless a conversation
with the variable in it has ended on an error since. -/
def World.UpToDate (w w₀ : World) (id name : String) : Prop :=
  w.var? id name = w₀.var? id name ∨ w.Lost w₀ name

/-- What is on record of the sender is as it was in the world `w₀`, in which the turn began, but for
what the conversation in hand has captured. -/
def Current (s : Subscriber) (w₀ : World) : Stage × World → Prop
  | (.waiting, w) | (.found _, w) | (.entering _ _ _, w) | (.exit .free, w) | (.unmatched, w)
  | (.falling, w) | (.voicing, w) | (.opening _ _, w) => ∀ name, w.UpToDate w₀ s.id name
  | (.storing _ _ c, w) | (.entered _ _ c, w) | (.sending _ _ _ c, w) | (.sent _ _ _ c, w)
  | (.standing _ c, w) => ∀ name, c.context.vars.find? name = none → w.UpToDate w₀ s.id name
  | (.ending c error x, w) => x = .free → ∀ name,
    w.UpToDate w₀ s.id name ∨ error ≠ none ∧ c.context.vars.contains name = true
  | _ => True

/-- What is kept at an entry is captured in the conversation as well. -/
theorem Entry.find?_write {c : Context} {b : Block} {name : String}
    (h : (c.fold b e).vars.find? name = none) (id : String) (vars : Dict Json) :
    (Entry.write ⟨id, e, b⟩ vars).find? name = vars.find? name := by
  rw [Context.vars_fold, Dict.find?_insertAll, Option.or_eq_none_iff] at h
  have hnone : (b.permanentCaptures e).find? name = none := by
    rw [Option.eq_none_iff_forall_ne_some]
    intro v hv
    rw [Block.permanentCaptures, Dict.find?_ofList] at hv
    have hmem := List.mem_reverse.mp (Dict.mem_of_findEntry hv)
    have hcaptured : (name, v) ∈ captured b.captures e :=
      (List.filter_sublist.filterMap _).subset hmem
    exact Dict.not_mem_of_findEntry h.1 v (List.mem_reverse.mpr hcaptured)
  rw [← overlay_permanentCaptures, Dict.find?_overlay, hnone, Option.none_or]

namespace World.UpToDate

variable {w' : World} {id name : String}

/-- What is on record stays up to date as long as the variable does not change. -/
theorem later (h : w.UpToDate w₀ id name) (hvar : w'.var? id name = w.var? id name)
    (hgrows : w.Grows w') : w'.UpToDate w₀ id name := by
  refine h.imp hvar.trans ?_
  rintro ⟨c, err, hmem, hc⟩
  exact ⟨c, err, hgrows.reportedSince_subset hmem, hc⟩

end World.UpToDate

/-- A transition that enters no block leaves what is on record up to date. -/
theorem Bot.Moves.upToDate (h : bot.Moves e s p q) (hnone : p.1.entered? q.1 = none) {name : String}
    (hp : p.2.UpToDate w₀ s.id name) : q.2.UpToDate w₀ s.id name := by
  refine hp.later ?_ h.grows
  have hvars := h.vars? s.id
  rw [hnone] at hvars
  rw [World.var?, hvars, World.var?]
  cases p.2.vars? s.id <;> rfl

/-- What is captured nowhere is not kept with the subscriber. -/
theorem Bot.Moves.var?_of_taking {m : Move} {b : Block} {w' : World} {name : String}
    (h : bot.Moves e s (.entering m b c, w) (.storing m b (c.taking b e), w'))
    (hname : (c.taking b e).context.vars.find? name = none) :
    w'.var? s.id name = w.var? s.id name := by
  have hvars : w'.vars? s.id = (w.vars? s.id).map _ := h.vars? s.id
  rw [World.var?, hvars, World.var?, Stage.entered?]
  cases w.vars? s.id with
  | none => rfl
  | some vars =>
    cases m.fallback with
    | true => rfl
    | false =>
      have hwrite : Entry.writeAll s.id [⟨s.id, e, b⟩] vars = Entry.write ⟨s.id, e, b⟩ vars :=
        if_pos rfl
      exact (congrArg (Dict.find? · name) hwrite).trans (Entry.find?_write hname s.id vars)

namespace Current

/-- What is known of a conversation in hand is known when its move fails. -/
theorem failed {m : Move} {err : BotError}
    (h : ∀ name, c.context.vars.find? name = none → w.UpToDate w₀ s.id name) :
    Current s w₀ (.failed m err c, w) := by
  intro _ name
  cases hname : c.context.vars.find? name with
  | none => exact .inl (h name hname)
  | some v => exact .inr ⟨nofun, by rw [Dict.contains, hname]; rfl⟩

/-- What was captured in a conversation that is ended on an error is lost. -/
theorem ended {x : Exit} {error : Option String} {w' : World} (hgrows₀ : w₀.Grows w)
    (hp : Current s w₀ (.ending c error x, w)) (hvars : ∀ id, w'.vars? id = w.vars? id)
    (hgrows : w.Grows w')
    (ht : w'.telemetry = w.telemetry ++ [.conversationEnd { c with active := false } error]) :
    Current s w₀ (.exit x, w') := by
  cases x with
  | done m => trivial
  | finished r => trivial
  | free =>
    intro name
    obtain hcurrent | ⟨herror, hname⟩ := hp rfl name
    · exact hcurrent.later (by rw [World.var?, hvars, World.var?]) hgrows
    · obtain ⟨err, rfl⟩ := Option.ne_none_iff_exists'.mp herror
      exact .inr ⟨{ c with active := false }, err,
        World.mem_reportedSince_concat hgrows₀.telemetry ht, hname⟩

/-- **Every transition keeps it.** -/
theorem step (hgrows : w₀.Grows p.2) (hp : Current s w₀ p) (h : bot.Moves e s p q) :
    Current s w₀ q := by
  have hkeeps : p.1.entered? q.1 = none → ∀ name, p.2.UpToDate w₀ s.id name →
      q.2.UpToDate w₀ s.id name := fun hnone _ => h.upToDate hnone
  have htaking : ∀ {m : Move} {b : Block} {c : Conversation} {w w' : World} {name : String},
      p = (.entering m b c, w) → q = (.storing m b (c.taking b e), w') →
      (c.taking b e).context.vars.find? name = none → w'.var? s.id name = w.var? s.id name := by
    rintro m b c w w' name rfl rfl hname
    exact h.var?_of_taking hname
  have hgrows' := h.grows
  cases h with
  | bare | kept =>
    exact fun name hname => (hp name).later (htaking rfl rfl hname) hgrows'
  | absent | found | answered | asked | matched | unmatched | fallen | sought | lost | plain =>
    exact fun name => hkeeps rfl name (hp name)
  | unanswered => exact fun _ name => .inl (hkeeps rfl name (hp name))
  | opened => exact fun name => hkeeps rfl name (hp name)
  | stored | entered | said | linked | read =>
    exact fun name hname => hkeeps rfl name (hp name hname)
  | unkept => exact fun _ name => .inl (hkeeps rfl name (hp name))
  | unstored | unsaid | unread | unstood =>
    exact failed fun name hname => hkeeps rfl name (hp name hname)
  | unloaded | last | unlinked | missing | cycle => exact nofun
  | ended | unended => exact Current.ended hgrows hp (fun _ => rfl) hgrows' rfl
  | _ => trivial

end Current

/-- What is on record of the sender as far as a turn went. -/
theorem Bot.Path.current (h : bot.Path e s (.waiting, w₀) q) : Current s w₀ q :=
  h.preserves_grown (I := Current s w₀) (fun _ _ hgrows hmove hr => hr.step hgrows hmove)
    fun _ => .inl rfl

/-! ### Messages -/

namespace Sent

/-- What a message shows for a variable, if it is sent to a subscriber. -/
def shown? (x : Sent) (s : Subscriber) (name : String) : Option Json :=
  (s.vars.overlay x.context.vars).find? name

/-- The latest capture of a variable in the conversation that a message belongs to. -/
def latest? (x : Sent) (name : String) (notes : List Note) : Option Json :=
  x.conversation.bind (Note.latest? · name notes)

end Sent

/-- A message that is sent in the world `v`, in a turn that began in the world `w₀`, does not show
what was kept with the sender in between. The conversation in which it was kept ended on an error,
and in that of the message it was not captured. -/
structure Sent.Misses (x : Sent) (s : Subscriber) (notes : List Note) (w₀ v : World)
    (name : String) : Prop where
  uncaptured : x.latest? name notes = none
  kept : v.var? s.id name ≠ w₀.var? s.id name
  lost : v.Lost w₀ name

/-- **A message shows** what was captured in its conversation, or else what was on record of the
sender when the turn began, which is what is on record when the message is sent unless it misses
that. -/
theorem Bot.SendsOff.shown? {x : Sent} (h : bot.SendsOff e s x p q) (hshows : p.1.Shows e notes)
    (hcurrent : Current s w₀ p) {name : String}
    (hvars : w₀.var? s.id name = s.vars.find? name) :
    x.shown? s name = (x.latest? name notes).or (w₀.var? s.id name) ∧
      (x.shown? s name = (x.latest? name notes).or (p.2.var? s.id name) ∨
        x.Misses s notes w₀ p.2 name) := by
  have hupper : x.context.vars.find? name = x.latest? name notes ∧
      (x.latest? name notes = none → p.2.UpToDate w₀ s.id name) := by
    obtain ⟨hisOf, -⟩ := h.isOf
    obtain ⟨stage, v⟩ := p
    cases hisOf with
    | @inside m visited c hcontext _ hconversation =>
      have hlatest : x.latest? name notes = c.context.vars.find? name := by
        rw [Sent.latest?, hconversation]
        exact (hshows name).symm
      rw [hlatest, hcontext]
      exact ⟨rfl, hcurrent name⟩
    | outside _ hcontext hconversation =>
      rw [Sent.latest?, hconversation, hcontext]
      exact ⟨rfl, fun _ => hcurrent name⟩
  obtain ⟨hlatest, hlower⟩ := hupper
  have hshown : x.shown? s name = (x.latest? name notes).or (w₀.var? s.id name) := by
    rw [Sent.shown?, Dict.find?_overlay, hlatest, hvars]
  refine ⟨hshown, or_iff_not_imp_left.mpr fun hmissed => ?_⟩
  have hkept : p.2.var? s.id name ≠ w₀.var? s.id name := fun hsame => hmissed (hsame ▸ hshown)
  have huncaptured : x.latest? name notes = none := by
    rw [Option.eq_none_iff_forall_ne_some]
    intro v hv
    exact hmissed (by rw [hshown, hv, Option.some_or, Option.some_or])
  exact ⟨huncaptured, hkept, (hlower huncaptured).resolve_left hkept⟩

end

/-! ### Runs -/

/-- **A run**: turns one after the other, each as far as it went, with the notes that were taken in
them. Each is on an event whose sender is as on record. Between the turns anything may happen that
leaves the conversations as they are and the subscribers under their ids. -/
inductive Observed (channels : Channel.Registry) : List Note → World → Prop
  | start : Observed channels [] (.fresh channels)
  | turn {notes : List Note} {w w' : World} (h : Observed channels notes w) {bot : Bot}
      {event : Event} {s s' : Subscriber} {steps : List (Stage × Stage)} {stage : Stage}
      (hs : event.sender = some s) (hcurrent : w.subscribers.find? s.id = some s)
      (hs' : (event.detectLanguage bot.settings.languages).sender = some s')
      (hturn : bot.Trail (event.detectLanguage bot.settings.languages) s' (.waiting, w) steps
        (stage, w')) :
      Observed channels (notes ++ bot.notes event steps) w'
  | outside {notes : List Note} {w w' : World} (h : Observed channels notes w)
      (hsame : w'.conversations = w.conversations) (hkeyed : w'.subscribers.Keyed) :
      Observed channels notes w'

/-- In a turn that began in the world `w`, a message that is sent in the world `v`, after some notes
were taken, shows its variables. -/
structure Sent.ShowsVars (x : Sent) (bot : Bot) (event : Event) (s : Subscriber)
    (notes : List Note) (w v : World) : Prop where
  /-- It is rendered with the variables that it shows. -/
  rendered : x.IsRendered bot event s v
  /-- Those of its conversation are laid over those of the sender, as on record when the turn
  began. -/
  shown : ∀ name, x.shown? s name = (x.latest? name notes).or (w.var? s.id name)
  /-- The latter are as on record now, but for what the message misses. -/
  current : ∀ name, x.shown? s name = (x.latest? name notes).or (v.var? s.id name) ∨
    x.Misses s notes w v name

namespace Observed

variable {channels : Channel.Registry} {notes : List Note} {w : World}

/-- **At every moment of a run** the conversations are in order and have the variables that were
captured in them. -/
theorem recorded (h : Observed channels notes w) :
    w.conversations.Sound ∧ w.Noted notes ∧ w.subscribers.Keyed := by
  induction h with
  | start => exact ⟨.empty, fun _ _ => rfl, .empty⟩
  | @turn notes w w' _ bot event s s' steps stage _ _ _ hturn ih =>
    obtain ⟨hsound, hnoted, hkeyed⟩ := ih
    exact ⟨(hturn.path.steady hsound).sound, (hturn.noted hsound hnoted).1,
      hturn.path.keyed hkeyed⟩
  | outside _ hsame hkeyed ih => exact ⟨hsame ▸ ih.1, ih.2.1.of_conversations_eq hsame, hkeyed⟩

/-- The moment at which a message is sent is one of the run, and the message shows its variables. -/
theorem shows_sendsAt (h : Observed channels notes w) {bot : Bot} {event : Event} {s : Subscriber}
    {x : Sent} {steps : List (Stage × Stage)} {v w' : World} (hs : event.sender = some s)
    (hcurrent : w.subscribers.find? s.id = some s) (hsent : bot.SendsAt event x w steps v w') :
    Observed channels (notes ++ bot.notes event steps) v ∧
      x.ShowsVars bot event s (notes ++ bot.notes event steps) w v := by
  obtain ⟨hsound, hnoted, -⟩ := h.recorded
  have hrendered := hsent.isRendered hs
  have hvar : ∀ name, w.var? s.id name = s.vars.find? name := by
    intro name
    rw [World.var?, World.vars?, hcurrent, Option.map_some, Option.bind_some]
  obtain ⟨language, hs'⟩ := Bot.exists_sender_detectLanguage event bot.settings.languages hs
  cases hsent with
  | intro hs'' hbefore hsends =>
    refine ⟨h.turn hs hcurrent hs'' hbefore, ?_⟩
    rw [hs'] at hs''
    obtain rfl := Option.some.inj hs''
    have hshows := (hbefore.noted hsound hnoted).2
    have hshown := fun name => hsends.shown? hshows hbefore.path.current (hvar name)
    exact {
      rendered := hrendered
      shown := fun name => (hshown name).1
      current := fun name => (hshown name).2.imp_right fun h => ⟨h.uncaptured, h.kept, h.lost⟩ }

/-- **A run goes on with a turn**, and each message of the turn has its moment. -/
theorem handle (h : Observed channels notes w) (bot : Bot) {event : Event} {s : Subscriber}
    (hs : event.sender = some s) (hcurrent : w.subscribers.find? s.id = some s) :
    ∃ steps, Observed channels (notes ++ bot.notes event steps) (bot.handle event w).2 ∧
      ∀ x ∈ (bot.handle event w).2.sentSince w, ∃ before v, before <+: steps ∧
        bot.SendsAt event x w before v (bot.handle event w).2 := by
  obtain ⟨s', steps, hs', hsteps, hmoments⟩ := bot.exists_sendsAt hs w
  exact ⟨steps, h.turn hs hcurrent hs' hsteps, hmoments⟩

/-- **A run goes on with whatever a channel delivers.** Somebody may be met, and if there is a turn,
its sender is as on record. -/
theorem receive (h : Observed channels notes w) (i : Intake) (channel : String) (raw : Json) :
    ∃ w₁, w.Prepares w₁ ∧ Observed channels notes w₁ ∧
      i.Serves w₁ (i.receive channel raw w).2 := by
  obtain ⟨-, -, hkeyed⟩ := h.recorded
  obtain ⟨w₁, hprepares, hserves⟩ := Intake.receive_leads (i := i) channel raw hkeyed
  exact ⟨w₁, hprepares, h.outside hprepares.conversations hprepares.keyed, hserves⟩

end Observed

namespace World

/-- **What variables a message shows.** A run goes on with whatever a channel delivers: somebody may
be met, and if there is a turn, its sender is as on record. In each such turn every message is sent
at a moment of the run, and shows for a variable what was last captured in its conversation by then,
or else what was on record of the sender when the turn began. That is what is on record at this
moment, but for what was kept earlier in the turn in a conversation that then ended on an error. -/
theorem vars_visible {channels : Channel.Registry} {notes : List Note} {w : World}
    (h : Observed channels notes w) :
    (∀ (i : Intake) (channel : String) (raw : Json), ∃ w₁, w.Prepares w₁ ∧
      Observed channels notes w₁ ∧ i.Serves w₁ (i.receive channel raw w).2) ∧
    ∀ (bot : Bot) (event : Event) (s : Subscriber), event.sender = some s →
      w.subscribers.find? s.id = some s →
      ∃ steps, Observed channels (notes ++ bot.notes event steps) (bot.handle event w).2 ∧
        ∀ x ∈ (bot.handle event w).2.sentSince w, ∃ before v, before <+: steps ∧
          bot.SendsAt event x w before v (bot.handle event w).2 ∧
          Observed channels (notes ++ bot.notes event before) v ∧
          x.ShowsVars bot event s (notes ++ bot.notes event before) w v := by
  refine ⟨h.receive, fun bot event s hs hcurrent => ?_⟩
  obtain ⟨steps, hnext, hmoments⟩ := h.handle bot hs hcurrent
  refine ⟨steps, hnext, fun x hx => ?_⟩
  obtain ⟨before, v, hbegins, hsent⟩ := hmoments x hx
  exact ⟨before, v, hbegins, hsent, h.shows_sendsAt hs hcurrent hsent⟩

end World

namespace Sample

/-- A bot that asks for a name and fails to answer it. Then it greets by the name, in another
conversation. -/
def forgetful : Bot :=
  { bot with
    blocks := ⟨[{ hello with nextBlocks := ["name"] },
      { photo with id := "name", patterns := [.text "Ann"], captures := [⟨.input, "name"⟩] },
      Block.plain "greet" "Greet" (.texts ["Hello \x7bcontext.vars.name\x7d!"])]⟩
    settings := { Settings.none with globalFallback := true, fallbackBlock := some "greet" } }

/-- Ann, as she is on record, writes something. -/
def reloaded (w : World) (text : String) : Event :=
  { saying text with sender := w.subscribers.find? "sub-1" }

/-- The world after Ann wrote some texts to that bot, looked up anew for each. -/
def told (texts : List String) : World :=
  texts.foldl (fun w text => (forgetful.handle (reloaded w text) w).2) (world [])

theorem observed_told (texts : List String) : ∃ notes, Observed channels notes (told texts) := by
  have hkeyed : (world []).subscribers.Keyed := SubscriberStore.Keyed.empty.insert ann
  refine List.foldlRecOn (motive := fun w => ∃ notes, Observed channels notes w) texts _
    ⟨[], Observed.start.outside rfl hkeyed⟩ fun w h text _ => ?_
  obtain ⟨notes, hnotes⟩ := h
  cases hs : w.subscribers.find? "sub-1" with
  | none => exact ⟨notes, by rwa [Bot.handle_unsent hs]⟩
  | some s =>
    have hid : s.id = "sub-1" := hnotes.recorded.2.2 "sub-1" s hs
    have hsender : (reloaded w text).sender = some s := hs
    obtain ⟨steps, hnext, -⟩ := hnotes.handle forgetful hsender (hid ▸ hs)
    exact ⟨_, hnext⟩

/-- Ann, whose name was kept. -/
def remembered : Subscriber := { ann with vars := .ofList [("name", .str "Ann")] }

end Sample

namespace World

/-- The turn after sees the name that was kept. -/
theorem vars_visible_later :
    (Sample.told ["hi", "Ann"]).subscribers.find? "sub-1" = some Sample.remembered ∧
      (Sample.told ["hi", "Ann", "Ann"]).sentSince (Sample.told ["hi", "Ann"]) ≠ [] ∧
      ∀ x ∈ (Sample.told ["hi", "Ann", "Ann"]).sentSince (Sample.told ["hi", "Ann"]),
        x.envelope = .text "Hello Ann!" ∧ ∃ notes v, Observed Sample.channels notes v ∧
          x.ShowsVars Sample.forgetful (Sample.reloaded (Sample.told ["hi", "Ann"]) "Ann")
            Sample.remembered notes (Sample.told ["hi", "Ann"]) v := by
  have hcurrent : (Sample.told ["hi", "Ann"]).subscribers.find? "sub-1" =
      some Sample.remembered := by decide +kernel
  have hgreets : ∀ x ∈ (Sample.told ["hi", "Ann", "Ann"]).sentSince (Sample.told ["hi", "Ann"]),
      x.envelope = .text "Hello Ann!" := by decide +kernel
  obtain ⟨notes, h⟩ := Sample.observed_told ["hi", "Ann"]
  obtain ⟨steps, -, hshows⟩ := (vars_visible h).2 Sample.forgetful
    (Sample.reloaded (Sample.told ["hi", "Ann"]) "Ann") Sample.remembered hcurrent hcurrent
  refine ⟨hcurrent, by decide +kernel, fun x hx => ⟨hgreets x hx, ?_⟩⟩
  obtain ⟨before, v, -, -, hobserved, hshown⟩ := hshows x hx
  exact ⟨_, v, hobserved, hshown⟩

/-- The turn itself does not. The name is on record before anything is said in it, and when it is
over, and nothing was captured in the conversation in which Ann is greeted. -/
theorem vars_missed :
    (Sample.told ["hi"]).subscribers.find? "sub-1" = some Sample.ann ∧
      (Sample.forgetful.continueActive (Sample.saying "Ann") (Sample.told ["hi"])).2.journal =
        (Sample.told ["hi"]).journal ∧
      (Sample.forgetful.continueActive (Sample.saying "Ann") (Sample.told ["hi"])).2.var?
        "sub-1" "name" = some (.str "Ann") ∧
      (Sample.told ["hi", "Ann"]).var? "sub-1" "name" = some (.str "Ann") ∧
      ((Sample.told ["hi", "Ann"]).conversations.find? "conv-2").map (·.context.vars) =
        some .empty ∧
      ((Sample.told ["hi", "Ann"]).sentSince (Sample.told ["hi"])).map
        (fun x => (x.conversation, x.shown? Sample.ann "name", x.envelope)) =
        [(some "conv-2", none, .text "Hello \x7bcontext.vars.name\x7d!")] := by
  decide +kernel

end World

end Chatflow

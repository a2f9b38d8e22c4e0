import Chatflow.Console.Session
import Chatflow.Proofs.Bot.Deliveries
import Chatflow.Proofs.Bot.Reception
import Chatflow.Proofs.Widget.Encoding

/-!
# What a session prints

Each line that says something is a message of the visitor, which starts a turn
(`Console.Session.receive_eq`). What is sent in the turn is for the visitor, and nothing else ever
waits for a console: so when the deliveries are picked up after the turn, all of them are, and
nothing is left for the next one (`Console.Session.Rests`).

A turn that fails makes no difference, since what it sent before waits all the same
(`Bot.deposits_handle`).
-/

namespace Chatflow

namespace Console

/-! ### Lines -/

/-- What is said with a line that has no blanks around it. -/
inductive Says : String → Widget.Body → Prop
  /-- After an exclamation mark stands the payload of a button, which is also its text. -/
  | press (p : String) : Says ("!" ++ p) (.postback p p)
  /-- Any other line is a text. -/
  | text {t : String} (h : t.toList.head? ≠ some '!') : Says t (.text t)

/-- The event of a visitor who says something at a console. -/
def saying (visitor : String) (body : Widget.Body) : Event :=
  ⟨.console, .message ⟨body, none, some visitor⟩, none, none⟩

/-- A line is the written form of what is said with it. -/
theorem Says.message_eq {t : String} {body : Widget.Body} (h : Says t body) (visitor : String) :
    message visitor t = Widget.Message.toJson ⟨body, none, some visitor⟩ := by
  cases h with
  | press p =>
    have hline : ("!" ++ p).toList = '!' :: p.toList := by simp
    rw [message, hline]
    simp only [String.ofList_toList]
    rfl
  | text h =>
    rw [message]
    split
    · rename_i rest hrest
      exact absurd (by rw [hrest]; rfl) h
    · rfl

theorem Says.isFinite {t : String} {body : Widget.Body} (h : Says t body) : body.IsFinite := by
  cases h <;> trivial

/-- With a line one thing is said at most. -/
theorem Says.unique {t : String} {body body' : Widget.Body} (h : Says t body)
    (h' : Says t body') : body' = body := by
  cases h with
  | press p =>
    generalize ht : "!" ++ p = t at h'
    cases h' with
    | press p' =>
      obtain rfl : p = p' := by simpa using ht
      rfl
    | text h => exact absurd (by simp [← ht]) h
  | text h =>
    cases h' with
    | press p => exact absurd (by simp) h
    | text => rfl

/-- With each line something is said. -/
theorem exists_says (t : String) : ∃ body, Says t body := by
  by_cases htext : t.toList.head? = some '!'
  · obtain ⟨rest, hrest⟩ := List.head?_eq_some_iff.mp htext
    obtain rfl : t = "!" ++ String.ofList rest := String.toList_injective (by simp [hrest])
    exact ⟨_, .press _⟩
  · exact ⟨_, .text htext⟩

/-- **A line is a message of the visitor.** -/
theorem Says.parse_message {t : String} {body : Widget.Body} (h : Says t body) (visitor : String) :
    Event.parse Session.channel (message visitor t) = .ok (saying visitor body) := by
  rw [h.message_eq]
  exact Event.parse_eq_ok_iff.mpr ⟨_, rfl, Widget.Message.isMessage_toJson h.isFinite⟩

/-- A line that is not blank and does not leave says something. -/
theorem ofLine_eq_say_iff {visitor line : String} {m : Json} :
    Command.ofLine visitor line = .say m ↔
      Text.trim line ≠ "" ∧ Text.trim line ≠ "/quit" ∧ m = message visitor (Text.trim line) := by
  constructor
  · intro h
    simp only [Command.ofLine] at h
    split at h
    · cases h
    · rename_i hblank
      split at h
      · cases h
      · rename_i hquit
        exact ⟨hblank, hquit, (Command.say.inj h).symm⟩
  · rintro ⟨hblank, hquit, hm⟩
    rw [hm]
    simp only [Command.ofLine, if_neg hblank, if_neg hquit]

namespace Session

/-! ### One line -/

variable {s : Session} {w : World}

/-- What a session prints of a turn before what was delivered in it. -/
def notice : Except IntakeError (Option Outcome) → List String
  | .ok (some outcome) => if outcome.isHandled then [] else ["bot> ..."]
  | .ok none | .error _ => []

/-- A turn is received, and then what was delivered is picked up. -/
theorem turn_apply (message : Json) (w : World) :
    s.turn message w =
      (notice (s.intake.receive channel message w).1 ++
          (s.collect (s.intake.receive channel message w).2).1.flatMap shown,
        (s.collect (s.intake.receive channel message w).2).2) := by
  have hrun : (s.intake.receive channel message).run w = s.intake.receive channel message w := rfl
  rw [turn, run_turn_bind, hrun]
  generalize s.intake.receive channel message w = run
  obtain ⟨err | _ | outcome, w'⟩ := run <;> rfl

/-- Between two lines nothing waits, and the subscribers lie under their ids. -/
structure Rests (w : World) : Prop where
  outbox : w.channels.find? channel = some (.widget [])
  keyed : w.subscribers.Keyed

theorem rests_world : Rests world := ⟨by decide, SubscriberStore.Keyed.empty⟩

/-- What waits for the visitor only is picked up, all of it. -/
theorem collect_apply {ds : List Widget.Delivery}
    (h : w.channels.find? channel = some (.widget ds)) (hds : ∀ d ∈ ds, d.recipient = s.visitor) :
    s.collect w = (ds, { w with channels := w.channels.insert channel (.widget []) }) := by
  have hall : ds.filter (·.recipient = s.visitor) = ds :=
    List.filter_eq_self.mpr fun d hd => decide_eq_true (hds d hd)
  have hnone : ds.filter (·.recipient ≠ s.visitor) = [] :=
    List.filter_eq_nil_iff.mpr fun d hd => by simp [hds d hd]
  rw [collect, h]
  simp only [Widget.Outbox.drainFor_eq, hall, hnone]

/-- **What a visitor says starts a turn**, unless a fault keeps the visitor from being looked up. In
its world only the visitor may be new. -/
theorem receive_eq (hup : s.intake.bot.outages = .none) (hw : Rests w) {t : String}
    {body : Widget.Body} (hsaid : Says t body) :
    ∃ (event : Event) (known : Subscriber) (w₁ : World), event.sender = some known ∧
      known.foreignId = s.visitor ∧ event.channel = channel ∧ Rests w₁ ∧
      w₁.journal = w.journal ∧
      s.intake.receive channel (message s.visitor t) w =
        (((s.intake.bot.handle event w₁).1.mapError .failed).map some,
          (s.intake.bot.handle event w₁).2) := by
  rw [Intake.receive, hsaid.parse_message]
  have hmessage : (saying s.visitor body).isMessage = true := rfl
  obtain ⟨call, fault, w', hfault, -⟩ |
      ⟨known, store, nlp, calls, asked, hstore, hrun⟩ := Intake.handle_of_author hmessage rfl w
  · rw [hup] at hfault
    cases hfault
  have hfound := hw.keyed.find?_getOrCreate channel s.visitor
  have hkeyed := hw.keyed.getOrCreate channel s.visitor
  have hknown := (w.subscribers.isKnownAs_getOrCreate channel s.visitor).2
  have hmet : w.subscribers.getOrCreate channel s.visitor = (known, store) := hstore
  rw [hmet] at hfound hkeyed hknown
  refine ⟨{ saying s.visitor body with
      sender := some ((store.find? known.id).getD known), nlp := nlp }, known,
    { w with subscribers := store, calls := calls, asked := asked }, ?_, hknown, rfl,
    ⟨hw.outbox, hkeyed⟩, rfl,
    hrun.trans (Intake.dispatch_apply (Intake.isMessage_with hmessage _ nlp) _)⟩
  exact congrArg (fun found => some (Option.getD found known)) hfound

/-- In a session, a message leads to a turn, and what is sent in it is printed. -/
structure Prints (s : Session) (w : World) (message : Json) (ds : List Widget.Delivery)
    (w' : World) : Prop where
  /-- There is a turn, whatever comes of it. -/
  received : (∃ outcome, (s.intake.receive channel message w).1 = .ok (some outcome)) ∨
    ∃ cause, (s.intake.receive channel message w).1 = .error (.failed cause)
  /-- The deliveries are all that was sent in it. -/
  handedOver : HandedOver w.journal.length
    ((s.intake.receive channel message w).2.sentSince w) ds
  /-- They are printed, each once and in that order. -/
  printed : s.turn message w =
    (notice (s.intake.receive channel message w).1 ++ ds.flatMap shown, w')
  /-- Nothing waits after that. -/
  rests : Rests w'

/-- **A turn is printed**, and leaves nothing behind. -/
theorem exists_prints (hup : s.intake.bot.outages = .none) (hw : Rests w) {t : String}
    {body : Widget.Body} (hsaid : Says t body) :
    ∃ ds w', s.Prints w (message s.visitor t) ds w' := by
  obtain ⟨event, known, w₁, hsender, hknown, hchannel, hrests, hjournal, hreceive⟩ :=
    receive_eq hup hw hsaid
  obtain ⟨sent, hsent, hto, hlies⟩ := s.intake.bot.deposits_handle hsender w₁
  rw [hchannel, hknown] at hto
  rw [hchannel] at hlies
  obtain ⟨ds, hds, hhanded⟩ := hlies [] hrests.outbox
  rw [List.nil_append] at hds
  have hwhom := hhanded.recipient fun x hx => (hto x hx).2
  have hcollect := s.collect_apply hds hwhom
  have hemptied : (((s.intake.bot.handle event w₁).2.channels.insert channel
      (.widget [])).find? channel) = some (.widget []) := Dict.find?_insert_self _ _ _
  refine ⟨ds, { (s.intake.bot.handle event w₁).2 with
    channels := (s.intake.bot.handle event w₁).2.channels.insert channel (.widget []) },
    ?_, ?_, ?_, ⟨hemptied, ?_⟩⟩
  · rw [hreceive]
    cases (s.intake.bot.handle event w₁).1 with
    | ok outcome => exact .inl ⟨outcome, rfl⟩
    | error cause => exact .inr ⟨cause, rfl⟩
  · rw [hreceive, World.sentSince, hsent, hjournal, List.drop_left]
    rwa [hjournal] at hhanded
  · rw [turn_apply, hreceive, hcollect]
  · obtain ⟨s', hs', -⟩ := Bot.sender_detectLanguage event s.intake.bot.settings.languages hsender
    exact (Bot.path_handle hs' w₁).keyed hrests.keyed

/-! ### All lines -/

section

variable {line : String} {rest : List String} {m : Json}

theorem talk_nothing (h : Command.ofLine s.visitor line = .nothing) :
    s.talk (line :: rest) = s.talk rest := by
  rw [talk, h]

theorem talk_leave (h : Command.ofLine s.visitor line = .leave) (w : World) :
    s.talk (line :: rest) w = ([], w) := by
  rw [talk, h]
  rfl

theorem talk_say (h : Command.ofLine s.visitor line = .say m) (w : World) :
    s.talk (line :: rest) w =
      ((s.turn m w).1 ++ (s.talk rest (s.turn m w).2).1, (s.talk rest (s.turn m w).2).2) := by
  rw [talk, h]
  rfl

end

/-- What is printed of some lines is printed of the first ones and then of the rest, if none of the
first ones leaves. -/
theorem talk_append {before : List String}
    (hstays : ∀ line ∈ before, Command.ofLine s.visitor line ≠ .leave) (after : List String)
    (w : World) :
    s.talk (before ++ after) w =
      ((s.talk before w).1 ++ (s.talk after (s.talk before w).2).1,
        (s.talk after (s.talk before w).2).2) := by
  induction before generalizing w with
  | nil => rfl
  | cons line before ih =>
    have hrest := ih fun line' hline' => hstays line' (List.mem_cons_of_mem _ hline')
    rw [List.cons_append]
    cases hline : Command.ofLine s.visitor line with
    | nothing => rw [talk_nothing hline, talk_nothing hline, hrest]
    | leave => exact absurd hline (hstays line List.mem_cons_self)
    | say m => rw [talk_say hline, talk_say hline, hrest, List.append_assoc]

/-- **A session rests after each line.** -/
theorem rests_talk (hup : s.intake.bot.outages = .none) (lines : List String) {w : World}
    (hw : Rests w) : Rests (s.talk lines w).2 := by
  induction lines generalizing w with
  | nil => exact hw
  | cons line lines ih =>
    cases hline : Command.ofLine s.visitor line with
    | nothing =>
      rw [talk_nothing hline]
      exact ih hw
    | leave =>
      rw [talk_leave hline]
      exact hw
    | say m =>
      obtain ⟨-, -, hm⟩ := ofLine_eq_say_iff.mp hline
      obtain ⟨body, hsaid⟩ := exists_says (Text.trim line)
      obtain ⟨ds, w', hprints⟩ := exists_prints hup hw hsaid
      rw [talk_say hline, hm, hprints.printed]
      dsimp only
      exact ih hprints.rests

/-- **A session prints what it causes.** In a session of any visitor, with any flow and any
configuration, after any lines: a line that is neither blank nor leaves is a message of the visitor,
who presses a button if it begins with an exclamation mark, and else says the line as it is. It
starts a turn, and whether this succeeds or fails, all messages sent in it are printed, each once
and in the order in which they were sent, and none is left. -/
theorem talk_prints (flow : List Block) (config : Config) (visitor : String) (rolls : Nat → Nat)
    {before : List String} {line : String} (after : List String) {s : Session} {w : World}
    (hs : s = .ofFlow flow config visitor rolls) (hw : w = (s.talk before world).2)
    (hstays : ∀ l ∈ before, Command.ofLine visitor l ≠ .leave) (hblank : Text.trim line ≠ "")
    (hquit : Text.trim line ≠ "/quit") :
    ∃ body m ds w', Says (Text.trim line) body ∧ Command.ofLine visitor line = .say m ∧
      Event.parse channel m = .ok (saying visitor body) ∧ s.Prints w m ds w' ∧
      s.talk (before ++ line :: after) world =
        ((s.talk before world).1 ++ ((s.turn m w).1 ++ (s.talk after w').1),
          (s.talk after w').2) := by
  have hup : s.intake.bot.outages = .none := by rw [hs]; rfl
  have hvisitor : s.visitor = visitor := by rw [hs]; rfl
  have hrests : Rests w := hw ▸ rests_talk hup before rests_world
  obtain ⟨body, hsaid⟩ := exists_says (Text.trim line)
  obtain ⟨ds, w', hprints⟩ := exists_prints hup hrests hsaid
  have hsay : Command.ofLine s.visitor line = .say (message s.visitor (Text.trim line)) :=
    ofLine_eq_say_iff.mpr ⟨hblank, hquit, rfl⟩
  rw [hvisitor] at hprints hsay
  refine ⟨body, _, ds, w', hsaid, hsay, hsaid.parse_message visitor, hprints, ?_⟩
  rw [← hvisitor] at hstays hsay
  rw [talk_append hstays, ← hw, talk_say hsay, hvisitor, hprints.printed]

end Session

end Console

namespace Sample

/-- Ann's session with the two blocks that greet her. -/
def chat : Console.Session := .ofFlow [hello, thanks] .standard "ann" fun _ => 0

end Sample

namespace Console.Session

/-- Ann presses a button after she was greeted. -/
theorem talk_prints_ann :
    (∃ m ds w', Command.ofLine "ann" " !fine" = .say m ∧
      Event.parse channel m = .ok (saying "ann" (.postback "fine" "fine")) ∧
      Sample.chat.Prints (Sample.chat.talk [" ", "hi"] world).2 m ds w') ∧
      (Sample.chat.talk [" ", "hi", " !fine"] world).1 = ["bot> Hello!", "bot> Thanks!"] := by
  have htrim : Text.trim " !fine" = "!" ++ "fine" := by decide +kernel
  obtain ⟨body, m, ds, w', hsaid, hline, hparse, hprints, -⟩ :=
    talk_prints [Sample.hello, Sample.thanks] .standard "ann" (fun _ => 0) [] rfl rfl
      (by decide +kernel : ∀ l ∈ [" ", "hi"], Command.ofLine "ann" l ≠ .leave)
      (by rw [htrim]; decide) (by rw [htrim]; decide)
  rw [htrim] at hsaid
  obtain rfl := (Says.press "fine").unique hsaid
  exact ⟨⟨m, ds, w', hline, hparse, hprints⟩, by decide +kernel⟩

end Console.Session

end Chatflow

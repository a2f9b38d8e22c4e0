import Chatflow.Proofs.Bot.History
import Chatflow.Proofs.Bot.Moments
import Chatflow.Proofs.Context
import Chatflow.Proofs.Rendering.Template

/-!
# What messages call the subscriber

Before a block is sent in a conversation the event that led to it is taken into the context, and
with it the name of the sender. So every message of a conversation is rendered in a context that
describes the sender, whichever way the turn came to it (`World.user_described`).

The fallback text of the settings is sent outside of any conversation, in the empty context: there
the tokens of the user are replaced by nothing.
-/

namespace Chatflow

/-- A snapshot has the id and the names of a subscriber. -/
structure UserSnapshot.Describes (u : UserSnapshot) (s : Subscriber) : Prop where
  id : u.id = s.id
  firstName : u.firstName = s.firstName
  lastName : u.lastName = s.lastName

/-- The fields of a subscriber that a text may name, by their names. -/
def Subscriber.fields (s : Subscriber) : List (String × String) :=
  [("id", s.id), ("first_name", s.firstName), ("last_name", s.lastName)]

/-- What a token of the user becomes in a message: the field, or nothing outside of a
conversation. -/
def Sent.shows (x : Sent) (field : String) : String := if x.conversation.isSome then field else ""

/-- In texts that are rendered with a message, each token of the user becomes what it shows of the
field of a subscriber that it names. Other braces may not be around. -/
def Sent.NamesAs (x : Sent) (s : Subscriber) (contact : Dict String) : Prop :=
  ∀ name field, (name, field) ∈ s.fields → ∀ pre post : String,
    Template.opener ∉ pre.toList → Template.opener ∉ post.toList →
      Template.opener ∉ field.toList →
        Template.render (pre ++ Template.token ("context.user." ++ name) ++ post) x.context s.vars
          contact = pre ++ x.shows field ++ post

namespace UserSnapshot.Describes

variable {u : UserSnapshot} {s : Subscriber}

theorem find?_fields (h : u.Describes s) {name field : String} (hfield : (name, field) ∈ s.fields) :
    u.fields.find? name = some field := by
  simp only [Subscriber.fields, List.mem_cons, List.not_mem_nil, or_false, Prod.mk.injEq]
    at hfield
  obtain ⟨rfl, rfl⟩ | ⟨rfl, rfl⟩ | ⟨rfl, rfl⟩ := hfield
  · rw [find?_fields_id, h.id]
  · rw [find?_fields_firstName, h.firstName]
  · rw [find?_fields_lastName, h.lastName]

end UserSnapshot.Describes

namespace UserSnapshot

/-- Nobody has empty names. -/
theorem find?_fields_empty {s : Subscriber} {name field : String}
    (hfield : (name, field) ∈ s.fields) : UserSnapshot.empty.fields.find? name = some "" := by
  simp only [Subscriber.fields, List.mem_cons, List.not_mem_nil, or_false, Prod.mk.injEq]
    at hfield
  obtain ⟨rfl, -⟩ | ⟨rfl, -⟩ | ⟨rfl, -⟩ := hfield
  · exact find?_fields_id _
  · exact find?_fields_firstName _
  · exact find?_fields_lastName _

end UserSnapshot

/-! ### Stages -/

/-- The context of a conversation that took in an event describes the sender. -/
def Introduced (s : Subscriber) : Stage → Prop
  | .storing _ _ c | .entered _ _ c | .sending _ _ _ c | .sent _ _ _ c =>
    c.context.user.Describes s
  | _ => True

namespace Bot

variable {bot : Bot} {e : Event} {s : Subscriber} {p q : Stage × World}

/-- Every transition keeps it. -/
theorem Moves.introduced (hs : e.sender = some s) (h : bot.Moves e s p q)
    (hp : Introduced s p.1) : Introduced s q.1 := by
  cases h with
  | @bare w m b c | @kept w m b c =>
    have huser := Context.user_fold c.context b e hs
    exact ⟨congrArg (·.id) huser, congrArg (·.firstName) huser, congrArg (·.lastName) huser⟩
  | stored | entered | said | linked => exact hp
  | _ => trivial

/-- **A message of a conversation** is rendered in a context that describes the sender. Any other is
the fallback text. -/
theorem SendsAt.describes {event : Event} {x : Sent} {w v w' : World}
    {steps : List (Stage × Stage)} (h : bot.SendsAt event x w steps v w')
    (hs : event.sender = some s) :
    (x.conversation.isSome = true ∧ x.context.user.Describes s) ∨
      x.conversation = none ∧ x.block = bot.fallbackMessageBlock ∧ x.context = .empty := by
  obtain ⟨language, hs'⟩ := exists_sender_detectLanguage event bot.settings.languages hs
  cases h with
  | @intro _ _ stage _ _ _ _ hs'' hbefore hsends =>
    rw [hs'] at hs''
    obtain rfl := Option.some.inj hs''
    have hintroduced : Introduced { s with language := language } stage :=
      hbefore.path.preserves (I := fun r => Introduced _ r.1)
        (fun _ _ hmove => hmove.introduced hs') trivial
    obtain ⟨hisOf, -⟩ := hsends.isOf
    cases hisOf with
    | inside hcontext _ hconversation =>
      obtain ⟨hid, hfirst, hlast⟩ := hintroduced
      refine .inl ⟨by rw [hconversation, Option.isSome_some], ?_⟩
      rw [hcontext]
      exact ⟨hid, hfirst, hlast⟩
    | outside hblock hcontext hconversation => exact .inr ⟨hconversation, hblock, hcontext⟩

end Bot

/-! ### Turns -/

namespace World

variable {bot : Bot} {event : Event} {s : Subscriber} {w w' : World}
  {r : Except BotError Outcome}

/-- **What messages call the sender.** In every turn, whatever comes of it, each message is what its
block was rendered to in its context. Within a conversation this context has the id and the names of
the sender, and the tokens of the user become these. The one message outside of any is the fallback
text of the settings: its context is empty, and there the tokens become nothing. -/
theorem user_described (hs : event.sender = some s) (hrun : bot.handle event w = (r, w')) :
    ∀ x ∈ w'.sentSince w,
      (∃ steps v, bot.SendsAt event x w steps v w' ∧ x.IsRendered bot event s v) ∧
      ((x.conversation.isSome = true ∧ x.context.user.Describes s) ∨
        x.conversation = none ∧ x.block = bot.fallbackMessageBlock ∧ x.context = .empty) ∧
      ∀ contact, x.NamesAs s contact := by
  intro x hx
  obtain ⟨_, _, -, -, hmoments⟩ := bot.exists_sendsAt hs w
  rw [hrun] at hmoments
  obtain ⟨steps, v, -, hsent⟩ := hmoments x hx
  refine ⟨⟨steps, v, hsent, hsent.isRendered hs⟩, ?_⟩
  obtain ⟨hinside, hdescribes⟩ | ⟨hnone, hblock, hempty⟩ := hsent.describes hs
  · refine ⟨.inl ⟨hinside, hdescribes⟩, ?_⟩
    intro contact name field hfield pre post hpre hpost hbrace
    rw [Sent.shows, if_pos hinside]
    exact Template.render_userToken (hdescribes.find?_fields hfield) hpre hpost hbrace _ _
  · refine ⟨.inr ⟨hnone, hblock, hempty⟩, ?_⟩
    intro contact name field hfield pre post hpre hpost _
    have hshows : x.shows field = "" := by
      rw [Sent.shows, hnone]
      rfl
    rw [hshows, hempty]
    exact Template.render_userToken (UserSnapshot.find?_fields_empty hfield) hpre hpost
      (by decide) _ _

end World

namespace Sample

/-- Ann gives her name. -/
def named : Subscriber := { ann with firstName := "Ann" }

/-- Ann, of whom the name is known, writes something. -/
def namedSaying (text : String) : Event := { saying text with sender := some named }

/-- A bot that calls people by their names. -/
def greeter : Bot :=
  { bot with
    blocks := ⟨[{ hello with message := .texts ["Hello \x7bcontext.user.first_name\x7d!"] }]⟩
    settings := { Settings.none with
      globalFallback := true
      fallbackMessages := ["Sorry, \x7bcontext.user.first_name\x7d?"] } }

end Sample

namespace World

/-- Ann is greeted by her name, and nobody is told that the bot is sorry. -/
theorem user_described_ann :
    (∀ x ∈ (Bot.handle Sample.greeter (Sample.namedSaying "hi") (Sample.world [])).2.sentSince
        (Sample.world []), x.context.user.firstName = "Ann") ∧
      ((Bot.handle Sample.greeter (Sample.namedSaying "hi") (Sample.world [])).2.sentSince
        (Sample.world [])).map (·.envelope) = [.text "Hello Ann!"] := by
  refine ⟨fun x hx => ?_, by decide +kernel⟩
  have hinside : ∀ x ∈ (Bot.handle Sample.greeter (Sample.namedSaying "hi")
      (Sample.world [])).2.sentSince (Sample.world []), x.conversation ≠ none := by decide +kernel
  obtain ⟨-, hcontext, -⟩ := user_described (s := Sample.named) rfl (Prod.eta _).symm x hx
  obtain ⟨-, hdescribes⟩ | ⟨hnone, -⟩ := hcontext
  · exact hdescribes.firstName
  · exact absurd hnone (hinside x hx)

/-- The fallback text leaves out the name, though it is known. -/
theorem user_nameless :
    (Sample.namedSaying "what?").sender = some Sample.named ∧ Sample.named.firstName = "Ann" ∧
      ((Bot.handle Sample.greeter (Sample.namedSaying "what?") (Sample.world [])).2.sentSince
        (Sample.world [])).map (fun x => (x.context.user.firstName, x.envelope)) =
        [("", .text "Sorry, ?")] :=
  ⟨rfl, rfl, by decide +kernel⟩

end World

end Chatflow

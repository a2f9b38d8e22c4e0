import Chatflow.Proofs.Bot.Calls
import Chatflow.Proofs.Store.Conversations
import Mathlib.Logic.Equiv.Basic

/-!
# Two worlds in step

What a turn does depends on what belongs to its party: the sender with the conversations that it
has, and the outbox in which the answers wait. To see this, one turn is run in two worlds that may
differ in everything else. `InStep` says what stays alike while it runs, apart from the ids of
messages and of conversations, and that neither world changes in what belongs to others
(`Owned`). Here are the steps of the stores and of the channels, one lemma for each.
-/

namespace Chatflow

open ConversationStore

/-- Whose turn it is, and where the answers go. -/
structure Party where
  /-- The id of the sender. -/
  sender : String
  /-- The name of the channel. -/
  channel : String
  /-- The id of the sender on the channel. -/
  foreignId : String

/-- The party of an event of a subscriber. -/
def Party.of (e : Event) (s : Subscriber) : Party := ⟨s.id, e.channel, s.foreignId⟩

namespace World

/-- What a turn reads of a world, with what it does to that. The rest is on record only. -/
structure Core where
  /-- The conversations. -/
  conversations : ConversationStore
  /-- The subscribers. -/
  subscribers : SubscriberStore
  /-- The channels. -/
  channels : Channel.Registry
  /-- How many numbers were drawn. -/
  drawn : Nat

/-- The core of a world. -/
def core (w : World) : Core := ⟨w.conversations, w.subscribers, w.channels, w.drawn⟩

end World

/-- A conversation under another id. -/
def Conversation.renamed (ρ : Equiv.Perm String) (c : Conversation) : Conversation :=
  { c with id := ρ c.id }

theorem Conversation.renamed_injective {ρ : Equiv.Perm String} {c c' : Conversation}
    (h : c.renamed ρ = c'.renamed ρ) : c = c' := by
  obtain ⟨id, sender, active, current, next, context⟩ := c
  obtain ⟨id', sender', active', current', next', context'⟩ := c'
  simpa [renamed] using h

/-- A delivery without the id of its message. -/
def Widget.Delivery.unnamed (d : Widget.Delivery) : Widget.Delivery :=
  { d with message := { d.message with mid := "" } }

/-! ### One world -/

namespace World.Core

/-- A world differs from an earlier one in nothing that belongs to others than the party, nor in
channels other than its own; and some conversations were created since. -/
structure Owned (p : Party) (u : Core) (n : Nat) (w : Core) : Prop where
  /-- The conversations of others are as they were. -/
  others : ∀ id c, c.sender ≠ p.sender →
    (w.conversations.find? id = some c ↔ u.conversations.find? id = some c)
  /-- Other subscribers are as they were. -/
  subscribers : ∀ id, id ≠ p.sender → w.subscribers.find? id = u.subscribers.find? id
  /-- Other channels are as they were. -/
  channels : ∀ name, name ≠ p.channel → w.channels.find? name = u.channels.find? name
  /-- The conversations are in order. -/
  tidy : w.conversations.Tidy
  /-- So many were created. -/
  created : w.conversations.created = u.conversations.created + n

/-- A conversation in hand is an active one of the party, and so is the one on record. -/
structure Holds (p : Party) (w : Core) (c : Conversation) : Prop where
  /-- The one on record. -/
  record : ∃ r, w.conversations.find? c.id = some r ∧ isActiveOf p.sender r = true
  /-- The one in hand. -/
  own : isActiveOf p.sender c = true

variable {p : Party} {u w : Core} {n : Nat} {c : Conversation}

theorem Owned.refl (htidy : u.conversations.Tidy) : Owned p u 0 u :=
  ⟨fun _ _ _ => Iff.rfl, fun _ _ => rfl, fun _ _ => rfl, htidy, rfl⟩

/-- To put a conversation of the party in a free place, or over one of the party, does nothing to
those of others. -/
theorem Owned.others_insert (h : Owned p u n w) {store : ConversationStore} {k : String}
    (hstore : ∀ id, store.find? id = if id = k then some c else w.conversations.find? id)
    (hc : c.sender = p.sender)
    (hk : ∀ r, w.conversations.find? k = some r → r.sender = p.sender) (id : String)
    (c' : Conversation) (hc' : c'.sender ≠ p.sender) :
    store.find? id = some c' ↔ u.conversations.find? id = some c' := by
  rw [← h.others id c' hc', hstore]
  split
  · rename_i hid
    subst hid
    constructor
    · intro hsame
      exact absurd (Option.some.inj hsame ▸ hc) hc'
    · intro hsame
      exact absurd (hk c' hsame) hc'
  · exact Iff.rfl

/-- A write keeps what belongs to others. -/
theorem Owned.update (h : Owned p u n w) {store : ConversationStore} (hc : w.Holds p c)
    (hstore : w.conversations.update c = .ok store) :
    Owned p u n { w with conversations := store } := by
  obtain ⟨⟨r, hr, hactive⟩, hown⟩ := hc
  have hr_sender := (isActiveOf_iff.mp hactive).2
  refine ⟨h.others_insert (find?_update hstore) (isActiveOf_iff.mp hown).2 fun r' hr' => ?_,
    h.subscribers, h.channels, h.tidy.update hstore hr fun sender hsender => ?_, ?_⟩
  · obtain rfl := Option.some.inj (hr.symm.trans hr')
    exact hr_sender
  · -- both are conversations of the same sender
    have hsame := (isActiveOf_iff.mp hsender).2
    rwa [← hsame, (isActiveOf_iff.mp hown).2]
  · obtain ⟨-, rfl⟩ := update_eq_ok_iff.mp hstore
    exact h.created

/-- An end keeps what belongs to others. -/
theorem Owned.finish (h : Owned p u n w) {store : ConversationStore} {r : Conversation}
    {id : String} (hr : w.conversations.find? id = some r) (hsender : r.sender = p.sender)
    (hstore : w.conversations.finish id = .ok store) :
    Owned p u n { w with conversations := store } := by
  refine ⟨h.others_insert (find?_finish hstore hr) hsender fun r' hr' => ?_, h.subscribers,
    h.channels, h.tidy.finish hstore, ?_⟩
  · obtain rfl := Option.some.inj (hr.symm.trans hr')
    exact hsender
  · obtain ⟨-, -, rfl⟩ := finish_eq_ok_iff.mp hstore
    exact h.created

/-- A new conversation of the party keeps what belongs to others. -/
theorem Owned.create (h : Owned p u n w) {store : ConversationStore}
    (hstore : w.conversations.create p.sender = .ok (c, store)) :
    Owned p u (n + 1) { w with conversations := store } := by
  have htidy := h.tidy.create hstore
  have hfind := find?_create hstore
  obtain ⟨-, rfl, rfl⟩ := create_eq_ok_iff.mp hstore
  refine ⟨h.others_insert hfind rfl fun r hr => ?_, h.subscribers, h.channels, htidy,
    congrArg (· + 1) h.created⟩
  have hfree := h.tidy.free _ (Nat.le_refl _)
  exact absurd (hfree.symm.trans hr) (Option.some_ne_none r).symm

/-- A change to the subscriber of the party keeps what belongs to others. -/
theorem Owned.insertSubscriber (h : Owned p u n w) (s : Subscriber) :
    Owned p u n { w with subscribers :=
      { w.subscribers with records := w.subscribers.records.insert p.sender s } } := by
  refine ⟨h.others, fun id hid => ?_, h.channels, h.tidy, h.created⟩
  rw [← h.subscribers id hid]
  exact (Dict.find?_insert _ _ _ _).trans (if_neg hid)

/-- A change to the channel of the party keeps what belongs to others. -/
theorem Owned.insertChannel (h : Owned p u n w) (channel : Channel) :
    Owned p u n { w with channels := w.channels.insert p.channel channel } := by
  refine ⟨h.others, h.subscribers, fun name hname => ?_, h.tidy, h.created⟩
  rw [← h.channels name hname]
  exact (Dict.find?_insert _ _ _ _).trans (if_neg hname)

/-- A number that is drawn keeps what belongs to others. -/
theorem Owned.draw (h : Owned p u n w) : Owned p u n { w with drawn := w.drawn + 1 } :=
  ⟨h.others, h.subscribers, h.channels, h.tidy, h.created⟩

/-! ### Two worlds -/

/-- **Two worlds in which the same turn is run are in step**: what belongs to the party is alike,
up to the ids of conversations and of messages, and what belongs to others is as it was. -/
structure InStep (p : Party) (ρ : Equiv.Perm String) (u₁ u₂ : Core) (n : Nat) (w₁ w₂ : Core) :
    Prop where
  /-- One world. -/
  left : Owned p u₁ n w₁
  /-- The other world. -/
  right : Owned p u₂ n w₂
  /-- The party has the same conversations, but for their ids. -/
  records : ∀ id c, c.sender = p.sender →
    (w₂.conversations.find? (ρ id) = some (c.renamed ρ) ↔ w₁.conversations.find? id = some c)
  /-- The party is on record as the same subscriber. -/
  subscriber : w₂.subscribers.find? p.sender = w₁.subscribers.find? p.sender
  /-- As many numbers were drawn. -/
  drawn : ∃ k, w₁.drawn = u₁.drawn + k ∧ w₂.drawn = u₂.drawn + k
  /-- The party was sent the same messages, but for their ids. -/
  outboxes : ∃ o₁ o₂ ds₁ ds₂, u₁.channels.find? p.channel = some (.widget o₁) ∧
    u₂.channels.find? p.channel = some (.widget o₂) ∧
    w₁.channels.find? p.channel = some (.widget (o₁ ++ ds₁)) ∧
    w₂.channels.find? p.channel = some (.widget (o₂ ++ ds₂)) ∧
    ds₂.map (·.unnamed) = ds₁.map (·.unnamed) ∧ ∀ d ∈ ds₁, d.recipient = p.foreignId

namespace InStep

variable {ρ : Equiv.Perm String} {u₁ u₂ w₁ w₂ : Core}

/-- To put the same conversation of the party in both worlds leaves them alike. -/
theorem records_insert (h : InStep p ρ u₁ u₂ n w₁ w₂) {s₁ s₂ : ConversationStore} {k : String}
    (h₁ : ∀ id, s₁.find? id = if id = k then some c else w₁.conversations.find? id)
    (h₂ : ∀ id, s₂.find? id = if id = ρ k then some (c.renamed ρ)
      else w₂.conversations.find? id) (id : String) (c' : Conversation)
    (hc' : c'.sender = p.sender) :
    s₂.find? (ρ id) = some (c'.renamed ρ) ↔ s₁.find? id = some c' := by
  rw [h₁, h₂]
  by_cases hid : id = k
  · rw [if_pos hid, if_pos (congrArg ρ hid)]
    constructor
    · intro hsame
      rw [Conversation.renamed_injective (Option.some.inj hsame)]
    · intro hsame
      rw [Option.some.inj hsame]
  · rw [if_neg hid, if_neg fun hρ => hid (ρ.injective hρ)]
    exact h.records id c' hc'

/-- What is on record of the party in one world is on record in the other. -/
theorem find?_renamed (h : InStep p ρ u₁ u₂ n w₁ w₂) {id : String} {r : Conversation}
    (hr : w₁.conversations.find? id = some r) (hactive : isActiveOf p.sender r = true) :
    w₂.conversations.find? (ρ id) = some (r.renamed ρ) :=
  (h.records id r (isActiveOf_iff.mp hactive).2).mpr hr

theorem holds_renamed (h : InStep p ρ u₁ u₂ n w₁ w₂) (hc : w₁.Holds p c) :
    w₂.Holds p (c.renamed ρ) := by
  obtain ⟨⟨r, hr, hactive⟩, hown⟩ := hc
  exact ⟨⟨r.renamed ρ, h.find?_renamed hr hactive, hactive⟩, hown⟩

/-- A write keeps two worlds in step. -/
theorem update (h : InStep p ρ u₁ u₂ n w₁ w₂) (hc : w₁.Holds p c) :
    ∃ s₁ s₂, w₁.conversations.update c = .ok s₁ ∧
      w₂.conversations.update (c.renamed ρ) = .ok s₂ ∧
      InStep p ρ u₁ u₂ n { w₁ with conversations := s₁ } { w₂ with conversations := s₂ } ∧
      Holds p { w₁ with conversations := s₁ } c := by
  have hc₂ := h.holds_renamed hc
  obtain ⟨s₁, hs₁⟩ : ∃ s₁, w₁.conversations.update c = .ok s₁ :=
    ⟨_, update_eq_ok_iff.mpr ⟨hc.record.imp fun _ hr => hr.1, rfl⟩⟩
  obtain ⟨s₂, hs₂⟩ : ∃ s₂, w₂.conversations.update (c.renamed ρ) = .ok s₂ :=
    ⟨_, update_eq_ok_iff.mpr ⟨hc₂.record.imp fun _ hr => hr.1, rfl⟩⟩
  refine ⟨s₁, s₂, hs₁, hs₂, ⟨h.left.update hc hs₁, h.right.update hc₂ hs₂,
    h.records_insert (find?_update hs₁) (find?_update hs₂), h.subscriber, h.drawn, h.outboxes⟩,
    ⟨c, ?_, hc.own⟩, hc.own⟩
  exact (find?_update hs₁ c.id).trans (if_pos rfl)

/-- An end keeps two worlds in step. -/
theorem finish (h : InStep p ρ u₁ u₂ n w₁ w₂) (hc : w₁.Holds p c) :
    ∃ s₁ s₂, w₁.conversations.finish c.id = .ok s₁ ∧
      w₂.conversations.finish (c.renamed ρ).id = .ok s₂ ∧
      InStep p ρ u₁ u₂ n { w₁ with conversations := s₁ } { w₂ with conversations := s₂ } := by
  obtain ⟨⟨r, hr, hactive⟩, -⟩ := hc
  have hr₂ := h.find?_renamed hr hactive
  have hsender := (isActiveOf_iff.mp hactive).2
  obtain ⟨s₁, hs₁⟩ : ∃ s₁, w₁.conversations.finish c.id = .ok s₁ :=
    ⟨_, finish_eq_ok_iff.mpr ⟨r, hr, rfl⟩⟩
  obtain ⟨s₂, hs₂⟩ : ∃ s₂, w₂.conversations.finish (ρ c.id) = .ok s₂ :=
    ⟨_, finish_eq_ok_iff.mpr ⟨_, hr₂, rfl⟩⟩
  exact ⟨s₁, s₂, hs₁, hs₂, h.left.finish hr hsender hs₁, h.right.finish hr₂ hsender hs₂,
    h.records_insert (find?_finish hs₁ hr) (find?_finish hs₂ hr₂), h.subscriber, h.drawn,
    h.outboxes⟩

/-- The party has the same active conversation. -/
theorem active?_renamed (h : InStep p ρ u₁ u₂ n w₁ w₂) :
    w₂.conversations.active? p.sender =
      (w₁.conversations.active? p.sender).map (·.renamed ρ) := by
  cases hactive : w₁.conversations.active? p.sender with
  | some c =>
    obtain ⟨hc, hown⟩ := h.left.tidy.find?_of_active? hactive
    exact h.right.tidy.active?_of_find? (h.find?_renamed hc hown) hown
  | none =>
    cases hactive₂ : w₂.conversations.active? p.sender with
    | none => rfl
    | some c =>
      -- it would be on record in the first world, too
      obtain ⟨hc, hown⟩ := h.right.tidy.find?_of_active? hactive₂
      have hc₁ := (h.records (ρ.symm c.id) (c.renamed ρ.symm) (isActiveOf_iff.mp hown).2).mp
        (by simpa [Conversation.renamed] using hc)
      have hsome := h.left.tidy.active?_of_find? hc₁ hown
      rw [hactive] at hsome
      cases hsome

/-- An active conversation is held. -/
theorem holds_of_active? (h : InStep p ρ u₁ u₂ n w₁ w₂)
    (hc : w₁.conversations.active? p.sender = some c) : w₁.Holds p c := by
  obtain ⟨hfind, hown⟩ := h.left.tidy.find?_of_active? hc
  exact ⟨⟨c, hfind, hown⟩, hown⟩

/-- The party is given the same conversation, or in both worlds none. -/
theorem create (h : InStep p ρ u₁ u₂ 0 w₁ w₂)
    (hρ : ρ (idAfter u₁.conversations.created) = idAfter u₂.conversations.created) :
    (∃ cause, w₁.conversations.create p.sender = .error cause ∧
        w₂.conversations.create p.sender = .error cause) ∨
      ∃ c s₁ s₂, w₁.conversations.create p.sender = .ok (c, s₁) ∧
        w₂.conversations.create p.sender = .ok (c.renamed ρ, s₂) ∧
        InStep p ρ u₁ u₂ 1 { w₁ with conversations := s₁ } { w₂ with conversations := s₂ } ∧
        Holds p { w₁ with conversations := s₁ } c := by
  have hactive := h.active?_renamed
  cases hactive₁ : w₁.conversations.active? p.sender with
  | some c =>
    have hsome : w₂.conversations.active? p.sender ≠ none := by rw [hactive, hactive₁]; nofun
    have hsome₁ : w₁.conversations.active? p.sender ≠ none := by rw [hactive₁]; nofun
    rw [Ne, active?_eq_none_iff] at hsome hsome₁
    exact .inl ⟨_, create_of_activeCount_ne_zero hsome₁, create_of_activeCount_ne_zero hsome⟩
  | none =>
    rw [hactive₁] at hactive
    -- the next ids are renamed into each other, as none was given out since
    have hid : ρ (idAfter w₁.conversations.created) = idAfter w₂.conversations.created := by
      rw [h.left.created, h.right.created]
      exact hρ
    have hs₁ := create_eq_ok_iff.mpr ⟨active?_eq_none_iff.mp hactive₁, rfl, rfl⟩
    have hs₂ := create_eq_ok_iff.mpr ⟨active?_eq_none_iff.mp hactive, rfl, rfl⟩
    have hfresh : (Conversation.fresh (idAfter w₁.conversations.created) p.sender).renamed ρ =
        .fresh (idAfter w₂.conversations.created) p.sender := by
      rw [Conversation.renamed, Conversation.fresh, hid]
      rfl
    have hfind₂ := find?_create hs₂
    rw [← hfresh] at hs₂ hfind₂
    have hown : isActiveOf p.sender (.fresh (idAfter w₁.conversations.created) p.sender) = true :=
      isActiveOf_iff.mpr ⟨rfl, rfl⟩
    refine .inr ⟨_, _, _, hs₁, hs₂, ⟨h.left.create hs₁, h.right.create hs₂,
      h.records_insert (find?_create hs₁) hfind₂, h.subscriber, h.drawn, h.outboxes⟩,
      ⟨_, ?_, hown⟩, hown⟩
    exact (find?_create hs₁ _).trans (if_pos rfl)

/-- The subscriber of the party is changed alike, or in both worlds is not there. -/
theorem modify (h : InStep p ρ u₁ u₂ n w₁ w₂) (change : Subscriber → Subscriber) :
    (∃ cause, w₁.subscribers.modify p.sender change = .error cause ∧
        w₂.subscribers.modify p.sender change = .error cause) ∨
      ∃ r s₁ s₂, w₁.subscribers.modify p.sender change = .ok (r, s₁) ∧
        w₂.subscribers.modify p.sender change = .ok (r, s₂) ∧
        InStep p ρ u₁ u₂ n { w₁ with subscribers := s₁ } { w₂ with subscribers := s₂ } := by
  rw [SubscriberStore.modify, SubscriberStore.modify, h.subscriber]
  cases w₁.subscribers.find? p.sender with
  | none => exact .inl ⟨_, rfl, rfl⟩
  | some r =>
    refine .inr ⟨_, _, _, rfl, rfl, h.left.insertSubscriber _, h.right.insertSubscriber _,
      h.records, ?_, h.drawn, h.outboxes⟩
    exact (Dict.find?_insert_self _ _ _).trans (Dict.find?_insert_self _ _ _).symm

/-- The party is sent the same message. -/
theorem push (h : InStep p ρ u₁ u₂ n w₁ w₂) :
    ∃ o₁ o₂, w₁.channels.find? p.channel = some (.widget o₁) ∧
      w₂.channels.find? p.channel = some (.widget o₂) ∧
      ∀ d₁ d₂, d₂.unnamed = d₁.unnamed → d₁.recipient = p.foreignId →
        InStep p ρ u₁ u₂ n
          { w₁ with channels := w₁.channels.insert p.channel (.widget (o₁ ++ [d₁])) }
          { w₂ with channels := w₂.channels.insert p.channel (.widget (o₂ ++ [d₂])) } := by
  obtain ⟨o₁, o₂, ds₁, ds₂, hu₁, hu₂, hw₁, hw₂, hsame, hrecipient⟩ := h.outboxes
  refine ⟨_, _, hw₁, hw₂, fun d₁ d₂ hd hd₁ => ⟨h.left.insertChannel _, h.right.insertChannel _,
    h.records, h.subscriber, h.drawn, o₁, o₂, ds₁ ++ [d₁], ds₂ ++ [d₂], hu₁, hu₂, ?_, ?_, ?_, ?_⟩⟩
  · rw [← List.append_assoc]
    exact Dict.find?_insert_self _ _ _
  · rw [← List.append_assoc]
    exact Dict.find?_insert_self _ _ _
  · rw [List.map_append, List.map_append, hsame, List.map_singleton, List.map_singleton, hd]
  · intro d hd
    obtain hd | hd := List.mem_append.mp hd
    · exact hrecipient d hd
    · exact List.mem_singleton.mp hd ▸ hd₁

/-- A number is drawn in both worlds. -/
theorem draw (h : InStep p ρ u₁ u₂ n w₁ w₂) :
    InStep p ρ u₁ u₂ n { w₁ with drawn := w₁.drawn + 1 } { w₂ with drawn := w₂.drawn + 1 } := by
  obtain ⟨k, h₁, h₂⟩ := h.drawn
  exact ⟨h.left.draw, h.right.draw, h.records, h.subscriber, ⟨k + 1, congrArg (· + 1) h₁,
    congrArg (· + 1) h₂⟩, h.outboxes⟩

end InStep

end World.Core

end Chatflow

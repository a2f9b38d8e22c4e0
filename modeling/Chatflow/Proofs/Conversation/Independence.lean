import Chatflow.Proofs.Bot.History
import Chatflow.Proofs.Bot.Twin

/-!
# Subscribers are independent

What a turn does for one subscriber does not depend on the turns of others, and the others do not
see it: `World.turns_independent`. The two turns are run in either order. Each is then one turn in
two worlds (`Twin`), before and after the other, which are in step as the other turn changes
nothing that belongs to its party.

The ids of conversations are given out in the order of the turns, so the worlds at the end are alike
but for those (`World.Alike`). A store must not hold a conversation under an id that is still to be
given out: it would be lost (`World.turn_overwrites`).
-/

namespace Chatflow

open ConversationStore

/-! ### Ids -/

section Ids

variable {s : ConversationStore} {c : Conversation} {id : String} {ρ : Equiv.Perm String}

/-- To rename what is not there changes nothing. -/
theorem ConversationStore.Tidy.find?_renamed (h : s.Tidy)
    (hfree : ∀ id, ρ id ≠ id → s.find? id = none) (id : String) (c : Conversation) :
    s.find? (ρ id) = some (c.renamed ρ) ↔ s.find? id = some c := by
  have hfixed : ∀ {id c}, s.find? id = some c → ρ id = id := fun {id c} hc =>
    Decidable.byContradiction fun hne => Option.some_ne_none c (hc.symm.trans (hfree id hne))
  have hrenamed : c.id = id → ρ id = id → c.renamed ρ = c := fun hc hid => by
    rw [Conversation.renamed, hc, hid, ← hc]
  constructor
  · intro hfind
    have hid : ρ id = id := ρ.injective (hfixed hfind)
    have hc : c.id = id := ρ.injective (h.id_eq hfind)
    rwa [hid, hrenamed hc hid] at hfind
  · intro hfind
    have hid := hfixed hfind
    rwa [hid, hrenamed (h.id_eq hfind) hid]

/-- How the ids given out after `m` others are exchanged with those given out after `n`. -/
def exchange (m n : Nat) : Equiv.Perm String := Equiv.swap (idAfter m) (idAfter n)

theorem exchange_apply (m n : Nat) : exchange m n (idAfter m) = idAfter n :=
  Equiv.swap_apply_left _ _

/-- Only ids given out later are exchanged. -/
theorem exists_of_exchange_ne {k m n : Nat} (hm : k ≤ m) (hn : k ≤ n)
    (h : exchange m n id ≠ id) : ∃ i ≥ k, id = idAfter i := by
  by_cases hid : id = idAfter m
  · exact ⟨m, hm, hid⟩
  · by_cases hid' : id = idAfter n
    · exact ⟨n, hn, hid'⟩
    · exact absurd (Equiv.swap_apply_of_ne_of_ne hid hid') h

theorem ConversationStore.Tidy.find?_exchange (h : s.Tidy) {m n : Nat} (hm : s.created ≤ m)
    (hn : s.created ≤ n) (id : String) (c : Conversation) :
    s.find? (exchange m n id) = some (c.renamed (exchange m n)) ↔ s.find? id = some c := by
  refine h.find?_renamed (fun id hne => ?_) id c
  obtain ⟨i, hi, rfl⟩ := exists_of_exchange_ne hm hn hne
  exact h.free i hi

theorem exchange_self (m : Nat) : exchange m m = Equiv.refl String := Equiv.swap_self _

theorem exchange_exchange (m n : Nat) (id : String) : exchange m n (exchange m n id) = id :=
  Equiv.swap_apply_self _ _ _

theorem Conversation.renamed_exchange (m n : Nat) (c : Conversation) :
    (c.renamed (exchange m n)).renamed (exchange m n) = c :=
  congrArg (fun id => { c with id := id }) (exchange_exchange m n c.id)

end Ids

/-- The turn of a bot that chooses its texts by the given numbers. -/
def Bot.turn (bot : Bot) (rolls : Nat → Nat) (e : Event) (w : World) :
    Except BotError Outcome × World :=
  (bot.drawing rolls w).handle e w

/-- Two parties have different senders, and messages for one are not for the other. -/
structure Party.Apart (p q : Party) : Prop where
  /-- The senders are different. -/
  senders : p.sender ≠ q.sender
  /-- The places in which the answers wait are different. -/
  addresses : (p.channel, p.foreignId) ≠ (q.channel, q.foreignId)

theorem Party.Apart.symm {p q : Party} (h : p.Apart q) : q.Apart p :=
  ⟨h.senders.symm, h.addresses.symm⟩

namespace World

/-- What waits for a recipient in a channel. -/
def waitingFor (w : World) (channel recipient : String) : List Widget.Delivery :=
  ((w.channels.find? channel).elim [] Channel.deliveries).filter (·.recipient = recipient)

/-- What a recipient is shown in a channel. -/
def shownTo (w : World) (channel recipient : String) : List Widget.Delivery :=
  (w.waitingFor channel recipient).map (·.unnamed)

/-- Nothing has changed but what belongs to a party: its conversations, its subscriber, and its
channel, to which only messages for it were added. -/
structure OnlyOf (p : Party) (w w' : World) : Prop where
  /-- The conversations of others are as they were. -/
  conversations : ∀ id c, c.sender ≠ p.sender →
    (w'.conversations.find? id = some c ↔ w.conversations.find? id = some c)
  /-- Other subscribers are as they were. -/
  subscribers : ∀ id, id ≠ p.sender → w'.subscribers.find? id = w.subscribers.find? id
  /-- Other channels are as they were. -/
  channels : ∀ name, name ≠ p.channel → w'.channels.find? name = w.channels.find? name
  /-- Messages for the party were added. -/
  outbox : ∃ o ds, w.channels.find? p.channel = some (.widget o) ∧
    w'.channels.find? p.channel = some (.widget (o ++ ds)) ∧ ∀ d ∈ ds, d.recipient = p.foreignId

/-- Two worlds that came of one are alike: each recipient is shown the same, the subscribers are the
same, and so are the conversations, but for the ids given out since. -/
structure Alike (w v v' : World) : Prop where
  /-- Each recipient is shown the same. -/
  messages : ∀ channel recipient, v'.shownTo channel recipient = v.shownTo channel recipient
  /-- The subscribers are the same. -/
  subscribers : ∀ id, v'.subscribers.find? id = v.subscribers.find? id
  /-- The conversations are the same. -/
  conversations : ∃ ρ : Equiv.Perm String,
    (∀ id, ρ id ≠ id → ∃ n ≥ w.conversations.created, id = idAfter n) ∧
    ∀ id c, v'.conversations.find? (ρ id) = some (c.renamed ρ) ↔ v.conversations.find? id = some c

/-- Two worlds hold the same of a party, but for the ids of its conversations. -/
structure AlikeOf (p : Party) (ρ : Equiv.Perm String) (v v' : World) : Prop where
  /-- It is shown the same. -/
  messages : v'.shownTo p.channel p.foreignId = v.shownTo p.channel p.foreignId
  /-- It is the same subscriber. -/
  subscriber : v'.subscribers.find? p.sender = v.subscribers.find? p.sender
  /-- It has the same conversations. -/
  records : ∀ id c, c.sender = p.sender →
    (v'.conversations.find? (ρ id) = some (c.renamed ρ) ↔ v.conversations.find? id = some c)

variable {p q : Party} {ρ : Equiv.Perm String} {w v w' v' : World} {n : Nat}

theorem AlikeOf.symm {m : Nat} (h : AlikeOf p (exchange n m) v v') :
    AlikeOf p (exchange n m) v' v := by
  refine ⟨h.messages.symm, h.subscriber.symm, fun id c hc => ?_⟩
  rw [← h.records _ (c.renamed (exchange n m)) hc, exchange_exchange, Conversation.renamed_exchange]

/-! ### The turn of one party -/

/-- Others are shown what they were shown before. -/
theorem OnlyOf.shownTo_eq (h : w.OnlyOf p w') {channel recipient : String}
    (hne : (channel, recipient) ≠ (p.channel, p.foreignId)) :
    w'.shownTo channel recipient = w.shownTo channel recipient := by
  obtain ⟨o, ds, ho, hds, hrecipient⟩ := h.outbox
  refine congrArg (List.map _) ?_
  rw [waitingFor, waitingFor]
  by_cases hchannel : channel = p.channel
  · subst hchannel
    -- what was added is for another recipient
    have hadded : ds.filter (·.recipient = recipient) = [] := by
      rw [List.filter_eq_nil_iff]
      intro d hd hsame
      rw [decide_eq_true_eq, hrecipient d hd] at hsame
      exact hne (by rw [hsame])
    rw [ho, hds]
    exact (List.filter_append o ds).trans ((congrArg _ hadded).trans (List.append_nil _))
  · rw [h.channels channel hchannel]

/-- Where the turn of one party leaves what the other has. -/
theorem OnlyOf.alikeOf (h : w.OnlyOf q w') (hapart : p.Apart q) :
    AlikeOf p (Equiv.refl String) w w' :=
  ⟨h.shownTo_eq hapart.addresses, h.subscribers _ hapart.senders,
    fun id c hc => h.conversations id c (hc ▸ hapart.senders)⟩

/-- A widget channel stays one. -/
theorem OnlyOf.widget (h : w.OnlyOf p w') {name : String}
    (hname : ∃ o, w.channels.find? name = some (.widget o)) :
    ∃ o, w'.channels.find? name = some (.widget o) := by
  by_cases hp : name = p.channel
  · obtain ⟨o, ds, -, hds, -⟩ := h.outbox
    exact ⟨_, hp ▸ hds⟩
  · rwa [h.channels name hp]

namespace Core.InStep

theorem onlyOf (h : InStep p ρ w.core v.core n w'.core v'.core) : w.OnlyOf p w' := by
  obtain ⟨o, -, ds, -, ho, -, hds, -, -, hrecipient⟩ := h.outboxes
  exact ⟨h.left.others, h.left.subscribers, h.left.channels, o, ds, ho, hds, hrecipient⟩

/-- Worlds that hold the same of a party are in step. -/
theorem start (htidy : w.conversations.Tidy) (htidy' : v.conversations.Tidy)
    (hcreated : w.conversations.created ≤ v.conversations.created)
    (hsame : AlikeOf p (Equiv.refl String) w v)
    (hchannel : ∃ o, w.channels.find? p.channel = some (.widget o))
    (hchannel' : ∃ o, v.channels.find? p.channel = some (.widget o)) :
    InStep p (exchange w.conversations.created v.conversations.created) w.core v.core 0
      w.core v.core where
  left := .refl htidy
  right := .refl htidy'
  records id c hc := (hsame.records (exchange _ _ id) (c.renamed (exchange _ _)) hc).trans
    (htidy.find?_exchange (Nat.le_refl _) hcreated id c)
  subscriber := hsame.subscriber
  drawn := ⟨0, rfl, rfl⟩
  outboxes := by
    obtain ⟨o, ho⟩ := hchannel
    obtain ⟨o', ho'⟩ := hchannel'
    refine ⟨o, o', [], [], ho, ho', ?_, ?_, rfl, fun d hd => absurd hd List.not_mem_nil⟩
    · rwa [List.append_nil]
    · rwa [List.append_nil]

/-- Who was shown the same before the turn is shown the same after it. -/
theorem shownTo_eq (h : InStep p ρ w.core v.core n w'.core v'.core)
    (hsame : v.shownTo p.channel p.foreignId = w.shownTo p.channel p.foreignId) :
    v'.shownTo p.channel p.foreignId = w'.shownTo p.channel p.foreignId := by
  obtain ⟨o₁, o₂, ds₁, ds₂, hw, hv, hw', hv', hadded, -⟩ := h.outboxes
  have hw : w.channels.find? p.channel = some (.widget o₁) := hw
  have hv : v.channels.find? p.channel = some (.widget o₂) := hv
  have hw' : w'.channels.find? p.channel = some (.widget (o₁ ++ ds₁)) := hw'
  have hv' : v'.channels.find? p.channel = some (.widget (o₂ ++ ds₂)) := hv'
  have hfilter : ∀ ds : List Widget.Delivery,
      (ds.filter (·.recipient = p.foreignId)).map (·.unnamed) =
        (ds.map (·.unnamed)).filter (·.recipient = p.foreignId) := fun ds => by
    rw [List.filter_map]
    rfl
  simp only [shownTo, waitingFor, hw, hv, Option.elim_some, Channel.deliveries, hfilter] at hsame
  simp only [shownTo, waitingFor, hw', hv', Option.elim_some, Channel.deliveries, hfilter,
    List.map_append, List.filter_append, hsame, hadded]

/-- The ids of the conversations of a party are exchanged only if it was given one itself. -/
theorem records_exchange {m : Nat} (h : InStep p (exchange w.conversations.created
      (w.conversations.created + m)) w.core v.core n w'.core v'.core) (hn : n ≤ 1)
    (id : String) (c : Conversation) (hc : c.sender = p.sender) :
    v'.conversations.find?
        (exchange w.conversations.created (w.conversations.created + n * m) id) =
        some (c.renamed (exchange w.conversations.created
          (w.conversations.created + n * m))) ↔
      w'.conversations.find? id = some c := by
  obtain rfl | rfl : n = 0 ∨ n = 1 := by omega
  · -- no id has been given out, so none is exchanged in the first world
    have hcreated : w'.conversations.created = w.conversations.created := h.left.created
    have hback := h.records (exchange w.conversations.created (w.conversations.created + m) id)
      (c.renamed (exchange w.conversations.created (w.conversations.created + m))) hc
    rw [exchange_exchange, Conversation.renamed_exchange] at hback
    rw [Nat.zero_mul, Nat.add_zero, exchange_self]
    exact hback.trans (h.left.tidy.find?_exchange (Nat.le_of_eq hcreated)
      (Nat.le_trans (Nat.le_of_eq hcreated) (Nat.le_add_right _ _)) id c)
  · rw [Nat.one_mul]
    exact h.records id c hc

end Core.InStep

/-! ### Two turns -/

section Turns

variable {bot : Bot} {e f : Event} {s t : Subscriber} {rolls rolls' : Nat → Nat}

/-- **One turn in two worlds** that hold the same of its party comes to the same in both. -/
theorem turn_inStep (himpartial : bot.Impartial) (hs : e.sender = some s) (rolls : Nat → Nat)
    (htidy : w.conversations.Tidy) (htidy' : v.conversations.Tidy)
    (hcreated : w.conversations.created ≤ v.conversations.created)
    (hsame : AlikeOf (.of e s) (Equiv.refl String) w v)
    (hchannel : ∃ o, w.channels.find? e.channel = some (.widget o))
    (hchannel' : ∃ o, v.channels.find? e.channel = some (.widget o)) :
    (bot.turn rolls e v).1 = (bot.turn rolls e w).1 ∧
      ∃ n ≤ 1, Core.InStep (.of e s)
        (exchange w.conversations.created v.conversations.created) w.core v.core n
        (bot.turn rolls e w).2.core (bot.turn rolls e v).2.core := by
  obtain ⟨s', hs', hid, hforeign, -⟩ := Bot.sender_detectLanguage e bot.settings.languages hs
  have hparty : Party.of (e.detectLanguage bot.settings.languages) s' = .of e s := by
    rw [Party.of, Bot.channel_detectLanguage, hid, hforeign, Party.of]
  have hstart : Core.InStep (.of (e.detectLanguage bot.settings.languages) s')
      (exchange w.conversations.created v.conversations.created) w.core v.core 0 w.core v.core := by
    rw [hparty]
    exact .start htidy htidy' hcreated hsame hchannel hchannel'
  obtain ⟨n, hn, hmeets⟩ := Twin.handle
    (t := ⟨bot, rolls, _, s', _, w, v, himpartial, hs', exchange_apply _ _⟩) hstart hs rfl
  rw [← hparty]
  generalize hrun : bot.turn rolls e w = r, hrun' : bot.turn rolls e v = r'
  change Twin.Meets _ n _ _ (bot.turn rolls e w) (bot.turn rolls e v) at hmeets
  rw [hrun, hrun'] at hmeets
  cases hmeets with
  | error hstep hx => exact ⟨congrArg Except.error hx, n, hn, hstep⟩
  | ok hstep ha => exact ⟨congrArg Except.ok ha, n, hn, hstep⟩

/-- A turn changes nothing but what belongs to its party. -/
theorem turn_owned (himpartial : bot.Impartial) (hs : e.sender = some s) (rolls : Nat → Nat)
    (htidy : w.conversations.Tidy) (hchannel : ∃ o, w.channels.find? e.channel = some (.widget o)) :
    w.OnlyOf (.of e s) (bot.turn rolls e w).2 ∧ ∃ n ≤ 1,
      Core.Owned (.of e s) w.core n (bot.turn rolls e w).2.core := by
  obtain ⟨-, n, hn, hstep⟩ := turn_inStep himpartial hs rolls htidy htidy (Nat.le_refl _)
    ⟨rfl, rfl, fun _ _ _ => Iff.rfl⟩ hchannel hchannel
  exact ⟨hstep.onlyOf, n, hn, hstep.left⟩

/-- A turn comes to the same after the turn of another party, and it is the same to its own party
whether the other turn comes before it or after it. -/
theorem turn_alikeOf (himpartial : bot.Impartial) (hs : e.sender = some s)
    (hapart : (Party.of e s).Apart q) (rolls : Nat → Nat) (htidy : w.conversations.Tidy)
    (hchannel : ∃ o, w.channels.find? e.channel = some (.widget o))
    {m : Nat} (hother : w.OnlyOf q v) (hv : Core.Owned q w.core m v.core)
    {z : World} (hafter : (bot.turn rolls e w).2.OnlyOf q z) :
    (bot.turn rolls e v).1 = (bot.turn rolls e w).1 ∧ ∀ n,
      Core.Owned (.of e s) w.core n (bot.turn rolls e w).2.core →
      AlikeOf (.of e s)
        (exchange w.conversations.created (w.conversations.created + n * m)) z
        (bot.turn rolls e v).2 := by
  have hcreated : v.conversations.created = w.conversations.created + m := hv.created
  have hbefore := hother.alikeOf hapart
  have hlast := hafter.alikeOf hapart
  obtain ⟨hresult, n, hn, hstep⟩ := turn_inStep himpartial hs rolls htidy hv.tidy
    (hcreated ▸ Nat.le_add_right _ _) hbefore hchannel (hother.widget hchannel)
  rw [hcreated] at hstep
  refine ⟨hresult, fun n' hn' => ?_⟩
  obtain rfl : n' = n := Nat.add_left_cancel (hn'.created.symm.trans hstep.left.created)
  refine ⟨(hstep.shownTo_eq hbefore.messages).trans hlast.messages.symm,
    hstep.subscriber.trans hlast.subscriber.symm, fun id c hc => ?_⟩
  exact (hstep.records_exchange hn id c hc).trans (hlast.records id c hc).symm

/-- **Subscribers are independent**: a turn changes nothing but what belongs to its party, and two
turns of different subscribers come to the same in either order. -/
theorem turns_independent (himpartial : bot.Impartial) (htidy : w.conversations.Tidy)
    (hwidgets : ∀ site : Widget.Site, ∃ o, w.channels.find? site.channelName = some (.widget o))
    (hs : e.sender = some s) (ht : f.sender = some t) (hids : s.id ≠ t.id)
    (haddresses : (e.channel, s.foreignId) ≠ (f.channel, t.foreignId))
    (rolls rolls' : Nat → Nat) :
    w.OnlyOf (.of e s) (bot.turn rolls e w).2 ∧
      (bot.turn rolls e (bot.turn rolls' f w).2).1 = (bot.turn rolls e w).1 ∧
      (bot.turn rolls' f (bot.turn rolls e w).2).1 = (bot.turn rolls' f w).1 ∧
      Alike w (bot.turn rolls' f (bot.turn rolls e w).2).2
        (bot.turn rolls e (bot.turn rolls' f w).2).2 := by
  have hapart : (Party.of e s).Apart (.of f t) := ⟨hids, haddresses⟩
  -- each turn in the first world, and after the other
  obtain ⟨hS, nS, -, hownS⟩ := turn_owned himpartial hs rolls htidy (hwidgets e.site)
  obtain ⟨hT, nT, -, hownT⟩ := turn_owned himpartial ht rolls' htidy (hwidgets f.site)
  obtain ⟨hST, -⟩ := turn_owned himpartial ht rolls' hownS.tidy (hS.widget (hwidgets f.site))
  obtain ⟨hTS, -⟩ := turn_owned himpartial hs rolls hownT.tidy (hT.widget (hwidgets e.site))
  -- what the turns come to
  obtain ⟨hresultS, halikeS⟩ :=
    turn_alikeOf himpartial hs hapart rolls htidy (hwidgets e.site) hT hownT hST
  obtain ⟨hresultT, halikeT⟩ :=
    turn_alikeOf himpartial ht hapart.symm rolls' htidy (hwidgets f.site) hS hownS hTS
  have halikeS := halikeS nS hownS
  have halikeT := (halikeT nT hownT).symm
  rw [Nat.mul_comm] at halikeT
  refine ⟨hS, hresultS, hresultT, fun channel recipient => ?_, fun id => ?_, exchange _ _,
    fun id => exists_of_exchange_ne (Nat.le_refl _) (Nat.le_add_right _ (nS * nT)),
    fun id c => ?_⟩
  · by_cases hS' : (channel, recipient) = (e.channel, s.foreignId)
    · obtain ⟨rfl, rfl⟩ := Prod.mk.inj hS'
      exact halikeS.messages
    · by_cases hT' : (channel, recipient) = (f.channel, t.foreignId)
      · obtain ⟨rfl, rfl⟩ := Prod.mk.inj hT'
        exact halikeT.messages
      · rw [hTS.shownTo_eq hS', hT.shownTo_eq hT', hST.shownTo_eq hT', hS.shownTo_eq hS']
  · by_cases hS' : id = s.id
    · subst hS'
      exact halikeS.subscriber
    · by_cases hT' : id = t.id
      · subst hT'
        exact halikeT.subscriber
      · rw [hTS.subscribers id hS', hT.subscribers id hT', hST.subscribers id hT',
          hS.subscribers id hS']
  · by_cases hS' : c.sender = s.id
    · exact halikeS.records id c hS'
    · by_cases hT' : c.sender = t.id
      · exact halikeT.records id c hT'
      · rw [hTS.conversations _ (c.renamed _) hS', hT.conversations _ (c.renamed _) hT',
          hST.conversations id c hT', hS.conversations id c hS']
        exact htidy.find?_exchange (Nat.le_refl _) (Nat.le_add_right _ _) id c

end Turns

end World

/-! ### An example -/

namespace Sample

/-- Somebody else. -/
def bob : Subscriber := .fresh "sub-2" "bob" "web-channel"

/-- Bob writes something. -/
def bobSaying (text : String) : Event := { saying text with sender := some bob }

/-- The channels of both widgets. -/
def widgets : Channel.Registry := (Channel.Registry.withWidget .empty .web).withWidget .console

/-- A world in which Ann and Bob are known. -/
def met : World :=
  (World.fresh widgets).occur (.outside ((SubscriberStore.empty.insert ann).insert bob) widgets)

/-- A world in which Bob has a conversation with the id that the next one will be given. -/
def forestalled : World :=
  { met with conversations := met.conversations.insert (.fresh "conv-1" bob.id) }

theorem impartial_bot : bot.Impartial := ⟨fun _ _ => rfl, nofun⟩

theorem find?_widgets (site : Widget.Site) :
    ∃ o, widgets.find? site.channelName = some (.widget o) := by
  cases site <;> exact ⟨[], by decide +kernel⟩

end Sample

namespace World

/-- Whoever starts first has the first conversation. -/
theorem turns_independent_both_start :
    Alike Sample.met
        (Sample.bot.turn (fun _ => 0) (Sample.bobSaying "hi")
          (Sample.bot.turn (fun _ => 0) (Sample.saying "hi") Sample.met).2).2
        (Sample.bot.turn (fun _ => 0) (Sample.saying "hi")
          (Sample.bot.turn (fun _ => 0) (Sample.bobSaying "hi") Sample.met).2).2 ∧
      ((Sample.bot.turn (fun _ => 0) (Sample.bobSaying "hi")
        (Sample.bot.turn (fun _ => 0) (Sample.saying "hi") Sample.met).2).2.conversations.find?
          "conv-1").map (·.sender) = some Sample.ann.id ∧
      ((Sample.bot.turn (fun _ => 0) (Sample.saying "hi")
        (Sample.bot.turn (fun _ => 0) (Sample.bobSaying "hi") Sample.met).2).2.conversations.find?
          "conv-1").map (·.sender) = some Sample.bob.id := by
  obtain ⟨-, -, -, halike⟩ := turns_independent Sample.impartial_bot
    (w := Sample.met) (e := Sample.saying "hi") (f := Sample.bobSaying "hi") Sound.empty.tidy
    Sample.find?_widgets rfl rfl (by decide) (by decide) (fun _ => 0) (fun _ => 0)
  exact ⟨halike, by decide +kernel, by decide +kernel⟩

/-- A conversation that has the id of the next one is lost as that one is created. -/
theorem turn_overwrites :
    Sample.bot.Impartial ∧
      (∀ sender, Sample.forestalled.conversations.activeCount sender ≤ 1) ∧
      (∀ site : Widget.Site, ∃ o,
        Sample.forestalled.channels.find? site.channelName = some (.widget o)) ∧
      Sample.forestalled.subscribers.find? Sample.ann.id = some Sample.ann ∧
      Sample.forestalled.subscribers.find? Sample.bob.id = some Sample.bob ∧
      Sample.ann.id ≠ Sample.bob.id ∧ Sample.ann.foreignId ≠ Sample.bob.foreignId ∧
      Sample.forestalled.conversations.find? "conv-1" =
        some (.fresh "conv-1" Sample.bob.id) ∧
      (Sample.bot.turn (fun _ => 0) (Sample.saying "hi")
        Sample.forestalled).2.conversations.find? "conv-1" ≠
        some (.fresh "conv-1" Sample.bob.id) := by
  refine ⟨Sample.impartial_bot, fun sender => ?_, Sample.find?_widgets, by decide +kernel,
    by decide +kernel, by decide, by decide, by decide +kernel, by decide +kernel⟩
  exact List.countP_le_length

end World

end Chatflow

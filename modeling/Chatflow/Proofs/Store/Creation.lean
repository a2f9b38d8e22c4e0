import Chatflow.Proofs.Store.Conversations
import Chatflow.Proofs.Store.Subscribers
import Mathlib.Data.List.Induction

/-!
# What a creation leaves of the other records

Both stores count what they create and make the ids of it, and both take records with ids of their
own. After any calls each record lies under its id, every id was inserted or given out before, and
what was inserted is still there under some content (`Filed`). So the id that comes next is new
unless a record with it was inserted, and then this record is the only one that the new one
replaces: `creation_spares`.
-/

namespace Chatflow

/-! ### Records under their ids -/

section Filed

variable {α : Type} {id : α → String} {number : Nat → String} {inserted : List String}
  {created : Nat} {records : Dict α}

/-- Records under their ids, each of which was inserted or given out. -/
structure Filed (id : α → String) (number : Nat → String) (inserted : List String)
    (created : Nat) (records : Dict α) : Prop where
  /-- Each record lies under its id. -/
  id_eq : ∀ {k r}, records.find? k = some r → id r = k
  /-- Its id was inserted, or is one of those given out so far. -/
  origin : ∀ {k r}, records.find? k = some r → k ∈ inserted ∨ ∃ n < created, k = number n
  /-- What was inserted is there. -/
  kept : ∀ k ∈ inserted, ∃ r, records.find? k = some r

/-- A record was created among others. -/
structure Creates (id : α → String) (inserted : List String) (before after : Dict α) (r : α) :
    Prop where
  /-- No record has its id, unless one with this id was inserted. -/
  fresh_iff : (∀ k old, before.find? k = some old → id old ≠ id r) ↔ id r ∉ inserted
  /-- The new record is there. -/
  stored : after.find? (id r) = some r
  /-- All records with other ids are as they were. -/
  others : ∀ k old, before.find? k = some old → id old ≠ id r → after.find? k = some old

namespace Filed

theorem empty : Filed id number [] 0 .empty where
  id_eq h := nomatch h
  origin h := nomatch h
  kept _ h := nomatch h

/-- A record that is put in may be inserted, be created, or take the place of another one. -/
theorem put (h : Filed id number inserted created records) {inserted' : List String}
    {created' : Nat} {r : α} (hsub : ∀ k ∈ inserted, k ∈ inserted')
    (hnew : ∀ k ∈ inserted', k ∈ inserted ∨ k = id r) (hle : created ≤ created')
    (hr : id r ∈ inserted' ∨ ∃ n < created', id r = number n) :
    Filed id number inserted' created' (records.insert (id r) r) where
  id_eq {k r'} hr' := by
    rw [Dict.find?_insert] at hr'
    split at hr'
    · rename_i hk
      rw [hk, Option.some.inj hr']
    · exact h.id_eq hr'
  origin {k r'} hr' := by
    rw [Dict.find?_insert] at hr'
    split at hr'
    · rename_i hk
      exact hk ▸ hr
    · rcases h.origin hr' with hmem | ⟨n, hn, hk⟩
      · exact .inl (hsub k hmem)
      · exact .inr ⟨n, by omega, hk⟩
  kept k hk := by
    rw [Dict.find?_insert]
    split
    · exact ⟨r, rfl⟩
    · rename_i hne
      exact h.kept k ((hnew k hk).resolve_right hne)

theorem insert (h : Filed id number inserted created records) (r : α) :
    Filed id number (inserted ++ [id r]) created (records.insert (id r) r) := by
  refine h.put (fun k hk => List.mem_append_left _ hk) (fun k hk => ?_) (Nat.le_refl _) (.inl ?_)
  · rcases List.mem_append.mp hk with hk | hk
    · exact .inl hk
    · exact .inr (List.mem_singleton.mp hk)
  · exact List.mem_append_right _ List.mem_cons_self

theorem replace (h : Filed id number inserted created records) {r old : α}
    (hold : records.find? (id r) = some old) :
    Filed id number inserted created (records.insert (id r) r) :=
  h.put (fun _ hk => hk) (fun _ hk => .inl hk) (Nat.le_refl _) (h.origin hold)

theorem create (h : Filed id number inserted created records) {r : α}
    (hr : id r = number created) :
    Filed id number inserted (created + 1) (records.insert (id r) r) :=
  h.put (fun _ hk => hk) (fun _ hk => .inl hk) (Nat.le_succ _)
    (.inr ⟨created, Nat.lt_succ_self _, hr⟩)

/-- **A record that gets the next id replaces at most one that was inserted with this id.** -/
theorem creates (h : Filed id number inserted created records)
    (hnumber : ∀ {m n}, number m = number n → m = n) {r : α} (hr : id r = number created) :
    Creates id inserted records (records.insert (id r) r) r where
  fresh_iff := by
    constructor
    · intro hfresh hmem
      obtain ⟨old, hold⟩ := h.kept _ hmem
      exact hfresh _ old hold (h.id_eq hold)
    · intro hmem k old hold hid
      obtain rfl := h.id_eq hold
      rcases h.origin hold with hmem' | ⟨n, hn, hk⟩
      · exact hmem (hid ▸ hmem')
      · have : created = n := hnumber (hr.symm.trans (hid.symm.trans hk))
        omega
  stored := Dict.find?_insert_self ..
  others k old hold hne := by
    obtain rfl := h.id_eq hold
    rw [Dict.find?_insert, if_neg hne]
    exact hold

end Filed

end Filed

/-! ### Conversations -/

namespace ConversationStore

/-- A call that may change the store. -/
inductive Call where
  | insert (c : Conversation)
  | create (sender : String)
  | update (c : Conversation)
  | finish (id : String)

namespace Call

/-- What a call makes of a store. If it fails, nothing changes. -/
def serve (s : ConversationStore) : Call → ConversationStore
  | insert c => s.insert c
  | create sender => (s.create sender).toOption.elim s (·.2)
  | update c => (s.update c).toOption.getD s
  | finish id => (s.finish id).toOption.getD s

/-- The ids of the records that are inserted. -/
def inserted : Call → List String
  | insert c => [c.id]
  | create _ => []
  | update _ => []
  | finish _ => []

end Call

/-- The store after some calls. -/
def after (calls : List Call) : ConversationStore := calls.foldl Call.serve .empty

variable {s s' : ConversationStore} {inserted : List String} {sender : String} {c : Conversation}

theorem filed_create (h : Filed Conversation.id idAfter inserted s.created s.records)
    (hc : s.create sender = .ok (c, s')) :
    Filed Conversation.id idAfter inserted s'.created s'.records ∧
      Creates Conversation.id inserted s.records s'.records c := by
  obtain ⟨-, rfl, rfl⟩ := create_eq_ok_iff.mp hc
  exact ⟨h.create rfl, h.creates idAfter_injective rfl⟩

theorem filed_serve (h : Filed Conversation.id idAfter inserted s.created s.records)
    (call : Call) : Filed Conversation.id idAfter (inserted ++ call.inserted)
      (call.serve s).created (call.serve s).records := by
  cases call with
  | insert c => exact h.insert c
  | create sender =>
    rw [Call.inserted, List.append_nil, Call.serve]
    cases hc : s.create sender with
    | error cause => exact h
    | ok r => exact (filed_create h hc).1
  | update c =>
    rw [Call.inserted, List.append_nil, Call.serve]
    cases hu : s.update c with
    | error cause => exact h
    | ok s' =>
      obtain ⟨⟨old, hold⟩, rfl⟩ := update_eq_ok_iff.mp hu
      exact h.replace hold
  | finish id =>
    rw [Call.inserted, List.append_nil, Call.serve]
    cases hf : s.finish id with
    | error cause => exact h
    | ok s' =>
      obtain ⟨c, hc, rfl⟩ := finish_eq_ok_iff.mp hf
      obtain rfl := h.id_eq hc
      exact h.replace (r := { c with active := false }) hc

theorem filed_after (calls : List Call) : Filed Conversation.id idAfter
    (calls.flatMap Call.inserted) (after calls).created (after calls).records := by
  induction calls using List.reverseRecOn with
  | nil => exact .empty
  | append_singleton calls call ih =>
    rw [after, List.foldl_concat, List.flatMap_append, List.flatMap_singleton]
    exact filed_serve ih call

end ConversationStore

/-! ### Subscribers -/

namespace SubscriberStore

/-- A call of those who use the store. -/
inductive Request where
  | getOrCreate (channel foreignId : String)
  | updateVars (id : String) (vars : Dict Json)
  | applyUpdates (id : String) (labels : List String) (agent : Option String)

/-- What a request makes of a store. If it fails, nothing changes. -/
def Request.serve (s : SubscriberStore) : Request → SubscriberStore
  | getOrCreate channel foreignId => (s.getOrCreate channel foreignId).2
  | updateVars id vars => (s.updateVars id vars).toOption.elim s (·.2)
  | applyUpdates id labels agent => (s.applyUpdates id labels agent).toOption.elim s (·.2)

/-- A call that may change the store. -/
inductive Call where
  | insert (r : Subscriber)
  | ask (request : Request)

namespace Call

/-- What a call makes of a store. -/
def serve (s : SubscriberStore) : Call → SubscriberStore
  | insert r => s.insert r
  | ask request => request.serve s

/-- The ids of the records that are inserted. -/
def inserted : Call → List String
  | insert r => [r.id]
  | ask _ => []

end Call

/-- The store after some calls. -/
def after (calls : List Call) : SubscriberStore := calls.foldl Call.serve .empty

theorem idAfter_injective {m n : Nat} (h : idAfter m = idAfter n) : m = n := counted_injective h

variable {s s' : SubscriberStore} {inserted : List String} {channel foreignId : String}
  {r : Subscriber}

theorem findForeign?_of_lacks (h : s.Lacks channel foreignId) :
    s.findForeign? channel foreignId = none := by
  rw [Option.eq_none_iff_forall_ne_some]
  intro r hr
  obtain ⟨⟨id, hid⟩, hknown⟩ := of_findForeign? hr
  exact h id r hid hknown

theorem getOrCreate_of_lacks (h : s.Lacks channel foreignId) :
    s.getOrCreate channel foreignId =
      (.fresh (idAfter s.created) foreignId channel,
        { s.insert (.fresh (idAfter s.created) foreignId channel) with
          created := s.created + 1 }) := by
  rw [getOrCreate, findForeign?_of_lacks h]
  rfl

/-- A change that leaves the id leaves the records filed. -/
theorem filed_modify (h : Filed Subscriber.id idAfter inserted s.created s.records) {id : String}
    {change : Subscriber → Subscriber} (hid : ∀ x, (change x).id = x.id) :
    Filed Subscriber.id idAfter inserted
      ((s.modify id change).toOption.elim s (·.2)).created
      ((s.modify id change).toOption.elim s (·.2)).records := by
  rw [modify]
  cases hr : s.find? id with
  | none => exact h
  | some r =>
    obtain rfl := h.id_eq hr
    have hreplace := h.replace (r := change r) ((hid r).symm ▸ hr)
    rwa [hid] at hreplace

theorem filed_request (h : Filed Subscriber.id idAfter inserted s.created s.records)
    (request : Request) : Filed Subscriber.id idAfter inserted
      (request.serve s).created (request.serve s).records := by
  cases request with
  | getOrCreate channel foreignId =>
    rw [Request.serve, getOrCreate]
    cases s.findForeign? channel foreignId with
    | none => exact h.create rfl
    | some r => exact h
  | updateVars id vars => exact filed_modify h fun _ => rfl
  | applyUpdates id labels agent => exact filed_modify h fun _ => rfl

theorem filed_after (calls : List Call) : Filed Subscriber.id idAfter
    (calls.flatMap Call.inserted) (after calls).created (after calls).records := by
  induction calls using List.reverseRecOn with
  | nil => exact .empty
  | append_singleton calls call ih =>
    rw [after, List.foldl_concat, List.flatMap_append, List.flatMap_singleton]
    cases call with
    | insert r => exact ih.insert r
    | ask request =>
      rw [Call.inserted, List.append_nil]
      exact filed_request ih request

end SubscriberStore

/-! ### Creations -/

/-- **After any calls, a creation gives the next id, and replaces no record but one that was
inserted with this id.** -/
theorem creation_spares :
    (∀ (calls : List ConversationStore.Call) (sender : String) (c : Conversation)
      (s' : ConversationStore), (ConversationStore.after calls).create sender = .ok (c, s') →
      c.id = ConversationStore.idAfter (ConversationStore.after calls).created ∧
        Creates Conversation.id (calls.flatMap ConversationStore.Call.inserted)
          (ConversationStore.after calls).records s'.records c) ∧
    ∀ (calls : List SubscriberStore.Call) (channel foreignId : String) (r : Subscriber)
      (s' : SubscriberStore), (SubscriberStore.after calls).Lacks channel foreignId →
      (SubscriberStore.after calls).getOrCreate channel foreignId = (r, s') →
      r.id = SubscriberStore.idAfter (SubscriberStore.after calls).created ∧
        Creates Subscriber.id (calls.flatMap SubscriberStore.Call.inserted)
          (SubscriberStore.after calls).records s'.records r := by
  refine ⟨fun calls sender c s' h => ⟨?_, ?_⟩, fun calls channel foreignId r s' hlacks h => ?_⟩
  · obtain ⟨-, rfl, -⟩ := ConversationStore.create_eq_ok_iff.mp h
    rfl
  · exact (ConversationStore.filed_create (ConversationStore.filed_after calls) h).2
  · rw [SubscriberStore.getOrCreate_of_lacks hlacks] at h
    cases h
    exact ⟨rfl, (SubscriberStore.filed_after calls).creates SubscriberStore.idAfter_injective rfl⟩

namespace Sample

/-- A conversation of Ann that has ended. -/
def ended : Conversation := { Conversation.fresh "conv-1" "ann" with active := false }

/-- Ann on a channel. -/
def annOnWeb : Subscriber := .fresh "sub-1" "ann" "web-channel"

end Sample

/-- A second conversation leaves the first, and a second subscriber leaves one that was inserted. -/
theorem creation_spares_ann :
    (∃ s', (ConversationStore.after [.create "ann"]).create "bob" =
        .ok (.fresh "conv-2" "bob", s') ∧
      s'.find? "conv-1" = some (.fresh "conv-1" "ann")) ∧
    ∃ s', (SubscriberStore.after [.insert { Sample.annOnWeb with id := "ann" }]).getOrCreate
        "web-channel" "bob" = (.fresh "sub-1" "bob" "web-channel", s') ∧
      s'.find? "ann" = some { Sample.annOnWeb with id := "ann" } := by
  refine ⟨⟨_, rfl, ?_⟩, ⟨_, rfl, ?_⟩⟩
  · have hcreates := (creation_spares.1 [.create "ann"] "bob" _ _ rfl).2
    exact hcreates.others "conv-1" _ rfl (by decide)
  · have hlacks : (SubscriberStore.after [.insert { Sample.annOnWeb with id := "ann" }]).Lacks
        "web-channel" "bob" := by
      refine SubscriberStore.lacks_of_findForeign? ?_
      decide
    have hcreates := (creation_spares.2 _ _ _ _ _ hlacks rfl).2
    exact hcreates.others "ann" _ rfl (by decide)

/-- Records that were inserted with the ids that come next are lost. -/
theorem creation_replaces :
    (∃ s', (ConversationStore.after [.insert Sample.ended]).create "bob" =
        .ok (.fresh "conv-1" "bob", s') ∧
      (ConversationStore.after [.insert Sample.ended]).find? "conv-1" = some Sample.ended ∧
      s'.find? "conv-1" = some (.fresh "conv-1" "bob")) ∧
    ∃ s', (SubscriberStore.after [.insert Sample.annOnWeb]).getOrCreate "web-channel" "bob" =
        (.fresh "sub-1" "bob" "web-channel", s') ∧
      (SubscriberStore.after [.insert Sample.annOnWeb]).find? "sub-1" = some Sample.annOnWeb ∧
      s'.find? "sub-1" = some (.fresh "sub-1" "bob" "web-channel") :=
  ⟨⟨_, rfl, rfl, rfl⟩, ⟨_, rfl, rfl, rfl⟩⟩

end Chatflow

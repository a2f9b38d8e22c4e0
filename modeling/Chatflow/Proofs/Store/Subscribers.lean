import Chatflow.Proofs.Dict
import Chatflow.Store.Subscribers

/-!
# The subscriber store

Each subscriber lies under its id (`SubscriberStore.Keyed`), and every operation keeps it so. Then
a subscriber who was looked up or created can be looked up again.

Where no two subscribers have the same id on a channel (`SubscriberStore.Distinct`), a lookup finds
the only one with an id or creates it (`SubscriberStore.Meets`), and neither a lookup nor a change
makes a second one.
-/

namespace Chatflow

namespace SubscriberStore

variable {s : SubscriberStore}

/-- Each subscriber lies under its id. -/
def Keyed (s : SubscriberStore) : Prop := ∀ id r, s.find? id = some r → r.id = id

namespace Keyed

theorem empty : SubscriberStore.empty.Keyed := fun _ _ h => nomatch h

theorem insert (h : s.Keyed) (r : Subscriber) : (s.insert r).Keyed := by
  intro id r' hr'
  have hfind : (s.insert r).find? id = if id = r.id then some r else s.find? id :=
    Dict.find?_insert ..
  rw [hfind] at hr'
  split at hr'
  · rename_i hid
    rw [← Option.some.inj hr', hid]
  · exact h id r' hr'

/-- A change that leaves the id keeps the store keyed. -/
theorem modify (h : s.Keyed) {id : String} {change : Subscriber → Subscriber}
    {r : Subscriber × SubscriberStore} (hm : s.modify id change = .ok r)
    (hid : ∀ x, (change x).id = x.id) : r.2.Keyed := by
  rw [SubscriberStore.modify] at hm
  cases hs : s.find? id with
  | none =>
    rw [hs] at hm
    cases hm
  | some old =>
    rw [hs] at hm
    cases hm
    have hold : (change old).id = id := (hid old).trans (h id old hs)
    have hkeyed := h.insert (change old)
    rwa [SubscriberStore.insert, hold] at hkeyed

/-- Whoever is looked up or created is on record. -/
theorem find?_getOrCreate (h : s.Keyed) (channel foreignId : String) :
    (s.getOrCreate channel foreignId).2.find? (s.getOrCreate channel foreignId).1.id =
      some (s.getOrCreate channel foreignId).1 := by
  rw [getOrCreate]
  cases hs : s.findForeign? channel foreignId with
  | none => exact Dict.find?_insert_self ..
  | some r =>
    obtain ⟨id, hid⟩ := Dict.mem_values.mp (List.mem_of_find?_eq_some hs)
    rw [h id r hid]
    exact hid

theorem getOrCreate (h : s.Keyed) (channel foreignId : String) :
    (s.getOrCreate channel foreignId).2.Keyed := by
  rw [SubscriberStore.getOrCreate]
  cases s.findForeign? channel foreignId with
  | none => exact h.insert _
  | some r => exact h

end Keyed

end SubscriberStore

/-! ### Ids on a channel -/

/-- A subscriber has an id on a channel. -/
def Subscriber.IsKnownAs (r : Subscriber) (channel foreignId : String) : Prop :=
  r.channel = channel ∧ r.foreignId = foreignId

namespace SubscriberStore

variable {s s' : SubscriberStore} {channel foreignId : String} {r : Subscriber}

/-- No two records have the same id on a channel. -/
def Distinct (s : SubscriberStore) : Prop :=
  ∀ id id' r r', s.find? id = some r → s.find? id' = some r' →
    r'.IsKnownAs r.channel r.foreignId → id' = id

/-- Nobody on record has an id on a channel. -/
def Lacks (s : SubscriberStore) (channel foreignId : String) : Prop :=
  ∀ id r, s.find? id = some r → ¬r.IsKnownAs channel foreignId

/-- A subscriber is on record, and is the only one with an id on a channel. -/
structure Sole (s : SubscriberStore) (channel foreignId : String) (r : Subscriber) : Prop where
  /-- It is on record. -/
  found : s.find? r.id = some r
  /-- It has the id on the channel. -/
  known : r.IsKnownAs channel foreignId
  /-- Nobody else has. -/
  only : ∀ id r', s.find? id = some r' → r'.IsKnownAs channel foreignId → r' = r

/-- The subscriber with an id on a channel was on record, or nobody was and it is created. -/
inductive Meets (s : SubscriberStore) (channel foreignId : String) :
    Subscriber → SubscriberStore → Prop
  | known {r : Subscriber} (h : s.Sole channel foreignId r) : Meets s channel foreignId r s
  | created (h : s.Lacks channel foreignId) : Meets s channel foreignId
      (.fresh (idAfter s.created) foreignId channel)
      { s.insert (.fresh (idAfter s.created) foreignId channel) with created := s.created + 1 }

/-- Who is found has the id on the channel. -/
theorem of_findForeign? (h : s.findForeign? channel foreignId = some r) :
    (∃ id, s.find? id = some r) ∧ r.IsKnownAs channel foreignId := by
  have hr := List.find?_some h
  simp only [Bool.and_eq_true, decide_eq_true_eq] at hr
  exact ⟨Dict.mem_values.mp (List.mem_of_find?_eq_some h), hr⟩

theorem lacks_of_findForeign? (h : s.findForeign? channel foreignId = none) :
    s.Lacks channel foreignId := by
  intro id r hr
  have hnone := List.find?_eq_none.mp h r (Dict.mem_values.mpr ⟨id, hr⟩)
  simpa [Subscriber.IsKnownAs] using hnone

/-- Who is looked up or created has the id on the channel. -/
theorem isKnownAs_getOrCreate (s : SubscriberStore) (channel foreignId : String) :
    (s.getOrCreate channel foreignId).1.IsKnownAs channel foreignId := by
  rw [getOrCreate]
  cases h : s.findForeign? channel foreignId with
  | none => exact ⟨rfl, rfl⟩
  | some r => exact (of_findForeign? h).2

/-- **A lookup finds the one subscriber with an id on a channel, or creates it.** -/
theorem meets_getOrCreate (hkeyed : s.Keyed) (hdistinct : s.Distinct)
    (channel foreignId : String) :
    s.Meets channel foreignId (s.getOrCreate channel foreignId).1
      (s.getOrCreate channel foreignId).2 := by
  rw [getOrCreate]
  cases h : s.findForeign? channel foreignId with
  | none => exact .created (lacks_of_findForeign? h)
  | some r =>
    obtain ⟨⟨id, hr⟩, rfl, rfl⟩ := of_findForeign? h
    obtain rfl := hkeyed id r hr
    refine .known ⟨hr, ⟨rfl, rfl⟩, fun id' r' hr' hknown => ?_⟩
    obtain rfl := hdistinct _ _ _ _ hr hr' hknown
    exact Option.some.inj (hr'.symm.trans hr)

/-- Whoever is met is then the only one with the id on the channel. -/
theorem Meets.sole (h : s.Meets channel foreignId r s') : s'.Sole channel foreignId r := by
  cases h with
  | known h => exact h
  | created hlacks =>
    refine ⟨Dict.find?_insert_self .., ⟨rfl, rfl⟩, fun id r' hr' hknown => ?_⟩
    rw [find?, insert, Dict.find?_insert] at hr'
    split at hr'
    · exact (Option.some.inj hr').symm
    · exact absurd hknown (hlacks id r' hr')

namespace Distinct

theorem empty : SubscriberStore.empty.Distinct := fun _ _ _ _ h => nomatch h

/-- A record that is written where its id on its channel was, if it was anywhere, is no second
one. -/
theorem put (h : s.Distinct) {id : String} (n : Nat)
    (hr : ∀ id' r', s.find? id' = some r' → r'.IsKnownAs r.channel r.foreignId → id' = id) :
    Distinct ⟨s.records.insert id r, n⟩ := by
  intro id₁ id₂ r₁ r₂ h₁ h₂ hknown
  rw [find?, Dict.find?_insert] at h₁ h₂
  split at h₁ <;> split at h₂
  · rename_i hid₁ hid₂
    rw [hid₁, hid₂]
  · rename_i hid₁ _
    obtain rfl := Option.some.inj h₁
    rw [hid₁, hr id₂ r₂ h₂ hknown]
  · rename_i _ hid₂
    obtain rfl := Option.some.inj h₂
    rw [hid₂, hr id₁ r₁ h₁ ⟨hknown.1.symm, hknown.2.symm⟩]
  · exact h id₁ id₂ r₁ r₂ h₁ h₂ hknown

/-- To meet somebody makes no second record. -/
theorem of_meets (h : s.Distinct) (hm : s.Meets channel foreignId r s') : s'.Distinct := by
  cases hm with
  | known _ => exact h
  | created hlacks => exact h.put _ fun id' r' hr' hknown => absurd hknown (hlacks id' r' hr')

/-- A change that leaves the channel and the id on it makes no second record. -/
theorem modify (h : s.Distinct) {id : String} {change : Subscriber → Subscriber}
    {r : Subscriber × SubscriberStore} (hm : s.modify id change = .ok r)
    (hchange : ∀ x, (change x).IsKnownAs x.channel x.foreignId) : r.2.Distinct := by
  rw [SubscriberStore.modify] at hm
  cases hs : s.find? id with
  | none =>
    rw [hs] at hm
    cases hm
  | some old =>
    rw [hs] at hm
    cases hm
    obtain ⟨hchannel, hforeign⟩ := hchange old
    refine h.put _ fun id' r' hr' hknown => h id id' old r' hs hr' ?_
    rwa [hchannel, hforeign] at hknown

end Distinct

/-! ### Changes that leave the ids -/

/-- Nothing changes, or one subscriber does, but for its ids. -/
def Becomes (s s' : SubscriberStore) : Prop :=
  s' = s ∨ ∃ id change r, s.modify id change = .ok r ∧ s' = r.2 ∧
    ∀ x, (change x).id = x.id ∧ (change x).IsKnownAs x.channel x.foreignId

theorem Keyed.becomes (h : s.Keyed) (hb : s.Becomes s') : s'.Keyed := by
  obtain rfl | ⟨id, change, r, hm, rfl, hchange⟩ := hb
  · exact h
  · exact h.modify hm fun x => (hchange x).1

theorem Distinct.becomes (h : s.Distinct) (hb : s.Becomes s') : s'.Distinct := by
  obtain rfl | ⟨id, change, r, hm, rfl, hchange⟩ := hb
  · exact h
  · exact h.modify hm fun x => (hchange x).2

end SubscriberStore

end Chatflow

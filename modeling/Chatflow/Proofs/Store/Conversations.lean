import Chatflow.Proofs.Dict
import Chatflow.Store.Conversations

/-!
# The conversation store

A store is *tidy* (`ConversationStore.Tidy`) when each conversation lies under its id, the ids
still to be given out are free, and no subscriber has two active conversations. It is *sound*
(`ConversationStore.Sound`) when moreover all ids were given out by `create`, as they are if
conversations come by no other way. The empty store is sound, and each operation keeps a store
tidy and sound; the one condition is that of `Tidy.update`: a write may not revive a conversation or
hand it to another subscriber.

What an operation does is said twice, for `find?` and for the number of conversations with a
property (`ConversationStore.count`), of which `activeCount` is a case.
-/

namespace Chatflow

/-- Ids that are made by counting are alike only at the same count. -/
theorem counted_injective {mark : String} {m n : Nat}
    (h : mark ++ toString (m + 1) = mark ++ toString (n + 1)) : m = n := by
  have hlist := congrArg String.toList h
  simp only [String.toList_append, List.append_cancel_left_eq, Nat.toString_eq_repr,
    Nat.toList_repr] at hlist
  have hnumber : m + 1 = n + 1 := by simpa using congrArg (Nat.ofDigitChars 10 · 0) hlist
  omega

namespace ConversationStore

variable {s s' : ConversationStore} {c r : Conversation} {id sender : String}

/-- The number of conversations with a property. -/
def count (s : ConversationStore) (p : Conversation → Bool) : Nat := s.records.values.countP p

theorem isActiveOf_iff : isActiveOf sender c = true ↔ c.active = true ∧ c.sender = sender := by
  simp [isActiveOf]

theorem activeCount_eq_count (s : ConversationStore) (sender : String) :
    s.activeCount sender = s.count (isActiveOf sender) := rfl

theorem count_eq_zero {p : Conversation → Bool} :
    s.count p = 0 ↔ ∀ id c, s.find? id = some c → p c = false := by
  rw [count, List.countP_eq_zero]
  constructor
  · intro h id c hc
    simpa using h c (Dict.mem_values.mpr ⟨id, hc⟩)
  · intro h c hc
    obtain ⟨id, hc⟩ := Dict.mem_values.mp hc
    simp [h id c hc]

theorem active?_eq_none_iff : s.active? sender = none ↔ s.activeCount sender = 0 := by
  rw [active?, List.find?_eq_none, activeCount, List.countP_eq_zero]

theorem activeCount_eq_zero_of_active? (hc : s.active? sender = none) :
    s.activeCount sender = 0 := active?_eq_none_iff.mp hc

/-! ### What the operations do -/

theorem idAfter_injective {m n : Nat} (h : idAfter m = idAfter n) : m = n := counted_injective h

/-- A conversation is created exactly when the sender has no active one. -/
theorem create_eq_ok_iff :
    s.create sender = .ok (c, s') ↔ s.activeCount sender = 0 ∧
      c = .fresh (idAfter s.created) sender ∧ s' = ⟨s.records.insert c.id c, s.created + 1⟩ := by
  have hany : s.records.values.any (isActiveOf sender) = false ↔ s.activeCount sender = 0 := by
    simp [activeCount]
  rw [create]
  split
  · rename_i h
    constructor
    · intro hc
      cases hc
    · rintro ⟨hz, -⟩
      rw [hany.mpr hz] at h
      cases h
  · rename_i h
    rw [← hany]
    simp only [Bool.not_eq_true] at h
    simp only [Except.ok.injEq, Prod.mk.injEq, h, true_and]
    constructor
    · rintro ⟨rfl, rfl⟩
      exact ⟨rfl, rfl⟩
    · rintro ⟨rfl, rfl⟩
      exact ⟨rfl, rfl⟩

theorem exists_create (h : s.activeCount sender = 0) : ∃ c s', s.create sender = .ok (c, s') :=
  ⟨_, _, create_eq_ok_iff.mpr ⟨h, rfl, rfl⟩⟩

theorem create_of_activeCount_ne_zero (h : s.activeCount sender ≠ 0) :
    s.create sender =
      .error (.conflict ("subscriber '" ++ sender ++ "' already has an active conversation")) := by
  rw [create, if_pos]
  rw [activeCount, Ne, List.countP_eq_zero] at h
  simpa using h

theorem update_eq_ok_iff :
    s.update c = .ok s' ↔ (∃ r, s.find? c.id = some r) ∧ s' = s.insert c := by
  rw [update]
  cases s.find? c.id <;> simp [eq_comm]

theorem finish_eq_ok_iff :
    s.finish id = .ok s' ↔
      ∃ r, s.find? id = some r ∧
        s' = { s with records := s.records.insert id { r with active := false } } := by
  rw [finish]
  cases s.find? id <;> simp [eq_comm]

theorem update_eq_error_iff {cause : StoreError} :
    s.update c = .error cause ↔ s.find? c.id = none ∧ cause = .notFound "conversation" c.id := by
  rw [update]
  cases s.find? c.id <;> simp [eq_comm]

theorem finish_eq_error_iff {cause : StoreError} :
    s.finish id = .error cause ↔ s.find? id = none ∧ cause = .notFound "conversation" id := by
  rw [finish]
  cases s.find? id <;> simp [eq_comm]

theorem created_create {r : Conversation × ConversationStore} (h : s.create sender = .ok r) :
    r.2.created = s.created + 1 := by
  obtain ⟨-, -, hr⟩ := create_eq_ok_iff.mp h
  rw [hr]

theorem created_update (h : s.update c = .ok s') : s'.created = s.created := by
  obtain ⟨-, rfl⟩ := update_eq_ok_iff.mp h
  rfl

theorem created_finish (h : s.finish id = .ok s') : s'.created = s.created := by
  obtain ⟨r, -, rfl⟩ := finish_eq_ok_iff.mp h
  rfl

theorem find?_create (h : s.create sender = .ok (c, s')) (id : String) :
    s'.find? id = if id = c.id then some c else s.find? id := by
  obtain ⟨-, -, rfl⟩ := create_eq_ok_iff.mp h
  exact Dict.find?_insert _ _ _ _

theorem find?_update (h : s.update c = .ok s') (id : String) :
    s'.find? id = if id = c.id then some c else s.find? id := by
  obtain ⟨-, rfl⟩ := update_eq_ok_iff.mp h
  exact Dict.find?_insert _ _ _ _

theorem find?_finish (h : s.finish id = .ok s') (hr : s.find? id = some r) (id' : String) :
    s'.find? id' = if id' = id then some { r with active := false } else s.find? id' := by
  obtain ⟨r', hr', rfl⟩ := finish_eq_ok_iff.mp h
  obtain rfl : r = r' := Option.some.inj (hr.symm.trans hr')
  exact Dict.find?_insert _ _ _ _

/-! ### Counting -/

variable (p : Conversation → Bool)

theorem count_create (h : s.create sender = .ok (c, s')) (hfree : s.find? c.id = none) :
    s'.count p = s.count p + [c].countP p := by
  obtain ⟨-, -, rfl⟩ := create_eq_ok_iff.mp h
  have hcount := Dict.countP_values_insert p s.records c.id c
  have hfree : s.records.find? c.id = none := hfree
  rw [hfree] at hcount
  exact hcount

theorem count_update (h : s.update c = .ok s') (hr : s.find? c.id = some r) :
    s'.count p + [r].countP p = s.count p + [c].countP p := by
  obtain ⟨-, rfl⟩ := update_eq_ok_iff.mp h
  have hcount := Dict.countP_values_insert p s.records c.id c
  have hr : s.records.find? c.id = some r := hr
  rw [hr] at hcount
  exact hcount

theorem count_finish (h : s.finish id = .ok s') (hr : s.find? id = some r) :
    s'.count p + [r].countP p = s.count p + [{ r with active := false }].countP p := by
  obtain ⟨r', hr', rfl⟩ := finish_eq_ok_iff.mp h
  obtain rfl : r = r' := Option.some.inj (hr.symm.trans hr')
  have hcount := Dict.countP_values_insert p s.records id { r with active := false }
  have hr : s.records.find? id = some r := hr
  rw [hr] at hcount
  exact hcount

/-! ### Order -/

/-- A store in which each conversation lies under its id, the ids that are still to be given out are
free, and no subscriber has two active conversations. -/
structure Tidy (s : ConversationStore) : Prop where
  /-- Each conversation lies under its id. -/
  id_eq : ∀ {id c}, s.find? id = some c → c.id = id
  /-- The ids to be given out are free. -/
  free : ∀ n ≥ s.created, s.find? (idAfter n) = none
  /-- No subscriber has two active conversations. -/
  single : ∀ sender, s.activeCount sender ≤ 1

namespace Tidy

theorem create (h : s.Tidy) (hc : s.create sender = .ok (c, s')) : s'.Tidy where
  id_eq {id r} hr := by
    rw [find?_create hc] at hr
    split at hr
    · rename_i hid
      exact Option.some.inj hr ▸ hid.symm
    · exact h.id_eq hr
  free n hn := by
    obtain ⟨-, rfl, rfl⟩ := create_eq_ok_iff.mp hc
    have hne : idAfter n ≠ idAfter s.created := fun hid => by
      have := idAfter_injective hid
      exact absurd hn (by simp only [this]; omega)
    rw [find?_create hc]
    exact (if_neg hne).trans (h.free n (Nat.le_of_succ_le hn))
  single sender' := by
    have hfree : s.find? c.id = none := by
      obtain ⟨-, rfl, -⟩ := create_eq_ok_iff.mp hc
      exact h.free _ (Nat.le_refl _)
    have hcount := count_create (isActiveOf sender') hc hfree
    obtain ⟨hzero, rfl, -⟩ := create_eq_ok_iff.mp hc
    have hold := h.single sender'
    rw [activeCount_eq_count] at hzero hold ⊢
    by_cases hs : sender = sender'
    · -- the new conversation is the sender's only one
      have hle := List.countP_le_length (p := isActiveOf sender')
        (l := [Conversation.fresh (idAfter s.created) sender])
      simp only [List.length_singleton] at hle
      rw [hs] at hzero
      omega
    · have hnew : isActiveOf sender' (.fresh (idAfter s.created) sender) = false := by
        simp [isActiveOf, Conversation.fresh, hs]
      simp only [List.countP_singleton, hnew, Bool.false_eq_true, if_false] at hcount
      omega

/-- A write keeps a store tidy if it does not revive a conversation or give it away. -/
theorem update (h : s.Tidy) (hu : s.update c = .ok s') (hr : s.find? c.id = some r)
    (hkeep : ∀ sender, isActiveOf sender c = true → isActiveOf sender r = true) : s'.Tidy where
  id_eq {id r'} hr' := by
    rw [find?_update hu] at hr'
    split at hr'
    · rename_i hid
      exact Option.some.inj hr' ▸ hid.symm
    · exact h.id_eq hr'
  free n hn := by
    obtain ⟨-, rfl⟩ := update_eq_ok_iff.mp hu
    rw [find?_update hu]
    split
    · rename_i hid
      rw [← hid, h.free n hn] at hr
      cases hr
    · exact h.free n hn
  single sender := by
    have hcount := count_update (isActiveOf sender) hu hr
    have hold := h.single sender
    rw [activeCount_eq_count] at hold ⊢
    have hle : [c].countP (isActiveOf sender) ≤ [r].countP (isActiveOf sender) := by
      have := hkeep sender
      simp only [List.countP_singleton]
      split <;> simp_all
    omega

/-- To end a conversation is to write it with its flag cleared. -/
theorem update_of_finish (h : s.Tidy) (hf : s.finish id = .ok s') (hr : s.find? id = some r) :
    s.update { r with active := false } = .ok s' ∧ s.find? r.id = some r := by
  obtain ⟨r', hr', rfl⟩ := finish_eq_ok_iff.mp hf
  obtain rfl : r = r' := Option.some.inj (hr.symm.trans hr')
  obtain rfl := h.id_eq hr
  exact ⟨update_eq_ok_iff.mpr ⟨⟨r, hr⟩, rfl⟩, hr⟩

theorem finish (h : s.Tidy) (hf : s.finish id = .ok s') : s'.Tidy := by
  obtain ⟨r, hr, -⟩ := finish_eq_ok_iff.mp hf
  obtain ⟨hu, hr⟩ := h.update_of_finish hf hr
  exact h.update hu hr fun sender hact => by simp [isActiveOf] at hact

/-- The end of a sender's active conversation leaves the sender without one. -/
theorem activeCount_finish (h : s.Tidy) (hf : s.finish id = .ok s') (hr : s.find? id = some r)
    (hact : isActiveOf sender r = true) : s'.activeCount sender = 0 := by
  have hcount := count_finish (isActiveOf sender) hf hr
  have hold := h.single sender
  have hnew : isActiveOf sender { r with active := false } = false := rfl
  rw [activeCount_eq_count] at hold ⊢
  simp only [List.countP_singleton, hact, hnew, Bool.false_eq_true, if_true, if_false] at hcount
  omega

/-- A sender's active conversation is the only one. -/
theorem id_unique (h : s.Tidy) {id' : String} {r' : Conversation} (hr : s.find? id = some r)
    (hr' : s.find? id' = some r') (hact : isActiveOf sender r = true)
    (hact' : isActiveOf sender r' = true) : id = id' := by
  refine Decidable.byContradiction fun hne => ?_
  -- the other one would still be active after the end of the first
  obtain ⟨s', hf⟩ : ∃ s', s.finish id = .ok s' := ⟨_, finish_eq_ok_iff.mpr ⟨r, hr, rfl⟩⟩
  have hzero := h.activeCount_finish hf hr hact
  rw [activeCount_eq_count, count_eq_zero] at hzero
  have hstays : s'.find? id' = some r' := by
    rw [find?_finish hf hr, if_neg (Ne.symm hne)]
    exact hr'
  rw [hzero id' r' hstays] at hact'
  cases hact'

theorem find?_of_active? (h : s.Tidy) (hc : s.active? sender = some c) :
    s.find? c.id = some c ∧ isActiveOf sender c = true := by
  obtain ⟨id, hid⟩ := Dict.mem_values.mp (List.mem_of_find?_eq_some hc)
  refine ⟨?_, List.find?_some hc⟩
  rw [h.id_eq hid]
  exact hid

/-- A sender's active conversation is the one that is found. -/
theorem active?_of_find? (h : s.Tidy) (hc : s.find? id = some c)
    (hact : isActiveOf sender c = true) : s.active? sender = some c := by
  cases hactive : s.active? sender with
  | none =>
    have hzero := active?_eq_none_iff.mp hactive
    rw [activeCount_eq_count, count_eq_zero] at hzero
    rw [hzero id c hc] at hact
    cases hact
  | some c' =>
    obtain ⟨hc', hact'⟩ := h.find?_of_active? hactive
    obtain rfl := h.id_unique hc hc' hact hact'
    exact hc'.symm.trans hc

end Tidy

/-! ### Soundness -/

/-- A store in which each conversation lies under its id, all ids were given out by `create`, and
no subscriber has two active conversations. -/
structure Sound (s : ConversationStore) : Prop where
  /-- Each conversation lies under its id. -/
  id_eq : ∀ {id c}, s.find? id = some c → c.id = id
  /-- The ids are those given out so far. -/
  issued : ∀ {id c}, s.find? id = some c → ∃ n < s.created, id = idAfter n
  /-- No subscriber has two active conversations. -/
  single : ∀ sender, s.activeCount sender ≤ 1

namespace Sound

theorem empty : ConversationStore.empty.Sound where
  id_eq h := by cases h
  issued h := by cases h
  single _ := Nat.zero_le _

/-- The ids to be given out are free, as all others were given out before. -/
theorem tidy (h : s.Sound) : s.Tidy where
  id_eq := h.id_eq
  free n hn := by
    rw [Option.eq_none_iff_forall_ne_some]
    intro c hc
    obtain ⟨m, hm, hid⟩ := h.issued hc
    have := idAfter_injective hid
    omega
  single := h.single

theorem find?_created (h : s.Sound) (hc : s.create sender = .ok (c, s')) :
    s.find? c.id = none := by
  obtain ⟨-, rfl, -⟩ := create_eq_ok_iff.mp hc
  exact h.tidy.free _ (Nat.le_refl _)

theorem create (h : s.Sound) (hc : s.create sender = .ok (c, s')) : s'.Sound where
  id_eq := (h.tidy.create hc).id_eq
  issued {id r} hr := by
    obtain ⟨-, rfl, rfl⟩ := create_eq_ok_iff.mp hc
    rw [find?_create hc] at hr
    split at hr
    · rename_i hid
      exact ⟨s.created, Nat.lt_succ_self _, hid⟩
    · obtain ⟨n, hn, hid⟩ := h.issued hr
      exact ⟨n, Nat.lt_succ_of_lt hn, hid⟩
  single := (h.tidy.create hc).single

/-- A write keeps a store sound if it does not revive a conversation or give it away. -/
theorem update (h : s.Sound) (hu : s.update c = .ok s') (hr : s.find? c.id = some r)
    (hkeep : ∀ sender, isActiveOf sender c = true → isActiveOf sender r = true) : s'.Sound where
  id_eq := (h.tidy.update hu hr hkeep).id_eq
  issued {id r'} hr' := by
    obtain ⟨-, rfl⟩ := update_eq_ok_iff.mp hu
    rw [find?_update hu] at hr'
    split at hr'
    · rename_i hid
      exact hid ▸ h.issued hr
    · exact h.issued hr'
  single := (h.tidy.update hu hr hkeep).single

theorem finish (h : s.Sound) (hf : s.finish id = .ok s') : s'.Sound := by
  obtain ⟨r, hr, -⟩ := finish_eq_ok_iff.mp hf
  obtain ⟨hu, hr⟩ := h.tidy.update_of_finish hf hr
  exact h.update hu hr fun sender hact => by simp [isActiveOf] at hact

/-- The end of a sender's active conversation leaves the sender without one. -/
theorem activeCount_finish (h : s.Sound) (hf : s.finish id = .ok s') (hr : s.find? id = some r)
    (hact : isActiveOf sender r = true) : s'.activeCount sender = 0 :=
  h.tidy.activeCount_finish hf hr hact

/-- A sender's active conversation is the only one. -/
theorem id_unique (h : s.Sound) {id' : String} {r' : Conversation} (hr : s.find? id = some r)
    (hr' : s.find? id' = some r') (hact : isActiveOf sender r = true)
    (hact' : isActiveOf sender r' = true) : id = id' := h.tidy.id_unique hr hr' hact hact'

theorem find?_of_active? (h : s.Sound) (hc : s.active? sender = some c) :
    s.find? c.id = some c ∧ isActiveOf sender c = true := h.tidy.find?_of_active? hc

/-- A sender's active conversation is the one that is found. -/
theorem active?_of_find? (h : s.Sound) (hc : s.find? id = some c)
    (hact : isActiveOf sender c = true) : s.active? sender = some c :=
  h.tidy.active?_of_find? hc hact

end Sound

end ConversationStore

end Chatflow

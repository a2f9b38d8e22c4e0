import Chatflow.Proofs.Conversation.Single

/-!
# Beginnings and ends

Every conversation that begins is reported once, and every one that ends is reported once
(`World.lifecycle_balanced`). So the reports alone tell how many conversations are active, and
which of those on record are not. If no write fails either, the report of an end carries the
conversation as it is on record.

The reports and the store are held against each other by a `Ledger`. Where a conversation is in
hand, the ledger says nothing of it beyond what the store does; that the report will carry what is
on record is known because a conversation is only ended where it is `synced`, or after a write
failed (`Accounted`).
-/

namespace Chatflow

open ConversationStore

/-- Whether there is a conversation with an id on record that has ended. -/
def ConversationStore.isEnded (s : ConversationStore) (id : String) : Bool :=
  (s.find? id).any (!·.active)

/-- The reports agree with the store. -/
structure Ledger (w : World) : Prop where
  /-- The conversations that began are those that ended and those still active. -/
  balance : w.opened = w.endings.length + w.conversations.count (·.active)
  /-- An end is reported once for each conversation that has ended, and for no other. -/
  once : ∀ id, w.endings.countP (·.id = id) = if w.conversations.isEnded id then 1 else 0
  /-- The reports carry what is on record, unless a write failed. -/
  faithful : ¬ w.WriteFailed → ∀ c ∈ w.endings, w.conversations.find? c.id = some c

namespace Ledger

variable {w w' : World} {c r : Conversation} {store : ConversationStore} {id sender : String}

theorem fresh (channels : Channel.Registry) : Ledger (.fresh channels) where
  balance := rfl
  once _ := rfl
  faithful _ _ hc := nomatch hc

theorem writeFailed_mono (h : w.failures <+: w'.failures) (hw : w.WriteFailed) :
    w'.WriteFailed :=
  hw.imp (h.subset ·) (h.subset ·)

theorem spared (h : Ledger w) (hw : w.Spares w') : Ledger w' where
  balance := by rw [hw.opened, hw.endings, hw.conversations, h.balance]
  once id := by rw [hw.endings, hw.conversations, h.once id]
  faithful hn := by
    rw [hw.endings, hw.conversations]
    exact h.faithful fun hfailed => hn (writeFailed_mono hw.failures hfailed)

/-- No end was reported for a conversation that is not on record as ended. -/
theorem not_mem_endings (h : Ledger w) (hid : w.conversations.isEnded id = false) :
    ∀ c ∈ w.endings, c.id ≠ id := by
  intro c hc heq
  have hcount := h.once id
  rw [hid, if_neg Bool.false_ne_true, List.countP_eq_zero] at hcount
  exact hcount c hc (decide_eq_true heq)

theorem isEnded_of_find? (hr : w.conversations.find? id = some r) :
    w.conversations.isEnded id = !r.active := by
  rw [isEnded, hr]
  rfl

/-- A write over an active conversation that leaves it active. -/
theorem update (h : Ledger w) (hstore : w.conversations.update c = .ok store)
    (hr : w.conversations.find? c.id = some r) (hold : r.active = true) (hnew : c.active = true) :
    Ledger { w with conversations := store } where
  balance := by
    have hcount := count_update (·.active) hstore hr
    have hbalance := h.balance
    simp only [List.countP_singleton, hold, hnew, if_true] at hcount
    change w.opened = w.endings.length + store.count (·.active)
    omega
  once id := by
    refine (h.once id).trans ?_
    have hended : store.isEnded id = w.conversations.isEnded id := by
      rw [isEnded, find?_update hstore]
      split
      · rename_i heq
        rw [heq, isEnded_of_find? hr, hold, Option.any_some, hnew]
      · rfl
    rw [hended]
  faithful hn x hx := by
    have hne : x.id ≠ c.id := h.not_mem_endings (by rw [isEnded_of_find? hr, hold]; rfl) x hx
    change store.find? x.id = some x
    rw [find?_update hstore, if_neg hne]
    exact h.faithful hn x hx

/-- The end of an active conversation with its report. -/
theorem finish (h : Ledger w) {error : Option String}
    (hstore : w.conversations.finish c.id = .ok store)
    (hr : w.conversations.find? c.id = some r) (hactive : r.active = true)
    (hsynced : w.WriteFailed ∨ r = c) :
    Ledger { w.emitted [.conversationEnd { c with active := false } error] with
      conversations := store } := by
  have hendings : (w.emitted [.conversationEnd { c with active := false } error]).endings =
      w.endings ++ [{ c with active := false }] := World.endings_emitted _ _
  refine ⟨?_, fun id => ?_, fun hn x hx => ?_⟩
  · have hcount := count_finish (·.active) hstore hr
    have hbalance := h.balance
    simp only [List.countP_singleton, hactive, Bool.false_eq_true, if_true, if_false] at hcount
    have hopened : (w.emitted [.conversationEnd { c with active := false } error]).opened =
        w.opened := World.opened_emitted _ _
    change (w.emitted _).opened = (w.emitted _).endings.length + store.count (·.active)
    rw [hopened, hendings, List.length_append, List.length_singleton]
    omega
  · change (w.emitted _).endings.countP (·.id = id) = if store.isEnded id then 1 else 0
    rw [hendings, List.countP_append, h.once id, isEnded, isEnded, find?_finish hstore hr]
    by_cases hid : id = c.id
    · -- it was active, so this is its first report
      simp [hid, hr, hactive]
    · simp [hid, Ne.symm hid]
  · change store.find? x.id = some x
    change x ∈ (w.emitted _).endings at hx
    rw [hendings, List.mem_append, List.mem_singleton] at hx
    -- the reports of other conversations, and the one of this
    obtain hx | rfl := hx
    · have hne : x.id ≠ c.id :=
        h.not_mem_endings (by rw [isEnded_of_find? hr, hactive]; rfl) x hx
      rw [find?_finish hstore hr, if_neg hne]
      exact h.faithful hn x hx
    · obtain rfl : r = c := hsynced.resolve_left hn
      rw [find?_finish hstore hr, if_pos rfl]

/-- The beginning of a conversation with its report. -/
theorem create (h : Ledger w) (hsound : w.conversations.Sound)
    (hstore : w.conversations.create sender = .ok (c, store)) :
    Ledger { w.emitted [.count .newConversations] with conversations := store } := by
  have hfree := hsound.find?_created hstore
  have hactive : c.active = true := by
    rw [(create_eq_ok_iff.mp hstore).2.1]
    rfl
  have hendings : (w.emitted [.count .newConversations]).endings = w.endings := by
    rw [World.endings_emitted]
    exact List.append_nil _
  -- nothing was reported of the fresh id
  have hold : w.conversations.isEnded c.id = false := by
    rw [isEnded, hfree]
    rfl
  refine ⟨?_, fun id => ?_, fun hn x hx => ?_⟩
  · have hcount := count_create (·.active) hstore hfree
    have hbalance := h.balance
    have hopened : (w.emitted [.count .newConversations]).opened = w.opened + 1 :=
      World.opened_emitted _ _
    simp only [List.countP_singleton, hactive, if_true] at hcount
    change (w.emitted _).opened = (w.emitted _).endings.length + store.count (·.active)
    rw [hopened, hendings]
    omega
  · change (w.emitted _).endings.countP (·.id = id) = if store.isEnded id then 1 else 0
    have hended : store.isEnded id = w.conversations.isEnded id := by
      rw [isEnded, find?_create hstore]
      split
      · rename_i heq
        rw [heq, hold, Option.any_some, hactive]
        rfl
      · rfl
    rw [hendings, hended, h.once id]
  · change store.find? x.id = some x
    change x ∈ (w.emitted _).endings at hx
    rw [hendings] at hx
    rw [find?_create hstore, if_neg (h.not_mem_endings hold x hx)]
    exact h.faithful hn x hx

end Ledger

/-- What a turn keeps: as long as no end fails the reports agree with the store, and the
conversation in hand is what is on record where it is relied on to be. -/
structure Accounted (p : Phase × World) : Prop where
  /-- The reports agree with the store, if no end failed. -/
  ledger : .endConversation ∉ p.2.failures → Ledger p.2
  /-- The conversation in hand is what is on record, unless a write failed. -/
  synced : ∀ {c}, p.1 = .holding c true →
    p.2.WriteFailed ∨ p.2.conversations.find? c.id = some c

namespace Accounted

variable {s : Subscriber} {w₀ w w' : World} {p q : Phase × World} {ph : Phase}

/-- Where nothing is in hand only the ledger counts. -/
theorem loose (hph : ph = .free ∨ ph = .finished) (h : .endConversation ∉ w.failures → Ledger w) :
    Accounted (ph, w) := by
  refine ⟨h, fun hc => ?_⟩
  obtain rfl | rfl := hph <;> cases hc

/-- The ledger when nothing was done with conversations. -/
theorem ledger_spared (h : Accounted (ph, w)) (hw : w.Spares w')
    (hend : .endConversation ∉ w'.failures) : Ledger w' :=
  (h.ledger fun hm => hend (hw.failures.subset hm)).spared hw

/-- **Every transition keeps it.** -/
theorem step (hsteady : Steady s w₀ p) (hp : Accounted p) (h : Shift s p q) : Accounted q := by
  cases h with
  | unseen hw => exact loose (.inr rfl) (hp.ledger_spared hw)
  | absent hw => exact loose (.inl rfl) (hp.ledger_spared hw)
  | found hw hc =>
    refine ⟨hp.ledger_spared hw, fun hheld => ?_⟩
    cases hheld
    right
    rw [hw.conversations]
    exact (hsteady.sound.find?_of_active? hc).1
  | held hw hid hactive hsender hsynced =>
    refine ⟨hp.ledger_spared hw, fun hheld => ?_⟩
    cases hheld
    -- a conversation that is to be synced is the one that was, or a write failed
    obtain ⟨rfl, rfl⟩ | hfailed := hsynced rfl
    · rw [hw.conversations]
      exact (hp.synced rfl).imp_left (Ledger.writeFailed_mono hw.failures)
    · exact .inl hfailed
  | @written w w' c synced ph store hstore hw hphase =>
    obtain ⟨r, hr, hactive⟩ := (hsteady.held rfl).exists_active
    have hledger : .endConversation ∉ w'.failures → Ledger w' := fun hend =>
      ((hp.ledger fun hm => hend (hw.failures.subset hm)).update hstore hr hactive
        (hsteady.held rfl).active).spared hw
    obtain rfl | rfl := hphase
    · refine ⟨hledger, fun hheld => ?_⟩
      cases hheld
      have hconversations : w'.conversations = store := hw.conversations
      rw [hconversations, find?_update hstore, if_pos rfl]
      exact .inr rfl
    · exact loose (.inr rfl) hledger
  | @ended w w' c ph error store hstore hw hphase =>
    refine loose hphase fun hend => ?_
    obtain ⟨r, hr, hactive⟩ := (hsteady.held rfl).exists_active
    have hsynced : w.WriteFailed ∨ r = c :=
      (hp.synced rfl).imp_right fun hc => Option.some.inj (hr.symm.trans hc)
    exact ((hp.ledger fun hm => hend (hw.failures.subset hm)).finish hstore hr hactive
      hsynced).spared hw
  | unended hw hfailed hphase =>
    refine loose hphase fun hend => absurd ?_ hend
    rw [hfailed]
    exact List.mem_append_right _ List.mem_cons_self
  | @created w w' r hstore hw =>
    refine ⟨fun hend => ?_, fun hheld => nomatch hheld⟩
    exact ((hp.ledger fun hm => hend (hw.failures.subset hm)).create hsteady.sound hstore).spared hw
  | idle hw hphase hphase' =>
    have hledger := hp.ledger_spared hw
    obtain rfl | rfl := hphase'
    · exact loose hphase hledger
    · exact loose (.inr rfl) hledger

end Accounted

/-! ### Runs -/

namespace World

/-- What happens to a world keeps the reports in agreement with the store. -/
theorem ledger_occur (w : World) (o : Occurrence)
    (h : w.conversations.Sound ∧ (.endConversation ∉ w.failures → Ledger w)) :
    (w.occur o).conversations.Sound ∧
      (.endConversation ∉ (w.occur o).failures → Ledger (w.occur o)) := by
  refine occur_induction (I := fun w => w.conversations.Sound ∧
    (.endConversation ∉ w.failures → Ledger w)) o h (fun _ _ => ?_) fun hpath => ?_
  · exact ⟨h.1, fun hend => (h.2 hend).spared ⟨rfl, rfl, rfl, List.prefix_rfl⟩⟩
  · obtain ⟨hsteady, hp⟩ := hpath.turn_preserves (I := fun p => Accounted (p.1.phase, p.2)) h.1
      ⟨h.2, fun hheld => nomatch hheld⟩ fun _ hsteady hmove hp => hp.step hsteady hmove.shift
    exact ⟨hsteady.sound, hp.ledger⟩

/-- **Beginnings and ends balance.** After every history in which no end of a conversation failed,
the conversations that were reported to begin are as many as those reported to end and those still
active on record; the end of each conversation is reported once if it has ended on record, and
else never; and if no write of variables or of conversations failed, the report carries the
conversation as it is on record. -/
theorem lifecycle_balanced {channels : Channel.Registry} {history : List Occurrence} {w : World}
    (hw : (fresh channels).after history = w) (hend : .endConversation ∉ w.failures) :
    w.opened = w.endings.length + w.conversations.count (·.active) ∧
      (∀ id, w.endings.countP (·.id = id) = if w.conversations.isEnded id then 1 else 0) ∧
      (.updateVars ∉ w.failures → .updateConversation ∉ w.failures →
        ∀ c ∈ w.endings, w.conversations.find? c.id = some c) := by
  have hkept := after_preserves ledger_occur history ⟨.empty, fun _ => Ledger.fresh channels⟩
  rw [hw] at hkept
  have hledger := hkept.2 hend
  refine ⟨hledger.balance, hledger.once, fun hvars hconversation => hledger.faithful ?_⟩
  rintro (hfailed | hfailed)
  · exact hvars hfailed
  · exact hconversation hfailed

/-- One conversation has ended with the third text that does not fit, and another has begun. -/
theorem lifecycle_balanced_restarted :
    (Sample.world ["hi", "hi", "hi", "hi"]).endings.map (·.id) = ["conv-1"] ∧
      (Sample.world ["hi", "hi", "hi", "hi"]).opened =
        1 + (Sample.world ["hi", "hi", "hi", "hi"]).conversations.count (·.active) ∧
      ∀ c ∈ (Sample.world ["hi", "hi", "hi", "hi"]).endings,
        (Sample.world ["hi", "hi", "hi", "hi"]).conversations.find? c.id = some c := by
  have hids : (Sample.world ["hi", "hi", "hi", "hi"]).endings.map (·.id) = ["conv-1"] := by
    decide +kernel
  have hlength := congrArg List.length hids
  rw [List.length_map, List.length_singleton] at hlength
  obtain ⟨hbalance, -, hfaithful⟩ := lifecycle_balanced
    (w := Sample.world ["hi", "hi", "hi", "hi"]) rfl (by decide +kernel)
  refine ⟨hids, ?_, hfaithful (by decide +kernel) (by decide +kernel)⟩
  exact hlength ▸ hbalance

end World

end Chatflow

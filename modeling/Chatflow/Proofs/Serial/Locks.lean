import Chatflow.Proofs.Dict
import Chatflow.Serial.Locks

/-!
# The locks keep turns apart

However the steps of calls are interleaved, no two turns of one sender run at once
(`Locks.turns_serialized`). A lock that is taken out of the table and made again is another lock, so
this rests on when a lock may be taken out: a call that refers to a lock refers to the one that the
table has for its sender (`Locks.Sound.current`). A call that looks its sender up finds that lock
or, if there is none in the table, can be sure that no call of the sender refers to any.

That the table is empty in the end is a matter of its own: what is in the table is there for a call
under way (`Locks.Tight`).
-/

namespace Chatflow

namespace Serial

/-- Whether a call has begun and is not done. -/
def Stage.IsUnderWay (s : Stage) : Prop := s ≠ .new ∧ s ≠ .gone

theorem Stage.isUnderWay_of_lock? {s : Stage} {lock : Nat} (h : s.lock? = some lock) :
    s.IsUnderWay := by
  constructor <;> rintro rfl <;> cases h

namespace Locks

/-- The locks after some calls took their next steps, one after the other. -/
def after (l : Locks) (schedule : List Nat) : Locks := schedule.foldl advance l

/-! ### Steps -/

/-- The locks with another lock for a sender, or none. -/
def withTable (l : Locks) (table : Dict Nat) : Locks := { l with table := table }

/-- The locks with a new one for a sender. -/
def withLock (l : Locks) (sender : String) : Locks :=
  { l with table := l.table.insert sender l.made, made := l.made + 1 }

/-- **What one step of a call does.** -/
inductive Step (l : Locks) (call : Nat) : Locks → Prop where
  /-- The lock of the sender is found. -/
  | found {sender : String} {lock : Nat} (hc : l.calls[call]? = some ⟨sender, .new⟩)
      (hl : l.table.find? sender = some lock) :
      Step l call (l.move call (.waiting lock))
  /-- The lock of the sender is made. -/
  | made {sender : String} (hc : l.calls[call]? = some ⟨sender, .new⟩)
      (hl : l.table.find? sender = none) :
      Step l call ((l.withLock sender).move call (.waiting l.made))
  /-- The lock is acquired. -/
  | acquired {sender : String} {lock : Nat} (hc : l.calls[call]? = some ⟨sender, .waiting lock⟩)
      (hfree : l.isHeld lock = false) :
      Step l call (l.move call (.running lock))
  /-- The turn is over, and the lock is released. -/
  | released {sender : String} {lock : Nat} (hc : l.calls[call]? = some ⟨sender, .running lock⟩) :
      Step l call (l.move call (.released lock))
  /-- The lock is no longer referred to. -/
  | dropped {sender : String} {lock : Nat} (hc : l.calls[call]? = some ⟨sender, .released lock⟩) :
      Step l call (l.move call .leaving)
  /-- The lock of the sender, if there is one, is left to the calls that refer to it. -/
  | left {sender : String} (hc : l.calls[call]? = some ⟨sender, .leaving⟩)
      (hl : ∀ lock, l.table.find? sender = some lock → l.isReferred lock = true) :
      Step l call (l.move call .gone)
  /-- The lock of the sender is taken out of the table. -/
  | pruned {sender : String} {lock : Nat} (hc : l.calls[call]? = some ⟨sender, .leaving⟩)
      (hl : l.table.find? sender = some lock) (hfree : l.isReferred lock = false) :
      Step l call ((l.withTable (l.table.erase sender)).move call .gone)

variable {l l' : Locks} {call i j lock : Nat} {c : Call} {sender : String} {st : Stage}

theorem step_fetch (hc : l.calls[call]? = some ⟨sender, .new⟩) :
    Step l call (l.fetch call sender) := by
  rw [fetch]
  split
  · rename_i lock hl
    exact .found hc hl
  · rename_i hl
    exact .made hc hl

theorem step_prune (hc : l.calls[call]? = some ⟨sender, .leaving⟩) :
    Step l call (l.prune call sender) := by
  cases hl : l.table.find? sender with
  | none =>
    have hprune : l.prune call sender = l.move call .gone := by
      simp only [prune, hl]
    rw [hprune]
    exact .left hc fun lock h => by rw [hl] at h; cases h
  | some lock =>
    cases hfree : l.isReferred lock with
    | true =>
      have hprune : l.prune call sender = l.move call .gone := by
        simp only [prune, hl, hfree, if_true]
      rw [hprune]
      refine .left hc fun lock' h => ?_
      rw [hl] at h
      cases h
      exact hfree
    | false =>
      have hprune : l.prune call sender =
          (l.withTable (l.table.erase sender)).move call .gone := by
        simp only [prune, hl, hfree, Bool.false_eq_true, if_false]
        rfl
      rw [hprune]
      exact .pruned hc hl hfree

theorem step_of_advance? (h : l.advance? call = some l') : Step l call l' := by
  unfold advance? at h
  split at h
  · cases h
  · cases h
  · rename_i hc
    cases h
    exact step_fetch hc
  · rename_i hc
    split at h
    · cases h
    · rename_i hfree
      cases h
      exact .acquired hc (Bool.not_eq_true _ ▸ hfree)
  · rename_i hc
    cases h
    exact .released hc
  · rename_i hc
    cases h
    exact .dropped hc
  · rename_i hc
    cases h
    exact step_prune hc

/-- **What every step keeps, every interleaving keeps.** -/
theorem after_preserves {I : Locks → Prop} (hstep : ∀ l call l', Step l call l' → I l → I l')
    (schedule : List Nat) (h : I l) : I (l.after schedule) := by
  induction schedule generalizing l with
  | nil => exact h
  | cons call schedule ih =>
    refine ih ?_
    rw [advance]
    cases hadvance : l.advance? call with
    | none => exact h
    | some l' => exact hstep l call l' (step_of_advance? hadvance) h

/-! ### One call moves -/

theorem calls_move : (l.move call st).calls[i]? =
    l.calls[i]?.map fun c => if call = i then { c with stage := st } else c :=
  List.getElem?_modify _ _ _ _

theorem senders_move : (l.move call st).calls.map (·.sender) = l.calls.map (·.sender) := by
  refine List.ext_getElem? fun i => ?_
  rw [List.getElem?_map, List.getElem?_map, calls_move, Option.map_map]
  congr 1
  funext c
  simp only [Function.comp_apply]
  split <;> rfl

/-- A call is as it was, or is the one that moved. -/
theorem calls_move_cases (h : (l.move call st).calls[i]? = some c) :
    l.calls[i]? = some c ∧ call ≠ i ∨
      call = i ∧ ∃ old, l.calls[i]? = some ⟨c.sender, old⟩ ∧ c.stage = st := by
  rw [calls_move, Option.map_eq_some_iff] at h
  obtain ⟨old, hold, hc⟩ := h
  split at hc
  · rename_i hi
    subst hc
    exact .inr ⟨hi, old.stage, hold, rfl⟩
  · rename_i hi
    subst hc
    exact .inl ⟨hold, hi⟩

theorem Step.senders (h : Step l call l') : l'.calls.map (·.sender) = l.calls.map (·.sender) := by
  cases h <;> exact senders_move

/-! ### What calls refer to -/

/-- The table and the calls agree, and a lock is held once. -/
structure Sound (l : Locks) : Prop where
  /-- The locks in the table were made. -/
  made : ∀ {sender : String} {lock : Nat}, l.table.find? sender = some lock → lock < l.made
  /-- Each sender has a lock of its own. -/
  own : ∀ {s s' : String} {lock : Nat}, l.table.find? s = some lock → l.table.find? s' = some lock → s = s'
  /-- What a call refers to is the lock in the table for its sender. -/
  current : ∀ {i : Nat} {c : Call} {lock : Nat}, l.calls[i]? = some c →
    c.stage.lock? = some lock → l.table.find? c.sender = some lock
  /-- One call at most runs under a lock. -/
  exclusive : ∀ {i j : Nat} {c c' : Call} {lock : Nat}, l.calls[i]? = some c →
    l.calls[j]? = some c' → c.stage = .running lock → c'.stage = .running lock → i = j

theorem isHeld_eq_false_iff :
    l.isHeld lock = false ↔
      ∀ (i : Nat) (c : Call), l.calls[i]? = some c → c.stage ≠ .running lock := by
  rw [isHeld, List.any_eq_false]
  constructor
  · intro h i c hc hrun
    exact h c (List.mem_of_getElem? hc) (decide_eq_true hrun)
  · intro h c hc hrun
    obtain ⟨i, hi⟩ := List.mem_iff_getElem?.mp hc
    exact h i c hi (of_decide_eq_true hrun)

theorem isReferred_iff :
    l.isReferred lock = true ↔
      ∃ (i : Nat) (c : Call), l.calls[i]? = some c ∧ c.stage.lock? = some lock := by
  rw [isReferred, List.any_eq_true]
  constructor
  · rintro ⟨c, hc, hlock⟩
    obtain ⟨i, hi⟩ := List.mem_iff_getElem?.mp hc
    exact ⟨i, c, hi, of_decide_eq_true hlock⟩
  · rintro ⟨i, c, hi, hlock⟩
    exact ⟨c, List.mem_of_getElem? hi, decide_eq_true hlock⟩

namespace Sound

/-- Before any call has begun the table is empty. -/
theorem start (senders : List String) : (start senders).Sound := by
  have hnew : ∀ {i : Nat} {c : Call},
      (Locks.start senders).calls[i]? = some c → c.stage = .new := by
    intro i c hc
    obtain ⟨s, -, rfl⟩ := List.mem_map.mp (List.mem_of_getElem? hc)
    rfl
  refine ⟨fun h => ?_, fun h => ?_, fun hc hlock => ?_, fun hc _ hrun => ?_⟩
  · cases h
  · cases h
  · rw [hnew hc] at hlock
    cases hlock
  · rw [hnew hc] at hrun
    cases hrun

/-- A call moves to a stage at which it refers to the lock of its sender, or to none, and holds no
lock that another call holds. -/
theorem move (h : l.Sound) (hc : l.calls[call]? = some c)
    (hcurrent : ∀ lock, st.lock? = some lock → l.table.find? c.sender = some lock)
    (hfree : ∀ lock, st = .running lock → l.isHeld lock = false) : (l.move call st).Sound where
  made := h.made
  own := h.own
  current {i c' lock} hi hlock := by
    obtain ⟨hi, -⟩ | ⟨rfl, old, hi, hst⟩ := calls_move_cases hi
    · exact h.current hi hlock
    · rw [hc] at hi
      cases hi
      exact hcurrent lock (hst ▸ hlock)
  exclusive {i j c₁ c₂ lock} hi hj hrun₁ hrun₂ := by
    obtain ⟨hi, hne₁⟩ | ⟨rfl, old, hi, hst⟩ := calls_move_cases hi
    · obtain ⟨hj, hne₂⟩ | ⟨rfl, old, hj, hst⟩ := calls_move_cases hj
      · exact h.exclusive hi hj hrun₁ hrun₂
      · -- the lock was free when the other call took it
        have hheld := isHeld_eq_false_iff.mp (hfree lock (hst ▸ hrun₂))
        exact absurd hrun₁ (hheld i c₁ hi)
    · obtain ⟨hj, hne₂⟩ | ⟨rfl, old', hj, hst'⟩ := calls_move_cases hj
      · have hheld := isHeld_eq_false_iff.mp (hfree lock (hst ▸ hrun₁))
        exact absurd hrun₂ (hheld j c₂ hj)
      · rfl

/-- A lock is made for a sender that has none. -/
theorem withLock (h : l.Sound) (hl : l.table.find? sender = none) :
    (l.withLock sender).Sound where
  made {s lock} hs := by
    simp only [Locks.withLock, Dict.find?_insert] at hs ⊢
    split at hs
    · obtain rfl := Option.some.inj hs
      exact Nat.lt_succ_self _
    · exact Nat.lt_succ_of_lt (h.made hs)
  own {s s' lock} hs hs' := by
    simp only [Locks.withLock, Dict.find?_insert] at hs hs'
    -- the new lock is none of those made before
    split at hs
    · rename_i heq
      obtain rfl := Option.some.inj hs
      split at hs'
      · rename_i heq'
        exact heq.trans heq'.symm
      · exact absurd (h.made hs') (Nat.lt_irrefl _)
    · split at hs'
      · obtain rfl := Option.some.inj hs'
        exact absurd (h.made hs) (Nat.lt_irrefl _)
      · exact h.own hs hs'
  current {i c lock} hi hlock := by
    have hfind := h.current hi hlock
    have hne : c.sender ≠ sender := fun heq => by
      rw [heq, hl] at hfind
      cases hfind
    simpa only [Locks.withLock, Dict.find?_insert, if_neg hne] using hfind
  exclusive := h.exclusive

/-- The lock of a sender is taken out when no call refers to it. -/
theorem withoutLock (h : l.Sound) (hl : l.table.find? sender = some lock)
    (hfree : l.isReferred lock = false) : (l.withTable (l.table.erase sender)).Sound where
  made {s lock} hs := by
    simp only [withTable, Dict.find?_erase] at hs
    split at hs
    · cases hs
    · exact h.made hs
  own {s s' lock} hs hs' := by
    simp only [withTable, Dict.find?_erase] at hs hs'
    split at hs
    · cases hs
    · split at hs'
      · cases hs'
      · exact h.own hs hs'
  current {i c lock'} hi hlock := by
    have hfind := h.current hi hlock
    have hne : c.sender ≠ sender := fun heq => by
      rw [heq, hl] at hfind
      cases hfind
      have hreferred : l.isReferred lock = true := isReferred_iff.mpr ⟨i, c, hi, hlock⟩
      rw [hreferred] at hfree
      cases hfree
    simpa only [withTable, Dict.find?_erase, if_neg hne] using hfind
  exclusive := h.exclusive

/-- **Every step keeps it.** -/
theorem step (h : l.Sound) (hstep : Step l call l') : l'.Sound := by
  cases hstep with
  | found hc hl =>
    refine h.move hc (fun lock hlock => ?_) nofun
    cases hlock
    exact hl
  | @made sender hc hl =>
    refine (h.withLock hl).move hc (fun lock hlock => ?_) nofun
    cases hlock
    exact Dict.find?_insert_self _ _ _
  | acquired hc hfree =>
    refine h.move hc (fun lock hlock => ?_) (fun lock hrun => ?_)
    · cases hlock
      exact h.current hc rfl
    · cases hrun
      exact hfree
  | released hc =>
    refine h.move hc (fun lock hlock => ?_) nofun
    cases hlock
    exact h.current hc rfl
  | dropped hc => exact h.move hc nofun nofun
  | left hc hl => exact h.move hc nofun nofun
  | pruned hc hl hfree => exact (h.withoutLock hl hfree).move hc nofun nofun

end Sound

/-! ### What is left in the table -/

/-- A lock is in the table for a call of its sender that is under way. -/
def Tight (l : Locks) : Prop :=
  ∀ sender lock, l.table.find? sender = some lock →
    ∃ (i : Nat) (c : Call), l.calls[i]? = some c ∧ c.sender = sender ∧ c.stage.IsUnderWay

namespace Tight

/-- A call that is under way after it moved accounts for the lock of its sender, and all locks of
other senders are accounted for as before. -/
theorem move (h : ∀ s lock, l.table.find? s = some lock → s ≠ c.sender →
      ∃ (i : Nat) (c : Call), l.calls[i]? = some c ∧ c.sender = s ∧ c.stage.IsUnderWay)
    (hc : l.calls[call]? = some c) (hst : st.IsUnderWay) : (l.move call st).Tight := by
  intro s lock hs
  by_cases hsender : s = c.sender
  · refine ⟨call, { c with stage := st }, ?_, hsender.symm, hst⟩
    rw [calls_move, hc, Option.map_some, if_pos rfl]
  · obtain ⟨i, c', hi, rfl, hway⟩ := h s lock hs hsender
    refine ⟨i, c', ?_, rfl, hway⟩
    have hne : call ≠ i := by
      rintro rfl
      rw [hc] at hi
      exact hsender (congrArg Call.sender (Option.some.inj hi)).symm
    rw [calls_move, hi, Option.map_some, if_neg hne]

/-- A call is done: the lock of its sender is out of the table, or another call refers to it. -/
theorem gone (h : l.Tight) (hsound : l.Sound) (hc : l.calls[call]? = some ⟨sender, .leaving⟩)
    (hl : ∀ lock, l.table.find? sender = some lock → l.isReferred lock = true) :
    (l.move call .gone).Tight := by
  intro s lock hs
  -- a call under way that is not the one that moved
  obtain ⟨i, c, hi, rfl, hway, hne⟩ : ∃ (i : Nat) (c : Call), l.calls[i]? = some c ∧
      c.sender = s ∧ c.stage.IsUnderWay ∧ call ≠ i := by
    by_cases hsender : s = sender
    · subst hsender
      obtain ⟨i, c, hi, hlock⟩ := isReferred_iff.mp (hl lock hs)
      refine ⟨i, c, hi, hsound.own (hsound.current hi hlock) hs,
        Stage.isUnderWay_of_lock? hlock, ?_⟩
      rintro rfl
      rw [hc] at hi
      cases hi
      cases hlock
    · obtain ⟨i, c, hi, rfl, hway⟩ := h s lock hs
      refine ⟨i, c, hi, rfl, hway, ?_⟩
      rintro rfl
      rw [hc] at hi
      cases hi
      exact hsender rfl
  refine ⟨i, c, ?_, rfl, hway⟩
  rw [calls_move, hi, Option.map_some, if_neg hne]

/-- **Every step keeps it.** -/
theorem step (h : l.Tight) (hsound : l.Sound) (hstep : Step l call l') : l'.Tight := by
  cases hstep with
  | found hc | acquired hc | released hc | dropped hc =>
    exact move (fun s lock hs _ => h s lock hs) hc ⟨nofun, nofun⟩
  | @made sender hc hl =>
    refine move (c := ⟨sender, .new⟩) (fun s lock hs hne => ?_) hc ⟨nofun, nofun⟩
    rw [withLock, Dict.find?_insert, if_neg hne] at hs
    exact h s lock hs
  | left hc hl => exact h.gone hsound hc hl
  | @pruned sender lock hc hl hfree =>
    -- what is still in the table belongs to other senders
    have hrest : (l.withTable (l.table.erase sender)).Tight := by
      intro s lock' hs
      rw [withTable, Dict.find?_erase] at hs
      split at hs
      · cases hs
      · exact h s lock' hs
    refine hrest.gone (hsound.withoutLock hl hfree) hc fun lock' hs => ?_
    rw [withTable, Dict.find?_erase, if_pos rfl] at hs
    cases hs

/-- When no call is under way the table is empty. -/
theorem isEmpty (h : l.Tight) (hdone : ∀ c ∈ l.calls, ¬ c.stage.IsUnderWay) :
    l.isEmpty = true := by
  refine Dict.isEmpty_of_find? fun sender => ?_
  cases hs : l.table.find? sender with
  | none => rfl
  | some lock =>
    obtain ⟨i, c, hi, -, hway⟩ := h sender lock hs
    exact absurd hway (hdone c (List.mem_of_getElem? hi))

end Tight

/-! ### Interleavings -/

/-- Where no call can take a step, all are done: the only call that has to wait is one whose lock is
held, and the call that holds it can go on. -/
theorem gone_of_stuck (h : ∀ call, l.advance? call = none) : ∀ c ∈ l.calls, c.stage = .gone := by
  have hrunning : ∀ (i : Nat) (sender : String) (lock : Nat),
      l.calls[i]? ≠ some ⟨sender, .running lock⟩ := by
    intro i sender lock hi
    have hadvance := h i
    simp only [advance?, hi] at hadvance
    cases hadvance
  intro c hc
  obtain ⟨i, hi⟩ := List.mem_iff_getElem?.mp hc
  have hadvance := h i
  obtain ⟨sender, stage⟩ := c
  cases stage with
  | gone => rfl
  | running lock => exact absurd hi (hrunning i sender lock)
  | waiting lock =>
    have hfree : l.isHeld lock = false := by
      refine isHeld_eq_false_iff.mpr fun j c hj hrun => ?_
      obtain ⟨s, st⟩ := c
      cases hrun
      exact hrunning j s lock hj
    simp only [advance?, hi, hfree] at hadvance
    cases hadvance
  | new | released | leaving =>
    simp only [advance?, hi] at hadvance
    cases hadvance

/-- **Turns are serialized.** However the steps of some calls are interleaved, no two calls of one
sender run their turns at once; each call that waits for a lock or holds one refers to the lock that
is in the table for its sender; and once all calls are done the table is empty. They can always be
done: as long as one is not, some call can take a step. -/
theorem turns_serialized {senders : List String} {schedule : List Nat}
    (hl : (start senders).after schedule = l) :
    l.calls.map (·.sender) = senders ∧
      (∀ (i j : Nat) (sender : String) (lock lock' : Nat),
        l.calls[i]? = some ⟨sender, .running lock⟩ →
          l.calls[j]? = some ⟨sender, .running lock'⟩ → i = j) ∧
      (∀ (i : Nat) (sender : String) (lock : Nat),
        l.calls[i]? = some ⟨sender, .waiting lock⟩ ∨ l.calls[i]? = some ⟨sender, .running lock⟩ →
          l.table.find? sender = some lock) ∧
      ((∀ c ∈ l.calls, c.stage = .gone) → l.isEmpty = true) ∧
      ((∀ call, l.advance? call = none) → ∀ c ∈ l.calls, c.stage = .gone) := by
  obtain ⟨hsenders, hsound, htight⟩ := after_preserves
    (I := fun l => l.calls.map (·.sender) = senders ∧ l.Sound ∧ l.Tight)
    (fun _ _ _ hstep h => ⟨hstep.senders.trans h.1, h.2.1.step hstep, h.2.2.step h.2.1 hstep⟩)
    schedule ⟨by rw [start, List.map_map]; exact List.map_id _, Sound.start senders, nofun⟩
  rw [hl] at hsenders hsound htight
  refine ⟨hsenders, ?_, ?_, fun hdone => htight.isEmpty fun c hc hway => hway.2 (hdone c hc),
    gone_of_stuck⟩
  · intro i j sender lock lock' hi hj
    have hlock := hsound.current hi rfl
    rw [hsound.current hj rfl] at hlock
    cases hlock
    exact hsound.exclusive hi hj rfl rfl
  · rintro i sender lock (hi | hi) <;> exact hsound.current hi rfl

/-- Three calls of one sender: the lock of the first is taken out of the table, and that of the
others is another one, under which one of them runs while the other waits. -/
theorem turns_serialized_again :
    (start ["ann", "ann", "ann"]).after [0, 0, 0, 0, 0, 1, 1, 2, 2] =
        ⟨.ofList [("ann", 1)], 2,
          [⟨"ann", .gone⟩, ⟨"ann", .running 1⟩, ⟨"ann", .waiting 1⟩]⟩ ∧
      (Dict.ofList [("ann", 1)]).find? "ann" = some 1 := by
  have hl : (start ["ann", "ann", "ann"]).after [0, 0, 0, 0, 0, 1, 1, 2, 2] =
      ⟨.ofList [("ann", 1)], 2, [⟨"ann", .gone⟩, ⟨"ann", .running 1⟩, ⟨"ann", .waiting 1⟩]⟩ := by
    decide +kernel
  exact ⟨hl, (turns_serialized hl).2.2.1 2 "ann" 1 (.inl rfl)⟩

end Locks

end Serial

end Chatflow

import Chatflow.Proofs.Context
import Chatflow.Proofs.Dict
import Mathlib.Logic.Function.Iterate

/-!
# Events that are taken in more than once

Each part of a context but the reading positions is the same after an event as after the same event
twice: it is what the event says or what the block captures of it, or it stays what it was. So a
context into which an event was taken is changed by that event in the reading positions only
(`Context.fold_again`). These are moved on by a page each time if the event asks for more and the
block shows content, up to the largest number of 32 bits, and stay otherwise
(`Context.update_idempotent`).

What is kept with the subscriber is read from the event alone, and no capture of it looks at what
the text was understood as.
-/

namespace Chatflow

/-! ### The parts of a context -/

namespace Dict

variable {α : Type}

theorem insertAll_insertAll (d : Dict α) (l : List (String × α)) :
    (d.insertAll l).insertAll l = d.insertAll l :=
  ext_find? fun k => by rw [find?_insertAll, find?_insertAll, ← Option.or_assoc, Option.or_self]

end Dict

variable (b : Block) (e : Event)

theorem UserSnapshot.told_told (u : UserSnapshot) : (u.told e).told e = u.told e := by
  rw [told, told]
  cases e.sender with
  | none => rfl
  | some s => cases hs : s.language <;> simp [hs]

theorem UserLocation.moved_moved (l : UserLocation) : (l.moved e).moved e = l.moved e := by
  rw [moved, moved]
  cases e.coordinates? <;> rfl

namespace Block

variable {b e}

/-- Reading positions that are not moved on stay where they are. -/
theorem turned_turned (h : e.asksForMore = false ∨ b.options.content = none) (skip : Dict UInt32) :
    b.turned e (b.turned e skip) = b.turned e skip := by
  rw [turned, turned]
  cases ho : b.options.content with
  | none => rfl
  | some o =>
    obtain h | h := h
    · simp only [Option.elim_some, h, Bool.false_eq_true, if_false, Dict.insert_insert]
    · cases ho.symm.trans h

/-- **Turning pages.** An event that asks for more moves the reading position on by a page each
time. -/
theorem turned_iterate {o : Content.Options} (hmore : e.asksForMore = true)
    (ho : b.options.content = some o) (skip : Dict UInt32) {k : Nat} (hk : 1 ≤ k) :
    (b.turned e)^[k] skip =
      skip.insert b.id ((saturatingAdd · o.limit)^[k] ((skip.find? b.id).getD 0)) := by
  have hturned : ∀ skip, b.turned e skip =
      skip.insert b.id (saturatingAdd ((skip.find? b.id).getD 0) o.limit) := by
    intro skip
    rw [turned, ho, Option.elim_some, if_pos hmore]
  induction k, hk using Nat.le_induction with
  | base => exact hturned skip
  | succ k hk ih =>
    rw [Function.iterate_succ_apply', ih, hturned, Dict.find?_insert_self, Dict.insert_insert,
      Function.iterate_succ_apply']
    rfl

end Block

/-- Sums that stop at the largest number of 32 bits, one after the other. -/
theorem toNat_saturatingAdd_iterate (a b : UInt32) (k : Nat) :
    ((saturatingAdd · b)^[k] a).toNat = min (a.toNat + k * b.toNat) (UInt32.size - 1) := by
  induction k with
  | zero =>
    rw [Nat.zero_mul, Nat.add_zero]
    exact (Nat.min_eq_left (Nat.le_pred_of_lt a.toNat_lt)).symm
  | succ k ih =>
    rw [Function.iterate_succ_apply', toNat_saturatingAdd_eq_min, ih, Nat.succ_mul]
    omega

/-! ### Captures -/

theorem findEntry_captured_eq_none {captures : List Capture} {name : String}
    (h : ∀ c ∈ captures, c.variableName = name → c.source.read? e = none) :
    Dict.findEntry name (captured captures e).reverse = none := by
  rw [Option.eq_none_iff_forall_ne_some]
  intro v hv
  obtain ⟨c, hc, hname, value, hread, -⟩ := exists_capture hv
  cases (h c hc hname).symm.trans hread

/-- What is read of the input or the payload has nothing to do with what the text was understood
as. -/
theorem Block.permanentCaptures_nlp (nlp : Option Nlp.Parse) :
    b.permanentCaptures { e with nlp := nlp } = b.permanentCaptures e := by
  have hread : ∀ c ∈ b.inputCaptures,
      c.source.read? { e with nlp := nlp } = c.source.read? e := by
    intro c hc
    have hinput : c.source = .input := of_decide_eq_true (List.mem_filter.mp hc).2
    rw [hinput]
    rfl
  rw [permanentCaptures, captured, List.filterMap_congr fun c hc => by rw [hread c hc]]
  rfl

/-! ### Contexts -/

namespace Context

variable (c : Context)

/-- **An event that was taken in** is taken in again in the reading positions only. -/
theorem fold_again (skip : Dict UInt32) :
    ({ c.fold b e with skip := skip } : Context).fold b e =
      { c.fold b e with skip := b.turned e skip } := by
  rw [fold_eq, fold_eq]
  simp only [UserSnapshot.told_told, UserLocation.moved_moved, Dict.insertAll_insertAll]

theorem fold_fold : (c.fold b e).fold b e =
    { c.fold b e with skip := b.turned e (b.turned e c.skip) } := by
  rw [← skip_fold]
  exact c.fold_again b e (c.fold b e).skip

theorem fold_iterate {k : Nat} (hk : 1 ≤ k) :
    (·.fold b e)^[k] c = { c.fold b e with skip := (b.turned e)^[k] c.skip } := by
  induction k, hk using Nat.le_induction with
  | base => exact congrArg (fun skip => { c.fold b e with skip := skip }) (c.skip_fold b e)
  | succ k hk ih =>
    rw [Function.iterate_succ_apply', ih, fold_again, Function.iterate_succ_apply']

/-- **Taking in an event again.** An event that does not ask for more, or that triggers a block
without content, is taken in once and for all. One that asks a block for more content moves the
reading position of this block on by a page each time, up to the largest number of 32 bits, and
changes nothing else when it is taken in again. In any case the count of attempts stays, and so do
the reading positions of other blocks and each variable for which nothing is captured. A variable is
what the last capture reads that reads something for it. What is kept with the subscriber depends on
the block and the event only, and not on what its text was understood as. -/
theorem update_idempotent (permanent : Bool) :
    (e.asksForMore = false ∨ b.options.content = none →
      ((c.update b e permanent).context.update b e permanent).context =
        (c.update b e permanent).context) ∧
    (∀ o, e.asksForMore = true → b.options.content = some o → ∀ k, 1 ≤ k → ∃ n : UInt32,
      n.toNat = min ((c.skipFor b.id).toNat + k * o.limit.toNat) (UInt32.size - 1) ∧
      (fun c => (c.update b e permanent).context)^[k] c =
        { (c.update b e permanent).context with skip := c.skip.insert b.id n }) ∧
    (c.update b e permanent).context.attempt = c.attempt ∧
    (∀ id, id ≠ b.id → (c.update b e permanent).context.skip.find? id = c.skip.find? id) ∧
    (∀ name, (∀ capture ∈ b.captures, capture.variableName = name →
        capture.source.read? e = none) →
      (c.update b e permanent).context.vars.find? name = c.vars.find? name) ∧
    (∀ before capture later v, b.captures = before ++ capture :: later →
      capture.source.read? e = some v →
      (∀ capture' ∈ later, capture'.variableName = capture.variableName →
        capture'.source.read? e = none) →
      (c.update b e permanent).context.vars.find? capture.variableName = some v.trim) ∧
    ∀ (c' : Context) nlp,
      (c'.update b { e with nlp := nlp } permanent).kept = (c.update b e permanent).kept := by
  refine ⟨fun h => ?_, fun o hmore ho k hk => ?_, c.attempt_fold b e,
    fun id hid => c.find?_skip_fold b e hid, fun name hnone => ?_,
    fun before capture later v hcaptures hread hlater => ?_, fun c' nlp => ?_⟩
  · change (c.fold b e).fold b e = c.fold b e
    rw [fold_fold, Block.turned_turned h, ← skip_fold]
  · refine ⟨_, toNat_saturatingAdd_iterate (c.skipFor b.id) o.limit k, ?_⟩
    rw [skipFor, ← Block.turned_iterate hmore ho c.skip hk]
    exact c.fold_iterate b e hk
  · change (c.fold b e).vars.find? name = c.vars.find? name
    rw [vars_fold, Dict.find?_insertAll, findEntry_captured_eq_none e hnone, Option.none_or]
  · change (c.fold b e).vars.find? capture.variableName = some v.trim
    rw [vars_fold, Dict.find?_insertAll, findEntry_captured hcaptures hread,
      findEntry_captured_eq_none e hlater, Option.none_or, Option.some_or]
  · rw [update, update, Block.permanentCaptures_nlp]

end Context

namespace Sample

/-- How the news are listed: four entries at a time. -/
def bulletinOptions : Content.Options := ⟨.list, "news", .empty, [], 4, none⟩

/-- A block that lists the news. It keeps what was pressed, or the topic if one was understood. -/
def bulletin : Block :=
  { Block.plain "bulletin" "Bulletin" (.content true) with
    captures := [⟨.payload, "choice"⟩, ⟨.entity "topic", "choice"⟩]
    options := { BlockOptions.none with content := some bulletinOptions } }

/-- More is asked for, of which no topic is understood. -/
def askingMore : Event :=
  ⟨.web, .message ⟨.postback "View More" viewMore, none, none⟩, none, none⟩

/-- A context in which the bulletin was read almost as far as can be told. -/
def wellRead : Context := { Context.empty with skip := .ofList [("bulletin", 4294967286)] }

end Sample

namespace Context

/-- The third page is not to be told from the end, and the choice was to read on. -/
theorem update_idempotent_bulletin :
    (∃ n : UInt32, n.toNat = UInt32.size - 1 ∧
      (fun c => (c.update Sample.bulletin Sample.askingMore true).context)^[3] Sample.wellRead =
        { (Sample.wellRead.update Sample.bulletin Sample.askingMore true).context with
          skip := Sample.wellRead.skip.insert "bulletin" n }) ∧
    (Sample.wellRead.update Sample.bulletin Sample.askingMore true).context.vars.find? "choice" =
      some (.str viewMore) := by
  obtain ⟨-, hpages, -, -, -, hvars, -⟩ :=
    Sample.wellRead.update_idempotent Sample.bulletin Sample.askingMore true
  constructor
  · obtain ⟨n, hn, hfold⟩ := hpages Sample.bulletinOptions (by decide) rfl 3 (by decide)
    exact ⟨n, hn, hfold⟩
  · have hchoice := hvars [] ⟨.payload, "choice"⟩ [⟨.entity "topic", "choice"⟩] (.str viewMore)
      rfl rfl (by decide)
    exact hchoice.trans (by decide +kernel)

end Context

end Chatflow

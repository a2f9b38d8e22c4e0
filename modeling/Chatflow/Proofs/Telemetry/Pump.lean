import Chatflow.Telemetry.Pump
import Chatflow.Proofs.Telemetry.Snapshot

/-!
# The pump loses nothing

Events are emitted, received and counted, and the pump is asked to stop, in any order
(`Pump.Step`). Until it stops, the events that were emitted are those that were counted and those
that wait, in the order in which they were emitted (`Pump.Flows`). It stops at the moment at which
it finds, while draining, that nothing waits; so what it has counted in the end is all that was
emitted up to then, and everything that was emitted before it was asked to stop
(`Pump.counts_all`).
-/

namespace Chatflow

namespace Telemetry

namespace Pump

/-- What happens to a pump: a step of its own, or of those who emit or ask it to stop. -/
inductive Step where
  /-- Somebody emits an event. -/
  | emit (e : Event)
  /-- The event that waited longest is counted. -/
  | receive
  /-- The pump is asked to stop. -/
  | cancel
  /-- It looks whether it is asked to. -/
  | notice
  /-- It looks whether anything is left. -/
  | finish
  deriving DecidableEq

/-- The event that a step emits. -/
def Step.emitted? : Step → Option Event
  | .emit e => some e
  | .receive | .cancel | .notice | .finish => none

/-- The events that some steps emit, in that order. -/
def emitted (schedule : List Step) : List Event := schedule.filterMap Step.emitted?

/-- The pump after a step. -/
def step (p : Pump) : Step → Pump
  | .emit e => p.emit e
  | .receive => p.receive
  | .cancel => p.cancel
  | .notice => p.notice
  | .finish => p.finish

/-- The pump after some steps, one after the other. -/
def after (p : Pump) (schedule : List Step) : Pump := schedule.foldl step p

variable {p : Pump} {schedule schedule' : List Step} {s : Step}

theorem after_append (p : Pump) (schedule schedule' : List Step) :
    p.after (schedule ++ schedule') = (p.after schedule).after schedule' :=
  List.foldl_append

theorem after_concat (p : Pump) (schedule : List Step) (s : Step) :
    p.after (schedule ++ [s]) = (p.after schedule).step s :=
  after_append p schedule [s]

theorem emitted_append (schedule schedule' : List Step) :
    emitted (schedule ++ schedule') = emitted schedule ++ emitted schedule' :=
  List.filterMap_append

/-! ### One step -/

/-- Once the pump has stopped no step changes what it counted, and what is emitted is dropped. -/
theorem step_of_stopped (h : p.phase = .stopped) (s : Step) :
    (p.step s).phase = .stopped ∧ (p.step s).counts = p.counts ∧ ∀ e, p.emit e = p := by
  have hemit : ∀ e, p.emit e = p := fun e => if_pos h
  refine and_assoc.mp ⟨?_, hemit⟩
  cases s with
  | emit e =>
    rw [step, hemit]
    exact ⟨h, rfl⟩
  | receive =>
    have hreceive : p.receive = p := by
      rw [receive]
      split
      · rfl
      · exact if_pos h
    rw [step, hreceive]
    exact ⟨h, rfl⟩
  | cancel => exact ⟨h, rfl⟩
  | notice => simp [step, notice, h]
  | finish => simp [step, finish, h]

/-- The phase changes only when the pump looks: it is draining once it was asked to stop, and stops
when it is draining and nothing waits. -/
theorem phase_step (p : Pump) (s : Step) :
    (p.step s).phase = p.phase ∨
      (s = .notice ∧ p.cancelled = true ∧ (p.step s).phase = .draining) ∨
      s = .finish ∧ p.queue = [] ∧ p.phase = .draining ∧ (p.step s).phase = .stopped := by
  cases s with
  | emit e =>
    left
    simp only [step, emit]
    split <;> rfl
  | receive =>
    left
    simp only [step, receive]
    split
    · rfl
    · split <;> rfl
  | cancel => exact .inl rfl
  | notice =>
    simp only [step, notice]
    split
    · rename_i h
      simp only [Bool.and_eq_true] at h
      exact .inr (.inl ⟨trivial, h.1, rfl⟩)
    · exact .inl rfl
  | finish =>
    simp only [step, finish]
    split
    · rename_i h
      simp only [Bool.and_eq_true, List.isEmpty_iff, decide_eq_true_eq] at h
      exact .inr (.inr ⟨trivial, h.1, h.2, rfl⟩)
    · exact .inl rfl

/-- Only whoever asks the pump to stop makes it cancelled. -/
theorem cancelled_step (hs : s ≠ .cancel) : (p.step s).cancelled = p.cancelled := by
  cases s with
  | emit e => simp only [step, emit]; split <;> rfl
  | receive =>
    simp only [step, receive]
    split
    · rfl
    · split <;> rfl
  | cancel => exact absurd rfl hs
  | notice => simp only [step, notice]; split <;> rfl
  | finish => simp only [step, finish]; split <;> rfl

/-! ### While the pump runs -/

/-- The pump has counted the first of some events, and the others wait. -/
def Flows (p : Pump) (events : List Event) : Prop :=
  ∃ counted, events = counted ++ p.queue ∧ p.counts = .ofEvents counted

theorem flows_start : start.Flows [] := ⟨[], rfl, rfl⟩

/-- **Every step of a running pump keeps it so**, with the event that the step emits. -/
theorem Flows.step {events : List Event} (h : p.Flows events) (hrun : p.phase ≠ .stopped)
    (s : Step) : (p.step s).Flows (events ++ emitted [s]) := by
  obtain ⟨counted, hevents, hcounts⟩ := h
  have hquiet : ∀ {p' : Pump}, p'.queue = p.queue → p'.counts = p.counts →
      p'.Flows (events ++ []) := fun hqueue hsame =>
    ⟨counted, by rw [List.append_nil, hqueue, hevents], by rw [hsame, hcounts]⟩
  cases s with
  | emit e =>
    have hemit : p.step (.emit e) = { p with queue := p.queue ++ [e] } := if_neg hrun
    rw [hemit]
    exact ⟨counted, by rw [hevents, List.append_assoc]; rfl, hcounts⟩
  | receive =>
    rw [Pump.step, receive]
    split
    · exact hquiet rfl rfl
    · rename_i e rest hqueue
      rw [if_neg hrun]
      -- the event moves from the waiting ones to the counted ones
      refine ⟨counted ++ [e], ?_, ?_⟩
      · rw [hevents, hqueue, List.append_assoc, List.append_assoc]
        exact congrArg (counted ++ ·) (List.append_nil _)
      · rw [Snapshot.ofEvents_concat, hcounts]
  | cancel => exact hquiet rfl rfl
  | notice => simp only [Pump.step, notice]; split <;> exact hquiet rfl rfl
  | finish => simp only [Pump.step, finish]; split <;> exact hquiet rfl rfl

/-- **Until it stops the pump has counted or holds what was emitted.** -/
theorem flows_after (h : (start.after schedule).phase ≠ .stopped) :
    (start.after schedule).Flows (emitted schedule) := by
  induction schedule using List.reverseRecOn with
  | nil => exact flows_start
  | append_singleton schedule s ih =>
    rw [after_concat] at h ⊢
    have hrun : (start.after schedule).phase ≠ .stopped := fun hstopped =>
      h (step_of_stopped hstopped s).1
    rw [emitted_append]
    exact (ih hrun).step hrun s

/-! ### How the pump stops -/

/-- A pump that nobody asked to stop goes on counting. -/
theorem counting_after (h : .cancel ∉ schedule) :
    (start.after schedule).phase = .counting ∧ (start.after schedule).cancelled = false := by
  induction schedule using List.reverseRecOn with
  | nil => exact ⟨rfl, rfl⟩
  | append_singleton schedule s ih =>
    simp only [List.mem_append, List.mem_singleton, not_or] at h
    obtain ⟨hphase, hcancelled⟩ := ih h.1
    rw [after_concat]
    refine ⟨?_, (cancelled_step (Ne.symm h.2)).trans hcancelled⟩
    obtain hsame | ⟨-, hasked, -⟩ | ⟨-, -, hdraining, -⟩ := (start.after schedule).phase_step s
    · exact hsame.trans hphase
    · rw [hcancelled] at hasked
      cases hasked
    · rw [hphase] at hdraining
      cases hdraining

/-- Steps after the pump has stopped leave the counts alone. -/
theorem counts_after_of_stopped (h : p.phase = .stopped) (schedule : List Step) :
    (p.after schedule).phase = .stopped ∧ (p.after schedule).counts = p.counts := by
  induction schedule using List.reverseRecOn with
  | nil => exact ⟨h, rfl⟩
  | append_singleton schedule s ih =>
    obtain ⟨hphase, hcounts, -⟩ := step_of_stopped ih.1 s
    rw [after_concat]
    exact ⟨hphase, hcounts.trans ih.2⟩

/-- **A pump that has stopped did so when it found nothing left**, and the counts are those of all
that was emitted before. -/
theorem exists_finish (h : (start.after schedule).phase = .stopped) :
    ∃ earlier later, schedule = earlier ++ .finish :: later ∧
      (start.after earlier).phase = .draining ∧ (start.after earlier).queue = [] ∧
      (start.after schedule).counts = .ofEvents (emitted earlier) := by
  induction schedule using List.reverseRecOn with
  | nil => cases h
  | append_singleton schedule s ih =>
    rw [after_concat] at h ⊢
    obtain hsame | ⟨-, -, hdraining⟩ | ⟨rfl, hqueue, hdraining, -⟩ :=
      (start.after schedule).phase_step s
    · -- it had stopped before
      have hstopped := hsame.symm.trans h
      obtain ⟨earlier, later, rfl, hphase, hqueue, hcounts⟩ := ih hstopped
      refine ⟨earlier, later ++ [s], by rw [List.append_assoc]; rfl, hphase, hqueue, ?_⟩
      rw [(step_of_stopped hstopped s).2.1, hcounts]
    · rw [h] at hdraining
      cases hdraining
    · -- it stops now
      refine ⟨schedule, [], rfl, hdraining, hqueue, ?_⟩
      have hrun : (start.after schedule).phase ≠ .stopped := by
        rw [hdraining]
        exact nofun
      obtain ⟨counted, hevents, hcounts⟩ := flows_after hrun
      rw [hqueue, List.append_nil] at hevents
      rw [hevents, ← hcounts, step, finish]
      split <;> rfl

/-! ### Shutdown -/

theorem receiveMany_eq_after (p : Pump) (n : Nat) :
    p.receiveMany n = p.after (List.replicate n .receive) := by
  induction n generalizing p with
  | zero => rfl
  | succ n ih => exact ih p.receive

/-- To shut a pump down takes some of these steps. -/
theorem shutdown_eq_after (p : Pump) :
    p.shutdown =
      p.after (.cancel :: .notice :: List.replicate p.queue.length .receive ++ [.finish]) := by
  rw [shutdown, receiveMany_eq_after, after_append]
  rfl

/-- A pump that receives as many events as wait has counted them. -/
theorem receiveMany_length (hrun : p.phase ≠ .stopped) :
    p.receiveMany p.queue.length =
      { p with queue := [], counts := p.counts.recordAll p.queue } := by
  obtain ⟨queue, counts, cancelled, phase⟩ := p
  induction queue generalizing counts with
  | nil => rfl
  | cons e rest ih =>
    have hreceive : receive ⟨e :: rest, counts, cancelled, phase⟩ =
        ⟨rest, counts.record e, cancelled, phase⟩ := if_neg hrun
    rw [List.length_cons, receiveMany, hreceive]
    exact ih (counts.record e) hrun

/-- **A pump that is shut down stops**, and has counted what waited. -/
theorem shutdown_stops (p : Pump) :
    p.shutdown.phase = .stopped ∧
      (p.phase ≠ .stopped → p.shutdown.counts = p.counts.recordAll p.queue) := by
  by_cases hstopped : p.phase = .stopped
  · rw [shutdown_eq_after]
    exact ⟨(counts_after_of_stopped hstopped _).1, fun hrun => absurd hstopped hrun⟩
  · -- whatever it did before, it is draining then
    have hdraining : p.cancel.notice.phase = .draining := by
      cases hphase : p.phase with
      | counting => simp [cancel, notice, hphase]
      | draining => simp [cancel, notice, hphase]
      | stopped => exact absurd hphase hstopped
    have hqueue : p.cancel.notice.queue = p.queue := by
      rw [notice]
      split <;> rfl
    have hcounts : p.cancel.notice.counts = p.counts := by
      rw [notice]
      split <;> rfl
    have hrun : p.cancel.notice.phase ≠ .stopped := by
      rw [hdraining]
      exact nofun
    rw [shutdown, ← hqueue, receiveMany_length hrun, hqueue, hcounts]
    simp [finish, hdraining]

/-- **The pump loses nothing.** Let events be emitted, received and counted in any order before the
pump is asked to stop, and in any order after. It can always be run to its end. Once it has stopped,
its counts are those of all events that were emitted before it was asked to and of those that were
emitted from then on until it found, while draining, that nothing waited: each of them once, in the
order in which they were emitted. Whatever comes after that changes the counts no more, and what is
emitted then is dropped. -/
theorem counts_all {before later : List Step} {p : Pump} (hbefore : .cancel ∉ before)
    (hp : start.after (before ++ .cancel :: later) = p) :
    p.shutdown.phase = .stopped ∧
      (p.phase ≠ .stopped →
        p.shutdown.counts = .ofEvents (emitted before ++ emitted later)) ∧
      (p.phase = .stopped →
        (∃ during rest, later = during ++ .finish :: rest ∧
          (start.after (before ++ .cancel :: during)).phase = .draining ∧
          (start.after (before ++ .cancel :: during)).queue = [] ∧
          p.counts = .ofEvents (emitted before ++ emitted during)) ∧
        (∀ schedule, (p.after schedule).counts = p.counts) ∧ ∀ e, p.emit e = p) := by
  subst hp
  have hemitted : ∀ during, emitted (before ++ .cancel :: during) =
      emitted before ++ emitted during := fun during => emitted_append before _
  refine ⟨(shutdown_stops _).1, fun hrun => ?_, fun hstopped => ⟨?_, fun schedule => ?_, ?_⟩⟩
  · obtain ⟨counted, hevents, hcounts⟩ := flows_after hrun
    rw [(shutdown_stops _).2 hrun, ← hemitted, hevents, hcounts]
    exact List.foldl_append.symm
  · obtain ⟨earlier, rest, hschedule, hphase, hqueue, hcounts⟩ := exists_finish hstopped
    -- the pump was asked to stop before it was draining
    have hlonger : before.length < earlier.length := by
      refine Nat.lt_of_not_le fun hle => ?_
      have hshorter : earlier <+: before :=
        List.prefix_of_prefix_length_le ⟨_, hschedule.symm⟩ ⟨_, rfl⟩ hle
      rw [(counting_after fun hmem => hbefore (hshorter.subset hmem)).1] at hphase
      cases hphase
    obtain ⟨more, rfl⟩ : before <+: earlier :=
      List.prefix_of_prefix_length_le ⟨_, rfl⟩ ⟨_, hschedule.symm⟩ (Nat.le_of_lt hlonger)
    cases more with
    | nil => simp at hlonger
    | cons s during =>
      rw [List.append_assoc, List.append_cancel_left_eq, List.cons_append, List.cons.injEq]
        at hschedule
      obtain ⟨rfl, rfl⟩ := hschedule
      exact ⟨during, rest, rfl, hphase, hqueue, hcounts.trans (congrArg _ (hemitted during))⟩
  · exact (counts_after_of_stopped hstopped schedule).2
  · exact (step_of_stopped hstopped .cancel).2.2

/-- Two events are emitted before the pump is asked to stop, and one is counted. -/
def sampleBefore : List Step := [.emit (.globalFallback "a"), .emit (.globalFallback "b"), .receive]

/-- One more is emitted while the pump is draining, and another when it has stopped. -/
def sampleLater : List Step :=
  [.notice, .receive, .emit (.globalFallback "c"), .finish, .receive, .finish,
    .emit (.globalFallback "d")]

/-- What was emitted before the pump found nothing left is counted, and nothing else. -/
theorem counts_all_sample :
    (start.after (sampleBefore ++ .cancel :: sampleLater)).phase = .stopped ∧
      (∃ during rest, sampleLater = during ++ .finish :: rest ∧
        (start.after (sampleBefore ++ .cancel :: during)).queue = [] ∧
        (start.after (sampleBefore ++ .cancel :: sampleLater)).counts =
          .ofEvents (emitted sampleBefore ++ emitted during)) ∧
      (start.after (sampleBefore ++ .cancel :: sampleLater)).counts.globalFallbacks = 3 := by
  have hstopped : (start.after (sampleBefore ++ .cancel :: sampleLater)).phase = .stopped := by
    decide +kernel
  obtain ⟨⟨during, rest, hlater, -, hqueue, hcounts⟩, -, -⟩ :=
    (@counts_all sampleBefore sampleLater _ (by decide) rfl).2.2 hstopped
  exact ⟨hstopped, ⟨during, rest, hlater, hqueue, hcounts⟩, by decide +kernel⟩

end Pump

end Telemetry

end Chatflow

import Chatflow.Proofs.Dict
import Chatflow.Proofs.Telemetry.Snapshot

/-!
# The order of events

Events come to the statistics in any order, and the statistics do not show in which: any two events
may change places (`Snapshot.record_comm`), so a run of events counts as any rearrangement of it
does. The one case with an argument is that of two entries, which may meet in a count or in a table
of counts. In either place both orders give the same (`Dict.alter_comm`).

The tables agree with each other as well. An entry adds one to the number of its kind and one to the
sum of the counts under the labels of that kind.
-/

namespace Chatflow

namespace Dict

variable {α : Type}

/-- The dictionary with the value at a key made from the value there. -/
def alter (d : Dict α) (k : String) (f : Option α → α) : Dict α := d.insert k (f (d.find? k))

/-- Changes at two keys may change places, if they may where the keys are the same. -/
theorem alter_comm {k k' : String} {f g : Option α → α}
    (h : k = k' → ∀ v, g (some (f v)) = f (some (g v))) (d : Dict α) :
    (d.alter k f).alter k' g = (d.alter k' g).alter k f := by
  by_cases hk : k = k'
  · subst hk
    simp only [alter, find?_insert_self, insert_insert, h rfl]
  · rw [alter, alter, alter, alter, find?_insert, find?_insert, if_neg hk, if_neg (Ne.symm hk)]
    exact d.insert_comm hk _ _

theorem bump_comm (counts : Dict Nat) (k k' : String) :
    (counts.bump k).bump k' = (counts.bump k').bump k :=
  counts.alter_comm (f := fun n => n.getD 0 + 1) (g := fun n => n.getD 0 + 1) fun _ _ => rfl

theorem sum_values_bump (counts : Dict Nat) (k : String) :
    (counts.bump k).values.sum = counts.values.sum + 1 := by
  have hsum := counts.sum_values_insert k ((counts.find? k).getD 0 + 1)
  rw [bump]
  omega

end Dict

namespace Telemetry

namespace Event

/-- Whether a conversation ended. -/
def isEnd : Event → Bool
  | .conversationEnd _ _ => true
  | _ => false

/-- Whether a conversation ended on an error. -/
def isFailure : Event → Bool
  | .conversationEnd _ error => error.isSome
  | _ => false

theorem isEnd_of_isFailure {e : Event} (h : e.isFailure = true) : e.isEnd = true := by
  cases e with
  | conversationEnd => rfl
  | entry | messageSent | blockTriggered | globalFallback => cases h

end Event

namespace Snapshot

/-! ### Two events -/

/-- **Any two events may change places.** -/
theorem record_comm (s : Snapshot) (e e' : Event) :
    (s.record e).record e' = (s.record e').record e := by
  cases e with
  | entry kind label =>
    cases e' with
    | entry kind' label' =>
      have htotals := s.totals.bump_comm kind.name kind'.name
      simp only [record, htotals, mk.injEq, true_and, and_true]
      -- where the kinds are the same the labels are counted in one table
      exact s.labels.alter_comm (f := fun counts => (counts.getD .empty).bump label)
        (g := fun counts => (counts.getD .empty).bump label')
        fun _ counts => Dict.bump_comm _ label label'
    | conversationEnd | messageSent | blockTriggered | globalFallback => rfl
  | conversationEnd c error =>
    cases e' with
    | conversationEnd c' error' =>
      simp only [record, mk.injEq, true_and, and_true]
      omega
    | entry | messageSent | blockTriggered | globalFallback => rfl
  | blockTriggered b fallback =>
    cases e' with
    | blockTriggered b' fallback' =>
      simp only [record, mk.injEq, true_and, and_true]
      omega
    | entry | conversationEnd | messageSent | globalFallback => rfl
  | messageSent | globalFallback => cases e' <;> rfl

/-- A run of events counts as any rearrangement of it does. -/
theorem recordAll_perm {es es' : List Event} (h : es.Perm es') (s : Snapshot) :
    s.recordAll es = s.recordAll es' :=
  h.foldl_eq' (fun e _ e' _ s => s.record_comm e e') s

/-! ### Labels -/

/-- The counts under the labels of a kind. -/
def labelCounts (s : Snapshot) (kind : StatsKind) : Dict Nat :=
  (s.labels.find? kind.name).getD .empty

theorem count_eq (s : Snapshot) (kind : StatsKind) (label : String) :
    s.count kind label = ((s.labelCounts kind).find? label).getD 0 := by
  rw [count, labelCounts]
  cases s.labels.find? kind.name <;> rfl

/-- An entry is counted under its label among those of its kind. -/
theorem labelCounts_record_entry (s : Snapshot) (kind k : StatsKind) (label : String) :
    (s.record (.entry k label)).labelCounts kind =
      if k = kind then (s.labelCounts kind).bump label else s.labelCounts kind := by
  have hname : kind.name = k.name ↔ k = kind := StatsKind.name_inj.trans eq_comm
  simp only [labelCounts, record, Dict.find?_insert, hname]
  split
  · rename_i hk
    rw [hk, Option.getD_some]
  · rfl

theorem sum_labelCounts_record (s : Snapshot) (e : Event) (kind : StatsKind) :
    ((s.record e).labelCounts kind).values.sum =
      (s.labelCounts kind).values.sum + if e.isEntry kind then 1 else 0 := by
  cases e with
  | entry k label =>
    rw [labelCounts_record_entry, Event.isEntry]
    by_cases hk : k = kind
    · rw [if_pos hk, if_pos (decide_eq_true hk), Dict.sum_values_bump]
    · rw [if_neg hk, if_neg (by simpa using hk), Nat.add_zero]
  | conversationEnd | messageSent | blockTriggered | globalFallback => rfl

theorem count_record (s : Snapshot) (e : Event) (kind : StatsKind) (label : String) :
    (s.record e).count kind label =
      s.count kind label + if e == .entry kind label then 1 else 0 := by
  rw [count_eq, count_eq]
  cases e with
  | entry k l =>
    rw [labelCounts_record_entry]
    by_cases hk : k = kind
    · subst hk
      rw [if_pos rfl, Dict.find?_bump]
      simp [eq_comm (a := label)]
    · rw [if_neg hk]
      simp [hk]
  | conversationEnd | messageSent | blockTriggered | globalFallback => rfl

/-! ### Ended conversations -/

theorem conversationsEnded_record (s : Snapshot) (e : Event) :
    (s.record e).conversationsEnded = s.conversationsEnded + if e.isEnd then 1 else 0 := by
  cases e <;> rfl

theorem conversationsFailed_record (s : Snapshot) (e : Event) :
    (s.record e).conversationsFailed = s.conversationsFailed + if e.isFailure then 1 else 0 := by
  cases e <;> rfl

theorem conversationsFailed_le (events : List Event) :
    (ofEvents events).conversationsFailed ≤ (ofEvents events).conversationsEnded := by
  rw [ofEvents_eq_countP rfl conversationsFailed_record events,
    ofEvents_eq_countP rfl conversationsEnded_record events]
  exact List.countP_mono_left fun e _ h => Event.isEnd_of_isFailure h

/-! ### What the statistics show -/

/-- **The statistics show which events there were, and nothing else.** Rearranged events give the
same statistics, whatever was counted before. The number of a kind is the number of its entries and
the sum of the counts under its labels, each of which is the number of the entries with that label;
and no more conversations failed than ended. -/
theorem statistics_of_events :
    (∀ (s : Snapshot) (es es' : List Event), es.Perm es' → s.recordAll es = s.recordAll es') ∧
      ∀ es : List Event,
        (∀ kind, (ofEvents es).total kind = ((ofEvents es).labelCounts kind).values.sum ∧
          (ofEvents es).total kind = es.countP (Event.isEntry kind)) ∧
        (∀ kind label, (ofEvents es).count kind label = es.count (.entry kind label)) ∧
        (ofEvents es).conversationsFailed ≤ (ofEvents es).conversationsEnded := by
  refine ⟨fun s es es' h => recordAll_perm h s, fun es => ⟨fun kind => ?_, fun kind label => ?_,
    conversationsFailed_le es⟩⟩
  · have htotal := total_ofEvents es kind
    have hsum := ofEvents_eq_countP (f := fun s => (s.labelCounts kind).values.sum) rfl
      (fun s e => s.sum_labelCounts_record e kind) es
    exact ⟨htotal.trans hsum.symm, htotal⟩
  · exact ofEvents_eq_countP (f := fun s => s.count kind label) rfl
      (fun s e => s.count_record e kind label) es

/-- Two entries and the end of a conversation, in two orders. -/
theorem statistics_of_events_swapped :
    ofEvents [.entry .popular "Menu", .entry .popular "Hello",
        .conversationEnd (.fresh "conv-1" "sub-1") (some "boom")] =
      ofEvents [.conversationEnd (.fresh "conv-1" "sub-1") (some "boom"),
        .entry .popular "Hello", .entry .popular "Menu"] :=
  statistics_of_events.1 empty _ _ (List.reverse_perm _).symm

end Snapshot

end Telemetry

end Chatflow

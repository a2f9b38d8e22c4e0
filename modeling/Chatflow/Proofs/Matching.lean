import Chatflow.Matching.Basic

/-!
# What answers an event

The block that answers an event is one of the candidates, and which one it is does not depend on
the language of the sender.
-/

namespace Chatflow

namespace Event

variable {e : Event} {blocks : List Block} {m : BlockMatch}

theorem mem_of_mem_eligible {b : Block} (h : b ∈ e.eligible blocks) : b ∈ blocks :=
  (List.mem_filter.mp (List.mem_mergeSort.mp h)).1

theorem mem_of_matchByPayload? (h : e.matchByPayload? blocks = some m) : m.block ∈ blocks := by
  obtain ⟨payload, -, h⟩ := Option.bind_eq_some_iff.mp h
  obtain ⟨b, hb, rfl⟩ := Option.map_eq_some_iff.mp h
  exact List.mem_of_find?_eq_some hb

theorem mem_of_matchByText? (h : e.matchByText? blocks = some m) : m.block ∈ blocks := by
  obtain ⟨b, hb, h⟩ := List.exists_of_findSome?_eq_some h
  obtain ⟨captures, -, rfl⟩ := Option.map_eq_some_iff.mp h
  exact hb

/-- A block is the best so far, or changes nothing. -/
theorem betterNlp_cases (parse : Nlp.Parse) (best : Option (Block × Nat)) (b : Block) :
    (∃ n, betterNlp parse best b = some (b, n)) ∨ betterNlp parse best b = best := by
  unfold betterNlp
  split
  · exact .inl ⟨_, rfl⟩
  · split
    · exact .inl ⟨_, rfl⟩
    · exact .inr rfl
  · exact .inr rfl

/-- The best of some blocks is one of them, or was the best before. -/
theorem mem_of_foldl_betterNlp {parse : Nlp.Parse} {best : Option (Block × Nat)}
    {r : Block × Nat} (h : blocks.foldl (betterNlp parse) best = some r) :
    r.1 ∈ blocks ∨ best = some r := by
  induction blocks generalizing best with
  | nil => exact .inr h
  | cons b blocks ih =>
    obtain hmem | hbest := ih h
    · exact .inl (List.mem_cons_of_mem _ hmem)
    · obtain ⟨n, hb⟩ | hsame := betterNlp_cases parse best b
      · obtain rfl := Option.some.inj (hb.symm.trans hbest)
        exact .inl List.mem_cons_self
      · exact .inr (hsame.symm.trans hbest)

theorem mem_of_matchByNlp? (h : e.matchByNlp? blocks = some m) : m.block ∈ blocks := by
  obtain ⟨parse, -, h⟩ := Option.bind_eq_some_iff.mp h
  obtain ⟨best, hbest, rfl⟩ := Option.map_eq_some_iff.mp h
  exact (mem_of_foldl_betterNlp hbest).resolve_right nofun

/-- What answers an event is one of the candidates. -/
theorem mem_of_matchBlock? (h : e.matchBlock? blocks = some m) : m.block ∈ blocks := by
  refine mem_of_mem_eligible (e := e) ?_
  rw [matchBlock?] at h
  cases hpayload : e.matchByPayload? (e.eligible blocks) with
  | some m' =>
    rw [hpayload] at h
    obtain rfl := Option.some.inj h
    exact mem_of_matchByPayload? hpayload
  | none =>
    rw [hpayload] at h
    cases htext : e.matchByText? (e.eligible blocks) with
    | some m' =>
      rw [htext] at h
      obtain rfl := Option.some.inj h
      exact mem_of_matchByText? htext
    | none =>
      rw [htext] at h
      exact mem_of_matchByNlp? h

/-- Of the sender only the labels play a part. -/
theorem matchBlock?_of_labels_eq (e : Event) (sender : Option Subscriber) (blocks : List Block)
    (h : sender.map (·.labels) = e.sender.map (·.labels)) :
    ({ e with sender := sender } : Event).matchBlock? blocks = e.matchBlock? blocks := by
  have heligible : ({ e with sender := sender } : Event).eligible blocks = e.eligible blocks := by
    simp only [eligible, channelAllows, labelsAllow, h]
    rfl
  rw [matchBlock?, heligible]
  rfl

/-- The language of the sender plays no part. -/
theorem matchBlock?_detectLanguage (e : Event) (languages : List String) (blocks : List Block) :
    (e.detectLanguage languages).matchBlock? blocks = e.matchBlock? blocks := by
  rw [detectLanguage]
  split
  · exact matchBlock?_of_labels_eq e _ blocks (Option.map_map _ _ _)
  · rfl

end Event

end Chatflow

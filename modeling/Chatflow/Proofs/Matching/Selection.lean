import Chatflow.Proofs.Matching
import Mathlib.Data.List.Induction

/-!
# Which candidate answers

`Event.matchBlock?_selects` says which of some candidates answers an event, without the filter, the
sort and the folds that find it. The candidates that are for the event (`Block.IsFor`) are ranked
(`Event.Ranks`): more labels come first, and candidates with as many labels keep their order. Then
a rule applies to all of them before the next rule is tried (`Event.Selects`):

* the first that accepts the payload;
* the first whose text patterns match, with what they capture;
* the first of those whose language patterns ask for most.

As there is one ranking (`Event.Ranks.unique`), candidates that are not for the event make no
difference wherever they are.
-/

namespace Chatflow

/-- The first element of a list with a property. -/
def FirstWith {α : Type} (p : α → Prop) (l : List α) (a : α) : Prop :=
  ∃ before after, l = before ++ a :: after ∧ p a ∧ ∀ x ∈ before, ¬p x

/-- A search with a test finds the first element with a property. -/
theorem find?_eq_some_iff_firstWith {α : Type} {p : α → Prop} {test : α → Bool}
    (htest : ∀ a, test a = true ↔ p a) {l : List α} {a : α} :
    l.find? test = some a ↔ FirstWith p l a := by
  rw [List.find?_eq_some_iff_append, FirstWith]
  simp only [htest, Bool.not_eq_true', ← Bool.not_eq_true]
  constructor
  · rintro ⟨ha, before, after, hl, hbefore⟩
    exact ⟨before, after, hl, ha, hbefore⟩
  · rintro ⟨before, after, hl, ha, hbefore⟩
    exact ⟨ha, before, after, hl, hbefore⟩

namespace FirstWith

variable {α : Type} {p : α → Prop} {l : List α} {a : α}

theorem mem (h : FirstWith p l a) : a ∈ l := by
  obtain ⟨before, after, rfl, -⟩ := h
  exact List.mem_append_right _ List.mem_cons_self

theorem holds (h : FirstWith p l a) : p a := h.choose_spec.choose_spec.2.1

theorem unique {a' : α} (h : FirstWith p l a) (h' : FirstWith p l a') : a = a' := by
  classical
  have htest : ∀ a, decide (p a) = true ↔ p a := fun a => decide_eq_true_iff
  rw [← find?_eq_some_iff_firstWith htest] at h h'
  exact Option.some.inj (h.symm.trans h')

end FirstWith

/-- A list in descending order is known by its parts of equal rank. -/
theorem eq_of_filter_rank_eq {α : Type} {rank : α → Nat} {l l' : List α}
    (hl : l.Pairwise fun a b => rank b ≤ rank a) (hl' : l'.Pairwise fun a b => rank b ≤ rank a)
    (h : ∀ n, l.filter (rank · = n) = l'.filter (rank · = n)) : l = l' := by
  have hmem : ∀ a, a ∈ l ↔ a ∈ l' := fun a => by
    have hrank := congrArg (a ∈ ·) (h (rank a))
    simpa using hrank
  induction l generalizing l' with
  | nil => exact (List.eq_nil_iff_forall_not_mem.mpr fun a ha => nomatch (hmem a).mpr ha).symm
  | cons a l ih =>
    cases l' with
    | nil => exact absurd ((hmem a).mp List.mem_cons_self) List.not_mem_nil
    | cons a' l' =>
      -- either head has the greatest rank of all
      have hle : rank a ≤ rank a' := by
        obtain heq | hm := List.mem_cons.mp ((hmem a).mp List.mem_cons_self)
        · exact heq ▸ Nat.le_refl _
        · exact (List.pairwise_cons.mp hl').1 a hm
      have hle' : rank a' ≤ rank a := by
        obtain heq | hm := List.mem_cons.mp ((hmem a').mpr List.mem_cons_self)
        · exact heq ▸ Nat.le_refl _
        · exact (List.pairwise_cons.mp hl).1 a' hm
      have hheads := h (rank a)
      rw [List.filter_cons_of_pos (by simp),
        List.filter_cons_of_pos (by simpa using Nat.le_antisymm hle' hle)] at hheads
      obtain ⟨rfl, htails⟩ := List.cons.inj hheads
      have htail : ∀ n, l.filter (rank · = n) = l'.filter (rank · = n) := fun n => by
        by_cases hn : rank a = n
        · exact hn ▸ htails
        · have hrest := h n
          rwa [List.filter_cons_of_neg (by simpa using hn),
            List.filter_cons_of_neg (by simpa using hn)] at hrest
      rw [ih (List.pairwise_cons.mp hl).2 (List.pairwise_cons.mp hl').2 htail fun b => ?_]
      have hrank := congrArg (b ∈ ·) (htail (rank b))
      simpa using hrank

section Rank

variable {α : Type} (rank : α → Nat)

theorem rank_trans (a b c : α) :
    decide (rank b ≤ rank a) = true → decide (rank c ≤ rank b) = true →
      decide (rank c ≤ rank a) = true := by
  simp only [decide_eq_true_eq]
  omega

theorem rank_total (a b : α) : (decide (rank b ≤ rank a) || decide (rank a ≤ rank b)) = true := by
  simp only [Bool.or_eq_true, decide_eq_true_eq]
  omega

theorem pairwise_mergeSort_rank (l : List α) :
    (l.mergeSort fun a b => rank b ≤ rank a).Pairwise fun a b => rank b ≤ rank a := by
  have hsorted := List.pairwise_mergeSort (rank_trans rank) (rank_total rank) l
  simpa only [decide_eq_true_eq] using hsorted

/-- To sort by rank keeps the order of what has the same rank. -/
theorem filter_mergeSort_rank (l : List α) (n : Nat) :
    (l.mergeSort fun a b => rank b ≤ rank a).filter (rank · = n) = l.filter (rank · = n) := by
  have hequal : (l.filter (rank · = n)).Pairwise fun a b => decide (rank b ≤ rank a) = true := by
    refine List.pairwise_of_forall_mem_list fun a ha b hb => ?_
    simp only [List.mem_filter, decide_eq_true_eq] at ha hb ⊢
    omega
  have hsub := List.sublist_mergeSort (rank_trans rank) (rank_total rank) hequal
    List.filter_sublist
  have hfiltered := hsub.filter (rank · = n)
  rw [List.filter_filter, List.filter_congr fun a _ => Bool.and_self _] at hfiltered
  refine (hfiltered.eq_of_length ?_).symm
  exact ((List.mergeSort_perm l _).filter _).length_eq.symm

end Rank

namespace Block

variable {e : Event} {b : Block}

/-- A block is for an event: for its channel and for its sender. -/
structure IsFor (b : Block) (e : Event) : Prop where
  /-- It names no channels or that of the event. On the console all channels will do. -/
  channel : b.triggerChannels = [] ∨ e.channel ∈ b.triggerChannels ∨
    e.channel = Widget.Site.console.channelName
  /-- It names no labels or one of the sender. -/
  label : b.triggerLabels = [] ∨ ∃ s, e.sender = some s ∧ ∃ l ∈ b.triggerLabels, l ∈ s.labels

theorem channelAllows_iff :
    e.channelAllows b = true ↔ b.triggerChannels = [] ∨ e.channel ∈ b.triggerChannels ∨
      e.channel = Widget.Site.console.channelName := by
  have hconsole : e.site = .console ↔ e.channel = Widget.Site.console.channelName := by
    rw [Event.channel]
    cases e.site <;> decide
  simp only [Event.channelAllows, Bool.or_eq_true, List.isEmpty_iff, List.contains_iff_mem,
    decide_eq_true_eq, hconsole]
  rw [or_assoc, or_comm (a := e.channel = _)]

theorem labelsAllow_iff :
    e.labelsAllow b = true ↔ b.triggerLabels = [] ∨
      ∃ s, e.sender = some s ∧ ∃ l ∈ b.triggerLabels, l ∈ s.labels := by
  simp only [Event.labelsAllow, Bool.or_eq_true, List.isEmpty_iff, List.any_eq_true,
    List.contains_iff_mem]
  refine or_congr_right ?_
  cases e.sender <;> simp

theorem isFor_iff : (e.channelAllows b && e.labelsAllow b) = true ↔ b.IsFor e := by
  rw [Bool.and_eq_true, channelAllows_iff, labelsAllow_iff]
  exact ⟨fun h => ⟨h.1, h.2⟩, fun h => ⟨h.channel, h.label⟩⟩

instance (b : Block) (e : Event) : Decidable (b.IsFor e) := decidable_of_iff _ isFor_iff

/-- A block has a payload pattern for the payload of an event. -/
def AcceptsPayload (b : Block) (e : Event) : Prop :=
  ∃ payload, e.payload? = some payload ∧
    ∃ p, .payload p ∈ b.patterns ∧ p.accepts payload = true

/-- A block has a text pattern for the text of an event, and captures something. -/
def Captures (b : Block) (e : Event) (captures : List String) : Prop :=
  b.matchText? (Text.trim e.text) = some captures

/-- The first language pattern of a block that holds of a parse. -/
def Asks (b : Block) (parse : Nlp.Parse) (conditions : List Nlp.Condition) : Prop :=
  ∃ before after, b.patterns = before ++ .nlp conditions :: after ∧
    (∀ c ∈ conditions, c.holds parse = true) ∧
    ∀ conditions', .nlp conditions' ∈ before → ∃ c ∈ conditions', c.holds parse = false

/-- A language pattern of a block holds, and none of the blocks has one that asks for more. -/
def AsksMost (b : Block) (blocks : List Block) (parse : Nlp.Parse) : Prop :=
  ∃ conditions, b.Asks parse conditions ∧
    ∀ b' ∈ blocks, ∀ conditions', b'.Asks parse conditions' →
      conditions'.length ≤ conditions.length

theorem matchPayload?_isSome_iff {payload : Payload} :
    (b.matchPayload? payload).isSome = true ↔
      ∃ p, .payload p ∈ b.patterns ∧ p.accepts payload = true := by
  rw [matchPayload?, List.findSome?_isSome_iff]
  constructor
  · rintro ⟨pattern, hpattern, h⟩
    split at h
    · rename_i p
      refine ⟨p, hpattern, ?_⟩
      split at h
      · assumption
      · cases h
    · cases h
  · rintro ⟨p, hp, haccepts⟩
    refine ⟨_, hp, ?_⟩
    simp [haccepts]

/-- What a language pattern asks of a parse, if it holds. -/
def heldBy (parse : Nlp.Parse) : Pattern → Option (List Nlp.Condition)
  | .nlp conditions => if conditions.all (·.holds parse) then some conditions else none
  | _ => none

theorem heldBy_eq_some_iff {parse : Nlp.Parse} {pattern : Pattern}
    {conditions : List Nlp.Condition} :
    heldBy parse pattern = some conditions ↔
      pattern = .nlp conditions ∧ ∀ c ∈ conditions, c.holds parse = true := by
  cases pattern with
  | nlp conditions' =>
    simp only [heldBy, Option.ite_none_right_eq_some, List.all_eq_true, Option.some.injEq,
      Pattern.nlp.injEq]
    constructor
    · rintro ⟨h, rfl⟩
      exact ⟨rfl, h⟩
    · rintro ⟨rfl, h⟩
      exact ⟨h, rfl⟩
  | _ => simp [heldBy]

theorem heldBy_findSome?_iff {parse : Nlp.Parse} {conditions : List Nlp.Condition} :
    b.patterns.findSome? (heldBy parse) = some conditions ↔ b.Asks parse conditions := by
  simp only [Asks, List.findSome?_eq_some_iff, heldBy_eq_some_iff]
  constructor
  · rintro ⟨before, pattern, after, hpatterns, ⟨rfl, hall⟩, hbefore⟩
    refine ⟨before, after, hpatterns, hall, fun conditions' hmem => ?_⟩
    have hnone := hbefore _ hmem
    simpa [heldBy] using hnone
  · rintro ⟨before, after, hpatterns, hall, hbefore⟩
    refine ⟨before, _, after, hpatterns, ⟨rfl, hall⟩, fun pattern hmem => ?_⟩
    rw [Option.eq_none_iff_forall_ne_some]
    intro conditions' hsome
    obtain ⟨rfl, hholds⟩ := heldBy_eq_some_iff.mp hsome
    obtain ⟨c, hc, hfails⟩ := hbefore _ hmem
    rw [hholds c hc] at hfails
    cases hfails

/-- A block asks for one thing. -/
theorem asks_unique {parse : Nlp.Parse} {conditions conditions' : List Nlp.Condition}
    (h : b.Asks parse conditions) (h' : b.Asks parse conditions') : conditions = conditions' := by
  rw [← heldBy_findSome?_iff] at h h'
  exact Option.some.inj (h.symm.trans h')

/-- The language rule passes over parses without entities. -/
theorem matchNlp?_of_isEmpty {parse : Nlp.Parse} (h : parse.isEmpty = true) :
    b.matchNlp? parse = none := by
  rw [matchNlp?, h]
  rfl

theorem matchNlp?_eq_some_iff {parse : Nlp.Parse} (h : parse.isEmpty = false)
    {conditions : List Nlp.Condition} :
    b.matchNlp? parse = some conditions ↔ b.Asks parse conditions := by
  rw [matchNlp?, h, ← heldBy_findSome?_iff]
  rfl

theorem matchNlp?_eq_none_iff {parse : Nlp.Parse} (h : parse.isEmpty = false) :
    b.matchNlp? parse = none ↔ ∀ conditions, ¬b.Asks parse conditions := by
  simp only [Option.eq_none_iff_forall_ne_some, ne_eq, matchNlp?_eq_some_iff h]

end Block

namespace Event

variable {e : Event} {candidates blocks : List Block} {b : Block}

/-! ### Ranking -/

/-- Some blocks are the candidates that are for an event, in the order in which they are tried. -/
structure Ranks (e : Event) (candidates blocks : List Block) : Prop where
  /-- Those with more labels come first. -/
  sorted : blocks.Pairwise fun a b => b.triggerLabels.length ≤ a.triggerLabels.length
  /-- Those with as many labels are as they were. -/
  stable : ∀ n, blocks.filter (·.triggerLabels.length = n) =
    (candidates.filter (·.IsFor e)).filter (·.triggerLabels.length = n)

/-- There is one way to rank candidates. -/
theorem Ranks.unique {blocks' : List Block} (h : e.Ranks candidates blocks)
    (h' : e.Ranks candidates blocks') : blocks = blocks' := by
  exact eq_of_filter_rank_eq h.sorted h'.sorted fun n => (h.stable n).trans (h'.stable n).symm

theorem ranks_eligible (e : Event) (candidates : List Block) :
    e.Ranks candidates (e.eligible candidates) := by
  have hfilter : (candidates.filter fun b => e.channelAllows b && e.labelsAllow b) =
      candidates.filter (·.IsFor e) :=
    List.filter_congr fun b _ => Bool.eq_iff_iff.mpr (Block.isFor_iff.trans decide_eq_true_iff.symm)
  rw [eligible, hfilter]
  exact ⟨pairwise_mergeSort_rank (fun b : Block => b.triggerLabels.length) _,
    filter_mergeSort_rank (fun b : Block => b.triggerLabels.length) _⟩

/-! ### Selecting -/

/-- **Which of some ranked blocks answers an event**, and by which rule. -/
inductive Selects (e : Event) (blocks : List Block) : Option BlockMatch → Prop
  /-- The first that accepts the payload. -/
  | payload {b : Block} (h : FirstWith (·.AcceptsPayload e) blocks b) :
      Selects e blocks (some ⟨b, .payload, []⟩)
  /-- None accepts the payload: the first whose text patterns match. -/
  | text {b : Block} {captures : List String} (hpayload : ∀ b ∈ blocks, ¬b.AcceptsPayload e)
      (h : FirstWith (fun b => ∃ captures, b.Captures e captures) blocks b)
      (hcaptures : b.Captures e captures) : Selects e blocks (some ⟨b, .text, captures⟩)
  /-- No text pattern matches either: the first whose language pattern asks for most, if the parse
  has entities. -/
  | nlp {b : Block} {parse : Nlp.Parse} (hpayload : ∀ b ∈ blocks, ¬b.AcceptsPayload e)
      (htext : ∀ b ∈ blocks, ∀ captures, ¬b.Captures e captures) (hparse : e.nlp = some parse)
      (hentities : parse.isEmpty = false)
      (h : FirstWith (·.AsksMost blocks parse) blocks b) : Selects e blocks (some ⟨b, .nlp, []⟩)
  /-- No pattern of any block matches. -/
  | none (hpayload : ∀ b ∈ blocks, ¬b.AcceptsPayload e)
      (htext : ∀ b ∈ blocks, ∀ captures, ¬b.Captures e captures)
      (hnlp : ∀ parse, e.nlp = some parse → parse.isEmpty = false →
        ∀ b ∈ blocks, ∀ conditions, ¬b.Asks parse conditions) :
      Selects e blocks none

/-- The test of the payload rule. -/
theorem acceptsPayload_iff {payload : Payload} (h : e.payload? = some payload) (b : Block) :
    (b.matchPayload? payload).isSome = true ↔ b.AcceptsPayload e := by
  rw [Block.matchPayload?_isSome_iff, Block.AcceptsPayload, h]
  simp

/-- The payload rule. -/
theorem matchByPayload?_cases (e : Event) (blocks : List Block) :
    (∃ b, e.matchByPayload? blocks = some ⟨b, .payload, []⟩ ∧
        FirstWith (·.AcceptsPayload e) blocks b) ∨
      e.matchByPayload? blocks = none ∧ ∀ b ∈ blocks, ¬b.AcceptsPayload e := by
  rw [matchByPayload?]
  cases hpayload : e.payload? with
  | none =>
    refine .inr ⟨rfl, fun b _ => ?_⟩
    rintro ⟨payload, h, -⟩
    rw [hpayload] at h
    cases h
  | some payload =>
    rw [Option.bind_some]
    cases hfind : blocks.find? fun b => (b.matchPayload? payload).isSome with
    | none =>
      refine .inr ⟨rfl, fun b hb haccepts => ?_⟩
      exact List.find?_eq_none.mp hfind b hb ((acceptsPayload_iff hpayload b).mpr haccepts)
    | some b =>
      exact .inl ⟨b, rfl, (find?_eq_some_iff_firstWith (acceptsPayload_iff hpayload)).mp hfind⟩

/-- The text rule. -/
theorem matchByText?_cases (e : Event) (blocks : List Block) :
    (∃ b captures, e.matchByText? blocks = some ⟨b, .text, captures⟩ ∧
        FirstWith (fun b => ∃ captures, b.Captures e captures) blocks b ∧ b.Captures e captures) ∨
      e.matchByText? blocks = none ∧ ∀ b ∈ blocks, ∀ captures, ¬b.Captures e captures := by
  cases hfind : e.matchByText? blocks with
  | none =>
    refine .inr ⟨rfl, fun b hb captures hcaptures => ?_⟩
    have hnone := List.findSome?_eq_none_iff.mp hfind b hb
    rw [Block.Captures] at hcaptures
    rw [hcaptures] at hnone
    cases hnone
  | some m =>
    obtain ⟨before, b, after, hblocks, hm, hbefore⟩ := List.findSome?_eq_some_iff.mp hfind
    obtain ⟨captures, hcaptures, rfl⟩ := Option.map_eq_some_iff.mp hm
    refine .inl ⟨b, captures, rfl, ⟨before, after, hblocks, ⟨captures, hcaptures⟩, ?_⟩, hcaptures⟩
    rintro x hx ⟨captures', hcaptures'⟩
    have hnone := hbefore x hx
    rw [Block.Captures] at hcaptures'
    rw [hcaptures'] at hnone
    cases hnone

/-- What the language rule has found in some blocks: a block that asks for more than all before it
and for as much as all after it. -/
inductive Best (parse : Nlp.Parse) : List Block → Option (Block × Nat) → Prop
  | nothing {blocks : List Block} (h : ∀ b ∈ blocks, ∀ conditions, ¬b.Asks parse conditions) :
      Best parse blocks none
  | found {before after : List Block} {b : Block} {conditions : List Nlp.Condition}
      (h : b.Asks parse conditions)
      (hbefore : ∀ x ∈ before, ∀ conditions', x.Asks parse conditions' →
        conditions'.length < conditions.length)
      (hafter : ∀ x ∈ after, ∀ conditions', x.Asks parse conditions' →
        conditions'.length ≤ conditions.length) :
      Best parse (before ++ b :: after) (some (b, conditions.length))

/-- One more block keeps the best, or is better. -/
theorem Best.concat {parse : Nlp.Parse} (hentities : parse.isEmpty = false)
    {best : Option (Block × Nat)} (h : Best parse blocks best) (b : Block) :
    Best parse (blocks ++ [b]) (betterNlp parse best b) := by
  unfold betterNlp
  cases hb : b.matchNlp? parse with
  | none =>
    have hasks := (Block.matchNlp?_eq_none_iff hentities).mp hb
    cases h with
    | nothing h =>
      refine .nothing fun x hx => ?_
      obtain hx | hx := List.mem_append.mp hx
      · exact h x hx
      · exact List.mem_singleton.mp hx ▸ hasks
    | found h hbefore hafter =>
      rw [List.append_assoc, List.cons_append]
      refine .found h hbefore fun x hx conditions' hx' => ?_
      obtain hx | hx := List.mem_append.mp hx
      · exact hafter x hx conditions' hx'
      · exact absurd (List.mem_singleton.mp hx ▸ hx') (hasks conditions')
  | some conditions =>
    have hasks := (Block.matchNlp?_eq_some_iff hentities).mp hb
    have hafter : ∀ x ∈ ([] : List Block), ∀ conditions', x.Asks parse conditions' →
        conditions'.length ≤ conditions.length := fun x hx => absurd hx List.not_mem_nil
    cases h with
    | nothing h => exact .found hasks (fun x hx conditions' hx' => absurd hx' (h x hx _)) hafter
    | @found before rest best conditions₀ h hbefore hrest =>
      dsimp only
      split
      · rename_i hlt
        refine .found hasks (fun x hx conditions' hx' => ?_) hafter
        refine Nat.lt_of_le_of_lt ?_ hlt
        obtain hx | hx := List.mem_append.mp hx
        · exact Nat.le_of_lt (hbefore x hx conditions' hx')
        · obtain rfl | hx := List.mem_cons.mp hx
          · exact Nat.le_of_eq (congrArg List.length (Block.asks_unique hx' h))
          · exact hrest x hx conditions' hx'
      · rename_i hle
        rw [List.append_assoc, List.cons_append]
        refine .found h hbefore fun x hx conditions' hx' => ?_
        obtain hx | hx := List.mem_append.mp hx
        · exact hrest x hx conditions' hx'
        · obtain rfl := List.mem_singleton.mp hx
          exact Block.asks_unique hx' hasks ▸ Nat.le_of_not_lt hle

theorem best_foldl {parse : Nlp.Parse} (hentities : parse.isEmpty = false) (blocks : List Block) :
    Best parse blocks (blocks.foldl (betterNlp parse) none) := by
  induction blocks using List.reverseRecOn with
  | nil => exact .nothing fun b hb => absurd hb List.not_mem_nil
  | append_singleton blocks b ih =>
    rw [List.foldl_append]
    exact ih.concat hentities b

/-- A parse without entities leaves the best so far as it is. -/
theorem foldl_betterNlp_of_isEmpty {parse : Nlp.Parse} (h : parse.isEmpty = true)
    (blocks : List Block) (best : Option (Block × Nat)) :
    blocks.foldl (betterNlp parse) best = best := by
  induction blocks generalizing best with
  | nil => rfl
  | cons b blocks ih =>
    have hsame : betterNlp parse best b = best := by
      unfold betterNlp
      rw [Block.matchNlp?_of_isEmpty h]
    rw [List.foldl_cons, hsame, ih]

/-- The language rule. -/
theorem matchByNlp?_cases (e : Event) (blocks : List Block) :
    (∃ b parse, e.matchByNlp? blocks = some ⟨b, .nlp, []⟩ ∧ e.nlp = some parse ∧
        parse.isEmpty = false ∧ FirstWith (·.AsksMost blocks parse) blocks b) ∨
      e.matchByNlp? blocks = none ∧ ∀ parse, e.nlp = some parse → parse.isEmpty = false →
        ∀ b ∈ blocks, ∀ conditions, ¬b.Asks parse conditions := by
  rw [matchByNlp?]
  cases hparse : e.nlp with
  | none => exact .inr ⟨rfl, nofun⟩
  | some parse =>
    rw [Option.bind_some]
    cases hentities : parse.isEmpty with
    | true =>
      rw [foldl_betterNlp_of_isEmpty hentities]
      refine .inr ⟨rfl, fun parse' h hfalse => ?_⟩
      rw [← Option.some.inj h, hentities] at hfalse
      cases hfalse
    | false =>
      have hbest := best_foldl hentities blocks
      generalize blocks.foldl (betterNlp parse) none = best at hbest
      cases hbest with
      | nothing h => exact .inr ⟨rfl, fun parse' hparse' _ => Option.some.inj hparse' ▸ h⟩
      | @found before after b conditions h hbefore hafter =>
        refine .inl ⟨b, parse, rfl, rfl, hentities, before, after, rfl, ⟨conditions, h, ?_⟩, ?_⟩
        · intro x hx conditions' hx'
          obtain hx | hx := List.mem_append.mp hx
          · exact Nat.le_of_lt (hbefore x hx conditions' hx')
          · obtain rfl | hx := List.mem_cons.mp hx
            · exact Nat.le_of_eq (congrArg List.length (Block.asks_unique hx' h))
            · exact hafter x hx conditions' hx'
        · rintro x hx ⟨conditions', hx', hmost⟩
          have hle := hmost b (List.mem_append_right _ List.mem_cons_self) conditions h
          exact absurd (hbefore x hx conditions' hx') (Nat.not_lt.mpr hle)

/-- **What answers an event is what the rules select.** -/
theorem selects_matchBlock? (e : Event) (candidates : List Block) :
    e.Selects (e.eligible candidates) (e.matchBlock? candidates) := by
  rw [matchBlock?]
  generalize e.eligible candidates = blocks
  obtain ⟨b, h, hfirst⟩ | ⟨h, hpayload⟩ := e.matchByPayload?_cases blocks
  · rw [h]
    exact .payload hfirst
  rw [h]
  obtain ⟨b, captures, h, hfirst, hcaptures⟩ | ⟨h, htext⟩ := e.matchByText?_cases blocks
  · rw [h]
    exact .text hpayload hfirst hcaptures
  rw [h]
  obtain ⟨b, parse, h, hparse, hentities, hfirst⟩ | ⟨h, hnlp⟩ := e.matchByNlp?_cases blocks
  · rw [h]
    exact .nlp hpayload htext hparse hentities hfirst
  rw [h]
  exact .none hpayload htext hnlp

/-- The rules select one answer. -/
theorem Selects.unique {r r' : Option BlockMatch} (h : e.Selects blocks r)
    (h' : e.Selects blocks r') : r = r' := by
  cases h with
  | payload h =>
    cases h' with
    | payload h' => rw [h.unique h']
    | text hpayload | nlp hpayload | none hpayload => exact absurd h.holds (hpayload _ h.mem)
  | text hpayload h hcaptures =>
    cases h' with
    | payload h' => exact absurd h'.holds (hpayload _ h'.mem)
    | text _ h' hcaptures' =>
      obtain rfl := h.unique h'
      rw [Option.some.inj (hcaptures.symm.trans hcaptures')]
    | nlp _ htext | none _ htext => exact absurd hcaptures (htext _ h.mem _)
  | nlp hpayload htext hparse hentities h =>
    cases h' with
    | payload h' => exact absurd h'.holds (hpayload _ h'.mem)
    | text _ h' hcaptures' => exact absurd hcaptures' (htext _ h'.mem _)
    | nlp _ _ hparse' _ h' =>
      obtain rfl := Option.some.inj (hparse.symm.trans hparse')
      rw [h.unique h']
    | none _ _ hnlp =>
      obtain ⟨conditions, hasks, -⟩ := h.holds
      exact absurd hasks (hnlp _ hparse hentities _ h.mem _)
  | none hpayload htext hnlp =>
    cases h' with
    | payload h' => exact absurd h'.holds (hpayload _ h'.mem)
    | text _ h' hcaptures' => exact absurd hcaptures' (htext _ h'.mem _)
    | nlp _ _ hparse hentities h' =>
      obtain ⟨conditions, hasks, -⟩ := h'.holds
      exact absurd hasks (hnlp _ hparse hentities _ h'.mem _)
    | none => rfl

/-- **Which candidate answers an event.** There is one ranking of the candidates that are for the
event, and the answer is what the rules select from it. So candidates that are not for the event
make no difference. -/
theorem matchBlock?_selects (e : Event) (candidates : List Block) :
    ∃ blocks, (∀ blocks', e.Ranks candidates blocks' ↔ blocks' = blocks) ∧
      (∀ r, e.matchBlock? candidates = r ↔ e.Selects blocks r) ∧
      ∀ candidates', candidates'.filter (·.IsFor e) = candidates.filter (·.IsFor e) →
        e.matchBlock? candidates' = e.matchBlock? candidates := by
  refine ⟨e.eligible candidates, fun blocks' => ?_, fun r => ?_, fun candidates' hsame => ?_⟩
  · exact ⟨fun h => h.unique (e.ranks_eligible candidates), fun h => h ▸ e.ranks_eligible candidates⟩
  · exact ⟨fun h => h ▸ e.selects_matchBlock? candidates,
      fun h => (e.selects_matchBlock? candidates).unique h⟩
  · have hranks := e.ranks_eligible candidates'
    have hblocks : e.Ranks candidates (e.eligible candidates') :=
      ⟨hranks.sorted, fun n => hsame ▸ hranks.stable n⟩
    have hselects := e.selects_matchBlock? candidates'
    rw [hblocks.unique (e.ranks_eligible candidates)] at hselects
    exact hselects.unique (e.selects_matchBlock? candidates)

end Event

namespace Sample

/-- A block whose language pattern asks for nothing. -/
def undemanding : Block :=
  { Block.plain "zero" "ZERO" (.texts ["msg zero"]) with patterns := [.nlp []] }

/-- A block for another channel. -/
def elsewhere : Block := { undemanding with triggerChannels := ["console-channel"] }

/-- A text that was understood as nothing. -/
def unclear : Event := ⟨.web, .message ⟨.text "yo", none, none⟩, none, some .empty⟩

end Sample

/-- A block for another channel may as well not be there. -/
theorem Event.matchBlock?_selects_elsewhere :
    Sample.unclear.matchBlock? [Sample.elsewhere, Sample.undemanding] =
      Sample.unclear.matchBlock? [Sample.undemanding] := by
  obtain ⟨blocks, -, -, hsame⟩ := Event.matchBlock?_selects Sample.unclear [Sample.undemanding]
  exact hsame _ (by decide +kernel)

/-- Of a parse without entities no language pattern counts, not even one that asks for nothing. -/
theorem Event.matchBlock?_unclear :
    Sample.unclear.Ranks [Sample.undemanding] [Sample.undemanding] ∧
      ¬Sample.undemanding.AcceptsPayload Sample.unclear ∧
      (∀ captures, ¬Sample.undemanding.Captures Sample.unclear captures) ∧
      Sample.unclear.nlp = some .empty ∧ Sample.undemanding.Asks .empty [] ∧
      FirstWith (·.AsksMost [Sample.undemanding] .empty) [Sample.undemanding] Sample.undemanding ∧
      Sample.unclear.matchBlock? [Sample.undemanding] = none := by
  have hasks : Sample.undemanding.Asks .empty [] :=
    ⟨[], [], rfl, fun c hc => absurd hc List.not_mem_nil, fun c hc => absurd hc List.not_mem_nil⟩
  have hmost : Sample.undemanding.AsksMost [Sample.undemanding] .empty := by
    refine ⟨[], hasks, fun b hb conditions h => ?_⟩
    obtain rfl := List.mem_singleton.mp hb
    exact Nat.le_of_eq (congrArg List.length (Block.asks_unique h hasks))
  refine ⟨⟨List.pairwise_singleton _ _, fun n => ?_⟩, ?_, fun captures => ?_, rfl, hasks,
    ⟨[], [], rfl, hmost, fun b hb => absurd hb List.not_mem_nil⟩, ?_⟩
  · rw [List.filter_eq_self (l := [Sample.undemanding]) (p := (·.IsFor Sample.unclear)) |>.mpr
      (by decide +kernel)]
  · rintro ⟨payload, h, -⟩
    cases h
  · rw [Block.Captures]
    have hnone : Sample.undemanding.matchText? (Text.trim Sample.unclear.text) = none := by
      decide +kernel
    rw [hnone]
    exact nofun
  · decide +kernel

end Chatflow

import Chatflow.Matching.Cache
import Chatflow.Proofs.Matching.Selection
import Chatflow.Proofs.Dict
import Mathlib.Data.Set.Card

/-!
# A cache makes no difference

Matchers keep the regular expressions that they have compiled, and clones of a matcher share what it
keeps. Nothing of that shows in an answer, and what is kept shows which texts were tried and nothing
else: `RegexCache.replies_fresh`.

One invariant carries it: a cache holds what became of some texts, and of no others
(`RegexCache.Holds`). It says what a lookup gives, so a search through the cache goes as one without
it, and it says what a lookup adds. A text is tried if the search for the first hit comes to its
pattern (`Reached`), among the patterns of a block as among the blocks.
-/

namespace Chatflow

/-! ### Searches -/

/-- A search for the first hit comes to an element: no element before it is a hit. -/
def Reached {α : Type} (hit : α → Prop) (l : List α) (a : α) : Prop :=
  ∃ before after, l = before ++ a :: after ∧ ∀ x ∈ before, ¬hit x

section Reached

variable {α : Type} {hit : α → Prop} {l : List α} {a x : α}

theorem not_reached_nil : ¬Reached hit [] a := by
  rintro ⟨before, after, h, -⟩
  exact List.append_ne_nil_of_right_ne_nil before (List.cons_ne_nil a after) h.symm

/-- A search comes to the first element, and if that is no hit it goes on. -/
theorem reached_cons_iff : Reached hit (x :: l) a ↔ a = x ∨ ¬hit x ∧ Reached hit l a := by
  constructor
  · rintro ⟨before, after, h, hbefore⟩
    cases before with
    | nil => exact .inl (List.cons.inj h).1.symm
    | cons y before =>
      obtain ⟨rfl, hl⟩ := List.cons.inj h
      exact .inr ⟨hbefore _ List.mem_cons_self, before, after, hl,
        fun z hz => hbefore z (List.mem_cons_of_mem _ hz)⟩
  · rintro (rfl | ⟨hx, before, after, rfl, hbefore⟩)
    · exact ⟨[], l, rfl, List.forall_mem_nil _⟩
    · exact ⟨x :: before, after, rfl, List.forall_mem_cons.mpr ⟨hx, hbefore⟩⟩

end Reached

/-! ### What is tried -/

/-- A text pattern matches a text. -/
def Pattern.Matches (p : Pattern) (text : String) : Prop :=
  ∃ captures,
    p.matchText? Regex.compile? text (Unicode.Case.lower (Text.trim text)) = some captures

/-- A text of a regular expression is tried on a text in some patterns: they are tried in their
order, up to the first that matches. -/
def Pattern.Tries (patterns : List Pattern) (text source : String) : Prop :=
  ∃ p, Reached (·.Matches text) patterns p ∧ p.regexSource? = some source

/-- It is tried on a text in some blocks: they are tried in their order, up to the first with a
pattern that matches. -/
def Block.Tries (blocks : List Block) (text source : String) : Prop :=
  ∃ b, Reached (fun b => ∃ captures, b.matchText? text = some captures) blocks b ∧
    Pattern.Tries b.patterns text source

/-- It is tried on an event: the candidates are tried on the trimmed text as they are ranked, unless
one of them accepts the payload. -/
def Event.Tries (e : Event) (candidates : List Block) (source : String) : Prop :=
  ∃ blocks, e.Ranks candidates blocks ∧ (∀ b ∈ blocks, ¬b.AcceptsPayload e) ∧
    Block.Tries blocks (Text.trim e.text) source

theorem Event.tries_iff {e : Event} {candidates : List Block} {source : String} :
    e.Tries candidates source ↔ (∀ b ∈ e.eligible candidates, ¬b.AcceptsPayload e) ∧
      Block.Tries (e.eligible candidates) (Text.trim e.text) source := by
  constructor
  · rintro ⟨blocks, hranks, h⟩
    rwa [hranks.unique (e.ranks_eligible candidates)] at h
  · exact fun h => ⟨_, e.ranks_eligible candidates, h⟩

namespace RegexCache

/-- A cache holds what became of some texts, and of no others. -/
def Holds (c : RegexCache) (tried : Set String) : Prop :=
  ∀ source r, c.entries.find? source = some r ↔ source ∈ tried ∧ r = Regex.compile? source

variable {c : RegexCache} {tried : Set String}

theorem holds_empty : empty.Holds ∅ := fun _ _ => ⟨nofun, fun h => h.1.elim⟩

/-- There is one entry for each text. -/
theorem Holds.size_eq (h : c.Holds tried) : c.size = tried.ncard := by
  have hkeys : tried = ↑(c.entries.keys.toFinset) := by
    ext source
    rw [Finset.mem_coe, List.mem_toFinset, Dict.keys, List.mem_map]
    constructor
    · exact fun hs => ⟨_, Dict.mem_of_findEntry ((h source _).mpr ⟨hs, rfl⟩), rfl⟩
    · rintro ⟨entry, hentry, rfl⟩
      exact ((h entry.1 entry.2).mp (Dict.findEntry_of_mem c.entries.sorted hentry)).1
  have hcard : c.entries.keys.toFinset.card = c.entries.keys.length :=
    List.toFinset_card_of_nodup c.entries.nodup_keys
  rw [hkeys, Set.ncard_coe_finset, hcard, Dict.keys, List.length_map]
  rfl

/-! ### Lookups -/

/-- What is looked up is what became of the text, tried before or not. -/
theorem Holds.lookup_fst (h : c.Holds tried) (source : String) :
    (c.lookup source).1 = Regex.compile? source := by
  rw [lookup]
  split
  · rename_i r hr
    exact ((h source r).mp hr).2
  · rfl

/-- Now it was tried. -/
theorem Holds.lookup_snd (h : c.Holds tried) (source : String) :
    (c.lookup source).2.Holds (tried ∪ {source}) := by
  rw [lookup]
  split
  · rename_i r hr
    have hmem : source ∈ tried := ((h source r).mp hr).1
    rwa [Set.union_eq_self_of_subset_right (Set.singleton_subset_iff.mpr hmem)]
  · intro key r
    rw [Dict.find?_insert, Set.mem_union, Set.mem_singleton_iff]
    by_cases hkey : key = source
    · simp [hkey, eq_comm]
    · simp [hkey, h key r]

theorem Holds.tryPattern (h : c.Holds tried) (p : Pattern) :
    (c.tryPattern p).Holds (tried ∪ {source | p.regexSource? = some source}) := by
  rw [RegexCache.tryPattern]
  cases p.regexSource? with
  | none => simpa using h
  | some source => simpa [eq_comm] using h.lookup_snd source

/-! ### Searches through a cache -/

/-- A search among patterns. -/
theorem Holds.matchPatterns? (h : c.Holds tried) (text : String) (patterns : List Pattern) :
    (c.matchPatterns? text (Unicode.Case.lower (Text.trim text)) patterns).1 =
        patterns.findSome?
          (Pattern.matchText? Regex.compile? text (Unicode.Case.lower (Text.trim text))) ∧
      (c.matchPatterns? text (Unicode.Case.lower (Text.trim text)) patterns).2.Holds
        (tried ∪ {source | Pattern.Tries patterns text source}) := by
  induction patterns generalizing c tried with
  | nil =>
    have htries : {source | Pattern.Tries [] text source} = ∅ := by
      simp [Pattern.Tries, not_reached_nil]
    rw [htries, Set.union_empty]
    exact ⟨rfl, h⟩
  | cons p rest ih =>
    have hlookup : (fun source => (c.lookup source).1) = Regex.compile? := funext h.lookup_fst
    rw [RegexCache.matchPatterns?, hlookup, List.findSome?_cons]
    cases hp : p.matchText? Regex.compile? text (Unicode.Case.lower (Text.trim text)) with
    | some captures =>
      -- the search ends here, so no later pattern is tried
      have htries : {source | Pattern.Tries (p :: rest) text source} =
          {source | p.regexSource? = some source} := by
        ext source
        simp [Pattern.Tries, reached_cons_iff, Pattern.Matches, hp]
      rw [htries]
      exact ⟨rfl, h.tryPattern p⟩
    | none =>
      have htries : {source | Pattern.Tries (p :: rest) text source} =
          {source | p.regexSource? = some source} ∪
            {source | Pattern.Tries rest text source} := by
        ext source
        simp [Pattern.Tries, reached_cons_iff, Pattern.Matches, hp, or_and_right, exists_or]
      rw [htries, ← Set.union_assoc]
      exact ih (h.tryPattern p)

theorem Holds.matchText? (h : c.Holds tried) (b : Block) (text : String) :
    (c.matchText? b text).1 = b.matchText? text ∧
      (c.matchText? b text).2.Holds
        (tried ∪ {source | Pattern.Tries b.patterns text source}) :=
  h.matchPatterns? text b.patterns

/-- A search among blocks. -/
theorem Holds.matchByText? (h : c.Holds tried) (text : String) (blocks : List Block) :
    (c.matchByText? text blocks).1 =
        blocks.findSome? (fun b => (b.matchText? text).map (⟨b, .text, ·⟩)) ∧
      (c.matchByText? text blocks).2.Holds
        (tried ∪ {source | Block.Tries blocks text source}) := by
  induction blocks generalizing c tried with
  | nil =>
    have htries : {source | Block.Tries [] text source} = ∅ := by
      simp [Block.Tries, not_reached_nil]
    rw [htries, Set.union_empty]
    exact ⟨rfl, h⟩
  | cons b rest ih =>
    obtain ⟨hresult, hafter⟩ := h.matchText? b text
    rw [RegexCache.matchByText?, List.findSome?_cons, ← hresult]
    generalize c.matchText? b text = run at hresult hafter
    obtain ⟨_ | captures, after⟩ := run
    · have htries : {source | Block.Tries (b :: rest) text source} =
          {source | Pattern.Tries b.patterns text source} ∪
            {source | Block.Tries rest text source} := by
        ext source
        simp [Block.Tries, reached_cons_iff, ← hresult, or_and_right, exists_or]
      rw [htries, ← Set.union_assoc]
      exact ih hafter
    · have htries : {source | Block.Tries (b :: rest) text source} =
          {source | Pattern.Tries b.patterns text source} := by
        ext source
        simp [Block.Tries, reached_cons_iff, ← hresult]
      rw [htries]
      exact ⟨rfl, hafter⟩

/-- **An event is answered through a cache as without one.** -/
theorem Holds.matchBlock? (h : c.Holds tried) (e : Event) (candidates : List Block) :
    (c.matchBlock? e candidates).1 = e.matchBlock? candidates ∧
      (c.matchBlock? e candidates).2.Holds (tried ∪ {source | e.Tries candidates source}) := by
  have hsearch := h.matchByText? (Text.trim e.text) (e.eligible candidates)
  have htries : {source | e.Tries candidates source} = {source |
      (∀ b ∈ e.eligible candidates, ¬b.AcceptsPayload e) ∧
        Block.Tries (e.eligible candidates) (Text.trim e.text) source} :=
    Set.ext fun source => Event.tries_iff
  rw [htries, RegexCache.matchBlock?, Event.matchBlock?]
  obtain ⟨b, hpayload, hfirst⟩ | ⟨hpayload, hnone⟩ :=
    e.matchByPayload?_cases (e.eligible candidates)
  · -- the payload decides, and no text is tried
    have hempty : {source | (∀ b ∈ e.eligible candidates, ¬b.AcceptsPayload e) ∧
        Block.Tries (e.eligible candidates) (Text.trim e.text) source} = ∅ :=
      Set.eq_empty_iff_forall_notMem.mpr fun source hs => hs.1 b hfirst.mem hfirst.holds
    rw [hpayload, hempty, Set.union_empty]
    exact ⟨rfl, h⟩
  · have hall : {source | (∀ b ∈ e.eligible candidates, ¬b.AcceptsPayload e) ∧
        Block.Tries (e.eligible candidates) (Text.trim e.text) source} =
        {source | Block.Tries (e.eligible candidates) (Text.trim e.text) source} :=
      Set.ext fun source => and_iff_right hnone
    rw [hpayload, hall, Event.matchByText?, ← hsearch.1]
    have hafter := hsearch.2
    generalize c.matchByText? (Text.trim e.text) (e.eligible candidates) = run at hafter
    obtain ⟨_ | found, after⟩ := run
    · exact ⟨rfl, hafter⟩
    · exact ⟨rfl, hafter⟩

end RegexCache

/-! ### Matchers -/

/-- What a matcher is asked. -/
inductive Query where
  /-- Which candidate answers an event. -/
  | event (e : Event) (candidates : List Block)
  /-- What a block captures from a text. -/
  | text (text : String) (b : Block)

/-- What a matcher replies. -/
inductive Reply where
  /-- The candidate that answers. -/
  | chosen (found : Option BlockMatch)
  /-- What the block captures. -/
  | captured (captures : Option (List String))

namespace Query

/-- The reply to a query if nothing is kept. -/
def reply : Query → Reply
  | .event e candidates => .chosen (e.matchBlock? candidates)
  | .text t b => .captured (b.matchText? t)

/-- A query tries a text of a regular expression. -/
def Tries : Query → String → Prop
  | .event e candidates => e.Tries candidates
  | .text t b => Pattern.Tries b.patterns t

end Query

namespace RegexCache

/-- The reply to a query through a cache, and the cache after it. -/
def ask (c : RegexCache) : Query → Reply × RegexCache
  | .event e candidates => Prod.map .chosen id (c.matchBlock? e candidates)
  | .text t b => Prod.map .captured id (c.matchText? b t)

/-- The replies to queries put to matchers one after the other, and the caches after them. A matcher
is given by the place of its cache, so clones of it are given by the same place. -/
def askAll (caches : Nat → RegexCache) : List (Nat × Query) → List Reply × (Nat → RegexCache)
  | [] => ([], caches)
  | (place, q) :: calls =>
    let (reply, c) := (caches place).ask q
    let (replies, after) := askAll (Function.update caches place c) calls
    (reply :: replies, after)

variable {c : RegexCache} {tried : Set String}

theorem Holds.ask (h : c.Holds tried) (q : Query) :
    (c.ask q).1 = q.reply ∧ (c.ask q).2.Holds (tried ∪ {source | q.Tries source}) := by
  cases q with
  | event e candidates =>
    obtain ⟨hresult, hafter⟩ := h.matchBlock? e candidates
    exact ⟨congrArg Reply.chosen hresult, hafter⟩
  | text t b =>
    obtain ⟨hresult, hafter⟩ := h.matchText? b t
    exact ⟨congrArg Reply.captured hresult, hafter⟩

/-- The texts tried by the queries put to a matcher and its clones. -/
def triedAt (place : Nat) (calls : List (Nat × Query)) : Set String :=
  {source | ∃ q, (place, q) ∈ calls ∧ q.Tries source}

theorem triedAt_cons (place place' : Nat) (q : Query) (calls : List (Nat × Query)) :
    triedAt place ((place', q) :: calls) =
      (if place = place' then {source | q.Tries source} else ∅) ∪ triedAt place calls := by
  ext source
  by_cases h : place = place'
  · simp [triedAt, h, or_and_right, exists_or]
  · simp [triedAt, h]

/-- **Whatever was tried before**, queries are replied to as if nothing were kept, and each cache
then holds what was tried in it before and what its queries try. -/
theorem askAll_of_holds {caches : Nat → RegexCache} {before : Nat → Set String}
    (h : ∀ place, (caches place).Holds (before place)) (calls : List (Nat × Query)) :
    (askAll caches calls).1 = calls.map (·.2.reply) ∧
      ∀ place, ((askAll caches calls).2 place).Holds (before place ∪ triedAt place calls) := by
  induction calls generalizing caches before with
  | nil =>
    have hnone (place : Nat) : triedAt place [] = ∅ := by simp [triedAt]
    refine ⟨rfl, fun place => ?_⟩
    rw [hnone, Set.union_empty]
    exact h place
  | cons call calls ih =>
    obtain ⟨place, q⟩ := call
    obtain ⟨hreply, hafter⟩ := (h place).ask q
    have hupdated : ∀ place', (Function.update caches place ((caches place).ask q).2 place').Holds
        (before place' ∪ if place' = place then {source | q.Tries source} else ∅) := by
      intro place'
      by_cases hplace : place' = place
      · subst hplace
        rw [Function.update_self, if_pos rfl]
        exact hafter
      · rw [Function.update_of_ne hplace, if_neg hplace, Set.union_empty]
        exact h place'
    obtain ⟨hreplies, hholds⟩ := ih hupdated
    refine ⟨?_, fun place' => ?_⟩
    · rw [List.map_cons, ← hreply, ← hreplies]
      rfl
    · rw [triedAt_cons, ← Set.union_assoc]
      exact hholds place'

/-- **A cache makes no difference.** Queries put to new matchers and to clones of them, one after the
other, are replied to as by a new matcher each, which is as if nothing were kept. Afterwards the
cache of each matcher has one entry for each text of a regular expression that was tried in a query
put to it or to a clone, with what became of it, and no other. -/
theorem replies_fresh (calls : List (Nat × Query)) :
    (askAll (fun _ => empty) calls).1 = calls.map (fun call => (empty.ask call.2).1) ∧
      (∀ q : Query, (empty.ask q).1 = q.reply) ∧
      ∀ place, ((askAll (fun _ => empty) calls).2 place).Holds (triedAt place calls) ∧
        ((askAll (fun _ => empty) calls).2 place).size = (triedAt place calls).ncard := by
  have hfresh : ∀ q : Query, (empty.ask q).1 = q.reply := fun q => (holds_empty.ask q).1
  obtain ⟨hreplies, hholds⟩ := askAll_of_holds (fun _ => holds_empty) calls
  refine ⟨?_, hfresh, fun place => ?_⟩
  · simp only [hreplies, hfresh]
  · have hplace := hholds place
    rw [Set.empty_union] at hplace
    exact ⟨hplace, hplace.size_eq⟩

end RegexCache

end Chatflow

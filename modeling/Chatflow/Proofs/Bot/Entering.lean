import Chatflow.Proofs.Bot.Moments

/-!
# Which blocks a turn enters

To ask again is not to enter a block anew, so a turn enters two blocks at most (`Bot.TurnEnters`):
one at which the active conversation goes on, and one that starts another, if the first did not
lead to the end of the turn. That there are no more, and that they come in this order, is a matter
of how far the turn has come (`Stage.progress`), which no transition takes back. That they are those
that answer the event is a matter of what the turn has in hand before it enters one (`Bot.Awaits`).

A turn that ends with the active conversation has not started another. So if no block answers in it,
and it only asked again, nothing is entered (`Bot.TurnEnters.eq_nil`).
-/

namespace Chatflow

/-- The block that is entered between two stages, unless it asks again. -/
def Stage.entered? : Stage → Stage → Option Block
  | .entering m b _, .storing _ _ _ => if m.fallback then none else some b
  | _, _ => none

namespace Bot

variable {bot : Bot} {e : Event} {s : Subscriber} {p q : Stage × World}

/-- A turn as far as it went, with the blocks that were entered in it. -/
inductive Enters (bot : Bot) (e : Event) (s : Subscriber) (p : Stage × World) :
    List Block → Stage × World → Prop
  | refl : Enters bot e s p [] p
  | tail {blocks : List Block} {q r : Stage × World} (h : Enters bot e s p blocks q)
      (hmove : bot.Moves e s q r) : Enters bot e s p (blocks ++ (q.1.entered? r.1).toList) r

/-- A path enters some blocks. -/
theorem Path.enters (h : bot.Path e s p q) : ∃ blocks, bot.Enters e s p blocks q := by
  induction h with
  | refl => exact ⟨[], .refl⟩
  | tail _ hmove ih =>
    obtain ⟨blocks, hblocks⟩ := ih
    exact ⟨_, hblocks.tail hmove⟩

/-! ### What is to be entered -/

/-- The active conversation of a sender goes on at a block: it is the one that answers an event
among those that may follow. -/
def GoesOnAt (bot : Bot) (e : Event) (sender : String) (w : World) (b : Block) : Prop :=
  ∃ c m, w.conversations.active? sender = some c ∧
    e.matchBlock? (bot.blocks.findMany c.nextIds) = some m ∧ m.block = b

/-- A conversation may be started on an event at a block: it is the one that answers among those
that start conversations, or it is the fallback block. -/
def StartsAt (bot : Bot) (e : Event) (b : Block) : Prop :=
  (∃ m, e.matchBlock? bot.blocks.starting = some m ∧ m.block = b) ∨
    ∃ id, bot.settings.fallbackBlock = some id ∧ bot.blocks.find? id = some b

/-- What a turn that began in the world `w₀` has in hand and not yet entered: the conversation that
was active then, a block at which it goes on, or one that starts another. -/
def Awaits (bot : Bot) (e : Event) (s : Subscriber) (w₀ : World) : Stage × World → Prop
  | (.waiting, w) => w = w₀
  | (.found c, _) => w₀.conversations.active? s.id = some c
  | (.entering .answer b _, _) => bot.GoesOnAt e s.id w₀ b
  | (.entering (.start o) b _, _) | (.opening b o, _) =>
    (Move.start o).starts = true ∧ bot.StartsAt e b
  | _ => True

theorem Awaits.step {w₀ : World} (hp : bot.Awaits e s w₀ p) (h : bot.Moves e s p q) :
    bot.Awaits e s w₀ q := by
  cases h with
  | found h =>
    obtain rfl : _ = w₀ := hp
    exact h
  | answered h => exact ⟨_, _, hp, h, rfl⟩
  | matched h => exact ⟨rfl, .inl ⟨_, h, rfl⟩⟩
  | opened => exact hp
  | sought h hf => exact ⟨rfl, .inr ⟨_, h, hf⟩⟩
  | _ => trivial

end Bot

/-! ### How far a turn has come -/

/-- How far a conversation that is moved on has come. -/
def Move.progress (m : Move) : Nat := if m.starts then 2 else 1

/-- How far a turn has come once it has no conversation in hand. -/
def Exit.progress : Exit → Nat
  | .free | .finished (.ok .conversation) => 1
  | .done m => m.progress
  | .finished _ => 2

/-- How far a turn has come, by what it may have entered: nothing, but perhaps to ask again (0), at
most the block at which the active conversation goes on (1), or one that starts another too (2). -/
def Stage.progress : Stage → Nat
  | .waiting | .found _ | .entering .answer _ _ => 0
  | .entering _ _ _ | .unmatched | .falling | .voicing | .opening _ _ => 1
  | .storing m _ _ | .entered m _ _ | .sending m _ _ _ | .sent m _ _ _ | .standing m _ =>
    m.progress
  | .ending _ _ x | .exit x => x.progress

theorem Move.one_le_progress (m : Move) : 1 ≤ m.progress := by
  rw [progress]
  split <;> decide

theorem Move.progress_le_two (m : Move) : m.progress ≤ 2 := by
  rw [progress]
  split <;> decide

/-- A move that fails is given up no less far. -/
theorem Move.progress_le_exitOn (m : Move) (err : BotError) :
    m.progress ≤ (m.exitOn err).progress := by
  cases m with
  | answer | again => exact Nat.le_refl 1
  | start o => exact (start o).progress_le_two

/-- A turn is over no less far than its move is done. -/
theorem Move.progress_le_outcome (m : Move) :
    m.progress ≤ (Exit.finished (.ok m.outcome)).progress := by
  cases m with
  | answer | again => exact Nat.le_refl 1
  | start o =>
    cases o with
    | conversation => exact Nat.le_refl 1
    | _ => exact (start _).progress_le_two

namespace Bot

variable {bot : Bot} {e : Event} {s : Subscriber} {p q : Stage × World}

/-- **A turn goes on no less far.** -/
theorem Moves.progress_le (h : bot.Moves e s p q) : p.1.progress ≤ q.1.progress := by
  cases h with
  | @bare _ m | @kept _ m =>
    cases m with
    | answer => exact Nat.zero_le _
    | again | start => exact Move.one_le_progress _
  | @unkept _ m _ _ err =>
    cases m with
    | answer => exact Nat.zero_le _
    | again => exact Nat.le_refl 1
    | start => exact Nat.le_succ 1
  | unstored | unsaid | unread | unstood => exact Move.progress_le_exitOn _ _
  | credited => exact Move.progress_le_outcome _
  | unlisted | silent | unsought | mute | voiced | unvoiced | unopened => exact Nat.le_succ 1
  | unfound | absent | found | unloaded | answered | asked | unanswered => exact Nat.zero_le _
  | _ => exact Nat.le_refl _

/-- What is entered is what the turn awaited: first the block at which the active conversation goes
on, and then one that starts another. -/
theorem Moves.awaited {w₀ : World} (h : bot.Moves e s p q) (hp : bot.Awaits e s w₀ p) {b : Block}
    (hb : p.1.entered? q.1 = some b) :
    (bot.GoesOnAt e s.id w₀ b ∧ p.1.progress = 0 ∧ 1 ≤ q.1.progress) ∨
      bot.StartsAt e b ∧ p.1.progress = 1 ∧ q.1.progress = 2 := by
  cases h with
  | @bare _ m | @kept _ m =>
    cases m with
    | answer =>
      obtain rfl := Option.some.inj hb
      exact .inl ⟨hp, rfl, Nat.le_refl 1⟩
    | again => cases hb
    | start o =>
      obtain rfl := Option.some.inj hb
      exact .inr ⟨hp.2, rfl, if_pos hp.1⟩
  | _ => cases hb

/-! ### The blocks of a turn -/

/-- What is entered in a turn as far as it went. -/
theorem Enters.shape {w : World} {blocks : List Block}
    (h : bot.Enters e s (.waiting, w) blocks q) :
    bot.Awaits e s w q ∧ ∃ next start : Option Block, blocks = next.toList ++ start.toList ∧
      (∀ b, next = some b → bot.GoesOnAt e s.id w b ∧ 1 ≤ q.1.progress) ∧
      ∀ b, start = some b → bot.StartsAt e b ∧ 2 ≤ q.1.progress := by
  induction h with
  | refl => exact ⟨rfl, none, none, rfl, fun _ hb => (nomatch hb), fun _ hb => (nomatch hb)⟩
  | @tail blocks q r _ hmove ih =>
    obtain ⟨hq, next, start, rfl, hnext, hstart⟩ := ih
    have hle := hmove.progress_le
    have hnext' : ∀ b, next = some b → bot.GoesOnAt e s.id w b ∧ 1 ≤ r.1.progress :=
      fun b hb => (hnext b hb).imp_right (Nat.le_trans · hle)
    have hstart' : ∀ b, start = some b → bot.StartsAt e b ∧ 2 ≤ r.1.progress :=
      fun b hb => (hstart b hb).imp_right (Nat.le_trans · hle)
    refine ⟨hq.step hmove, ?_⟩
    cases hb : q.1.entered? r.1 with
    | none => exact ⟨next, start, List.append_nil _, hnext', hstart'⟩
    | some b =>
      -- the turn had not come as far as it comes with this block
      have hnone : q.1.progress ≤ 1 → start = none := fun hq => by
        refine Option.eq_none_iff_forall_ne_some.mpr fun b' hb' => ?_
        have htwo := (hstart b' hb').2
        omega
      obtain ⟨hgoes, hbefore, hafter⟩ | ⟨hstarts, hbefore, hafter⟩ := hmove.awaited hq hb
      · obtain rfl : next = none := by
          refine Option.eq_none_iff_forall_ne_some.mpr fun b' hb' => ?_
          have hone := (hnext b' hb').2
          omega
        obtain rfl := hnone (by omega)
        refine ⟨some b, none, rfl, fun b' hb' => ?_, hstart'⟩
        obtain rfl := Option.some.inj hb'
        exact ⟨hgoes, hafter⟩
      · obtain rfl := hnone (by omega)
        refine ⟨next, some b, by rw [Option.toList_none, List.append_nil], hnext',
          fun b' hb' => ?_⟩
        obtain rfl := Option.some.inj hb'
        exact ⟨hstarts, by omega⟩

/-- A turn on an event of a sender, begun in a world, enters some blocks. -/
structure TurnEnters (bot : Bot) (event : Event) (s : Subscriber) (w : World)
    (blocks : List Block) : Prop where
  /-- The turn is run for the sender, though perhaps in another language, and these are the blocks
  that are entered from its beginning to its end. -/
  run : ∃ s', (event.detectLanguage bot.settings.languages).sender = some s' ∧ s'.id = s.id ∧
    bot.Enters (event.detectLanguage bot.settings.languages) s' (.waiting, w) blocks
      (.exit (.finished (bot.handle event w).1), (bot.handle event w).2)
  /-- They are one at which the active conversation goes on, perhaps, and one that starts another,
  perhaps; but if it was the active conversation that went on, none starts another. -/
  shape : ∃ next start : Option Block, blocks = next.toList ++ start.toList ∧
    (∀ b, next = some b → bot.GoesOnAt (event.detectLanguage bot.settings.languages) s.id w b) ∧
    ∀ b, start = some b → bot.StartsAt (event.detectLanguage bot.settings.languages) b ∧
      (bot.handle event w).1 ≠ .ok .conversation

/-- **Every turn enters some blocks.** -/
theorem exists_turnEnters {event : Event} (hs : event.sender = some s) (w : World) :
    ∃ blocks, bot.TurnEnters event s w blocks := by
  obtain ⟨s', hs', hid, -⟩ := sender_detectLanguage event bot.settings.languages hs
  obtain ⟨blocks, hblocks⟩ := (path_handle hs' w).enters
  obtain ⟨-, next, start, hshape, hnext, hstart⟩ := hblocks.shape
  refine ⟨blocks, ⟨s', hs', hid, hblocks⟩, next, start, hshape, fun b hb => ?_, fun b hb => ?_⟩
  · exact hid ▸ (hnext b hb).1
  · refine ⟨(hstart b hb).1, fun hresult => ?_⟩
    have hprogress := (hstart b hb).2
    rw [hresult] at hprogress
    exact absurd hprogress (Nat.not_succ_le_self 1)

/-- A turn of an ongoing conversation enters no block if none answers in it: it only asked again. -/
theorem TurnEnters.eq_nil {event : Event} {w : World} {blocks : List Block}
    (h : bot.TurnEnters event s w blocks)
    (hnone : ∀ b, ¬bot.GoesOnAt (event.detectLanguage bot.settings.languages) s.id w b)
    (hresult : (bot.handle event w).1 = .ok .conversation) : blocks = [] := by
  obtain ⟨next, start, rfl, hnext, hstart⟩ := h.shape
  cases next with
  | some b => exact absurd (hnext b rfl) (hnone b)
  | none =>
    cases start with
    | some b => exact absurd hresult (hstart b rfl).2
    | none => rfl

end Bot

end Chatflow

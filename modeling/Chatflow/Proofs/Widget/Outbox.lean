import Chatflow.Bot.Sending
import Mathlib.Data.List.Basic

/-!
# Outboxes lose nothing

The calls to a widget channel come in any order (`Request`): messages are sent, and what waits is
picked up, all of it or what waits for one recipient. Whatever the order, what was picked up and
what still waits is together what was sent, each message once, and every recipient gets its
messages in the order in which they were sent: `Outbox.conserved`.

All calls are of one kind: a call takes some of what waits (`Request.takes`) and adds what it sends
(`Request.accepted`). What makes the order right is that a call takes all that waits for a recipient
or nothing of it.
-/

namespace Chatflow

namespace Widget

/-- A call to a widget channel. -/
inductive Request where
  /-- To send an envelope in answer to an event, under an id for the message. -/
  | send (event : Chatflow.Event) (envelope : Envelope) (options : SendOptions) (mid : String)
  /-- To pick up all that waits. -/
  | drain
  /-- To pick up what waits for a recipient. -/
  | drainFor (recipient : String)

/-- What a call gives back. -/
inductive Reply where
  /-- The id of the message, or why it is not sent. -/
  | sent (result : Except ChannelError String)
  /-- What is picked up. -/
  | picked (deliveries : List Delivery)

/-- What a reply hands out. -/
def Reply.deliveries : Reply → List Delivery
  | .sent _ => []
  | .picked deliveries => deliveries

namespace Request

/-- Whether a call picks up a message that waits. -/
def takes : Request → Delivery → Bool
  | .send .., _ => false
  | .drain, _ => true
  | .drainFor recipient, d => d.recipient = recipient

/-- What a call adds to what waits: the message that is sent, if it is. -/
def accepted : Request → List Delivery
  | .send event envelope options mid =>
    match Outbox.delivery event envelope options mid with
    | .error _ => []
    | .ok (d, _) => [d]
  | .drain | .drainFor _ => []

/-- A call takes all that waits for a recipient or nothing of it. -/
theorem takes_congr (r : Request) {d d' : Delivery} (h : d.recipient = d'.recipient) :
    r.takes d = r.takes d' := by
  cases r with
  | send | drain => rfl
  | drainFor recipient => rw [takes, takes, h]

end Request

namespace Outbox

/-- What a call gives back, and the outbox after it. Where the end of a page is beyond what can be
counted, it is shown by the wrapped count. -/
def serve (o : Outbox) : Request → Reply × Outbox
  | .send event envelope options mid =>
    match delivery event envelope options mid with
    | .error cause => (.sent (.error cause), o)
    | .ok (d, _) => (.sent (.ok d.message.mid), o.push d)
  | .drain => (.picked o.drain.1, o.drain.2)
  | .drainFor recipient => (.picked (o.drainFor recipient).1, (o.drainFor recipient).2)

/-- The outbox after some calls, one after the other. -/
def after (o : Outbox) (requests : List Request) : Outbox :=
  requests.foldl (fun o r => (o.serve r).2) o

/-- What some calls hand out, one after the other. -/
def picked (o : Outbox) : List Request → List Delivery
  | [] => []
  | r :: requests => (o.serve r).1.deliveries ++ picked (o.serve r).2 requests

/-! ### One call -/

/-- A message is made from what an envelope is shown as and from the recipient of the answer, and is
not made if there is no such. -/
theorem delivery_error_or_ok (event : Chatflow.Event) (envelope : Envelope) (options : SendOptions)
    (mid : String) :
    (∃ cause, (view envelope = .error cause ∨ recipient event = .error cause) ∧
      delivery event envelope options mid = .error cause) ∨
    ∃ shown whom, view envelope = .ok shown ∧ recipient event = .ok whom ∧
      delivery event envelope options mid =
        .ok (⟨whom, options.typing,
          ⟨shown.type, shown.data, mid, botAuthor, options.assignTo.isSome⟩⟩, shown.overflow) := by
  rw [delivery]
  cases hview : view envelope with
  | error cause => exact .inl ⟨cause, .inl rfl, rfl⟩
  | ok shown =>
    cases hrecipient : recipient event with
    | error cause => exact .inl ⟨cause, .inr rfl, rfl⟩
    | ok whom => exact .inr ⟨shown, whom, rfl, rfl, rfl⟩

theorem drainFor_eq (o : Outbox) (recipient : String) :
    o.drainFor recipient =
      (o.filter (·.recipient = recipient), o.filter (·.recipient ≠ recipient)) := by
  rw [drainFor, List.partition_eq_filter_filter]
  congr 2
  funext d
  simp

/-- **What a call does to what waits**: it hands out what it takes, and leaves the rest with what it
adds at the end. -/
theorem serve_eq (o : Outbox) (r : Request) :
    (o.serve r).1.deliveries = o.filter r.takes ∧
      (o.serve r).2 = o.filter (!r.takes ·) ++ r.accepted := by
  have hnone : o.filter (fun _ => false) = [] := List.filter_false o
  have hall : o.filter (fun _ => true) = o := List.filter_true o
  cases r with
  | send event envelope options mid =>
    rw [serve, Request.accepted]
    cases delivery event envelope options mid with
    | error cause => exact ⟨hnone.symm, ((List.append_nil _).trans hall).symm⟩
    | ok r => exact ⟨hnone.symm, congrArg (· ++ [r.1]) hall.symm⟩
  | drain => exact ⟨hall.symm, ((List.append_nil _).trans hnone).symm⟩
  | drainFor recipient =>
    rw [serve, drainFor_eq]
    refine ⟨rfl, ?_⟩
    simp only [Request.takes, Request.accepted, List.append_nil, decide_not, ne_eq]

/-- What waits for a recipient is taken first, and comes before what is added. -/
theorem filter_serve (o : Outbox) (r : Request) (recipient : String) :
    (o.serve r).1.deliveries.filter (·.recipient = recipient) ++
        (o.serve r).2.filter (·.recipient = recipient) =
      (o ++ r.accepted).filter (·.recipient = recipient) := by
  obtain ⟨hpicked, hleft⟩ := o.serve_eq r
  rw [hpicked, hleft, List.filter_append, List.filter_append, ← List.append_assoc]
  congr 1
  -- whether a message of the recipient is taken does not depend on the message
  generalize hmine : o.filter (·.recipient = recipient) = mine
  have hrecipient : ∀ d ∈ mine, d.recipient = recipient := by
    intro d hd
    rw [← hmine] at hd
    simpa using List.of_mem_filter hd
  have hcomm : ∀ p : Delivery → Bool,
      (o.filter p).filter (·.recipient = recipient) = mine.filter p := by
    intro p
    rw [← hmine, List.filter_filter, List.filter_filter]
    exact List.filter_congr fun d _ => Bool.and_comm _ _
  rw [hcomm, hcomm]
  cases mine with
  | nil => rfl
  | cons d rest =>
    have hsame : ∀ d' ∈ d :: rest, r.takes d' = r.takes d := fun d' hd' =>
      r.takes_congr ((hrecipient d' hd').trans (hrecipient d List.mem_cons_self).symm)
    cases htakes : r.takes d with
    | true =>
      rw [List.filter_eq_self.mpr fun d' hd' => (hsame d' hd').trans htakes,
        List.filter_eq_nil_iff.mpr fun d' hd' => by simp [hsame d' hd', htakes],
        List.append_nil]
    | false =>
      rw [List.filter_eq_nil_iff.mpr fun d' hd' => by simp [hsame d' hd', htakes],
        List.filter_eq_self.mpr fun d' hd' => by simp [hsame d' hd', htakes], List.nil_append]

/-- What waits stays in its order. -/
theorem sublist_serve (o : Outbox) (r : Request) : (o.serve r).2.Sublist (o ++ r.accepted) := by
  rw [(o.serve_eq r).2]
  exact List.filter_sublist.append_right _

/-! ### Many calls -/

variable (o : Outbox) (requests : List Request)

theorem after_cons (r : Request) : o.after (r :: requests) = after (o.serve r).2 requests := rfl

/-- **Every recipient gets its messages in the order in which they were sent**: what was picked up
for it, and then what still waits, is what waited for it at first and what was sent to it. -/
theorem filter_picked_append_after (recipient : String) :
    (o.picked requests).filter (·.recipient = recipient) ++
        (o.after requests).filter (·.recipient = recipient) =
      (o ++ requests.flatMap Request.accepted).filter (·.recipient = recipient) := by
  induction requests generalizing o with
  | nil =>
    rw [List.flatMap_nil, List.append_nil]
    rfl
  | cons r requests ih =>
    rw [picked, after_cons, List.filter_append, List.append_assoc, ih, List.filter_append,
      ← List.append_assoc, filter_serve, ← List.filter_append, List.flatMap_cons,
      List.append_assoc]

/-- What waits is in the order in which it was sent. -/
theorem after_sublist : (o.after requests).Sublist (o ++ requests.flatMap Request.accepted) := by
  induction requests generalizing o with
  | nil => exact List.sublist_append_left _ _
  | cons r requests ih =>
    rw [after_cons, List.flatMap_cons, ← List.append_assoc]
    exact (ih _).trans ((o.sublist_serve r).append_right _)

/-- **Nothing is lost and nothing comes twice.** -/
theorem picked_append_after_perm :
    (o.picked requests ++ o.after requests).Perm (o ++ requests.flatMap Request.accepted) := by
  refine List.perm_iff_count.mpr fun d => ?_
  -- a message is counted among those of its recipient
  have hcount : ∀ l : List Delivery,
      l.count d = (l.filter (·.recipient = d.recipient)).count d := fun l =>
    (List.count_filter (by simp)).symm
  rw [hcount, List.filter_append, filter_picked_append_after, ← hcount]

/-- **Outboxes lose nothing.** Whatever is sent by a widget channel and picked up from it, in any
order: what was picked up and what still waits is together what waited at first and what was sent
since, each message once; for each recipient, what was picked up comes first, in the order in which
it was sent; and what still waits is in that order too. To pick up what waits for a recipient gives
exactly that and leaves the rest as it lies, and to pick up all leaves nothing. A message is not
sent if its envelope cannot be shown or nobody is known to get it, and then the outbox is as before;
else it waits after all others. -/
theorem conserved :
    (o.picked requests ++ o.after requests).Perm (o ++ requests.flatMap Request.accepted) ∧
    (∀ recipient, (o.picked requests).filter (·.recipient = recipient) ++
        (o.after requests).filter (·.recipient = recipient) =
      (o ++ requests.flatMap Request.accepted).filter (·.recipient = recipient)) ∧
    (o.after requests).Sublist (o ++ requests.flatMap Request.accepted) ∧
    (∀ recipient, (o.after requests).serve (.drainFor recipient) =
      (.picked ((o.after requests).filter (·.recipient = recipient)),
        (o.after requests).filter (·.recipient ≠ recipient))) ∧
    (o.after requests).serve .drain = (.picked (o.after requests), []) ∧
    ∀ event envelope options mid,
      (∃ cause, (view envelope = .error cause ∨ recipient event = .error cause) ∧
        (Request.send event envelope options mid).accepted = [] ∧
        (o.after requests).serve (.send event envelope options mid) =
          (.sent (.error cause), o.after requests)) ∨
      ∃ shown whom d, view envelope = .ok shown ∧ recipient event = .ok whom ∧
        d = ⟨whom, options.typing,
          ⟨shown.type, shown.data, mid, botAuthor, options.assignTo.isSome⟩⟩ ∧
        (Request.send event envelope options mid).accepted = [d] ∧
        (o.after requests).serve (.send event envelope options mid) =
          (.sent (.ok mid), o.after requests ++ [d]) := by
  refine ⟨o.picked_append_after_perm requests, o.filter_picked_append_after requests,
    o.after_sublist requests, fun recipient => ?_, rfl, fun event envelope options mid => ?_⟩
  · rw [serve, drainFor_eq]
  · rw [serve, Request.accepted]
    obtain ⟨cause, hcause, h⟩ | ⟨shown, whom, hshown, hwhom, h⟩ :=
      delivery_error_or_ok event envelope options mid
    · rw [h]
      exact .inl ⟨cause, hcause, rfl, rfl⟩
    · rw [h]
      exact .inr ⟨shown, whom, _, hshown, hwhom, rfl, rfl, rfl⟩

/-- Two people are written to, and each picks up what is theirs. -/
example :
    let send (whom text mid : String) : Request :=
      .send ⟨.web, .message ⟨.text "hi", none, some whom⟩, none, none⟩ (.text text) .none mid
    (picked [] [send "ann" "One" "1", send "bob" "Two" "2", .drainFor "bob",
      send "ann" "Three" "3", send "bob" "Four" "4", .drainFor "ann", .drain]).map
        (·.message.mid) = ["2", "1", "3", "4"] := by decide +kernel

end Outbox

end Widget

/-- A bot sends by a widget channel through such a call. -/
theorem Bot.deliver_widget (bot : Bot) (event : Event) (sent : Sent) {w : World}
    {outbox : Widget.Outbox} (h : w.channels.find? sent.channel = some (.widget outbox)) :
    ∃ result outbox', outbox.serve (.send event sent.envelope sent.options w.nextMessageId) =
        (.sent result, outbox') ∧
      (bot.deliver event sent w).1 = result.mapError .channel ∧
      (bot.deliver event sent w).2.channels.find? sent.channel = some (.widget outbox') := by
  rw [deliver, Widget.Outbox.serve]
  simp only [h]
  obtain ⟨cause, -, hd⟩ | ⟨shown, whom, -, -, hd⟩ :=
    Widget.Outbox.delivery_error_or_ok event sent.envelope sent.options w.nextMessageId
  · simp only [hd]
    exact ⟨_, _, rfl, rfl, h⟩
  · simp only [hd]
    exact ⟨_, _, rfl, rfl, Dict.find?_insert_self ..⟩

end Chatflow

import Chatflow.Proofs.Store.Creation

/-!
# How subscribers grow

Whoever uses the subscriber store asks for subscribers by their ids on a channel and adds to those
there are (`SubscriberStore.Request`). Each request has the store for itself, so those of many users
come in one order. A request does to each record what it says of it (`Subscriber.heed`), and makes a
record if it asks for an id on a channel for the first time. So after any requests there is one
record for each id on a channel that was asked for, and it is what the later requests have made of
a fresh one: `SubscriberStore.requests_remembered`.

What they make of it is read off them (`Subscriber.grown`): the labels in the order in which they
were first given, the last value of each variable, and the last agent. From one point to another a
record only grows (`Subscriber.GrowsTo`).
-/

namespace Chatflow

open SubscriberStore (Request addLabels)

/-! ### What a request says of a subscriber -/

namespace Subscriber

/-- What a request makes of a subscriber. -/
def heed (r : Subscriber) : Request → Subscriber
  | .getOrCreate _ _ => r
  | .updateVars id vars => if r.id = id then { r with vars := r.vars.overlay vars } else r
  | .applyUpdates id labels agent =>
    if r.id = id then
      { r with labels := addLabels r.labels labels, assignedTo := agent <|> r.assignedTo }
    else r

end Subscriber

namespace SubscriberStore.Request

/-- The labels that a request gives to a subscriber. -/
def labelsFor (id : String) : Request → List String
  | applyUpdates id' labels _ => if id = id' then labels else []
  | _ => []

/-- The variables that a request writes of a subscriber. -/
def varsFor (id : String) : Request → List (String × Json)
  | updateVars id' vars => if id = id' then vars.entries else []
  | _ => []

/-- The agent that a request hands a subscriber over to. -/
def agentFor (id : String) : Request → List String
  | applyUpdates id' _ agent => if id = id' then agent.toList else []
  | _ => []

end SubscriberStore.Request

namespace Subscriber

/-- What requests have made of a subscriber who was fresh: it has every label given, each where it
was given first, the last value of every variable written, and the last agent. -/
def grown (r : Subscriber) (requests : List Request) : Subscriber :=
  { r with
    labels := (requests.flatMap (Request.labelsFor r.id)).eraseDups
    vars := .ofList (requests.flatMap (Request.varsFor r.id))
    assignedTo := (requests.flatMap (Request.agentFor r.id)).getLast? }

end Subscriber

/-! ### Labels -/

namespace SubscriberStore

theorem eraseDups_concat (labels : List String) (label : String) :
    (labels ++ [label]).eraseDups =
      if label ∈ labels then labels.eraseDups else labels.eraseDups ++ [label] := by
  rw [List.eraseDups_append]
  by_cases h : label ∈ labels <;> simp [List.removeAll, h, List.eraseDups_cons]

theorem addLabels_cons (labels : List String) (label : String) (added : List String) :
    addLabels labels (label :: added) =
      addLabels (if labels.contains label then labels else labels ++ [label]) added := rfl

/-- Labels are added in the order in which they come first. -/
theorem addLabels_eraseDups (labels added : List String) :
    addLabels labels.eraseDups added = (labels ++ added).eraseDups := by
  induction added generalizing labels with
  | nil => rw [List.append_nil]; rfl
  | cons label added ih =>
    have hstep : (if labels.eraseDups.contains label then labels.eraseDups
        else labels.eraseDups ++ [label]) = (labels ++ [label]).eraseDups := by
      simp [eraseDups_concat]
    rw [List.append_cons, ← ih, addLabels_cons, hstep]

theorem prefix_addLabels (labels added : List String) : labels <+: addLabels labels added := by
  induction added generalizing labels with
  | nil => exact List.prefix_rfl
  | cons label added ih =>
    rw [addLabels_cons]
    refine List.IsPrefix.trans ?_ (ih _)
    split
    · exact List.prefix_rfl
    · exact List.prefix_append _ _

theorem nodup_addLabels {labels : List String} (h : labels.Nodup) (added : List String) :
    (addLabels labels added).Nodup := by
  induction added generalizing labels with
  | nil => exact h
  | cons label added ih =>
    rw [addLabels_cons]
    refine ih ?_
    split
    · exact h
    · rename_i hnew
      exact List.nodup_append_comm.mp (List.nodup_cons.mpr ⟨by simpa using hnew, h⟩)

theorem nodup_eraseDups (labels : List String) : labels.eraseDups.Nodup := by
  have h := nodup_addLabels List.nodup_nil labels
  have heq := addLabels_eraseDups [] labels
  rw [List.nil_append] at heq
  rwa [← heq]

end SubscriberStore

/-! ### One subscriber -/

namespace Subscriber

open SubscriberStore (addLabels_eraseDups prefix_addLabels)

variable {r r' r'' : Subscriber}

/-- One more request is heeded by what the ones before have made. -/
theorem grown_concat (r : Subscriber) (requests : List Request) (q : Request) :
    r.grown (requests ++ [q]) = (r.grown requests).heed q := by
  have hid : (r.grown requests).id = r.id := rfl
  simp only [grown, List.flatMap_append, List.flatMap_singleton]
  cases q with
  | getOrCreate channel foreignId =>
    simp only [Request.labelsFor, Request.varsFor, Request.agentFor, List.append_nil]
    rfl
  | updateVars id vars =>
    simp only [Request.labelsFor, Request.varsFor, Request.agentFor, List.append_nil, heed]
    split
    · rw [Dict.ofList, Dict.insertAll, List.foldl_append]
      rfl
    · rw [List.append_nil]
  | applyUpdates id labels agent =>
    simp only [Request.labelsFor, Request.varsFor, Request.agentFor, List.append_nil, heed]
    split
    · rw [← addLabels_eraseDups, List.getLast?_append]
      cases agent <;> rfl
    · rw [List.append_nil, List.append_nil]

/-- What requests make of a fresh subscriber is read off them. -/
theorem foldl_heed_fresh (id foreignId channel : String) (requests : List Request) :
    requests.foldl heed (fresh id foreignId channel) =
      (fresh id foreignId channel).grown requests := by
  induction requests using List.reverseRecOn with
  | nil => rfl
  | append_singleton requests q ih => rw [List.foldl_concat, ih, grown_concat]

/-- A subscriber has become another one: it has more labels and variables, perhaps another agent,
and else is the same. -/
structure GrowsTo (r r' : Subscriber) : Prop where
  /-- Nothing else has changed. -/
  same : r' = { r with labels := r'.labels, assignedTo := r'.assignedTo, vars := r'.vars }
  /-- Labels are added behind the others. -/
  labels : r.labels <+: r'.labels
  /-- No variable is lost. -/
  vars : ∀ key, (r.vars.find? key).isSome = true → (r'.vars.find? key).isSome = true

theorem GrowsTo.refl (r : Subscriber) : r.GrowsTo r := ⟨rfl, List.prefix_rfl, fun _ h => h⟩

theorem GrowsTo.trans (h : r.GrowsTo r') (h' : r'.GrowsTo r'') : r.GrowsTo r'' where
  same := by
    rw [h'.same, h.same]
  labels := h.labels.trans h'.labels
  vars key hkey := h'.vars key (h.vars key hkey)

theorem growsTo_heed (r : Subscriber) (q : Request) : r.GrowsTo (r.heed q) := by
  cases q with
  | getOrCreate channel foreignId => exact .refl r
  | updateVars id vars =>
    rw [heed]
    split
    · refine ⟨rfl, List.prefix_rfl, fun key hkey => ?_⟩
      simp only [Dict.find?_overlay, Option.isSome_or, hkey, Bool.or_true]
    · exact .refl r
  | applyUpdates id labels agent =>
    rw [heed]
    split
    · exact ⟨rfl, prefix_addLabels _ _, fun _ h => h⟩
    · exact .refl r

theorem growsTo_foldl_heed (r : Subscriber) (requests : List Request) :
    r.GrowsTo (requests.foldl heed r) := by
  induction requests generalizing r with
  | nil => exact .refl r
  | cons q requests ih => exact (r.growsTo_heed q).trans (ih _)

theorem GrowsTo.isKnownAs (h : r.GrowsTo r') {channel foreignId : String} :
    r'.IsKnownAs channel foreignId ↔ r.IsKnownAs channel foreignId := by
  rw [IsKnownAs, h.same]
  rfl

end Subscriber

/-! ### One request -/

namespace SubscriberStore

variable {s : SubscriberStore} {r r' : Subscriber} {id channel foreignId : String}

/-- A request does to each record what it says of it. -/
theorem find?_modify (h : s.Keyed) (id : String) (change : Subscriber → Subscriber)
    (id' : String) : ((s.modify id change).toOption.elim s (·.2)).find? id' =
      (s.find? id').map fun r => if r.id = id then change r else r := by
  rw [modify]
  cases hr : s.find? id with
  | none =>
    change s.find? id' = _
    cases hr' : s.find? id' with
    | none => rfl
    | some r' =>
      have hne : r'.id ≠ id := by
        rintro rfl
        rw [h id' r' hr'] at hr
        cases hr.symm.trans hr'
      rw [Option.map_some, if_neg hne]
  | some r =>
    change (s.records.insert id (change r)).find? id' = _
    rw [Dict.find?_insert]
    split
    · rename_i hid
      rw [hid, hr, Option.map_some, if_pos (h id r hr)]
    · rename_i hne
      change s.find? id' = _
      cases hr' : s.find? id' with
      | none => rfl
      | some r' => rw [Option.map_some, if_neg (h id' r' hr' ▸ hne)]

/-- The records of a store that nothing was inserted in. -/
def Counted (s : SubscriberStore) : Prop := Filed Subscriber.id idAfter [] s.created s.records

namespace Counted

theorem keyed (h : s.Counted) : s.Keyed := fun _ _ hr => h.id_eq hr

theorem id_ne (h : s.Counted) (hr : s.find? id = some r) : id ≠ idAfter s.created := by
  rintro rfl
  obtain hmem | ⟨n, hn, hid⟩ := h.origin hr
  · exact List.not_mem_nil hmem
  · have := idAfter_injective hid
    omega

/-- A request does to each record what it says of it. -/
theorem find?_serve (h : s.Counted) (hr : s.find? id = some r) (q : Request) :
    (q.serve s).find? id = some (r.heed q) := by
  cases q with
  | getOrCreate channel foreignId =>
    rw [Request.serve, getOrCreate]
    cases s.findForeign? channel foreignId with
    | none => exact (Dict.find?_insert ..).trans ((if_neg (h.id_ne hr)).trans hr)
    | some _ => exact hr
  | updateVars id' vars =>
    refine (find?_modify h.keyed id' _ id).trans ?_
    rw [hr]
    rfl
  | applyUpdates id' labels agent =>
    refine (find?_modify h.keyed id' _ id).trans ?_
    rw [hr]
    rfl

/-- **A record is what a request has made of one that was there, or it was created for an id on a
channel that nobody had.** -/
theorem of_find?_serve (h : s.Counted) {q : Request} (hr' : (q.serve s).find? id = some r') :
    (∃ r, s.find? id = some r ∧ r' = r.heed q) ∨
      ∃ channel foreignId, q = .getOrCreate channel foreignId ∧ s.Lacks channel foreignId ∧
        r' = .fresh id foreignId channel := by
  cases hr : s.find? id with
  | some r =>
    rw [h.find?_serve hr q] at hr'
    exact .inl ⟨r, rfl, (Option.some.inj hr').symm⟩
  | none =>
    -- a record that was not there before was created
    refine .inr ?_
    cases q with
    | getOrCreate channel foreignId =>
      rw [Request.serve, getOrCreate] at hr'
      cases hf : s.findForeign? channel foreignId with
      | some r =>
        rw [hf] at hr'
        cases hr.symm.trans hr'
      | none =>
        rw [hf, find?, Dict.find?_insert] at hr'
        split at hr'
        · rename_i hid
          refine ⟨channel, foreignId, rfl, lacks_of_findForeign? hf, ?_⟩
          rw [← Option.some.inj hr', hid]
          rfl
        · cases hr.symm.trans hr'
    | updateVars id' vars =>
      have hnone := (find?_modify h.keyed id' _ id).symm.trans hr'
      rw [hr] at hnone
      cases hnone
    | applyUpdates id' labels agent =>
      have hnone := (find?_modify h.keyed id' _ id).symm.trans hr'
      rw [hr] at hnone
      cases hnone

theorem serve (h : s.Counted) (q : Request) : (q.serve s).Counted := filed_request h q

end Counted

/-- No request makes a second record for an id on a channel. -/
theorem Distinct.serve (h : s.Distinct) (hcounted : s.Counted) (q : Request) :
    (q.serve s).Distinct := by
  have hmodify : ∀ (id : String) (change : Subscriber → Subscriber),
      (∀ x, (change x).IsKnownAs x.channel x.foreignId) →
      ((s.modify id change).toOption.elim s (·.2)).Distinct := by
    intro id change hchange
    cases hm : s.modify id change with
    | error cause => exact h
    | ok r => exact h.modify hm hchange
  cases q with
  | getOrCreate channel foreignId =>
    exact h.of_meets (meets_getOrCreate hcounted.keyed h channel foreignId)
  | updateVars id vars => exact hmodify id _ fun _ => ⟨rfl, rfl⟩
  | applyUpdates id labels agent => exact hmodify id _ fun _ => ⟨rfl, rfl⟩

/-! ### Any requests -/

/-- The store after some requests. -/
def served (requests : List Request) : SubscriberStore := requests.foldl Request.serve .empty

theorem served_concat (requests : List Request) (q : Request) :
    served (requests ++ [q]) = q.serve (served requests) := List.foldl_concat ..

theorem counted_served (requests : List Request) : (served requests).Counted := by
  induction requests using List.reverseRecOn with
  | nil => exact Filed.empty
  | append_singleton requests q ih =>
    rw [served_concat]
    exact ih.serve q

theorem distinct_served (requests : List Request) : (served requests).Distinct := by
  induction requests using List.reverseRecOn with
  | nil => exact .empty
  | append_singleton requests q ih =>
    rw [served_concat]
    exact ih.serve (counted_served requests) q

/-- A record stays, and further requests are heeded. -/
theorem find?_served_append {requests : List Request} (hr : (served requests).find? id = some r)
    (more : List Request) :
    (served (requests ++ more)).find? id = some (more.foldl Subscriber.heed r) := by
  induction more using List.reverseRecOn with
  | nil => rwa [List.append_nil]
  | append_singleton more q ih =>
    rw [← List.append_assoc, served_concat, List.foldl_concat]
    exact (counted_served _).find?_serve ih q

/-- The subscriber who was met once is the only one with its id on its channel ever after. -/
theorem sole_served_append {requests : List Request} {channel foreignId : String}
    (h : (served requests).Sole channel foreignId r) (more : List Request) :
    (served (requests ++ more)).Sole channel foreignId (more.foldl Subscriber.heed r) := by
  have hgrows := r.growsTo_foldl_heed more
  have hid : (more.foldl Subscriber.heed r).id = r.id := by rw [hgrows.same]
  have hfound := find?_served_append h.found more
  have hknown := hgrows.isKnownAs.mpr h.known
  refine ⟨hid.symm ▸ hfound, hknown, fun id r' hr' hknown' => ?_⟩
  obtain ⟨rfl, rfl⟩ := hknown
  obtain rfl := distinct_served _ _ _ _ _ hfound hr' hknown'
  exact Option.some.inj (hr'.symm.trans hfound)

/-- Who is asked for is met, and is then the only one with its id on its channel. -/
theorem sole_of_asked (before later : List Request) (channel foreignId : String) :
    ∃ r, ((served before).getOrCreate channel foreignId).1.id = r.id ∧
      (served (before ++ .getOrCreate channel foreignId :: later)).Sole channel foreignId r := by
  have hmeets := meets_getOrCreate (counted_served before).keyed (distinct_served before)
    channel foreignId
  have hsole := hmeets.sole
  have hserved : ((served before).getOrCreate channel foreignId).2 =
      served (before ++ [.getOrCreate channel foreignId]) := by
    rw [served_concat]
    rfl
  rw [hserved] at hsole
  refine ⟨_, ?_, List.append_cons before _ later ▸ sole_served_append hsole later⟩
  rw [(Subscriber.growsTo_foldl_heed _ later).same]

/-- Each record was created for an id on a channel when this was asked for first, and is what the
later requests have made of it. -/
theorem history_of_find? {requests : List Request} (hr : (served requests).find? id = some r) :
    ∃ before later, requests = before ++ .getOrCreate r.channel r.foreignId :: later ∧
      .getOrCreate r.channel r.foreignId ∉ before ∧
      r = later.foldl Subscriber.heed (.fresh id r.foreignId r.channel) := by
  induction requests using List.reverseRecOn generalizing r with
  | nil => cases hr
  | append_singleton requests q ih =>
    rw [served_concat] at hr
    rcases (counted_served requests).of_find?_serve hr with
      ⟨old, hold, rfl⟩ | ⟨channel, foreignId, rfl, hlacks, rfl⟩
    · obtain ⟨before, later, hrequests, hfirst, hold⟩ := ih hold
      obtain ⟨hchannel, hforeign⟩ :=
        (old.growsTo_heed q).isKnownAs.mpr (⟨rfl, rfl⟩ : old.IsKnownAs old.channel old.foreignId)
      rw [hchannel, hforeign]
      refine ⟨before, later ++ [q], ?_, hfirst, ?_⟩
      · rw [hrequests, List.append_assoc, List.cons_append]
      · rw [List.foldl_concat, ← hold]
    · refine ⟨requests, [], rfl, fun hmem => ?_, rfl⟩
      obtain ⟨before, later, rfl⟩ := List.append_of_mem hmem
      obtain ⟨r, -, hsole⟩ := sole_of_asked before later channel foreignId
      exact hlacks _ r hsole.found hsole.known

/-- A store remembers requests: it has one subscriber for each id on a channel that was asked for,
and each is what it was asked to be. -/
structure Remembers (requests : List Request) (s : SubscriberStore) : Prop where
  /-- Each record lies under its id, so no two have the same. -/
  id_eq : ∀ id r, s.find? id = some r → r.id = id
  /-- One subscriber has an id on a channel if it was asked for. -/
  asked_iff : ∀ channel foreignId,
    .getOrCreate channel foreignId ∈ requests ↔ ∃ r, s.Sole channel foreignId r
  /-- Whenever it was asked for, it was this one. -/
  answered : ∀ before later channel foreignId,
    requests = before ++ .getOrCreate channel foreignId :: later → ∃ r,
      s.Sole channel foreignId r ∧ ((served before).getOrCreate channel foreignId).1.id = r.id
  /-- Each subscriber was asked for, and has what it was given from then on. -/
  history : ∀ id r, s.find? id = some r → ∃ before later,
    requests = before ++ .getOrCreate r.channel r.foreignId :: later ∧
    .getOrCreate r.channel r.foreignId ∉ before ∧
    r = (Subscriber.fresh id r.foreignId r.channel).grown later ∧ r.labels.Nodup

theorem remembers_served (requests : List Request) : (served requests).Remembers requests where
  id_eq := (counted_served requests).keyed
  asked_iff channel foreignId := by
    constructor
    · intro hmem
      obtain ⟨before, later, rfl⟩ := List.append_of_mem hmem
      obtain ⟨r, -, hsole⟩ := sole_of_asked before later channel foreignId
      exact ⟨r, hsole⟩
    · rintro ⟨r, hsole⟩
      obtain ⟨before, later, hrequests, -⟩ := history_of_find? hsole.found
      obtain ⟨rfl, rfl⟩ := hsole.known
      rw [hrequests]
      exact List.mem_append_right _ List.mem_cons_self
  answered before later channel foreignId hrequests := by
    obtain ⟨r, hid, hsole⟩ := sole_of_asked before later channel foreignId
    exact ⟨r, hrequests ▸ hsole, hid⟩
  history id r hr := by
    obtain ⟨before, later, hrequests, hfirst, hr⟩ := history_of_find? hr
    have hgrown : r = (Subscriber.fresh id r.foreignId r.channel).grown later :=
      hr.trans (Subscriber.foldl_heed_fresh ..)
    refine ⟨before, later, hrequests, hfirst, hgrown, ?_⟩
    rw [hgrown]
    exact nodup_eraseDups _

/-- A change of nobody on record fails. -/
theorem modify_of_find? (h : s.find? id = none) (change : Subscriber → Subscriber) :
    s.modify id change = .error (.notFound "subscriber" id) := by
  rw [modify, h]

/-- **A store remembers all requests, and its subscribers only grow.** A change of an unknown one
fails and changes nothing. -/
theorem requests_remembered (requests : List Request) :
    (served requests).Remembers requests ∧
    (∀ more id r, (served requests).find? id = some r →
      ∃ r', (served (requests ++ more)).find? id = some r' ∧ r.GrowsTo r') ∧
    ∀ id, (served requests).find? id = none →
      (∀ vars, (served requests).updateVars id vars = .error (.notFound "subscriber" id) ∧
        served (requests ++ [.updateVars id vars]) = served requests) ∧
      ∀ labels agent,
        (served requests).applyUpdates id labels agent = .error (.notFound "subscriber" id) ∧
        served (requests ++ [.applyUpdates id labels agent]) = served requests := by
  refine ⟨remembers_served requests, fun more id r hr => ?_, fun id hnone => ⟨?_, ?_⟩⟩
  · exact ⟨_, find?_served_append hr more, r.growsTo_foldl_heed more⟩
  · intro vars
    have hfails : (served requests).updateVars id vars = .error (.notFound "subscriber" id) :=
      modify_of_find? hnone _
    refine ⟨hfails, ?_⟩
    rw [served_concat, Request.serve, hfails]
    rfl
  · intro labels agent
    have hfails : (served requests).applyUpdates id labels agent =
        .error (.notFound "subscriber" id) := modify_of_find? hnone _
    refine ⟨hfails, ?_⟩
    rw [served_concat, Request.serve, hfails]
    rfl

end SubscriberStore

namespace Sample

/-- Ann is given labels twice and then asked for again. -/
def labelled : List Request := [.getOrCreate "web-channel" "ann",
  .applyUpdates "sub-1" ["new", "vip"] (some "Eve"), .applyUpdates "sub-1" ["vip", "paid"] none,
  .getOrCreate "web-channel" "ann"]

end Sample

namespace SubscriberStore

/-- Ann is the same one when she is asked for again, and has the three labels from then on. -/
theorem requests_remembered_ann :
    (∃ r, (served Sample.labelled).Sole "web-channel" "ann" r ∧
      r.labels = ["new", "vip", "paid"] ∧ r.assignedTo = some "Eve") ∧
    (∀ more, ∃ r', (served (Sample.labelled ++ more)).find? "sub-1" = some r' ∧
      ["new", "vip", "paid"] <+: r'.labels) ∧
    (served Sample.labelled).updateVars "sub-2" .empty =
      .error (.notFound "subscriber" "sub-2") := by
  obtain ⟨hremembers, hgrows, hunknown⟩ := requests_remembered Sample.labelled
  have hann : (served Sample.labelled).find? "sub-1" =
      some { Subscriber.fresh "sub-1" "ann" "web-channel" with
        labels := ["new", "vip", "paid"], assignedTo := some "Eve" } := by decide
  obtain ⟨r, hsole, hid⟩ := hremembers.answered [] _ "web-channel" "ann" rfl
  refine ⟨?_, fun more => ?_, (hunknown "sub-2" (by decide)).1 .empty |>.1⟩
  · have hr := hsole.found
    rw [← hid] at hr
    obtain rfl := Option.some.inj (hr.symm.trans hann)
    exact ⟨_, hsole, rfl, rfl⟩
  · obtain ⟨r', hr', hgrown⟩ := hgrows more "sub-1" _ hann
    exact ⟨r', hr', hgrown.labels⟩

end SubscriberStore

end Chatflow

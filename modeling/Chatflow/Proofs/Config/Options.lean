import Chatflow.Config.Schema
import Chatflow.Proofs.Config.Layer

/-!
# The options of a configuration

An option stands at a key path, is read in a way of its own, and has its place in a configuration
(`Config.HasOption`). A configuration that was gathered from layers has for an option what is read
of the value at its path: `Config.option_of_at?`. It is put together from one lemma for each
section, as the options are from those of the sections.

The contact data and the filters are maps, in which every key is an option too. What is found in a
map that was read is what is read of the fields (`Decode.dict_eq_some_iff`), provided that no key
occurs twice.
-/

namespace Chatflow

/-! ### Maps and fields -/

namespace Decode

variable {α : Type} {item : Decoder α}

/-- The entries of a map are read one by one. -/
theorem mapM_entries {fields : List (String × Json)} {entries : List (String × α)}
    (h : fields.mapM (fun e => (item e.2).map (e.1, ·)) = some entries) :
    entries.map (·.1) = fields.map (·.1) ∧
      ∀ k, (Dict.findEntry k fields).map item = (Dict.findEntry k entries).map some := by
  induction fields generalizing entries with
  | nil =>
    obtain rfl := Option.some.inj h
    exact ⟨rfl, fun _ => rfl⟩
  | cons e fields ih =>
    rw [List.mapM_cons] at h
    obtain ⟨x, hx, h⟩ := Option.bind_eq_some_iff.mp h
    obtain ⟨rest, hrest, h⟩ := Option.bind_eq_some_iff.mp h
    obtain rfl := Option.some.inj h
    obtain ⟨a, ha, rfl⟩ := Option.map_eq_some_iff.mp hx
    obtain ⟨hkeys, hfind⟩ := ih hrest
    refine ⟨congrArg (e.1 :: ·) hkeys, fun k => ?_⟩
    rw [Dict.findEntry, Dict.findEntry]
    split
    · exact congrArg some ha
    · exact hfind k

/-- Entries that can all be read are read together. -/
theorem exists_mapM_entries {fields : List (String × Json)}
    (h : ∀ e ∈ fields, (item e.2).isSome = true) :
    ∃ entries, fields.mapM (fun e => (item e.2).map (e.1, ·)) = some entries := by
  induction fields with
  | nil => exact ⟨[], rfl⟩
  | cons e fields ih =>
    obtain ⟨entries, hentries⟩ := ih fun e' he' => h e' (List.mem_cons_of_mem _ he')
    obtain ⟨a, ha⟩ := Option.isSome_iff_exists.mp (h e List.mem_cons_self)
    refine ⟨(e.1, a) :: entries, ?_⟩
    rw [List.mapM_cons, ha, hentries]
    rfl

/-- **What is found in a map is what is read of its fields.** -/
theorem dict_eq_some_iff {fields : List (String × Json)} (hnodup : (fields.map (·.1)).Nodup)
    {d : Dict α} : dict item (.obj fields) = some d ↔
      ∀ k, (Dict.findEntry k fields).map item = (d.find? k).map some := by
  have hfound : ∀ {entries : List (String × α)},
      fields.mapM (fun e => (item e.2).map (e.1, ·)) = some entries →
      ∀ k, (Dict.findEntry k fields).map item = ((Dict.ofList entries).find? k).map some := by
    intro entries h k
    obtain ⟨hkeys, hfind⟩ := mapM_entries h
    rw [Dict.find?_ofList, Dict.findEntry_reverse (hkeys ▸ hnodup)]
    exact hfind k
  rw [dict, Option.map_eq_some_iff]
  constructor
  · rintro ⟨entries, h, rfl⟩
    exact hfound h
  · intro h
    obtain ⟨entries, hentries⟩ : ∃ entries, fields.mapM (fun e => (item e.2).map (e.1, ·)) =
        some entries := by
      refine exists_mapM_entries fun e he => ?_
      have hread := h e.1
      rw [Dict.findEntry_of_nodup hnodup he, Option.map_some] at hread
      obtain ⟨a, -, ha⟩ := Option.map_eq_some_iff.mp hread.symm
      rw [← ha]
      rfl
    refine ⟨entries, hentries, Dict.ext_find? fun k => ?_⟩
    exact Option.map_injective (Option.some_injective α) ((hfound hentries k).symm.trans (h k))

/-- A map that was read has for each key what is read of its field. -/
theorem map_get?_of_dict {v : Json} {d : Dict α} (h : dict item v = some d) (hordered : v.IsOrdered)
    (key : String) : (v.get? key).map item = (d.find? key).map some := by
  cases v with
  | obj fields => exact (dict_eq_some_iff (Dict.nodup_map_fst hordered.sorted_fields)).mp h key
  | _ => cases h

theorem find?_of_dict {v w : Json} {d : Dict α} {key : String} (h : dict item v = some d)
    (hordered : v.IsOrdered) (hw : v.get? key = some w) :
    ∃ a, item w = some a ∧ d.find? key = some a := by
  have hread := map_get?_of_dict h hordered key
  rw [hw, Option.map_some] at hread
  obtain ⟨a, ha, hitem⟩ := Option.map_eq_some_iff.mp hread.symm
  exact ⟨a, hitem.symm, ha⟩

end Decode

/-- A field that an object has is what is read. -/
theorem Record.item_of_read {α : Type} {reading : Reading} {names : List String} {v w : Json}
    {r : Record} {name : String} {item : Decoder α} {default a : α}
    (hr : Record.read reading names v = some r) (hw : v.get? name = some w)
    (ha : r.withDefault name item default = some a) : item w = some a := by
  cases v with
  | obj fields =>
    have hread : Record.read reading names (.obj fields) = some ⟨fields, false⟩ := by
      cases reading <;> rfl
    obtain rfl := Option.some.inj (hr.symm.trans hread)
    have hfind : (⟨fields, false⟩ : Record).find? name = some w := hw
    rwa [withDefault, hfind] at ha
  | _ => cases hw

theorem Record.item_of_at? {α : Type} {reading : Reading} {names : List String} {v w : Json}
    {r : Record} {name : String} {item : Decoder α} {default a : α}
    (hr : Record.read reading names v = some r) (hw : v.at? [name] = some w)
    (ha : r.withDefault name item default = some a) : item w = some a :=
  item_of_read hr (v.at?_singleton name ▸ hw) ha

/-! ### Sections -/

variable {v w : Json} {α : Type} {path : List String} {item : Decoder α}

namespace Logging

/-- The options on the moments of a span. -/
inductive SpanEvents.HasOption :
    {α : Type} → List String → Decoder α → (SpanEvents → Option α) → Prop
  | new : HasOption ["new"] Decode.bool (some ·.new)
  | enter : HasOption ["enter"] Decode.bool (some ·.enter)
  | exit : HasOption ["exit"] Decode.bool (some ·.exit)
  | close : HasOption ["close"] Decode.bool (some ·.close)

theorem SpanEvents.option_of_at? {o : SpanEvents} {get : SpanEvents → Option α}
    (h : read .lax v = some o) (ho : HasOption path item get) (hw : v.at? path = some w) :
    ∃ a, item w = some a ∧ get o = some a := by
  simp only [read, bind, pure, Option.bind_eq_some_iff] at h
  obtain ⟨r, hr, new, hnew, enter, henter, exit, hexit, close, hclose, h⟩ := h
  obtain rfl := Option.some.inj h
  cases ho with
  | new => exact ⟨new, Record.item_of_at? hr hw hnew, rfl⟩
  | enter => exact ⟨enter, Record.item_of_at? hr hw henter, rfl⟩
  | exit => exact ⟨exit, Record.item_of_at? hr hw hexit, rfl⟩
  | close => exact ⟨close, Record.item_of_at? hr hw hclose, rfl⟩

/-- The options on logging. The filters are one, and so is each target with a level of its own. -/
inductive Options.HasOption :
    {α : Type} → List String → Decoder α → (Options → Option α) → Prop
  | level : HasOption ["level"] (Level.read .lax) (some ·.level)
  | format : HasOption ["format"] (Format.read .lax) (some ·.format)
  | output : HasOption ["output"] (Output.read .lax) (some ·.output)
  | filePath : HasOption ["file_path"] (Decode.nullable Decode.text) (some ·.filePath)
  | rotation : HasOption ["rotation"] (Rotation.read .lax) (some ·.rotation)
  | maxFiles : HasOption ["max_files"] Decode.uint64 (some ·.maxFiles)
  | threadIds : HasOption ["thread_ids"] Decode.bool (some ·.threadIds)
  | fileLocation : HasOption ["file_location"] Decode.bool (some ·.fileLocation)
  | filters : HasOption ["filters"] (Decode.dict (Level.read .lax)) (some ·.filters)
  | filter (target : String) :
    HasOption ["filters", target] (Level.read .lax) (·.filters.find? target)
  | spanEvents {α : Type} {path : List String} {item : Decoder α} {get : SpanEvents → Option α}
    (h : SpanEvents.HasOption path item get) :
    HasOption ("span_events" :: path) item (get ·.spanEvents)

theorem Options.option_of_at? {o : Options} {get : Options → Option α}
    (h : read .lax v = some o) (hv : v.IsOrdered) (ho : HasOption path item get)
    (hw : v.at? path = some w) : ∃ a, item w = some a ∧ get o = some a := by
  simp only [read, bind, pure, Option.bind_eq_some_iff] at h
  obtain ⟨r, hr, level, hlevel, format, hformat, output, houtput, filePath, hfilePath, rotation,
    hrotation, maxFiles, hmaxFiles, threadIds, hthreadIds, fileLocation, hfileLocation, filters,
    hfilters, spanEvents, hspanEvents, h⟩ := h
  obtain rfl := Option.some.inj h
  cases ho with
  | level => exact ⟨level, Record.item_of_at? hr hw hlevel, rfl⟩
  | format => exact ⟨format, Record.item_of_at? hr hw hformat, rfl⟩
  | output => exact ⟨output, Record.item_of_at? hr hw houtput, rfl⟩
  | filePath => exact ⟨filePath, Record.item_of_at? hr hw hfilePath, rfl⟩
  | rotation => exact ⟨rotation, Record.item_of_at? hr hw hrotation, rfl⟩
  | maxFiles => exact ⟨maxFiles, Record.item_of_at? hr hw hmaxFiles, rfl⟩
  | threadIds => exact ⟨threadIds, Record.item_of_at? hr hw hthreadIds, rfl⟩
  | fileLocation => exact ⟨fileLocation, Record.item_of_at? hr hw hfileLocation, rfl⟩
  | filters => exact ⟨filters, Record.item_of_at? hr hw hfilters, rfl⟩
  | filter target =>
    obtain ⟨u, hu, hw⟩ := Option.bind_eq_some_iff.mp hw
    have hdict := Record.item_of_read hr hu hfilters
    exact Decode.find?_of_dict hdict (hv.get? hu) (Json.at?_singleton u _ ▸ hw)
  | spanEvents ho =>
    obtain ⟨u, hu, hw⟩ := Option.bind_eq_some_iff.mp hw
    exact SpanEvents.option_of_at? (Record.item_of_read hr hu hspanEvents) ho hw

end Logging

/-- The options on how the bot answers. The contact data are one, and so is each item of them. -/
inductive Settings.HasOption :
    {α : Type} → List String → Decoder α → (Settings → Option α) → Prop
  | globalFallback : HasOption ["global_fallback"] Decode.bool (some ·.globalFallback)
  | fallbackBlock :
    HasOption ["fallback_block"] (Decode.nullable Decode.text) (some ·.fallbackBlock)
  | fallbackMessages :
    HasOption ["fallback_message"] (Decode.list Decode.text) (some ·.fallbackMessages)
  | languages : HasOption ["languages"] (Decode.list Decode.text) (some ·.languages)
  | contact : HasOption ["contact"] (Decode.dict Decode.text) (some ·.contact)
  | contactItem (name : String) : HasOption ["contact", name] Decode.text (·.contact.find? name)

theorem Settings.option_of_at? {o : Settings} {get : Settings → Option α}
    (h : readSection .lax v = some o) (hv : v.IsOrdered) (ho : HasOption path item get)
    (hw : v.at? path = some w) : ∃ a, item w = some a ∧ get o = some a := by
  simp only [readSection, bind, pure, Option.bind_eq_some_iff] at h
  obtain ⟨r, hr, globalFallback, hglobal, fallbackBlock, hblock, fallbackMessages, hmessages,
    languages, hlanguages, contact, hcontact, h⟩ := h
  obtain rfl := Option.some.inj h
  cases ho with
  | globalFallback => exact ⟨globalFallback, Record.item_of_at? hr hw hglobal, rfl⟩
  | fallbackBlock => exact ⟨fallbackBlock, Record.item_of_at? hr hw hblock, rfl⟩
  | fallbackMessages => exact ⟨fallbackMessages, Record.item_of_at? hr hw hmessages, rfl⟩
  | languages => exact ⟨languages, Record.item_of_at? hr hw hlanguages, rfl⟩
  | contact => exact ⟨contact, Record.item_of_at? hr hw hcontact, rfl⟩
  | contactItem name =>
    obtain ⟨u, hu, hw⟩ := Option.bind_eq_some_iff.mp hw
    have hdict := Record.item_of_read hr hu hcontact
    exact Decode.find?_of_dict hdict (hv.get? hu) (Json.at?_singleton u _ ▸ hw)

/-- The options on language understanding. -/
inductive NlpOptions.HasOption :
    {α : Type} → List String → Decoder α → (NlpOptions → Option α) → Prop
  | enabled : HasOption ["enabled"] Decode.bool (some ·.enabled)
  | threshold : HasOption ["confidence_threshold"] Decode.float (some ·.threshold)

theorem NlpOptions.option_of_at? {o : NlpOptions} {get : NlpOptions → Option α}
    (h : read .lax v = some o) (ho : HasOption path item get) (hw : v.at? path = some w) :
    ∃ a, item w = some a ∧ get o = some a := by
  simp only [read, bind, pure, Option.bind_eq_some_iff] at h
  obtain ⟨r, hr, enabled, henabled, threshold, hthreshold, h⟩ := h
  obtain rfl := Option.some.inj h
  cases ho with
  | enabled => exact ⟨enabled, Record.item_of_at? hr hw henabled, rfl⟩
  | threshold => exact ⟨threshold, Record.item_of_at? hr hw hthreshold, rfl⟩

namespace Config

/-- An option of a configuration: the key path where it stands, how its value is read, and what a
configuration has for it. -/
inductive HasOption : {α : Type} → List String → Decoder α → (Config → Option α) → Prop
  | logging {α : Type} {path : List String} {item : Decoder α} {get : Logging.Options → Option α}
    (h : Logging.Options.HasOption path item get) :
    HasOption ("logging" :: path) item (get ·.logging)
  | chatbot {α : Type} {path : List String} {item : Decoder α} {get : Settings → Option α}
    (h : Settings.HasOption path item get) : HasOption ("chatbot" :: path) item (get ·.chatbot)
  | nlu {α : Type} {path : List String} {item : Decoder α} {get : NlpOptions → Option α}
    (h : NlpOptions.HasOption path item get) : HasOption ("nlu" :: path) item (get ·.nlu)
  | telemetry : HasOption ["telemetry", "enabled"] Decode.bool (some ·.telemetry)

/-- **A configuration has for an option what is read of the value at its path.** -/
theorem option_of_at? {c : Config} {get : Config → Option α} (h : ofLayers? v = some c)
    (hv : v.IsOrdered) (ho : HasOption path item get) (hw : v.at? path = some w) :
    ∃ a, item w = some a ∧ get c = some a := by
  simp only [ofLayers?, read, bind, pure, Option.bind_eq_some_iff] at h
  obtain ⟨r, hr, logging, hlogging, chatbot, hchatbot, nlu, hnlu, telemetry, htelemetry, h⟩ := h
  obtain rfl := Option.some.inj h
  cases ho with
  | logging ho =>
    obtain ⟨u, hu, hw⟩ := Option.bind_eq_some_iff.mp hw
    exact Logging.Options.option_of_at? (Record.item_of_read hr hu hlogging) (hv.get? hu) ho hw
  | chatbot ho =>
    obtain ⟨u, hu, hw⟩ := Option.bind_eq_some_iff.mp hw
    exact Settings.option_of_at? (Record.item_of_read hr hu hchatbot) (hv.get? hu) ho hw
  | nlu ho =>
    obtain ⟨u, hu, hw⟩ := Option.bind_eq_some_iff.mp hw
    exact NlpOptions.option_of_at? (Record.item_of_read hr hu hnlu) ho hw
  | telemetry =>
    obtain ⟨u, hu, hw⟩ := Option.bind_eq_some_iff.mp hw
    obtain ⟨r', hr', h⟩ := Option.bind_eq_some_iff.mp (Record.item_of_read hr hu htelemetry)
    exact ⟨telemetry, Record.item_of_at? hr' hw h, rfl⟩

end Config

end Chatflow

import Chatflow.Proofs.Config.Precedence
import Chatflow.Proofs.Json.Records

/-!
# A whole configuration laid over the rest

A configuration that is laid over what was found gives every option, so each option is its own. The
contact data and the filters are maps, though, and a map is laid over a map key by key: what the
layers below say under a key that the configuration does not have stays (`Config.Covers`). Nothing
else does: `Loader.load_whole`.

Each section is read of its written form laid over any value (`Record.withDefault_merge`). Only for
a map it matters which value that is: `Decode.dict_merge`.
-/

namespace Chatflow

open Layer (merge)

/-! ### Order -/

namespace Json

theorem isOrdered_ofDict {d : Dict Json} (h : ∀ e ∈ d.entries, e.2.IsOrdered) :
    (ofDict d).IsOrdered := .obj d.sorted h

theorem isOrdered_record {fields : List (String × Json)} (h : ∀ e ∈ fields, e.2.IsOrdered) :
    (record fields).IsOrdered := by
  refine isOrdered_ofDict fun e he => h e (List.mem_reverse.mp (Dict.mem_of_findEntry ?_))
  rw [← Dict.find?_ofList]
  exact Dict.findEntry_of_mem (Dict.sorted _) he

theorem isOrdered_map {α : Type} {write : α → Json} (h : ∀ a, (write a).isObject = false)
    (d : Dict α) : (ofDict (d.map write)).IsOrdered := by
  refine isOrdered_ofDict fun e he => .leaf ?_
  obtain ⟨e', -, rfl⟩ := List.mem_map.mp he
  exact h e'.2

theorem isObject_orNull_str (x : Option String) : (orNull .str x).isObject = false := by
  cases x <;> rfl

end Json

theorem Logging.Options.isOrdered_toJson (o : Options) : o.toJson.IsOrdered := by
  have hspan : o.spanEvents.toJson.IsOrdered := by
    refine Json.isOrdered_record ?_
    simp only [List.forall_mem_cons]
    exact ⟨.leaf rfl, .leaf rfl, .leaf rfl, .leaf rfl, List.forall_mem_nil _⟩
  refine Json.isOrdered_record ?_
  simp only [List.forall_mem_cons]
  exact ⟨.leaf rfl, .leaf rfl, .leaf rfl, .leaf (Json.isObject_orNull_str _), .leaf rfl, .leaf rfl,
    .leaf rfl, .leaf rfl, Json.isOrdered_map (fun _ => rfl) _, hspan, List.forall_mem_nil _⟩

theorem Settings.isOrdered_toJson (o : Settings) : o.toJson.IsOrdered := by
  refine Json.isOrdered_record ?_
  simp only [List.forall_mem_cons]
  exact ⟨.leaf rfl, .leaf (Json.isObject_orNull_str _), .leaf rfl,
    Json.isOrdered_map (fun _ => rfl) _, .leaf rfl, List.forall_mem_nil _⟩

/-- The layer of a configuration is in key order. -/
theorem Config.isOrdered_layer (c : Config) : c.layer.IsOrdered := by
  have hnlu : (c.nlu.write .real).IsOrdered := by
    refine Json.isOrdered_record ?_
    simp only [List.forall_mem_cons]
    exact ⟨.leaf rfl, .leaf rfl, List.forall_mem_nil _⟩
  have htelemetry : (Json.record [("enabled", .bool c.telemetry)]).IsOrdered := by
    refine Json.isOrdered_record ?_
    simp only [List.forall_mem_cons]
    exact ⟨.leaf rfl, List.forall_mem_nil _⟩
  refine Json.isOrdered_record ?_
  simp only [List.forall_mem_cons]
  exact ⟨c.logging.isOrdered_toJson, c.chatbot.isOrdered_toJson, hnlu, htelemetry,
    List.forall_mem_nil _⟩

/-! ### What is read of a record over a value -/

namespace Record

variable {α : Type} {below v : Json} {d : Dict Json} {name : String} {item : Decoder α}
  {default a : α}

/-- The record of a dictionary laid over a value. -/
def merged (below : Json) (d : Dict Json) : Record :=
  ⟨Layer.overFields below.fields d.entries, false⟩

@[simp] theorem read_merge (reading : Reading) (names : List String) (below : Json)
    (d : Dict Json) : read reading names (merge below (.ofDict d)) = some (merged below d) := by
  rw [Json.ofDict, Layer.merge_obj]
  cases reading <;> rfl

/-- A field is read of its value laid over the one below it. -/
theorem withDefault_merge (hfind : d.find? name = some v)
    (h : item (merge ((below.get? name).getD (.obj [])) v) = some a) :
    (merged below d).withDefault name item default = some a := by
  have hfield : (merged below d).find? name =
      some (merge ((below.get? name).getD (.obj [])) v) := by
    have hentry : Dict.findEntry name d.entries = some v := hfind
    rw [find?, merged, Layer.findEntry_overFields, hentry, Json.get?_eq]
    rfl
  rw [withDefault, hfield]
  exact h

/-- A field with a value that is no object is read of it alone. -/
theorem withDefault_leaf (hfind : d.find? name = some v) (hv : v.isObject = false)
    (h : item v = some a) : (merged below d).withDefault name item default = some a := by
  refine withDefault_merge hfind ?_
  rw [Layer.merge_of_leaf hv]
  exact h

end Record

theorem read_merge_record {α : Type} {read : Decoder α} {below : Json}
    {fields : List (String × Json)} {a : α}
    (h : ∀ d : Dict Json, (∀ name, d.find? name = Dict.findEntry name fields.reverse) →
      read (merge below (.ofDict d)) = some a) : read (merge below (.record fields)) = some a := by
  obtain ⟨d, hd, hfind⟩ := exists_ofDict fields
  rw [hd]
  exact h d hfind

/-- **A map laid over a map is read as the one dictionary laid over the other.** -/
theorem Decode.dict_merge {α : Type} {item : Decoder α} {write : α → Json} {under : Json}
    {d₀ : Dict α} (hordered : under.IsOrdered) (hread : dict item under = some d₀)
    (hitem : ∀ a, item (write a) = some a) (hleaf : ∀ a, (write a).isObject = false) (d : Dict α) :
    dict item (merge under (.ofDict (d.map write))) = some (d₀.overlay d) := by
  have hmerged := Layer.isOrdered_merge hordered (.ofDict (d.map write))
  rw [Json.ofDict, Layer.merge_obj] at hmerged ⊢
  have hnodup := Dict.nodup_map_fst hmerged.sorted_fields
  refine (dict_eq_some_iff hnodup).mpr fun k => ?_
  change (Dict.findEntry k (Layer.overFields _ _)).map item = _
  have hunder := map_get?_of_dict hread hordered k
  have hfind : Dict.findEntry k (d.map write).entries = (d.find? k).map write :=
    d.find?_map write k
  rw [Layer.findEntry_overFields, hfind, Dict.find?_overlay, ← Json.get?_eq]
  cases d.find? k with
  | none => exact hunder
  | some a =>
    have hwritten : item (merge ((under.get? k).getD (.obj [])) (write a)) = some a := by
      rw [Layer.merge_of_leaf (hleaf a), hitem]
    exact congrArg some hwritten

/-- What is laid over other entries stays as it is exactly if there are no other keys below. -/
theorem Dict.eq_iff_of_find?_or {α : Type} {d d' : Dict α} {under : String → Option Json}
    {item : Decoder α} (h : ∀ k, d'.find? k = (d.find? k).or ((under k).bind item))
    (hread : ∀ k v, under k = some v → ∃ a, item v = some a) :
    d' = d ↔ ∀ k, (under k).isSome = true → (d.find? k).isSome = true := by
  constructor
  · rintro rfl k hk
    obtain ⟨v, hv⟩ := Option.isSome_iff_exists.mp hk
    obtain ⟨a, ha⟩ := hread k v hv
    have hor := h k
    rw [hv, Option.bind_some, ha] at hor
    rw [hor, Option.isSome_or, Option.isSome_some, Bool.or_true]
  · refine fun hkeys => Dict.ext_find? fun k => ?_
    rw [h]
    cases hunder : under k with
    | none => exact Option.or_none
    | some v =>
      obtain ⟨a, ha⟩ := Option.isSome_iff_exists.mp (hkeys k (by rw [hunder]; rfl))
      rw [ha, Option.some_or]

/-! ### Sections -/

namespace Logging

@[simp] theorem Level.read_toJson (l : Level) : read .lax l.toJson = some l := by
  cases l <;> rfl

theorem Format.read_name (f : Format) : read .lax (.str f.name) = some f := by cases f <;> rfl

theorem Output.read_name (o : Output) : read .lax (.str o.name) = some o := by cases o <;> rfl

theorem Rotation.read_name (r : Rotation) : read .lax (.str r.name) = some r := by cases r <;> rfl

theorem SpanEvents.read_merge (below : Json) (o : SpanEvents) :
    read .lax (merge below o.toJson) = some o := by
  refine read_merge_record fun d hd => ?_
  have hfield : ∀ {name : String} {b : Bool}, d.find? name = some (.bool b) →
      (Record.merged below d).withDefault name Decode.bool false = some b :=
    fun h => Record.withDefault_leaf h rfl rfl
  rw [read, Record.read_merge]
  dsimp only [Option.bind_eq_bind, Option.bind_some]
  rw [hfield (hd "new"), hfield (hd "enter"), hfield (hd "exit"), hfield (hd "close")]
  rfl

/-- The logging section has the options laid over, and the filters that are read of both. -/
theorem Options.read_merge {below : Json} {o : Options} {filters : Dict Level}
    (hfilters : Decode.dict (Level.read .lax) (merge ((below.get? "filters").getD (.obj []))
      (.ofDict (o.filters.map Level.toJson))) = some filters) :
    read .lax (merge below o.toJson) = some { o with filters := filters } := by
  refine read_merge_record fun d hd => ?_
  have hpath : Decode.nullable Decode.text (Json.orNull .str o.filePath) = some o.filePath :=
    Decode.nullable_orNull rfl fun _ _ => rfl
  rw [read, Record.read_merge]
  dsimp only [Option.bind_eq_bind, Option.bind_some]
  rw [Record.withDefault_leaf (hd "level") rfl o.level.read_toJson,
    Record.withDefault_leaf (hd "format") rfl o.format.read_name,
    Record.withDefault_leaf (hd "output") rfl o.output.read_name, Record.optional,
    Record.withDefault_leaf (hd "file_path") (Json.isObject_orNull_str _) hpath,
    Record.withDefault_leaf (hd "rotation") rfl o.rotation.read_name,
    Record.withDefault_leaf (hd "max_files") rfl (Decode.uint64_nat _),
    Record.withDefault_leaf (hd "thread_ids") rfl (Decode.bool_bool _),
    Record.withDefault_leaf (hd "file_location") rfl (Decode.bool_bool _),
    Record.withDefault_merge (hd "filters") hfilters,
    Record.withDefault_merge (hd "span_events") (o.spanEvents.read_merge _)]
  rfl

end Logging

/-- The section on the bot has the options laid over, and the contact data that are read of
both. -/
theorem Settings.read_merge {below : Json} {o : Settings} {contact : Dict String}
    (hcontact : Decode.dict Decode.text (merge ((below.get? "contact").getD (.obj []))
      (.ofDict (o.contact.map .str))) = some contact) :
    readSection .lax (merge below o.toJson) = some { o with contact := contact } := by
  refine read_merge_record fun d hd => ?_
  have hblock : Decode.nullable Decode.text (Json.orNull .str o.fallbackBlock) =
      some o.fallbackBlock := Decode.nullable_orNull rfl fun _ _ => rfl
  rw [readSection, Record.read_merge]
  dsimp only [Option.bind_eq_bind, Option.bind_some]
  rw [Record.withDefault_leaf (hd "global_fallback") rfl (Decode.bool_bool _), Record.optional,
    Record.withDefault_leaf (hd "fallback_block") (Json.isObject_orNull_str _) hblock,
    Record.withDefault_leaf (hd "fallback_message") rfl (Decode.list_texts _),
    Record.withDefault_leaf (hd "languages") rfl (Decode.list_texts _),
    Record.withDefault_merge (hd "contact") hcontact]
  rfl

theorem NlpOptions.read_merge (below : Json) (o : NlpOptions) :
    read .lax (merge below (o.write .real)) = some o := by
  refine read_merge_record fun d hd => ?_
  have hdouble : Decode.float (.real o.threshold) = some o.threshold := rfl
  rw [read, Record.read_merge]
  dsimp only [Option.bind_eq_bind, Option.bind_some]
  rw [Record.withDefault_leaf (hd "enabled") rfl (Decode.bool_bool _),
    Record.withDefault_leaf (hd "confidence_threshold") rfl hdouble]
  rfl

namespace Config

/-- A configuration was loaded with another one laid over what was gathered below: it has the
options of that one, and in the maps also what is said below under other keys. -/
structure Covers (below : Json) (c loaded : Config) : Prop where
  /-- All else is as in the configuration laid over. -/
  options : loaded = { c with
    logging := { c.logging with filters := loaded.logging.filters }
    chatbot := { c.chatbot with contact := loaded.chatbot.contact } }
  /-- A target has the level of the configuration laid over, or else the one below. -/
  filters : ∀ target, loaded.logging.filters.find? target =
    (c.logging.filters.find? target).or
      ((below.at? ["logging", "filters", target]).bind (Logging.Level.read .lax))
  /-- An item has the text of the configuration laid over, or else the one below. -/
  contact : ∀ name, loaded.chatbot.contact.find? name =
    (c.chatbot.contact.find? name).or
      ((below.at? ["chatbot", "contact", name]).bind Decode.text)

variable {below : Json} {c c₀ : Config} {α : Type} {item : Decoder α}

/-- What lies under a map of the configuration is a map too, if it can be read. -/
theorem exists_dict {first second : String} {get : Config → Dict α}
    (ho : HasOption [first, second] (Decode.dict item) (some <| get ·))
    (hread : ofLayers? below = some c₀) (hordered : below.IsOrdered) :
    ∃ d₀, Decode.dict item ((((below.get? first).getD (.obj [])).get? second).getD (.obj [])) =
        some d₀ ∧
      ∀ key, d₀.find? key = (below.at? [first, second, key]).bind item := by
  have hunder : ((below.get? first).getD (.obj [])).get? second = below.at? [first, second] := by
    rw [Json.at?_cons]
    cases below.get? first with
    | none => rfl
    | some v => exact (v.at?_singleton second).symm
  have hkey : ∀ key, below.at? [first, second, key] =
      (below.at? [first, second]).bind fun v => v.at? [key] :=
    fun key => below.at?_append [first, second] [key]
  rw [hunder]
  cases hat : below.at? [first, second] with
  | none =>
    refine ⟨.empty, rfl, fun key => ?_⟩
    rw [hkey, hat]
    rfl
  | some v =>
    obtain ⟨d₀, hdict, -⟩ := option_of_at? hread hordered ho hat
    refine ⟨d₀, hdict, fun key => ?_⟩
    have hread := Decode.map_get?_of_dict hdict (hordered.at? hat) key
    rw [hkey, hat, Option.bind_some, Json.at?_singleton]
    cases hfind : d₀.find? key with
    | none =>
      rw [hfind] at hread
      rw [Option.map_eq_none_iff.mp hread]
      rfl
    | some a =>
      rw [hfind] at hread
      obtain ⟨w, hw, ha⟩ := Option.map_eq_some_iff.mp hread
      rw [hw]
      exact ha.symm

/-- **A configuration laid over what can be read covers it.** -/
theorem exists_covers (hread : ofLayers? below = some c₀) (hordered : below.IsOrdered)
    (c : Config) :
    ∃ loaded, ofLayers? (merge below c.layer) = some loaded ∧ Covers below c loaded := by
  obtain ⟨f₀, hf₀, hfilters⟩ := exists_dict (.logging .filters) hread hordered
  obtain ⟨d₀, hd₀, hcontact⟩ := exists_dict (.chatbot .contact) hread hordered
  refine ⟨{ c with
    logging := { c.logging with filters := f₀.overlay c.logging.filters }
    chatbot := { c.chatbot with contact := d₀.overlay c.chatbot.contact } }, ?_, ?_⟩
  · have hlogging := Logging.Options.read_merge (o := c.logging) <|
      Decode.dict_merge ((hordered.getD_get? "logging").getD_get? "filters") hf₀
        Logging.Level.read_toJson (fun _ => rfl) c.logging.filters
    have hchatbot := Settings.read_merge (o := c.chatbot) <|
      Decode.dict_merge ((hordered.getD_get? "chatbot").getD_get? "contact") hd₀
        Decode.text_str (fun _ => rfl) c.chatbot.contact
    have htelemetry : ∀ below, (fun v => do
        (← Record.read .lax ["enabled"] v).withDefault "enabled" Decode.bool true)
        (merge below (.record [("enabled", .bool c.telemetry)])) = some c.telemetry := by
      intro below
      obtain ⟨d, hd, hfind⟩ := exists_ofDict [("enabled", .bool c.telemetry)]
      dsimp only
      rw [hd, Record.read_merge]
      exact Record.withDefault_leaf (hfind "enabled") rfl rfl
    refine read_merge_record fun d hd => ?_
    rw [ofLayers?, read, Record.read_merge]
    dsimp only [Option.bind_eq_bind, Option.bind_some]
    rw [Record.withDefault_merge (hd "logging") hlogging,
      Record.withDefault_merge (hd "chatbot") hchatbot,
      Record.withDefault_merge (hd "nlu") (c.nlu.read_merge _),
      Record.withDefault_merge (hd "telemetry") (htelemetry _)]
    rfl
  · refine ⟨rfl, fun target => ?_, fun name => ?_⟩
    · rw [← hfilters]
      exact Dict.find?_overlay f₀ c.logging.filters target
    · rw [← hcontact]
      exact Dict.find?_overlay d₀ c.chatbot.contact name

/-- What was laid over is loaded as it is exactly if the maps below have no other keys. -/
theorem Covers.eq_iff {loaded : Config} (h : Covers below c loaded)
    (hread : ofLayers? below = some c₀) (hordered : below.IsOrdered) : loaded = c ↔
      (∀ target, (below.at? ["logging", "filters", target]).isSome = true →
        (c.logging.filters.find? target).isSome = true) ∧
      ∀ name, (below.at? ["chatbot", "contact", name]).isSome = true →
        (c.chatbot.contact.find? name).isSome = true := by
  have hfilters := Dict.eq_iff_of_find?_or h.filters fun target v hv => by
    obtain ⟨a, ha, -⟩ := option_of_at? hread hordered (.logging (.filter target)) hv
    exact ⟨a, ha⟩
  have hcontact := Dict.eq_iff_of_find?_or h.contact fun name v hv => by
    obtain ⟨a, ha, -⟩ := option_of_at? hread hordered (.chatbot (.contactItem name)) hv
    exact ⟨a, ha⟩
  rw [← hfilters, ← hcontact]
  constructor
  · rintro rfl
    exact ⟨rfl, rfl⟩
  · rintro ⟨hf, hc⟩
    rw [h.options, hf, hc]

end Config

namespace Layer

/-- Nothing laid between two values changes nothing. -/
theorem merge_merge_empty (below v : Json) : merge (merge below (.obj [])) v = merge below v := by
  cases v with
  | obj fields => rw [merge_obj, merge_obj, merge_obj, overFields, Json.fields]
  | _ => rfl

end Layer

namespace Loader

theorem filesIn_overrides (l : Loader) (s : Surroundings) (overrides : List Override)
    (places : List (String × String)) :
    ({ l with overrides := overrides } : Loader).filesIn s places = l.filesIn s places := by
  induction places with
  | nil => rfl
  | cons place places ih =>
    rw [filesIn, ih, filesIn]
    rfl

/-- What is found has nothing to do with the overrides. -/
theorem found_overrides (l : Loader) (s : Surroundings) (overrides : List Override) :
    ({ l with overrides := overrides } : Loader).found s = l.found s := by
  rw [found, files, filesIn_overrides]
  rfl

/-- A configuration as the only override is laid over what is gathered without it. -/
theorem gather_whole {l : Loader} {s : Surroundings} {below : Json}
    (h : ({ l with overrides := [] } : Loader).gather s = .ok below) (c : Config) :
    ({ l with overrides := [.whole c] } : Loader).gather s = .ok (merge below c.layer) := by
  obtain ⟨lower, upper, hfound, hupper, rfl⟩ := gather_eq_ok_iff.mp h
  obtain rfl : upper = [] := List.map_eq_nil_iff.mp hupper.symm
  refine gather_eq_ok_iff.mpr ⟨lower, [c.layer], ?_, rfl, ?_⟩
  · rw [found_overrides] at hfound ⊢
    exact hfound
  · have hpile : Layer.pile [c.layer] = c.layer := Layer.merge_empty c.isOrdered_layer
    rw [hpile]
    exact Layer.merge_merge_empty _ _

/-- **A whole configuration as the only override is what is loaded, but for the keys of the two maps
that it does not have.** They stay as the layers below have them. -/
theorem load_whole (l : Loader) (s : Surroundings) (c : Config) {c₀ : Config}
    (h : ({ l with overrides := [] } : Loader).load s = .ok c₀) :
    ∃ below loaded, ({ l with overrides := [] } : Loader).gather s = .ok below ∧
      ({ l with overrides := [.whole c] } : Loader).load s = .ok loaded ∧
      Config.Covers below c loaded ∧
      (loaded = c ↔
        (∀ target, (below.at? ["logging", "filters", target]).isSome = true →
          (c.logging.filters.find? target).isSome = true) ∧
        ∀ name, (below.at? ["chatbot", "contact", name]).isSome = true →
          (c.chatbot.contact.find? name).isSome = true) := by
  obtain ⟨below, hgather, hread⟩ := load_eq_ok_iff.mp h
  have hordered := isOrdered_of_gather hgather
  obtain ⟨loaded, hloaded, hcovers⟩ := Config.exists_covers hread hordered c
  refine ⟨below, loaded, hgather, ?_, hcovers, hcovers.eq_iff hread hordered⟩
  exact load_eq_ok_iff.mpr ⟨_, gather_whole hgather c, hloaded⟩

end Loader

namespace Sample

/-- A directory with a main file that has a telephone number. -/
def telephone : Surroundings :=
  ⟨.ofList [("d/hexabot.toml", "[chatbot.contact]\nphone = \"123\"\n")], .empty, "home"⟩

/-- A search in that directory, with the standard configuration laid over. -/
def restored : Loader := ⟨.development, ["d"], none, false, [.whole .standard]⟩

end Sample

namespace Loader

/-- The telephone number of the file is loaded under the options of the standard configuration. -/
theorem load_whole_restored : ∃ loaded, Sample.restored.load Sample.telephone = .ok loaded ∧
    loaded.logging.level = .info ∧ loaded.chatbot.contact.find? "phone" = some "123" := by
  obtain ⟨c₀, hc₀⟩ : ∃ c₀,
      (({ Sample.restored with overrides := [] } : Loader).load Sample.telephone).toOption =
        some c₀ := Option.isSome_iff_exists.mp (by decide +kernel)
  obtain ⟨below, loaded, hbelow, hload, hcovers, -⟩ :=
    load_whole Sample.restored Sample.telephone .standard (eq_ok_of_toOption hc₀)
  have hphone : below.at? ["chatbot", "contact", "phone"] = some (.str "123") := by
    have hat : (({ Sample.restored with overrides := [] } : Loader).gather
        Sample.telephone).toOption.bind (·.at? ["chatbot", "contact", "phone"]) =
          some (.str "123") := by decide +kernel
    rw [hbelow] at hat
    exact hat
  refine ⟨loaded, hload, ?_, ?_⟩
  · rw [hcovers.options]
    rfl
  · rw [hcovers.contact, hphone]
    rfl

/-- The standard configuration has no contact data, but it does not take away those of a file. -/
theorem contact_stays :
    (({ Sample.restored with overrides := [] } : Loader).load Sample.telephone).isOk = true ∧
    Sample.restored.overrides = [.whole .standard] ∧
    Config.standard.chatbot.contact.entries = [] ∧
    (Sample.restored.load Sample.telephone).toOption.map (·.chatbot.contact.entries) =
      some [("phone", "123")] :=
  ⟨by decide +kernel, rfl, rfl, by decide +kernel⟩

end Loader

end Chatflow

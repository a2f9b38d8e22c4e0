import Chatflow.Config.Loader
import Chatflow.Proofs.Config.Options

/-!
# Which layer counts

A loader lays the standard values, the files, the environment and the overrides over one another, in
this order (`Loader.IsLayered`), and an option comes from the last layer that says anything of it:
`Loader.last_layer_counts`. A search reads the files of the profile in the order in which it looks
for them, up to the first place with a main file; this file comes last, and nothing behind that
place is read (`Loader.Searches`).

A layer that has something other than an object on the way to an option does say something of it.
The layers below it are then hidden, also where a later layer puts an object in its place:
`Loader.option_hidden`.
-/

namespace Chatflow

namespace Json

instance decidableIsSilent : (v : Json) → (path : List String) → Decidable (v.IsSilent path)
  | _, [] => isFalse not_isSilent_nil
  | v, key :: path =>
    match h : v.get? key with
    | none => decidable_of_iff (v.isObject = true) <| by simp [isSilent_cons_iff, h]
    | some w =>
      have := decidableIsSilent w path
      decidable_of_iff (v.isObject = true ∧ w.IsSilent path) <| by simp [isSilent_cons_iff, h]

end Json

theorem mapM_eq_some_iff {α β : Type} {f : α → Option β} {xs : List α} {ys : List β} :
    xs.mapM f = some ys ↔ xs.map f = ys.map some := by
  induction xs generalizing ys with
  | nil =>
    cases ys with
    | nil => exact iff_of_true rfl rfl
    | cons => exact iff_of_false nofun nofun
  | cons x xs ih =>
    rw [List.mapM_cons, List.map_cons]
    constructor
    · intro h
      obtain ⟨y, hy, h⟩ := Option.bind_eq_some_iff.mp h
      obtain ⟨rest, hrest, h⟩ := Option.bind_eq_some_iff.mp h
      obtain rfl := Option.some.inj h
      rw [hy, ih.mp hrest, List.map_cons]
    · intro h
      obtain ⟨y, rest, rfl⟩ : ∃ y rest, ys = y :: rest := by
        cases ys with
        | nil => cases h
        | cons y rest => exact ⟨y, rest, rfl⟩
      obtain ⟨hy, hrest⟩ := List.cons.inj h
      rw [hy, ih.mpr hrest]
      rfl

namespace Loader

variable {l : Loader} {s : Surroundings}

/-! ### The search for files -/

/-- The files that a search of some places reads. -/
inductive Searches (l : Loader) (s : Surroundings) : List (String × String) → List String → Prop
  /-- No place has a main file, and all files of the profile are read. -/
  | missed {places : List (String × String)}
    (hnone : ∀ place ∈ places, s.pathExists (mainFile place) = false) :
    Searches l s places ((places.map l.profileFile).filter s.pathExists)
  /-- The first place with a main file ends the search. The main file is read last. -/
  | stopped {before after : List (String × String)} {place : String × String}
    (hnone : ∀ place ∈ before, s.pathExists (mainFile place) = false)
    (hthere : s.pathExists (mainFile place) = true) :
    Searches l s (before ++ place :: after)
      (((before ++ [place]).map l.profileFile).filter s.pathExists ++ [mainFile place])

/-- One more place in front is searched first. -/
theorem Searches.cons {place : String × String} {places : List (String × String)}
    {files : List String} (hplace : s.pathExists (mainFile place) = false)
    (h : l.Searches s places files) :
    l.Searches s (place :: places) ([l.profileFile place].filter s.pathExists ++ files) := by
  cases h with
  | missed hnone =>
    rw [← List.filter_append]
    refine .missed fun p hp => ?_
    rcases List.mem_cons.mp hp with rfl | hp
    · exact hplace
    · exact hnone p hp
  | @stopped before after place' hnone hthere =>
    have hnone' : ∀ p ∈ place :: before, s.pathExists (mainFile p) = false := by
      intro p hp
      rcases List.mem_cons.mp hp with rfl | hp
      · exact hplace
      · exact hnone p hp
    rw [← List.append_assoc, ← List.filter_append]
    exact .stopped hnone' hthere

theorem searches_filesIn (l : Loader) (s : Surroundings) (places : List (String × String)) :
    l.Searches s places (l.filesIn s places) := by
  induction places with
  | nil => exact .missed fun _ h => nomatch h
  | cons place places ih =>
    have hprofile : (if s.pathExists (l.profileFile place) then [l.profileFile place] else []) =
        [l.profileFile place].filter s.pathExists := by
      rw [List.filter_singleton]
      cases s.pathExists (l.profileFile place) <;> rfl
    rw [filesIn, filesNamed, hprofile]
    cases hmain : s.pathExists (mainFile place) with
    | false =>
      have h := ih.cons hmain
      simpa using h
    | true =>
      have hnone : ∀ p ∈ ([] : List (String × String)), s.pathExists (mainFile p) = false := nofun
      exact .stopped hnone hmain

/-! ### The layers -/

/-- The layers of a loader that reads some files, the lowest first. -/
def IsLayered (l : Loader) (s : Surroundings) (files : List String) (layers : List Json) : Prop :=
  layers.map some = some Config.standard.layer :: files.map (fileLayer? s) ++
    (if l.environment then [some (Environment.layer s.environment)] else []) ++
    l.overrides.map Override.layer?

/-- What all layers say together, if all can be read. -/
theorem gather_eq_ok_iff {gathered : Json} : l.gather s = .ok gathered ↔
    ∃ lower upper, l.found s = .ok (lower.map some) ∧
      l.overrides.map Override.layer? = upper.map some ∧
      gathered = Layer.merge (Layer.pile lower) (Layer.pile upper) := by
  rw [gather]
  cases hfound : l.found s with
  | error cause => exact iff_of_false nofun fun ⟨_, _, h, _⟩ => nomatch h
  | ok found =>
    simp only [bind, Except.bind, Except.ok.injEq]
    constructor
    · intro h
      split at h
      · rename_i lower upper hlower hupper
        rw [mapM_eq_some_iff, List.map_id] at hlower
        exact ⟨lower, upper, hlower, mapM_eq_some_iff.mp hupper, (Except.ok.inj h).symm⟩
      · cases h
    · rintro ⟨lower, upper, rfl, hupper, rfl⟩
      have hlower : (lower.map some).mapM id = some lower := by
        rw [mapM_eq_some_iff, List.map_id]
      rw [hlower, mapM_eq_some_iff.mpr hupper]

theorem load_eq_ok_iff {c : Config} : l.load s = .ok c ↔
    ∃ gathered, l.gather s = .ok gathered ∧ Config.ofLayers? gathered = some c := by
  rw [load]
  cases hgather : l.gather s with
  | error cause => exact iff_of_false nofun fun ⟨_, h, _⟩ => nomatch h
  | ok gathered =>
    simp only [bind, Except.bind, Except.ok.injEq, exists_eq_left']
    cases Config.ofLayers? gathered <;> simp

/-- What is gathered lies in key order. -/
theorem isOrdered_of_gather {gathered : Json} (h : l.gather s = .ok gathered) :
    gathered.IsOrdered := by
  obtain ⟨lower, upper, -, -, rfl⟩ := gather_eq_ok_iff.mp h
  exact Layer.isOrdered_merge (Layer.isOrdered_pile lower) _

theorem found_eq_ok_iff {layers : List (Option Json)} : l.found s = .ok layers ↔
    ∃ files, l.files s = .ok files ∧ layers =
      some Config.standard.layer :: files.map (fileLayer? s) ++
        (if l.environment then [some (Environment.layer s.environment)] else []) := by
  rw [found]
  cases l.files s with
  | error cause => exact iff_of_false nofun fun ⟨_, h, _⟩ => nomatch h
  | ok files =>
    simp only [bind, Except.bind, pure, Except.pure, Except.ok.injEq, exists_eq_left', eq_comm]

/-- **The last layer that says anything of an option has its way.** The layers are the standard
values, the files, the environment and the overrides, in this order. The files are the one asked
for, or those of the search. -/
theorem last_layer_counts (l : Loader) (s : Surroundings) :
    (l.file = none → ∃ files, l.files s = .ok files ∧ l.Searches s (l.places s) files) ∧
    ∀ c, l.load s = .ok c → ∃ files layers gathered,
      l.files s = .ok files ∧ l.IsLayered s files layers ∧
      l.gather s = .ok gathered ∧ Config.ofLayers? gathered = some c ∧
      ∀ before top after path v, layers = before ++ top :: after → path ≠ [] →
        top.at? path = some v → v.isObject = false → (∀ layer ∈ after, layer.IsSilent path) →
        gathered.at? path = some v ∧
          ∀ (α : Type) (item : Decoder α) (get : Config → Option α),
            Config.HasOption path item get → ∃ a, item v = some a ∧ get c = some a := by
  refine ⟨fun hfile => ?_, fun c hload => ?_⟩
  · refine ⟨l.filesIn s (l.places s), ?_, l.searches_filesIn s _⟩
    rw [files, hfile]
  · obtain ⟨gathered, hgather, hread⟩ := load_eq_ok_iff.mp hload
    obtain ⟨lower, upper, hfound, hupper, hpiles⟩ := gather_eq_ok_iff.mp hgather
    obtain ⟨files, hfiles, hlower⟩ := found_eq_ok_iff.mp hfound
    refine ⟨files, lower ++ upper, gathered, hfiles, ?_, hgather, hread, ?_⟩
    · rw [IsLayered, List.map_append, hlower, hupper]
    · intro before top after path v hlayers hpath htop hv hafter
      have hat : gathered.at? path = some v := by
        rw [hpiles]
        exact Layer.at?_merge_pile hpath hlayers htop hv hafter
      refine ⟨hat, fun α item get ho => ?_⟩
      exact Config.option_of_at? hread (isOrdered_of_gather hgather) ho hat

end Loader

namespace Sample

/-- A directory with a file for staging, a main file, and one that is not reached. -/
def staging : Surroundings where
  files := .ofList [
    ("d/hexabot.staging.toml", "[logging]\nlevel = \"warn\"\noutput = \"stderr\"\n"),
    ("d/hexabot.toml", "[logging]\nlevel = \"debug\"\n"), ("d/config.toml", "[logging\n")]
  environment := .ofList [("HEXABOT_CHATBOT__FALLBACK_BLOCK", "menu")]
  home := "home"

/-- A search in that directory. -/
def search : Loader :=
  ⟨.custom "staging", ["d"], none, true, [.option "telemetry.enabled" (.bool false)]⟩

/-- Three overrides, of which the second is no section. -/
def switchedOff : Loader :=
  ⟨.development, ["d"], none, false, [.option "chatbot.fallback_block" (.str "menu"),
    .option "chatbot" (.bool false), .option "chatbot.languages" (.texts ["fr"])]⟩

end Sample

namespace Loader

theorem eq_ok_of_toOption {ε α : Type} {x : Except ε α} {a : α} (h : x.toOption = some a) :
    x = .ok a := by
  cases x with
  | error => cases h
  | ok => exact congrArg _ (Option.some.inj h)

/-- The level is that of the main file, of which the later layers say nothing. -/
theorem last_layer_counts_staging : ∃ c, Sample.search.load Sample.staging = .ok c ∧
    Sample.search.files Sample.staging = .ok ["d/hexabot.staging.toml", "d/hexabot.toml"] ∧
    c.logging.level = .debug := by
  obtain ⟨c, hc⟩ : ∃ c, (Sample.search.load Sample.staging).toOption = some c :=
    Option.isSome_iff_exists.mp (by decide +kernel)
  have hload := eq_ok_of_toOption hc
  have hfiles : Sample.search.files Sample.staging =
      .ok ["d/hexabot.staging.toml", "d/hexabot.toml"] := eq_ok_of_toOption (by decide +kernel)
  obtain ⟨files, layers, gathered, hread, hlayers, -, -, hlast⟩ :=
    (last_layer_counts Sample.search Sample.staging).2 c hload
  obtain rfl := Except.ok.inj (hread.symm.trans hfiles)
  obtain rfl : layers = [Config.standard.layer,
      .obj [("logging", .obj [("level", .str "warn"), ("output", .str "stderr")])],
      .obj [("logging", .obj [("level", .str "debug")])],
      .obj [("chatbot", .obj [("fallback_block", .str "menu")])],
      .obj [("telemetry", .obj [("enabled", .bool false)])]] :=
    List.map_injective_iff.mpr (Option.some_injective _) (hlayers.trans (by decide +kernel))
  obtain ⟨-, hoption⟩ := hlast [_, _] _ [_, _] ["logging", "level"] (.str "debug") rfl (by decide)
    rfl rfl (by decide)
  obtain ⟨level, hlevel, hget⟩ := hoption _ _ _ (.logging .level)
  cases hlevel
  exact ⟨c, hload, hfiles, Option.some.inj hget⟩

/-- The last layer that gives a fallback block does not count where a later one puts something other
than an object in the place of the section. -/
theorem option_hidden :
    (Sample.switchedOff.load Sample.staging).toOption.map (·.chatbot.fallbackBlock) = some none ∧
    (Sample.switchedOff.files Sample.staging).toOption = some ["d/hexabot.toml"] ∧
    ∃ top after, Sample.switchedOff.IsLayered Sample.staging ["d/hexabot.toml"]
        ([Config.standard.layer, .obj [("logging", .obj [("level", .str "debug")])]] ++
          top :: after) ∧
      top.at? ["chatbot", "fallback_block"] = some (.str "menu") ∧
      ∀ layer ∈ after, layer.at? ["chatbot", "fallback_block"] = none := by
  refine ⟨by decide +kernel, by decide +kernel,
    .obj [("chatbot", .obj [("fallback_block", .str "menu")])],
    [.obj [("chatbot", .bool false)], .obj [("chatbot", .obj [("languages", .texts ["fr"])])]],
    ?_, rfl, by decide⟩
  exact show _ = _ by decide +kernel

end Loader

end Chatflow

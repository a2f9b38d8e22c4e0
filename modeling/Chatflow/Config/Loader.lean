import Chatflow.Config.Environment
import Chatflow.Config.Profile
import Chatflow.Config.Validation
import Chatflow.Toml.Document

/-!
# Loading configurations

A `Loader` gathers a configuration from layers, each over the ones before: the standard values, the
configuration files, the environment, and overrides in the order they were given. The overrides are
laid over one another before they are laid over the rest. The files are the one asked for, or those
found in the directories searched: of each file name in turn the file of the profile, then the main
file, which is the last one read.
-/

namespace Chatflow

/-! ### Files -/

/-- What a loader finds around it. -/
structure Surroundings where
  /-- The texts of the files, by their paths from the working directory. -/
  files : Dict String
  /-- The environment variables. -/
  environment : Dict String
  /-- The directory with the configuration of the user. -/
  home : String

/-- The names in a path. -/
def pathNames (path : String) : List String :=
  (path.splitToList (· = '/')).filter fun name => name ≠ "" && name ≠ "."

namespace Surroundings

variable (s : Surroundings)

/-- Whether some names lead to a directory: the working directory, or one with a file in it. -/
def isDirectory (names : List String) : Bool :=
  names.isEmpty || s.files.keys.any fun f => names.isPrefixOf (pathNames f).dropLast

/-- Follows the steps of a path from a place. What a step starts from must be a directory, and none
leads out of the working directory. -/
def walk (place : List String) : List String → Option (List String)
  | [] => some place
  | name :: rest =>
    if !s.isDirectory place then none
    else if name = "" || name = "." then walk place rest
    else if name = ".." then (if place.isEmpty then none else walk place.dropLast rest)
    else walk (place ++ [name]) rest

/-- The place that a path leads to. -/
def place? (path : String) : Option (List String) :=
  if path = "" || path.startsWith "/" then none else s.walk [] (path.splitToList (· = '/'))

/-- The text of the file at a path. -/
def file? (path : String) : Option String :=
  (s.files.find? path).or <| (s.place? path).bind fun place =>
    (s.files.entries.find? fun f => pathNames f.1 = place).map (·.2)

/-- Whether there is a file or directory at a path. -/
def pathExists (path : String) : Bool :=
  (s.file? path).isSome || ((s.place? path).map s.isDirectory).getD false

/-- The profile that the environment names. -/
def profile : Profile :=
  ((s.environment.find? (Environment.mark ++ "PROFILE")).map Profile.ofName).getD .development

end Surroundings

/-- A path in a directory. -/
def inDirectory (directory name : String) : String :=
  if directory = "" || directory.endsWith "/" then directory ++ name else directory ++ "/" ++ name

/-- The extension of the name at the end of a path: what is behind its last point, unless that is
its first character. -/
def extension (path : String) : String :=
  match (((pathNames path).getLast?.filter (· ≠ "..")).getD "").splitToList (· = '.') with
  | [] => ""
  | first :: rest => if first = "" && rest.length = 1 then "" else rest.getLast?.getD ""

/-! ### Loaders -/

/-- What is laid over all that was found. -/
inductive Override where
  /-- The text of a document. -/
  | document (text : String)
  /-- A whole configuration. -/
  | whole (config : Config)
  /-- One option, at a path with points. -/
  | option (path : String) (value : Json)
  deriving DecidableEq

/-- The layer of an override, if it can be read. -/
def Override.layer? : Override → Option Json
  | .document text => Toml.parse text
  | .whole config => some config.layer
  | .option path value => Layer.atPath path value

/-- Where a configuration is looked for. -/
structure Loader where
  /-- What the bot is run for. -/
  profile : Profile
  /-- The directories searched; none means the usual ones. -/
  search : List String
  /-- The file asked for. -/
  file : Option String
  /-- Whether the environment counts. -/
  environment : Bool
  /-- What is laid over all that is found. -/
  overrides : List Override

namespace Loader

/-- The loader that was not told anything. -/
def standard (s : Surroundings) : Loader := ⟨s.profile, [], none, true, []⟩

/-- The directories that are usually searched. -/
def usualDirectories (s : Surroundings) : List String := [".", inDirectory s.home "hexabot"]

/-- The names of configuration files, without extension. -/
def fileNames : List String := ["hexabot", "config"]

/-- The main file of a name in a directory. -/
def mainFile (place : String × String) : String := inDirectory place.1 (place.2 ++ ".toml")

/-- The file of the profile beside a main file. -/
def profileFile (l : Loader) (place : String × String) : String :=
  inDirectory place.1 (place.2 ++ "." ++ l.profile.name ++ ".toml")

/-- The files of one name in a directory that are there, the one of the profile first. Gives also
whether the main one is there. -/
def filesNamed (l : Loader) (s : Surroundings) (place : String × String) : List String × Bool :=
  let there := s.pathExists (mainFile place)
  ((if s.pathExists (l.profileFile place) then [l.profileFile place] else []) ++
    (if there then [mainFile place] else []), there)

/-- The files read of some places: all up to the first main one. -/
def filesIn (l : Loader) (s : Surroundings) : List (String × String) → List String
  | [] => []
  | place :: rest =>
    match l.filesNamed s place with
    | (files, true) => files
    | (files, false) => files ++ l.filesIn s rest

/-- The places searched: each file name in each directory. -/
def places (l : Loader) (s : Surroundings) : List (String × String) :=
  (if l.search.isEmpty then usualDirectories s else l.search).flatMap fun directory =>
    fileNames.map fun name => (directory, name)

/-- The files that are read. -/
def files (l : Loader) (s : Surroundings) : Except ConfigError (List String) :=
  match l.file with
  | none => .ok (l.filesIn s (l.places s))
  | some path =>
    if !s.pathExists path then .error (.fileNotFound path)
    else if extension path ≠ "toml" then .error (.unsupportedFormat (extension path))
    else .ok [path]

/-- The layer of a file; a directory has nothing to say. -/
def fileLayer? (s : Surroundings) (path : String) : Option Json :=
  match s.file? path with
  | some text => Toml.parse text
  | none => some (.obj [])

/-- The layers under the overrides, the lowest first; `none` stands for one that cannot be read. -/
def found (l : Loader) (s : Surroundings) : Except ConfigError (List (Option Json)) := do
  let files ← l.files s
  return some Config.standard.layer :: files.map (fileLayer? s) ++
    (if l.environment then [some (Environment.layer s.environment)] else [])

/-- What all layers say together. -/
def gather (l : Loader) (s : Surroundings) : Except ConfigError Json := do
  let found ← l.found s
  match found.mapM id, l.overrides.mapM Override.layer? with
  | some found, some laidOver => .ok (Layer.merge (Layer.pile found) (Layer.pile laidOver))
  | _, _ => .error .extract

/-- The configuration gathered from all layers. -/
def load (l : Loader) (s : Surroundings) : Except ConfigError Config := do
  let gathered ← l.gather s
  (Config.ofLayers? gathered).elim (.error .extract) .ok

end Loader

end Chatflow

import Chatflow.Json.Decode

/-!
# Logging options

What is logged, in which form and where to.
-/

namespace Chatflow

namespace Logging

/-- How much is logged: an event of a level is logged where that level or a lower one is asked
for. -/
inductive Level where
  | trace
  | debug
  | info
  | warn
  | error
  deriving DecidableEq, Repr

namespace Level

/-- The name of a level. -/
def name : Level → String
  | .trace => "trace"
  | .debug => "debug"
  | .info => "info"
  | .warn => "warn"
  | .error => "error"

/-- The name of a level in capitals. -/
def capitals : Level → String
  | .trace => "TRACE"
  | .debug => "DEBUG"
  | .info => "INFO"
  | .warn => "WARN"
  | .error => "ERROR"

/-- The name of a level with a capital first letter. -/
def title : Level → String
  | .trace => "Trace"
  | .debug => "Debug"
  | .info => "Info"
  | .warn => "Warn"
  | .error => "Error"

/-- The levels by their names. -/
def byName : List (String × Level) :=
  [.trace, .debug, .info, .warn, .error].map fun l => (l.name, l)

/-- Reads a level. -/
def read (reading : Reading) : Decoder Level := Decode.choiceBy reading byName

/-- Reads a level strictly. -/
def ofJson? : Decoder Level := read .strict

/-- The JSON form of a level. -/
def toJson (l : Level) : Json := .str l.name

end Level

/-- The form of log lines. -/
inductive Format where
  | compact
  | full
  | pretty
  | json
  deriving DecidableEq, Repr

namespace Format

/-- The name of a form. -/
def name : Format → String
  | .compact => "compact"
  | .full => "full"
  | .pretty => "pretty"
  | .json => "json"

/-- The name of a form with a capital first letter. -/
def title : Format → String
  | .compact => "Compact"
  | .full => "Full"
  | .pretty => "Pretty"
  | .json => "Json"

/-- The forms by their names. -/
def byName : List (String × Format) := [.compact, .full, .pretty, .json].map fun f => (f.name, f)

/-- Reads a form. -/
def read (reading : Reading) : Decoder Format := Decode.choiceBy reading byName

/-- Reads a form strictly. -/
def ofJson? : Decoder Format := read .strict

end Format

/-- Where log lines go. -/
inductive Output where
  | stdout
  | stderr
  | file
  deriving DecidableEq, Repr

namespace Output

/-- The name of an output. -/
def name : Output → String
  | .stdout => "stdout"
  | .stderr => "stderr"
  | .file => "file"

/-- The name of an output with a capital first letter. -/
def title : Output → String
  | .stdout => "Stdout"
  | .stderr => "Stderr"
  | .file => "File"

/-- The outputs by their names. -/
def byName : List (String × Output) := [.stdout, .stderr, .file].map fun o => (o.name, o)

/-- Reads an output. -/
def read (reading : Reading) : Decoder Output := Decode.choiceBy reading byName

/-- Reads an output strictly. -/
def ofJson? : Decoder Output := read .strict

end Output

/-- When a new log file is begun. -/
inductive Rotation where
  | never
  | hourly
  | daily
  deriving DecidableEq, Repr

namespace Rotation

/-- The name of a rotation. -/
def name : Rotation → String
  | .never => "never"
  | .hourly => "hourly"
  | .daily => "daily"

/-- The name of a rotation with a capital first letter. -/
def title : Rotation → String
  | .never => "Never"
  | .hourly => "Hourly"
  | .daily => "Daily"

/-- The rotations by their names. -/
def byName : List (String × Rotation) := [.never, .hourly, .daily].map fun r => (r.name, r)

/-- Reads a rotation. -/
def read (reading : Reading) : Decoder Rotation := Decode.choiceBy reading byName

/-- Reads a rotation strictly. -/
def ofJson? : Decoder Rotation := read .strict

end Rotation

/-- Which moments of a span are logged. -/
structure SpanEvents where
  /-- That it is opened. -/
  new : Bool
  /-- That it is entered. -/
  enter : Bool
  /-- That it is left. -/
  exit : Bool
  /-- That it is closed. -/
  close : Bool
  deriving DecidableEq, Repr

namespace SpanEvents

/-- No moment. -/
def none : SpanEvents := ⟨false, false, false, false⟩

/-- The first and the last moment. -/
def lifecycle : SpanEvents := ⟨true, false, false, true⟩

/-- All moments. -/
def full : SpanEvents := ⟨true, true, true, true⟩

/-- Reads span events; each may be missing. -/
def read (reading : Reading) : Decoder SpanEvents := fun v => do
  let r ← Record.read reading ["new", "enter", "exit", "close"] v
  return ⟨← r.withDefault "new" Decode.bool false, ← r.withDefault "enter" Decode.bool false,
    ← r.withDefault "exit" Decode.bool false, ← r.withDefault "close" Decode.bool false⟩

/-- The JSON form of span events. -/
def toJson (s : SpanEvents) : Json :=
  .record [("new", .bool s.new), ("enter", .bool s.enter), ("exit", .bool s.exit),
    ("close", .bool s.close)]

end SpanEvents

/-- The logging section of a configuration. -/
structure Options where
  /-- How much is logged. -/
  level : Level
  /-- The form of log lines. -/
  format : Format
  /-- Where log lines go. -/
  output : Output
  /-- The log file. -/
  filePath : Option String
  /-- When a new log file is begun. -/
  rotation : Rotation
  /-- The number of log files that are kept. -/
  maxFiles : UInt64
  /-- Whether lines name their thread. -/
  threadIds : Bool
  /-- Whether lines name their place in the program. -/
  fileLocation : Bool
  /-- How much is logged for some targets. -/
  filters : Dict Level
  /-- Which moments of a span are logged. -/
  spanEvents : SpanEvents
  deriving DecidableEq

namespace Options

/-- The name of a log file that was given none. -/
def ownName : String := "hexabot.log"

/-- The options of a configuration that does not name any. -/
def standard : Options :=
  ⟨.info, .compact, .stdout, none, .never, 5, false, false, .empty, .none⟩

/-- Reads the logging section; each option may be missing. -/
def read (reading : Reading) : Decoder Options := fun v => do
  let r ← Record.read reading ["level", "format", "output", "file_path", "rotation", "max_files",
    "thread_ids", "file_location", "filters", "span_events"] v
  return {
    level := ← r.withDefault "level" (Level.read reading) standard.level
    format := ← r.withDefault "format" (Format.read reading) standard.format
    output := ← r.withDefault "output" (Output.read reading) standard.output
    filePath := ← r.optional "file_path" Decode.text
    rotation := ← r.withDefault "rotation" (Rotation.read reading) standard.rotation
    maxFiles := ← r.withDefault "max_files" Decode.uint64 standard.maxFiles
    threadIds := ← r.withDefault "thread_ids" Decode.bool false
    fileLocation := ← r.withDefault "file_location" Decode.bool false
    filters := ← r.withDefault "filters" (Decode.dict (Level.read reading)) .empty
    spanEvents := ← r.withDefault "span_events" (SpanEvents.read reading) .none }

/-- Reads the logging section strictly. -/
def ofJson? : Decoder Options := read .strict

/-- The JSON form of the logging section. -/
def toJson (o : Options) : Json :=
  .record [("level", o.level.toJson), ("format", .str o.format.name),
    ("output", .str o.output.name), ("file_path", Json.orNull .str o.filePath),
    ("rotation", .str o.rotation.name), ("max_files", .nat o.maxFiles.toNat),
    ("thread_ids", .bool o.threadIds), ("file_location", .bool o.fileLocation),
    ("filters", .ofDict (o.filters.map Level.toJson)), ("span_events", o.spanEvents.toJson)]

/-- The directory and the name of the log file, if log lines go to one. A path that ends in `..`
names a directory, in which the file has a name of its own. -/
def logFile? (o : Options) : Option (List String × String) :=
  match o.output, o.filePath with
  | .file, some path =>
    let names := (path.splitToList (· = '/')).filter fun name => name ≠ "" && name ≠ "."
    let root := if path.startsWith "/" then ["/"] else []
    match names.getLast? with
    | some name =>
      if name = ".." then some (root ++ names, ownName)
      else some (root ++ names.dropLast, name)
    | none => some (root, ownName)
  | _, _ => none

end Options

end Logging

end Chatflow

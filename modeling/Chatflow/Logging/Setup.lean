import Chatflow.Logging.Options
import Chatflow.Text.Quoted

/-!
# Logging setups

A `Setup` is a set of logging options on its way to being installed, with the filters written as
directives. `describe` is its text in diagnostics.
-/

namespace Chatflow

namespace Logging

/-- Logging options about to be installed. -/
structure Setup where
  /-- How much is logged. -/
  level : Level
  /-- How much is logged for some targets, as `target=level`. -/
  directives : List String
  /-- Which moments of a span are logged. -/
  spanEvents : SpanEvents
  /-- The form of log lines. -/
  format : Format
  /-- Where log lines go. -/
  output : Output
  /-- The log file. -/
  filePath : Option String
  /-- When a new log file is begun. -/
  rotation : Rotation
  /-- The number of log files that are kept. -/
  maxFiles : UInt64
  /-- Whether lines name their target. -/
  target : Bool
  /-- Whether lines name their thread. -/
  threadIds : Bool
  /-- Whether lines name their place in the program. -/
  fileLocation : Bool
  deriving DecidableEq

namespace Setup

/-- The text of the directive for a target. -/
def directive (target : String) (level : Level) : String := target ++ "=" ++ level.name

/-- The setup of a logging section, with its filters by target. -/
def ofOptions (o : Options) : Setup where
  level := o.level
  directives := o.filters.entries.map fun e => directive e.1 e.2
  spanEvents := o.spanEvents
  format := o.format
  output := o.output
  filePath := o.filePath
  rotation := o.rotation
  maxFiles := o.maxFiles
  target := true
  threadIds := o.threadIds
  fileLocation := o.fileLocation

/-- The setup of a configuration that does not name any options. -/
def standard : Setup := ofOptions .standard

/-- The text of fields in braces after a name. -/
def describeFields (name : String) (fields : List (String × String)) : String :=
  name ++ " \x7b " ++ ", ".intercalate (fields.map fun f => f.1 ++ ": " ++ f.2) ++ " \x7d"

/-- The text of span events in diagnostics. -/
def describeSpans (s : SpanEvents) : String :=
  describeFields "SpanEvents" [("new", toString s.new), ("enter", toString s.enter),
    ("exit", toString s.exit), ("close", toString s.close)]

/-- The text of a setup in diagnostics. -/
def describe (s : Setup) : String :=
  describeFields "LoggingBuilder" [("level", "Level(" ++ s.level.title ++ ")"),
    ("directives", Text.quoteAll s.directives), ("span_events", describeSpans s.spanEvents),
    ("format", s.format.title), ("output", s.output.title),
    ("file_path", (s.filePath.map fun p => "Some(" ++ Text.quote p ++ ")").getD "None"),
    ("rotation", s.rotation.title), ("max_files", toString s.maxFiles.toNat),
    ("with_target", toString s.target), ("with_thread_ids", toString s.threadIds),
    ("with_file_location", toString s.fileLocation)]

end Setup

end Logging

end Chatflow

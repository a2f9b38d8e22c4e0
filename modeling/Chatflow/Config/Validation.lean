import Chatflow.Config.Schema
import Chatflow.Decimal.Layout
import Chatflow.Text.Quoted

/-!
# Valid configurations

`Config.validate` refuses what cannot work: a log file without a path, a filter without a target,
a bot without languages or with nothing to fall back on, a confidence that is none. The first
fault in that order is the one reported.
-/

namespace Chatflow

/-- Why there is no configuration. -/
inductive ConfigError where
  /-- The file asked for is not there. -/
  | fileNotFound (path : String)
  /-- Files of this kind are not read. -/
  | unsupportedFormat (extension : String)
  /-- What was gathered is no configuration. -/
  | extract
  /-- An option has a value that cannot work. -/
  | validation (reason : String)
  /-- An option is needed. -/
  | missingField (field : String)
  deriving DecidableEq, Repr

/-- The text of a configuration error; what the gathered options lack is left open. -/
def ConfigError.message : ConfigError → String
  | .fileNotFound path => "Configuration file not found: " ++ path
  | .unsupportedFormat extension => "Unsupported configuration format: ." ++ extension
  | .extract => "Failed to extract configuration"
  | .validation reason => "Invalid configuration: " ++ reason
  | .missingField field => "Missing required configuration field: " ++ field

namespace Logging.Options

/-- Refuses a log file without a path and a filter without a target. -/
def validate (o : Options) : Except ConfigError Unit :=
  if o.output = .file && o.filePath.isNone then .error (.missingField "logging.file_path")
  else
    match o.filters.keys.find? fun target => (Text.trim target).isEmpty with
    | some target => .error (.validation ("Invalid logging filter target: " ++ Text.quote target))
    | none => .ok ()

end Logging.Options

namespace Settings

/-- Whether one of the fallback texts is not blank. -/
def hasMessage (s : Settings) : Bool :=
  s.fallbackMessages.any fun m => !(Text.trim m).isEmpty

/-- Refuses settings without a language, an empty name of a fallback block, and a fallback with
nothing to say. -/
def validate (s : Settings) : Except ConfigError Unit :=
  if s.languages.isEmpty then .error (.missingField "chatbot.languages")
  else if s.fallbackBlock = some "" then
    .error (.validation "chatbot.fallback_block must not be empty when set")
  else if s.globalFallback && s.fallbackBlock.isNone && !s.hasMessage then
    .error (.validation
      ("Global fallback is enabled but neither a fallback block nor a fallback " ++
        "message is set"))
  else .ok ()

end Settings

namespace NlpOptions

/-- Refuses a confidence that is not between 0 and 1. -/
def validate (o : NlpOptions) : Except ConfigError Unit :=
  if 0 ≤ o.threshold && o.threshold ≤ 1 then .ok ()
  else .error (.validation ("nlu.confidence_threshold must be within [0, 1], got " ++
    Decimal.plainText o.threshold))

end NlpOptions

namespace Config

/-- Refuses a configuration that cannot work. -/
def validate (c : Config) : Except ConfigError Unit := do
  c.logging.validate
  c.chatbot.validate
  c.nlu.validate

end Config

end Chatflow

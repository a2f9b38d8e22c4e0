import Chatflow.Bot.Settings
import Chatflow.Logging.Options

/-!
# Configurations

A `Config` has four sections: logging, the settings of the bot, language understanding, and
telemetry. Every option has a standard value.
-/

namespace Chatflow

/-- How language understanding is used. -/
structure NlpOptions where
  /-- Whether it is used at all. -/
  enabled : Bool
  /-- The confidence below which an entity does not count. -/
  threshold : Float
  deriving DecidableEq

namespace NlpOptions

/-- All that is found counts. -/
def standard : NlpOptions := ⟨true, 0⟩

/-- Reads the section on language understanding; each option may be missing. -/
def read (reading : Reading) : Decoder NlpOptions := fun v => do
  let r ← Record.read reading ["enabled", "confidence_threshold"] v
  return ⟨← r.withDefault "enabled" Decode.bool true,
    ← r.withDefault "confidence_threshold" Decode.float 0⟩

/-- The section on language understanding, with doubles in a form of their own. -/
def write (double : Float → Json) (o : NlpOptions) : Json :=
  .record [("enabled", .bool o.enabled), ("confidence_threshold", double o.threshold)]

end NlpOptions

/-- The settings of a configuration that does not name any. -/
def Settings.standard : Settings where
  globalFallback := true
  fallbackBlock := .none
  fallbackMessages := [
    "Sorry but i didn't understand your request. Maybe you can check the menu",
    "I'm really sorry but i don't quite understand what you are saying :("]
  contact := .empty
  languages := ["en"]

/-- Reads the section with the settings of the bot; each may be missing. -/
def Settings.readSection (reading : Reading) : Decoder Settings := fun v => do
  let r ← Record.read reading
    ["global_fallback", "fallback_block", "fallback_message", "languages", "contact"] v
  return {
    globalFallback := ← r.withDefault "global_fallback" Decode.bool standard.globalFallback
    fallbackBlock := ← r.optional "fallback_block" Decode.text
    fallbackMessages :=
      ← r.withDefault "fallback_message" (Decode.list Decode.text) standard.fallbackMessages
    languages := ← r.withDefault "languages" (Decode.list Decode.text) standard.languages
    contact := ← r.withDefault "contact" (Decode.dict Decode.text) .empty }

/-- A configuration. -/
structure Config where
  /-- What is logged and where. -/
  logging : Logging.Options
  /-- The settings of the bot. -/
  chatbot : Settings
  /-- How language understanding is used. -/
  nlu : NlpOptions
  /-- Whether telemetry is counted. -/
  telemetry : Bool
  deriving DecidableEq

namespace Config

/-- The configuration that does not name any option. -/
def standard : Config := ⟨.standard, .standard, .standard, true⟩

/-- Reads a configuration; every section may be missing. -/
def read (reading : Reading) : Decoder Config := fun v => do
  let r ← Record.read reading ["logging", "chatbot", "nlu", "telemetry"] v
  return {
    logging := ← r.withDefault "logging" (Logging.Options.read reading) .standard
    chatbot := ← r.withDefault "chatbot" (Settings.readSection reading) .standard
    nlu := ← r.withDefault "nlu" (NlpOptions.read reading) .standard
    telemetry := ← r.withDefault "telemetry" (fun v => do
      (← Record.read reading ["enabled"] v).withDefault "enabled" Decode.bool true) true }

/-- Reads a configuration from one document. -/
def ofJson? : Decoder Config := read .strict

/-- Reads a configuration that was gathered from layers. -/
def ofLayers? : Decoder Config := read .lax

/-- A configuration with doubles in a form of their own. -/
def write (double : Float → Json) (c : Config) : Json :=
  .record [("logging", c.logging.toJson), ("chatbot", c.chatbot.toJson),
    ("nlu", c.nlu.write double), ("telemetry", .record [("enabled", .bool c.telemetry)])]

/-- The JSON form of a configuration. -/
def toJson : Config → Json := write .ofFloat

/-- The layer of a configuration, in which a double stays what it is even if it is not finite. -/
def layer : Config → Json := write .real

end Config

end Chatflow

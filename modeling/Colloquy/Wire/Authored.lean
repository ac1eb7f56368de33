import Colloquy.Wire.Turn

/-!
# The form of what is authored

The shapes of the catalog and of the settings. Every field of theirs may be left out; what is left
out of the settings has the value that the settings have by themselves.
-/

namespace Colloquy.Wire

open Colloquy.Json (Codec Shape)

/-! ### The catalog -/

/-- The shape of what is authored for a topic. -/
def topicEntryShape : Shape TopicEntry where
  name := "NodeFallback"
  blank := {}
  fields := [
    ⟨"option", treatment, (·.treatment), fun v r => { r with treatment := v }, .optional⟩,
    ⟨"context", context, (·.context), fun v r => { r with context := v }, .optional⟩]

/-- What is authored for topics. -/
def topicEntry : Codec TopicEntry := topicEntryShape.codec

/-- The shape of what is authored for a module. -/
def moduleEntryShape : Shape ModuleEntry where
  name := "ModuleEntry"
  blank := {}
  fields := [
    ⟨"context", context, (·.context), fun v r => { r with context := v }, .optional⟩,
    ⟨"content", .dict context, (·.contents), fun v r => { r with contents := v }, .optional⟩,
    ⟨"topics", .dict topicEntry, (·.topics), fun v r => { r with topics := v }, .optional⟩]

/-- What is authored for modules. -/
def moduleEntry : Codec ModuleEntry := moduleEntryShape.codec

/-- The shape of a catalog. -/
def catalogShape : Shape Catalog where
  name := "StaticCatalog"
  blank := {}
  fields := [
    ⟨"default_context", context, (·.defaultContext), fun v r => { r with defaultContext := v },
      .optional⟩,
    ⟨"modules", .dict moduleEntry, (·.modules), fun v r => { r with modules := v }, .optional⟩]

/-- Catalogs. -/
def catalog : Codec Catalog := catalogShape.codec

/-! ### The settings -/

/-- The shape of the settings of the arbiter. -/
def arbiterSettingsShape : Shape ArbiterSettings where
  name := "FallbackConfig"
  blank := {}
  fields := [
    ⟨"enabled", .bool, (·.enabled), fun v r => { r with enabled := v }, .optional⟩,
    ⟨"open_conversation_module", .string, (·.openModule), fun v r => { r with openModule := v },
      .optional⟩,
    ⟨"remote_model", .string, (·.remoteModel), fun v r => { r with remoteModel := v }, .optional⟩,
    ⟨"speech_received_event", .string, (·.resumeEvent), fun v r => { r with resumeEvent := v },
      .optional⟩]

/-- Settings of the arbiter. -/
def arbiterSettings : Codec ArbiterSettings := arbiterSettingsShape.codec

/-- The shape of the settings of the tracker. -/
def trackerSettingsShape : Shape TrackerSettings where
  name := "TrackerConfig"
  blank := {}
  fields := [
    ⟨"tangent_modules", .list .string, (·.tangentModules),
      fun v r => { r with tangentModules := v }, .optional⟩,
    ⟨"interrupting_events", .list .string, (·.interruptingEvents),
      fun v r => { r with interruptingEvents := v }, .optional⟩,
    ⟨"base_topics", .list .string, (·.baseTopics), fun v r => { r with baseTopics := v },
      .optional⟩,
    ⟨"interruption_variable", .string, (·.interruptionVariable),
      fun v r => { r with interruptionVariable := v }, .optional⟩,
    ⟨"stream_event", .string, (·.streamEvent), fun v r => { r with streamEvent := v },
      .optional⟩]

/-- Settings of the tracker. -/
def trackerSettings : Codec TrackerSettings := trackerSettingsShape.codec

/-- The shape of all settings. -/
def settingsShape : Shape Settings where
  name := "Config"
  blank := {}
  fields := [
    ⟨"fallback", arbiterSettings, (·.arbiter), fun v r => { r with arbiter := v }, .optional⟩,
    ⟨"tracker", trackerSettings, (·.tracker), fun v r => { r with tracker := v }, .optional⟩]

/-- Settings. -/
def settings : Codec Settings := settingsShape.codec

end Colloquy.Wire

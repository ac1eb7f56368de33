import Colloquy.Wire.Authored
import Colloquy.Wire.Engine

/-!
# The form of sessions

The shapes of scripts, reports and summaries, and of what they are made of.
-/

namespace Colloquy.Wire

open Colloquy.Json (Codec Shape)

/-! ### Parts -/

/-- The shape of what the surroundings say. -/
def conversationShape : Shape Conversation where
  name := "ConversationState"
  blank := {}
  fields := [
    ⟨"phase", phase, (·.phase), fun v r => { r with phase := v }, .optional⟩,
    ⟨"interruptible", .bool, (·.interruptible), fun v r => { r with interruptible := v },
      .optional⟩]

/-- What the surroundings say. -/
def conversation : Codec Conversation := conversationShape.codec

/-- The shape of a place. -/
def placeShape : Shape Place where
  name := "Location"
  blank := {}
  fields := [
    ⟨"module", .string, (·.module), fun v r => { r with module := v }, .required⟩,
    ⟨"content_id", .string, (·.contentId), fun v r => { r with contentId := v }, .required⟩,
    ⟨"topic", .string, (·.topic), fun v r => { r with topic := v }, .required⟩]

/-- Places. -/
def place : Codec Place := placeShape.codec

/-- The shape of a prompt. -/
def promptShape : Shape Prompt where
  name := "LastPrompt"
  blank := default
  fields := [
    ⟨"text", .string, (·.text), fun v r => { r with text := v }, .required⟩,
    ⟨"topic", .string, (·.topic), fun v r => { r with topic := v }, .required⟩,
    ⟨"engine", promptSource, (·.source), fun v r => { r with source := v }, .required⟩]

/-- Prompts. -/
def prompt : Codec Prompt := promptShape.codec

/-- The shape of a reprompt. -/
def repromptShape : Shape Reprompt where
  name := "RepromptEntry"
  blank := default
  fields := [
    ⟨"module", .string, (·.module), fun v r => { r with module := v }, .required⟩,
    ⟨"topic", .string, (·.topic), fun v r => { r with topic := v }, .required⟩,
    ⟨"text", .string, (·.text), fun v r => { r with text := v }, .required⟩]

/-- Reprompts. -/
def reprompt : Codec Reprompt := repromptShape.codec

/-- The shape of a queue. -/
def queueShape : Shape RepromptQueue where
  name := "RepromptQueue"
  blank := {}
  fields := [⟨"entries", .list reprompt, (·.entries), fun v _ => ⟨v⟩, .required⟩]

/-- Queues. -/
def queue : Codec RepromptQueue := queueShape.codec

/-- The shape of a command as it is called. -/
def commandCallShape : Shape CommandCall where
  name := "CommandCall"
  blank := default
  fields := [
    ⟨"name", .string, (·.name), fun v r => { r with name := v }, .required⟩,
    ⟨"arg", .option .string, (·.argument), fun v r => { r with argument := v }, .optional⟩]

/-- Commands as they are called. -/
def commandCall : Codec CommandCall := commandCallShape.codec

/-- The shape of what came of a command. -/
def commandOutcomeShape : Shape CommandOutcome where
  name := "CommandResult"
  blank := default
  fields := [
    ⟨"command", .string, (·.command), fun v r => { r with command := v }, .required⟩,
    ⟨"status", commandStatus, (·.status), fun v r => { r with status := v }, .required⟩,
    ⟨"value", .string, (·.value), fun v r => { r with value := v }, .required⟩]

/-- What came of commands. -/
def commandOutcome : Codec CommandOutcome := commandOutcomeShape.codec

/-! ### Scripts -/

/-- The shape of a script. -/
def turnScriptShape : Shape TurnScript where
  name := "TurnScript"
  blank := { input := default }
  fields := [
    ⟨"input", input, (·.input), fun v r => { r with input := v }, .required⟩,
    ⟨"commands", .list commandCall, (·.commands), fun v r => { r with commands := v }, .optional⟩,
    ⟨"output", .option output, (·.output), fun v r => { r with output := v }, .optional⟩,
    ⟨"engine", engineScript, (·.engine), fun v r => { r with engine := v }, .optional⟩,
    ⟨"abort", .bool, (·.abort), fun v r => { r with abort := v }, .optional⟩,
    ⟨"remote", .bool, (·.remote), fun v r => { r with remote := v }, .optional⟩,
    ⟨"state", .option conversation, (·.conversation), fun v r => { r with conversation := v },
      .optional⟩,
    ⟨"social_chat_enabled", .bool, (·.socialChat), fun v r => { r with socialChat := v },
      .optional⟩]

/-- Scripts. -/
def turnScript : Codec TurnScript := turnScriptShape.codec

/-! ### Reports and summaries -/

/-- The shape of a report. -/
def reportShape : Shape Report where
  name := "TurnReport"
  blank := default
  fields := [
    ⟨"turn", .word64 "u64", (·.turn), fun v r => { r with turn := v }, .required⟩,
    ⟨"input", .string, (·.input), fun v r => { r with input := v }, .required⟩,
    ⟨"response", .option .string, (·.response), fun v r => { r with response := v }, .nullable⟩,
    ⟨"output_type", .option outputKind, (·.outputKind), fun v r => { r with outputKind := v },
      .nullable⟩,
    ⟨"fallback_kind", .option resolution, (·.resolution), fun v r => { r with resolution := v },
      .nullable⟩,
    ⟨"policy", .option owner, (·.owner), fun v r => { r with owner := v }, .nullable⟩,
    ⟨"counter", .word32, (·.counter), fun v r => { r with counter := v }, .required⟩,
    ⟨"fallback_state", stage, (·.stage), fun v r => { r with stage := v }, .required⟩,
    ⟨"markup_slot", slot, (·.slot), fun v r => { r with slot := v }, .required⟩,
    ⟨"reprompts", .word64 "usize", (·.reprompts), fun v r => { r with reprompts := v },
      .required⟩,
    ⟨"module", .string, (·.module), fun v r => { r with module := v }, .required⟩,
    ⟨"commands", .list commandOutcome, (·.commands), fun v r => { r with commands := v },
      .required⟩,
    ⟨"aborted", .bool, (·.aborted), fun v r => { r with aborted := v }, .required⟩]

/-- Reports. -/
def report : Codec Report := reportShape.codec

/-- The shape of a summary. -/
def summaryShape : Shape Summary where
  name := "SessionSummary"
  blank := default
  fields := [
    ⟨"turns", .word64 "u64", (·.turns), fun v r => { r with turns := v }, .required⟩,
    ⟨"policy", .option owner, (·.owner), fun v r => { r with owner := v }, .nullable⟩,
    ⟨"counter", .word32, (·.counter), fun v r => { r with counter := v }, .required⟩,
    ⟨"fallback_state", stage, (·.stage), fun v r => { r with stage := v }, .required⟩,
    ⟨"markup_slot", slot, (·.slot), fun v r => { r with slot := v }, .required⟩,
    ⟨"prev_module", .string, (·.prevModule), fun v r => { r with prevModule := v }, .required⟩,
    ⟨"location", place, (·.place), fun v r => { r with place := v }, .required⟩,
    ⟨"reprompts", .list reprompt, (·.reprompts), fun v r => { r with reprompts := v },
      .required⟩,
    ⟨"last_prompt", .option prompt, (·.lastPrompt), fun v r => { r with lastPrompt := v },
      .nullable⟩,
    ⟨"conversation", conversation, (·.conversation), fun v r => { r with conversation := v },
      .required⟩]

/-- Summaries. -/
def summary : Codec Summary := summaryShape.codec

end Colloquy.Wire

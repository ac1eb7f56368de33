import Colloquy.Wire.Names

/-!
# The form of turns

The shapes of what comes in, of what is answered, of the request to the remote engine, and of the
turn they make up.
-/

namespace Colloquy.Wire

open Colloquy.Json (Codec Shape)

/-- The shape of an input. -/
def inputShape : Shape Input where
  name := "TurnInput"
  blank := default
  fields := [
    ⟨"kind", inputKind, (·.kind), fun v r => { r with kind := v }, .required⟩,
    ⟨"text", .string, (·.text), fun v r => { r with text := v }, .required⟩,
    ⟨"variables", .dict .string, (·.vars), fun v r => { r with vars := v }, .optional⟩,
    ⟨"promoted", .bool, (·.promoted), fun v r => { r with promoted := v }, .optional⟩]

/-- Inputs. -/
def input : Codec Input := inputShape.codec

/-- The shape of an output. -/
def outputShape : Shape Output where
  name := "TurnOutput"
  blank := { response := "" }
  fields := [
    ⟨"response", .string, (·.response), fun v r => { r with response := v }, .required⟩,
    ⟨"output_type", outputKind, (·.kind), fun v r => { r with kind := v }, .optional⟩,
    ⟨"module", .string, (·.module), fun v r => { r with module := v }, .optional⟩,
    ⟨"topics", .list .string, (·.topics), fun v r => { r with topics := v }, .optional⟩,
    ⟨"content_id", .string, (·.contentId), fun v r => { r with contentId := v }, .optional⟩]

/-- Outputs. -/
def output : Codec Output := outputShape.codec

/-- The shape of a context. -/
def contextShape : Shape RemoteContext where
  name := "FallbackContext"
  blank := {}
  fields := [
    ⟨"id", .string, (·.id), fun v r => { r with id := v }, .optional⟩,
    ⟨"text", .string, (·.text), fun v r => { r with text := v }, .optional⟩]

/-- Contexts. -/
def context : Codec RemoteContext := contextShape.codec

/-- The shape of a request. -/
def requestShape : Shape RemoteRequest where
  name := "RemoteRequest"
  blank := {}
  fields := [
    ⟨"context", context, (·.context), fun v r => { r with context := v }, .optional⟩,
    ⟨"allow_multiple", .bool, (·.allowMultiple), fun v r => { r with allowMultiple := v },
      .optional⟩,
    ⟨"settings", .dict .string, (·.settings), fun v r => { r with settings := v }, .optional⟩]

/-- Requests. -/
def request : Codec RemoteRequest := requestShape.codec

/-- The shape of a turn. -/
def turnShape : Shape Turn where
  name := "Turn"
  blank := { input := default }
  fields := [
    ⟨"input", input, (·.input), fun v r => { r with input := v }, .required⟩,
    ⟨"output", .option output, (·.output), fun v r => { r with output := v }, .optional⟩,
    ⟨"remote_request", request, (·.remoteRequest), fun v r => { r with remoteRequest := v },
      .optional⟩,
    ⟨"social_chat_enabled", .bool, (·.socialChat), fun v r => { r with socialChat := v },
      .optional⟩]

/-- Turns. -/
def turn : Codec Turn := turnShape.codec

end Colloquy.Wire

import Colloquy.Json.Codec
import Colloquy.Session

/-!
# The names of the choices

Every choice of the domain has a name for each of its values, by which it is written and read; the
order in which the values are listed is the order in which a message names them.
-/

namespace Colloquy.Wire

open Colloquy.Json (Codec)

/-- The kinds of input. -/
def inputKind : Codec InputKind :=
  .choice [.speech, .event] fun
    | .speech => "speech"
    | .event => "event"

/-- What an output counts as. -/
def outputKind : Codec OutputKind :=
  .choice [.normal, .fallback, .contextualFallback, .eventInput, .globalCommand, .globalResponse,
      .empty] fun
    | .normal => "NORMAL"
    | .fallback => "FALLBACK"
    | .contextualFallback => "CONTEXTUAL_FALLBACK"
    | .eventInput => "EVENT_INPUT"
    | .globalCommand => "GLOBAL_COMMAND"
    | .globalResponse => "GLOBAL_RESPONSE"
    | .empty => "EMPTY"

/-- The ways a fallback is resolved. -/
def resolution : Codec Resolution :=
  .choice [.unknown, .localRule, .localFallback, .moveOn, .confirmation, .clarification, .reprompt,
      .noRemote, .useRemote] fun
    | .unknown => "UNKNOWN"
    | .localRule => "LOCAL_RULE"
    | .localFallback => "LOCAL_FALLBACK"
    | .moveOn => "MOVE_ON"
    | .confirmation => "CONFIRMATION"
    | .clarification => "CLARIFICATION"
    | .reprompt => "REPROMPT"
    | .noRemote => "NO_REMOTE"
    | .useRemote => "USE_REMOTE"

/-- The stages of an escalation. -/
def stage : Codec Stage := .choice [.initial, .afterInitial, .second] Stage.name

/-- The owners of a turn. -/
def owner : Codec Owner := .choice Owner.all Owner.name

/-- The slots. -/
def slot : Codec Slot :=
  .choice [.zero, .one] fun
    | .zero => "Slot0"
    | .one => "Slot1"

/-- The phases of a conversation. -/
def phase : Codec Phase :=
  .choice [.awake, .sleep] fun
    | .awake => "awake"
    | .sleep => "sleep"

/-- The engines a prompt comes from. -/
def promptSource : Codec PromptSource :=
  .choice [.localEngine, .remoteEngine] fun
    | .localEngine => "local"
    | .remoteEngine => "remote"

/-- The stock lines. -/
def stockLine : Codec StockLine :=
  .choice [.idleAnimation, .curiousAnimation, .fallbackRepeat] fun
    | .idleAnimation => "idle_animation"
    | .curiousAnimation => "curious_animation"
    | .fallbackRepeat => "fallback_repeat"

/-- The states a command ends in. -/
def commandStatus : Codec CommandStatus :=
  .choice [.ok, .failed] fun
    | .ok => "ok"
    | .failed => "failed"

/-- The treatments of a turn without an answer. -/
def treatment : Codec Treatment :=
  .choice [.ordinary, .silent, .conversation, .localOnly, .noRemote] fun
    | .ordinary => "default"
    | .silent => "silent"
    | .conversation => "conversation"
    | .localOnly => "local_only"
    | .noRemote => "no_remote"

end Colloquy.Wire

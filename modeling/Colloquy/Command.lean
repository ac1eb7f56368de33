import Colloquy.Arbiter
import Colloquy.Tracker

/-!
# Commands

In the middle of a turn the dialogue engine raises **commands**, to the arbiter or to the tracker.
They come by name, one of them with an argument that it needs and one with an argument that it can
do without. Whatever comes of a command is reported; nothing that goes wrong ends the turn.

## The written form

A command is written `name` or `name(argument)`. Blanks around the name and around the argument mean
nothing, and an argument of blanks only is none. The argument begins after the first parenthesis and
goes to the end of the text, without one closing parenthesis if that stands there.
-/

namespace Colloquy

/-- A **command**. -/
inductive Command where
  | handleFallback
  | keepCounter
  | resetCounter
  | resetAllCounters
  | restoreCounter
  | speechInput
  | prependReprompt (text : String)
  | overrideWithReprompt
  | sendReprompt (engine : Option String)
  | saveMarkup
  | restoreMarkup
deriving DecidableEq, Repr

namespace Command

/-! ### Names and the written form -/

/-- The **name** of a command. -/
def name : Command → String
  | .handleFallback => "handle_fallback"
  | .keepCounter => "fallback_keep_counter"
  | .resetCounter => "fallback_reset_counter"
  | .resetAllCounters => "fallback_reset_all_counters"
  | .restoreCounter => "fallback_restore_counter"
  | .speechInput => "fallback_speech_input"
  | .prependReprompt _ => "prepend_current_reprompt"
  | .overrideWithReprompt => "override_with_reprompt"
  | .sendReprompt _ => "send_reprompt"
  | .saveMarkup => "save_markup_state"
  | .restoreMarkup => "restore_markup_state"

/-- The **argument** of a command. -/
def argument? : Command → Option String
  | .prependReprompt text => some text
  | .sendReprompt engine => engine
  | _ => none

/-- The **written form** of a command. -/
def text (command : Command) : String :=
  match command.argument? with
  | some argument => command.name ++ "(" ++ argument ++ ")"
  | none => command.name

/-- Whether the value of a command is said in the turn. -/
def isSpoken : Command → Bool
  | .sendReprompt _ | .restoreMarkup => true
  | _ => false

/-- An argument without the blanks around it, if anything is left of it. -/
def argumentOf (argument : Option String) : Option String :=
  (argument.map Text.trim).filter (· ≠ "")

/-- The command of a **name and an argument**. -/
def of (name : String) (argument : Option String) : Except Refusal Command :=
  let key := Text.trim name
  let argument := argumentOf argument
  if key = "handle_fallback" then .ok .handleFallback
  else if key = "fallback_keep_counter" then .ok .keepCounter
  else if key = "fallback_reset_counter" then .ok .resetCounter
  else if key = "fallback_reset_all_counters" then .ok .resetAllCounters
  else if key = "fallback_restore_counter" then .ok .restoreCounter
  else if key = "fallback_speech_input" then .ok .speechInput
  else if key = "prepend_current_reprompt" then
    match argument with
    | some text => .ok (.prependReprompt text)
    | none => .error (.missingArgument name "text")
  else if key = "override_with_reprompt" then .ok .overrideWithReprompt
  else if key = "send_reprompt" then .ok (.sendReprompt argument)
  else if key = "save_markup_state" then .ok .saveMarkup
  else if key = "restore_markup_state" then .ok .restoreMarkup
  else .error (.unknownCommand key)

/-- A text without one closing parenthesis at its end. -/
def withoutClosing (s : String) : String :=
  if s.toList.getLast? = some ')' then String.ofList s.toList.dropLast else s

/-- The command that a **text** writes. -/
def ofText (s : String) : Except Refusal Command :=
  let s := Text.trim s
  match Text.cutAt? '(' s with
  | some (name, rest) => of name (some (withoutClosing rest))
  | none => of s none

end Command

/-! ### Calls and their outcomes -/

/-- A command as it is **called**: a name and an argument, which may name no command. -/
structure CommandCall where
  name : String
  argument : Option String := none
deriving DecidableEq, Repr, Inhabited

/-- Whether a command did what it was called for. -/
inductive CommandStatus where
  | ok
  | failed
deriving DecidableEq, Repr, Inhabited

/-- What **came of** a command: its value, or what is said about the refusal. -/
structure CommandOutcome where
  command : String
  status : CommandStatus
  value : String
deriving DecidableEq, Repr, Inhabited

/-- The outcome of a command that has a value or was refused. -/
def CommandOutcome.of (command : String) : Except Refusal String → CommandOutcome
  | .ok value => ⟨command, .ok, value⟩
  | .error refusal => ⟨command, .failed, refusal.message⟩

/-! ### Running a command -/

/-- Everything a command may **act on**: the arbiter and the tracker, and the engine of the turn. -/
structure Desk where
  arbiter : Arbiter := {}
  tracker : Tracker := {}
  engine : Engine := {}
deriving DecidableEq, Inhabited

namespace Desk

/-- The desk after a counter command, whose value is empty. -/
def withArbiter (desk : Desk) (result : Except Refusal Arbiter) : Except Refusal (String × Desk) :=
  result.map fun arbiter => ("", { desk with arbiter })

/-- The desk after a command to the tracker. -/
def withTracker (desk : Desk) (value : String) (tracker : Tracker) :
    Except Refusal (String × Desk) :=
  .ok (value, { desk with tracker })

/-- The value of handling a fallback that has been handled. -/
def handledValue : String := "handled"

/-- Handles a fallback. A turn that nobody owns is left alone. -/
def handle (settings : ArbiterSettings) (desk : Desk) : Except Refusal (String × Desk) :=
  match desk.arbiter.handle settings desk.engine with
  | .ok (.by .., arbiter, engine) => .ok (handledValue, { desk with arbiter, engine })
  | .ok (.disabled, _, _) => .ok ("", desk)
  | .error .noPolicyClaimed => .ok ("", desk)
  | .error refusal => .error refusal

/-- What a command **does**: its value and the desk after it, or why it is refused. -/
def perform (settings : ArbiterSettings) (desk : Desk) :
    Command → Except Refusal (String × Desk)
  | .handleFallback => desk.handle settings
  | .keepCounter => desk.withArbiter (desk.arbiter.command Escalation.keepCounter)
  | .resetCounter => desk.withArbiter (desk.arbiter.command Escalation.resetCounter)
  | .resetAllCounters =>
    desk.withArbiter (desk.arbiter.ownerOrRefusal.map fun _ => desk.arbiter.resetAllCounters)
  | .restoreCounter => desk.withArbiter (desk.arbiter.command Escalation.restoreCounter)
  | .speechInput => desk.arbiter.lastSpeech.map fun speech => (speech, desk)
  | .prependReprompt text => desk.withTracker "" (desk.tracker.setLead text)
  | .overrideWithReprompt => desk.withTracker "" desk.tracker.askOverride
  | .sendReprompt wish =>
    let (value, tracker) := desk.tracker.replay wish
    desk.withTracker value tracker
  | .saveMarkup => desk.withTracker "" desk.tracker.askSave
  | .restoreMarkup =>
    let (value, tracker) := desk.tracker.restore
    desk.withTracker value tracker

/-- **Runs** a command: its outcome, and the desk after it. A refused command changes nothing. -/
def run (settings : ArbiterSettings) (desk : Desk) (command : Command) : CommandOutcome × Desk :=
  match desk.perform settings command with
  | .ok (value, desk) => (.of command.name (.ok value), desk)
  | .error refusal => (.of command.name (.error refusal), desk)

/-- **Answers** a call: the outcome, what of it is said in the turn, and the desk after it. A call
that names no command is reported under the name it was called by. -/
def answer (settings : ArbiterSettings) (desk : Desk) (call : CommandCall) :
    CommandOutcome × Option String × Desk :=
  match Command.of call.name call.argument with
  | .error refusal => (.of call.name (.error refusal), none, desk)
  | .ok command =>
    let (outcome, desk) := desk.run settings command
    let said := command.isSpoken && outcome.status = .ok && outcome.value ≠ ""
    (outcome, if said then some outcome.value else none, desk)

end Desk

end Colloquy

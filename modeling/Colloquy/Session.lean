import Colloquy.Report

/-!
# Sessions

A **session** is a conversation that is played from scripts, one for each turn: what comes in, which
commands the dialogue engine raises, what it answers by itself, and how the turn ends. A turn is
finished here, or answered by the remote engine, or aborted.

## What is said

The output of a turn is put together from what was scripted, the lines the engine was made to say,
and the values of those commands whose value is said, in this order. Speech is set off by a space; a
value without speech, such as a directive, follows without one.
-/

namespace Colloquy

/-- The **script** of a turn. -/
structure TurnScript where
  input : Input
  /-- The commands that the dialogue engine raises, in order. -/
  commands : List CommandCall := []
  /-- What the dialogue engine answers by itself. -/
  output : Option Output := none
  /-- How the engine answers while a fallback is handled. -/
  engine : EngineScript := {}
  /-- The turn is aborted. -/
  abort : Bool := false
  /-- The output came from the remote engine. -/
  remote : Bool := false
  /-- What the surroundings say from this turn on. -/
  conversation : Option Conversation := none
  socialChat : Bool := false
deriving DecidableEq, Inhabited

namespace TurnScript

/-- The script of a turn with this input and nothing else. -/
def ofInput (input : Input) : TurnScript := { input }

/-- The script with an output. -/
def withOutput (script : TurnScript) (output : Output) : TurnScript :=
  { script with output := some output }

/-- The script with one more command. -/
def withCommand (script : TurnScript) (call : CommandCall) : TurnScript :=
  { script with commands := script.commands ++ [call] }

/-- The script with an engine script. -/
def withEngine (script : TurnScript) (engine : EngineScript) : TurnScript := { script with engine }

/-- The script of a turn that is aborted. -/
def aborted (script : TurnScript) : TurnScript := { script with abort := true }

end TurnScript

/-- What a session is **given** once and for all: the settings and the catalog. -/
structure Setup where
  settings : Settings := {}
  catalog : Catalog := {}
deriving DecidableEq, Inhabited

/-- The state of a **session**. -/
structure Session where
  arbiter : Arbiter := {}
  tracker : Tracker := {}
  conversation : Conversation := {}
  turns : UInt64 := 0
deriving DecidableEq, Inhabited

/-- A session at a glance. -/
structure Summary where
  turns : UInt64
  owner : Option Owner
  counter : UInt32
  stage : Stage
  slot : Slot
  prevModule : String
  place : Place
  reprompts : List Reprompt
  lastPrompt : Option Prompt
  conversation : Conversation
deriving DecidableEq, Inhabited

namespace Session

/-- A session before its first turn. -/
def new : Session := {}

/-- What the surroundings say **from now on**; waking up sets every counter to zero. -/
def setConversation (s : Session) (conversation : Conversation) : Session :=
  { s with
    conversation
    arbiter := s.arbiter.phaseChanged s.conversation.phase conversation.phase }

/-! ### What is said in a turn -/

/-- Adds the value of a command to a response. -/
def appendSpoken (response value : String) : String :=
  if response ≠ "" ∧ ¬ Markup.isSpeechless value then response ++ " " ++ value
  else response ++ value

/-- The output with the values of the commands that are said. -/
def withSpoken (output : Option Output) (spoken : List String) : Option Output :=
  if spoken = [] then output
  else
    let output : Output := output.getD { response := "" }
    some { output with response := spoken.foldl appendSpoken output.response }

/-- Answers calls one after the other: the outcomes, what is said, and the desk in the end. -/
def answerAll (settings : ArbiterSettings) (desk : Desk) :
    List CommandCall → List CommandOutcome × List String × Desk
  | [] => ([], [], desk)
  | call :: rest =>
    let (outcome, said, desk) := desk.answer settings call
    let (outcomes, spoken, desk) := answerAll settings desk rest
    (outcome :: outcomes, said.toList ++ spoken, desk)

/-! ### A turn -/

/-- **Opens** a turn: the surroundings, the owner of the turn, and a tracker that has nothing asked
of it yet. -/
def openTurn (setup : Setup) (s : Session) (script : TurnScript) : Session × Turn :=
  let s := { s with turns := s.turns + 1 }
  let s := script.conversation.elim s s.setConversation
  let (arbiter, turn) := s.arbiter.start setup.settings.arbiter setup.catalog s.conversation
    { input := script.input, socialChat := script.socialChat }
  ({ s with arbiter, tracker := s.tracker.start }, turn)

/-- **Closes** a turn: it is aborted, or answered by the remote engine, or finished here. -/
def closeTurn (setup : Setup) (s : Session) (script : TurnScript) (turn : Turn) : Session × Turn :=
  if script.abort then
    ({ s with arbiter := s.arbiter.abort, tracker := s.tracker.abort },
      { turn with output := none })
  else if script.remote then
    ({ s with
        arbiter := s.arbiter.finish turn
        tracker := s.tracker.finishRemote setup.settings.tracker turn }, turn)
  else
    let (tracker, finished) := s.tracker.finish setup.settings.tracker turn
    ({ s with arbiter := s.arbiter.finish turn, tracker }, finished)

/-- The report of a turn that is over. -/
def report (s : Session) (script : TurnScript) (turn : Turn) (engine : Engine)
    (commands : List CommandOutcome) : Report where
  turn := s.turns
  input := turn.input.text
  response := turn.response?
  outputKind := turn.outputKind?
  resolution := engine.resolution?
  owner := s.arbiter.owner?
  counter := s.arbiter.escalation.counter
  stage := s.arbiter.escalation.stage
  slot := s.tracker.slot
  reprompts := s.tracker.queue.size.toUInt64
  module := s.tracker.prevModule
  commands := commands
  aborted := script.abort

/-- **Runs** a turn: its report, and the session after it. -/
def runTurn (setup : Setup) (s : Session) (script : TurnScript) : Report × Session :=
  let (s, turn) := s.openTurn setup script
  let (outcomes, spoken, desk) := answerAll setup.settings.arbiter
    { arbiter := s.arbiter, tracker := s.tracker, engine := { script := script.engine } }
    script.commands
  let output := withSpoken (desk.engine.applyTo script.output) spoken
  let s := { s with arbiter := desk.arbiter, tracker := desk.tracker }
  let (s, turn) := s.closeTurn setup script { turn with output }
  (s.report script turn desk.engine outcomes, s)

/-- **Runs** turns one after the other. -/
def runTurns (setup : Setup) (s : Session) : List TurnScript → List Report × Session
  | [] => ([], s)
  | script :: rest =>
    let (report, s) := s.runTurn setup script
    let (reports, s) := s.runTurns setup rest
    (report :: reports, s)

/-- Takes the reprompt event that the last turn may have raised. -/
def takeEvent (s : Session) : Option Input × Session :=
  let (event, tracker) := s.tracker.takeEvent
  (event, { s with tracker })

/-- The session **at a glance**. -/
def summary (s : Session) : Summary where
  turns := s.turns
  owner := s.arbiter.owner?
  counter := s.arbiter.escalation.counter
  stage := s.arbiter.escalation.stage
  slot := s.tracker.slot
  prevModule := s.tracker.prevModule
  place := s.arbiter.place
  reprompts := s.tracker.queue.entries
  lastPrompt := s.tracker.lastPrompt
  conversation := s.conversation

end Session

end Colloquy

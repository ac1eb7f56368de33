import Colloquy.Engine
import Colloquy.Place
import Colloquy.Settings

/-!
# Escalation: the policy for turns that nothing else claims

A turn without an answer is resolved in two turns. In the **first** one nothing is decided; the
remote engine is asked, and what the local rule of the topic is gets remembered. When its answer has
arrived, an event brings the turn back, and in the **second** one the policy does what its counter
tells it to: at first the generic line, then a clarification or a reprompt, at every second count
the question whether to keep chatting, at every third count another topic. A topic may ask that both
halves be run in one turn, without the remote engine.

## How the stages follow one another

* `initial → afterInitial` when the first turn is handled;
* `afterInitial → second` when it is finished;
* `second → initial` when the second turn is finished, which is where the counter counts;
* any stage → the stage at the start of the turn, when the turn is aborted.

A turn that comes in the second stage and is not the resume event is **stale**: the policy goes back
to the first stage before it does anything else.
-/

namespace Colloquy

/-- The **stage** of the two-turn resolution. -/
inductive Stage where
  | initial
  | afterInitial
  | second
deriving DecidableEq, Repr, Inhabited

/-- The name of a stage. -/
def Stage.name : Stage → String
  | .initial => "INITIAL"
  | .afterInitial => "AFTER_INITIAL"
  | .second => "SECOND"

/-- The state of the **escalation**. The stage, the counter, the remembered rule and utterance, and
whether the topic wants a single turn outlast the turn; the rest is for one turn only. -/
structure Escalation where
  stage : Stage := .initial
  /-- The stage at the start of the turn. -/
  startStage : Stage := .initial
  /-- How many fallbacks have been left unresolved. -/
  counter : UInt32 := 0
  /-- The counter is not to be reset when this turn finishes. -/
  kept : Bool := false
  /-- A reset was asked for in this turn. -/
  resetAsked : Bool := false
  /-- This turn moved on to another topic. -/
  movedOn : Bool := false
  /-- Both halves are run in one turn. -/
  oneTurn : Bool := false
  /-- The local rule of the topic in which the resolution began. -/
  localRule : String := ""
  /-- The utterance that is waiting for the second turn. -/
  lastSpeech : String := ""
deriving DecidableEq, Repr, Inhabited

namespace Escalation

/-! ### Fixed numbers and names -/

/-- At every multiple of this count the conversation moves on to another topic. -/
def moveOnThreshold : UInt32 := 3

/-- At every other multiple of this count the user is asked whether to keep chatting. -/
def chatThreshold : UInt32 := 2

/-- The remote setting that keeps the model from asking back. -/
def noBiasSetting : String := "no_gpt_bias"

/-- The remote setting that names the model. -/
def modelSetting : String := "chat_gpt3_model"

/-! ### Counter commands -/

/-- Lets the counter stand when this turn finishes. -/
def keepCounter (e : Escalation) : Escalation := { e with kept := true }

/-- Sets the counter to zero. -/
def resetCounter (e : Escalation) : Escalation := { e with counter := 0, resetAsked := true }

/-- Sets the counter to where the conversation moves on. -/
def restoreCounter (e : Escalation) : Escalation := { e with counter := moveOnThreshold }

/-! ### The start of a turn -/

/-- Takes a turn in a topic, and notes whether the topic wants it resolved at once. -/
def claim (e : Escalation) (treatment : Treatment) : Escalation :=
  { e with oneTurn := treatment = .noRemote }

/-- Back to the first stage, with nothing waiting. -/
def withdrawn (e : Escalation) : Escalation := { e with stage := .initial, lastSpeech := "" }

/-- What is for one turn only, cleared. -/
def opened (e : Escalation) : Escalation :=
  { e with kept := false, resetAsked := false, movedOn := false, startStage := e.stage }

/-- The request to the remote engine at a place. If no context is authored there, it goes out
without one. -/
def asking (settings : ArbiterSettings) (catalog : Catalog) (place : Place)
    (request : RemoteRequest) : RemoteRequest :=
  let placed := match request.placed catalog place with
    | .ok placed => placed
    | .error _ => request
  { placed with
    allowMultiple := true
    settings := (placed.settings.insert noBiasSetting "true").insert modelSetting
      settings.remoteModel }

/-- **Starts** a turn: a stale resolution is withdrawn; in the first stage the remote engine is
asked, and in the second one the resume event is promoted. -/
def start (settings : ArbiterSettings) (catalog : Catalog) (place : Place) (e : Escalation)
    (turn : Turn) : Escalation × Turn :=
  let resumes := turn.input.isEventNamed settings.resumeEvent
  let e := e.opened
  let e := if e.stage = .second ∧ ¬ resumes then e.withdrawn else e
  if e.stage = .initial then
    if e.oneTurn then (e, turn)
    else
      (e, { turn with remoteRequest := asking settings catalog place turn.remoteRequest })
  else if resumes then (e, { turn with input := turn.input.promote })
  else (e.withdrawn, turn)

/-! ### Resolving a fallback -/

/-- The **first turn**: remembers the local rule and waits. -/
def firstTurn (e : Escalation) (engine : Engine) : Escalation :=
  { e with
    kept := true
    stage := .afterInitial
    localRule := (engine.value? Engine.fallbackRule).getD "" }

/-- Reuses the remembered rule, if there is one. -/
def reuseRule (e : Escalation) (engine : Engine) : Bool × Engine :=
  if e.localRule = "" then (false, engine) else engine.reuse e.localRule

/-- The step that the counter tells: whether it worked, whether it moved on, and the engine. -/
def climb (counter : UInt32) (engine : Engine) : Bool × Bool × Engine :=
  if counter = 0 then (false, false, engine.resolve .localFallback)
  else if counter % moveOnThreshold = 0 then
    let (done, engine) := engine.call Engine.moveOn
    if done then (true, true, engine.resolve .moveOn) else (false, false, engine)
  else if counter % chatThreshold = 0 then
    let (done, engine) := engine.call Engine.gambitTangent [Engine.confirmationTopic]
    if done then (true, false, engine.resolve .confirmation) else (false, false, engine)
  else
    let (done, engine) := engine.send Engine.clarificationSignal
    if done then (true, false, engine.resolve .clarification)
    else
      let (restored, engine) := engine.call Engine.markupRestore
      if restored then
        let (done, engine) := engine.call Engine.reprompt
        if done then (true, false, engine.resolve .reprompt) else (false, false, engine)
      else (false, false, engine)

/-- The **second turn**: ends at once if the call is to end, says the local rule's text if it has
one, and climbs otherwise. A topic that wants a single turn gets its local rule only once. -/
def secondTurn (e : Escalation) (engine : Engine) : Bool × Escalation × Engine :=
  let engine := (engine.resolve .unknown).say .idleAnimation
  if engine.value? Engine.endSignal = some "true" then (true, e, engine)
  else
    let (reused, engine) :=
      if ¬ e.oneTurn ∨ e.counter = 0 then e.reuseRule engine else (false, engine)
    if reused then (true, e, engine.resolve .localRule)
    else
      let (done, movedOn, engine) := climb e.counter engine
      (done, { e with movedOn := e.movedOn || movedOn }, engine)

/-- Both turns in one, with the calls in between that the resume event would have made. -/
def bothTurns (e : Escalation) (engine : Engine) : Bool × Escalation × Engine :=
  let e := { e.firstTurn engine with kept := false, stage := .second }
  e.secondTurn ((engine.run Engine.keepRejoinder).run Engine.keepCounter)

/-- **Handles** a fallback. Something is always said: what no step has answered gets the generic
line. -/
def handle (e : Escalation) (engine : Engine) : Escalation × Engine :=
  let engine := (engine.setKind .fallback).setVariable Engine.noPrelude "true"
  let (done, e, engine) :=
    if e.oneTurn then e.bothTurns engine
    else match e.stage with
      | .initial => (false, e.firstTurn engine, engine)
      | .second => e.secondTurn engine
      | .afterInitial => (false, e, engine)
  if done then (e, if e.oneTurn then engine.resolve .noRemote else engine)
  else
    let resolution := if e.oneTurn then .noRemote else .localFallback
    (e, ((engine.resolve resolution).say .fallbackRepeat).run Engine.keepCounter)

/-! ### The end of a turn -/

/-- Whether an output in the first stage sets the counter to zero. -/
def resets (e : Escalation) (output : Output) : Bool :=
  if e.kept then false
  else if e.resetAsked then true
  else !output.kind.preservesCounter

/-- Whether an output in the second stage counts as one more unresolved fallback. -/
def counts (e : Escalation) (output : Output) : Bool := !e.movedOn && output.kind.isFallback

/-- **Finishes** a turn. Without an output nothing happens. -/
def finish (e : Escalation) (turn : Turn) : Escalation :=
  match turn.output with
  | none => e
  | some output =>
    match e.stage with
    | .initial => if e.resets output then { e with counter := 0 } else e
    | .afterInitial => { e with stage := .second, lastSpeech := turn.input.text }
    | .second =>
      { e.withdrawn with counter := if e.counts output then e.counter + 1 else e.counter }

/-- **Aborts** a turn: back to the stage at its start. -/
def abort (e : Escalation) : Escalation := { e with stage := e.startStage }

end Escalation

end Colloquy

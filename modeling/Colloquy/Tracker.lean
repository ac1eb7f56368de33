import Colloquy.Engine
import Colloquy.Markup
import Colloquy.Reprompt
import Colloquy.Settings

/-!
# The tracker: prompts that were cut off, and saved markup

The tracker follows what is said from turn to turn. It remembers the **last prompt**, which is the
last output that carried speech; when the user cuts in, that prompt becomes a reprompt. And it
watches the module of each output: on a change of module the state of the playback is saved, so that
it can be restored on the way back. There are two slots for it, and the slot changes only by going
over to the other one.

## What happens when a turn is finished

1. If the input cut off the last prompt, that prompt is recorded (`settleInterruption`).
2. The module of the output is found. One that is only visited stands for the module the
   conversation was in, unless that is the state change itself; saving the markup is a visit to the
   module of state changes (`modulesOf`).
3. The topic is found, and a base topic clears the queue (`locate`).
4. If it was asked for, the reprompt of the topic takes the place of the response (`overridden`).
5. The directives go in front of the response, and the module becomes the one the conversation is
   in (`marked`).
6. The response, without the directive, becomes the last prompt if it carries speech (`cached`).
-/

namespace Colloquy

/-- The engine that a prompt came from. -/
inductive PromptSource where
  | localEngine
  | remoteEngine
deriving DecidableEq, Repr, Inhabited

/-- Whether a prompt of this source is wanted. The wish names an engine; what names none wants a
prompt of either. -/
def PromptSource.isWanted (source : PromptSource) (wish : Option String) : Bool :=
  match wish.map fun w => Text.lower (Text.trim w) with
  | some w =>
    if w = "remote" then source = .remoteEngine
    else if w = "local" ∨ w = "chatscript" then source = .localEngine
    else true
  | none => true

/-- A **prompt**: what was said, in which topic, and by which engine. -/
structure Prompt where
  text : String
  topic : String
  source : PromptSource
deriving DecidableEq, Repr, Inhabited

/-- The state of the **tracker**. The queue, the last prompt, the module and topic and the slot
outlast the turn; the rest is for one turn only. -/
structure Tracker where
  queue : RepromptQueue := {}
  lastPrompt : Option Prompt := none
  prevModule : String := ""
  storedTopic : String := ""
  slot : Slot := .zero
  /-- The slot at the start of the turn. -/
  slotAtStart : Slot := .zero
  /-- What is said before a reprompt that takes the place of the response. -/
  lead : String := ""
  saveAsked : Bool := false
  restoreAsked : Bool := false
  overrideAsked : Bool := false
  /-- An interruption is not to be looked for when this turn finishes. -/
  interruptionSettled : Bool := false
  /-- The last prompt is to stand. -/
  promptKept : Bool := false
  /-- A reprompt event is waiting to be taken. -/
  eventPending : Bool := false
  /-- The prompt has been replayed in this turn. -/
  repromptSent : Bool := false
deriving DecidableEq, Repr, Inhabited

namespace Tracker

/-! ### Names -/

/-- The module that stands for a state change. -/
def stateChangeModule : String := "statechangetangentmodule"

/-- The topic that stands for a state change. -/
def stateChangeTopic : String := "statechangetangentmodule_topicname"

/-- The event by which a prompt is asked for that is not at hand. -/
def repromptEvent : String := "eb-reprompt"

/-- The variable by which that event says where it comes from. -/
def repromptSourceVariable : String := "$eb_reprompt_source"

/-- Where that event comes from. -/
def repromptSource : String := "repromptModule"

/-! ### The start of a turn, and its abortion -/

/-- **Starts** a turn: what is for one turn only is cleared. -/
def start (t : Tracker) : Tracker :=
  { queue := t.queue, lastPrompt := t.lastPrompt, prevModule := t.prevModule,
    storedTopic := t.storedTopic, slot := t.slot, slotAtStart := t.slot }

/-- **Aborts** a turn: the slot is the one at its start, and no event is waiting. -/
def abort (t : Tracker) : Tracker := { t with slot := t.slotAtStart, eventPending := false }

/-! ### Commands -/

/-- Sets what is said before a reprompt. -/
def setLead (t : Tracker) (text : String) : Tracker := { t with lead := text }

/-- Asks for a reprompt in place of the response. -/
def askOverride (t : Tracker) : Tracker := { t with overrideAsked := true }

/-- Asks for the markup to be saved. -/
def askSave (t : Tracker) : Tracker := { t with saveAsked := true }

/-- The last prompt, if it is there to be replayed to this wish. -/
def replayable? (t : Tracker) (wish : Option String) : Option Prompt :=
  t.lastPrompt.filter fun p => p.text ≠ "" && p.source.isWanted wish

/-- **Replays** the last prompt: what is to be said now. Where there is none to be replayed, a
curious look bridges the time until the event is answered that asks for one. A second replay in one
turn says nothing. -/
def replay (t : Tracker) (wish : Option String) : String × Tracker :=
  if t.repromptSent then ("", t)
  else
    let t := { t with repromptSent := true, promptKept := true, interruptionSettled := true }
    match t.replayable? wish with
    | some prompt => (prompt.text, t)
    | none => (StockLine.curiousAnimation.text, { t with eventPending := true })

/-- **Restores** the markup: the directive for the slot, which then goes over to the other one. A
second restoring in one turn says nothing. -/
def restore (t : Tracker) : String × Tracker :=
  if t.restoreAsked then ("", t)
  else (Markup.restore t.slot, { t with restoreAsked := true, slot := t.slot.toggled })

/-- **Takes** the waiting reprompt event. -/
def takeEvent (t : Tracker) : Option Input × Tracker :=
  if t.eventPending then
    (some ((Input.event repromptEvent).withVariable repromptSourceVariable repromptSource),
      { t with eventPending := false })
  else (none, t)

/-! ### The last prompt -/

/-- The topic of the last prompt. -/
def promptTopic (t : Tracker) : String := t.lastPrompt.elim "" Prompt.topic

/-- Makes a text the last prompt, in the topic of the moment. -/
def setPrompt (t : Tracker) (text : String) (source : PromptSource) : Tracker :=
  { t with lastPrompt := some { text, topic := t.storedTopic, source } }

/-- Makes a text the last prompt if it carries speech. If it does not, the last prompt stands as
long as the topic is the one it was said in. -/
def cachePrompt (t : Tracker) (text topicBefore : String) (source : PromptSource) : Tracker :=
  if !Markup.isSpeechless text then t.setPrompt text source
  else if t.storedTopic ≠ topicBefore then { t with lastPrompt := none }
  else t

/-! ### Finishing a turn -/

/-- Whether the input **cuts off** what is being said. -/
def interrupts (settings : TrackerSettings) (input : Input) : Bool :=
  if input.isEvent then settings.isInterrupting input.text
  else input.value? settings.interruptionVariable = some "true"

/-- Records the last prompt as a reprompt, if it carries speech and has a topic. -/
def recordPrompt (t : Tracker) : Tracker :=
  match t.lastPrompt with
  | some p =>
    if p.text ≠ "" ∧ p.topic ≠ "" ∧ ¬ Markup.isSpeechless p.text then
      { t with queue := t.queue.record p.text p.topic }
    else t
  | none => t

/-- Records the last prompt if it was cut off. After a replay nothing is looked for, and no reprompt
takes the place of the response. -/
def settleInterruption (settings : TrackerSettings) (t : Tracker) (input : Input) : Tracker :=
  if t.interruptionSettled then { t with overrideAsked := false }
  else if interrupts settings input then t.recordPrompt
  else t

/-- The module in which the topic of an output is looked up, and the module the conversation is in
after it. -/
def modulesOf (settings : TrackerSettings) (t : Tracker) (output : Output) : String × String :=
  if t.saveAsked then (stateChangeModule, stateChangeModule)
  else
    let named := Topic.moduleKey output.module
    let collapses := settings.isTangent named && t.prevModule ≠ "" &&
      t.prevModule ≠ stateChangeModule
    (named, if collapses then t.prevModule else named)

/-- Finds the topic of an output. -/
def locate (settings : TrackerSettings) (t : Tracker) (module : String) (topics : List String) :
    Tracker :=
  let t := if t.saveAsked then { t with storedTopic := stateChangeTopic, promptKept := true } else t
  let t := match Topic.resolve module topics with
    | some topic => { t with storedTopic := Text.lower topic }
    | none => t
  if settings.isBase t.storedTopic then { t with queue := {} } else t

/-- What is said when a reprompt takes the place of the response. -/
def repromptText (t : Tracker) (entry : Reprompt) : String :=
  if t.lead = "" then entry.text else t.lead ++ " " ++ entry.text

/-- Lets the reprompt of the topic take the place of the response, if that was asked for. What is
kept for the module is dropped then, whether or not there was one. -/
def overridden (t : Tracker) (module response : String) : String × Tracker :=
  if t.overrideAsked ∧ t.storedTopic ≠ "" ∧ ¬ t.queue.isEmpty then
    let cleared (t : Tracker) : Tracker :=
      if module ≠ "" then { t with queue := t.queue.clearModule module } else t
    match t.queue.find? t.storedTopic with
    | some entry => (t.repromptText entry, cleared { t with promptKept := true })
    | none => (response, cleared t)
  else (response, t)

/-- What the **directives** make of a response: what is said, what of it is the prompt, and the
tracker after it.

* Markup that was restored where it had been saved was no visit at all: the slot stays what it was
  at the start of the turn, and both directives name no slot.
* A change of module saves the markup in the other slot, unless it is the first module, markup was
  restored, a state change ends, or the module is only visited. -/
def marked (settings : TrackerSettings) (t : Tracker) (module response : String) :
    String × String × Tracker :=
  if t.restoreAsked ∧ t.prevModule = module then
    let slot := t.slot.toggled
    let prompt := Text.replaceAll (Markup.restore slot) (Markup.restore none) response
    (Markup.save none ++ prompt, prompt, { t with slot })
  else if t.prevModule = module then (response, response, t)
  else if t.prevModule = "" ∨ t.restoreAsked ∨ t.prevModule = stateChangeModule ∨
      settings.isTangent module then
    (response, response, { t with prevModule := module })
  else
    let slot := t.slot.toggled
    (Markup.save slot ++ response, response, { t with slot, prevModule := module })

/-- Makes the prompt the last one, unless the last one is to stand. -/
def cached (t : Tracker) (prompt topicBefore : String) : Tracker :=
  if t.promptKept then t else t.cachePrompt prompt topicBefore .localEngine

/-- What becomes of a response, and of the tracker, when a turn with this output is finished. -/
def finishOutput (settings : TrackerSettings) (t : Tracker) (topicBefore : String)
    (output : Output) : String × Tracker :=
  let (topicModule, module) := t.modulesOf settings output
  let t := t.locate settings topicModule output.topics
  let (response, t) := t.overridden topicModule output.response
  let (said, prompt, t) := t.marked settings module response
  (said, t.cached prompt topicBefore)

/-- **Finishes** a turn that was answered here; what is said may change. -/
def finish (settings : TrackerSettings) (t : Tracker) (turn : Turn) : Tracker × Turn :=
  let topicBefore := t.promptTopic
  let t := t.settleInterruption settings turn.input
  match turn.output with
  | none => (t, turn)
  | some output =>
    let (response, t) := t.finishOutput settings topicBefore output
    (t, { turn with output := some { output with response } })

/-- **Finishes** a turn that the remote engine answered. An answer that continues the one before is
added to the last prompt. -/
def finishRemote (settings : TrackerSettings) (t : Tracker) (turn : Turn) : Tracker :=
  let response := turn.response?.getD ""
  if turn.input.isEventNamed settings.streamEvent then
    t.setPrompt (t.lastPrompt.elim "" Prompt.text ++ response) .remoteEngine
  else t.cachePrompt response t.promptTopic .remoteEngine

end Tracker

end Colloquy

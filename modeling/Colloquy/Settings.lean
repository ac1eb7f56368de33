/-!
# Settings

What differs from one product to another: names of modules, topics and events. The thresholds that
shape the behaviour itself are not settings; they stand where they are used.
-/

namespace Colloquy

/-- The settings of the arbiter: whether it works at all, the module in which conversation is open,
the model that the remote engine is asked for, and the event that brings a deferred turn back. -/
structure ArbiterSettings where
  enabled : Bool := true
  openModule : String := "MOXIMUSPRIME"
  remoteModel : String := "gpt-3.5-turbo"
  resumeEvent : String := "eb-remote-act-speak"
deriving DecidableEq, Repr, Inhabited

/-- The settings of the tracker: modules that are only visited, events that cut off what is being
said, topics where the conversation starts afresh, the variable that marks an utterance which cuts
off what is being said, and the event that continues the last remote answer. -/
structure TrackerSettings where
  tangentModules : List String := ["gt", "bo", "wakeup"]
  interruptingEvents : List String := ["eb-mpu-picked-up-interrupt"]
  baseTopics : List String := ["bo_heel_cool"]
  interruptionVariable : String := "$eb_interrupting"
  streamEvent : String := "eb-remote-act-stream"
deriving DecidableEq, Repr, Inhabited

namespace TrackerSettings

/-- Whether the module is only visited. -/
def isTangent (settings : TrackerSettings) (module : String) : Bool :=
  settings.tangentModules.contains module

/-- Whether the event cuts off what is being said. -/
def isInterrupting (settings : TrackerSettings) (event : String) : Bool :=
  settings.interruptingEvents.contains event

/-- Whether the conversation starts afresh in the topic. -/
def isBase (settings : TrackerSettings) (topic : String) : Bool :=
  settings.baseTopics.contains topic

end TrackerSettings

/-- All **settings**. -/
structure Settings where
  arbiter : ArbiterSettings := {}
  tracker : TrackerSettings := {}
deriving DecidableEq, Repr, Inhabited

end Colloquy

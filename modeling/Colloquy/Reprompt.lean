import Colloquy.Topic

/-!
# Reprompts

What was being said when the user cut in is kept, to be said again when the conversation comes back
to its topic. These **reprompts** stand in a queue that has at most one for each module and at most
three altogether; a new one goes to the back, and when there are too many the oldest is dropped.
-/

namespace Colloquy

/-- A **reprompt**: a text that was cut off, with its topic and the topic's module. -/
structure Reprompt where
  module : String
  topic : String
  text : String
deriving DecidableEq, Repr, Inhabited

/-- The **queue** of reprompts, the oldest first. -/
structure RepromptQueue where
  entries : List Reprompt := []
deriving DecidableEq, Repr, Inhabited

namespace RepromptQueue

/-- The largest number of reprompts that are kept. -/
def capacity : Nat := 3

/-- The name by which a topic is compared: its bare name in small letters. -/
def topicKey (topic : String) : String := Text.lower (Topic.bare topic)

/-- The reprompt with this text for this topic. -/
def entryOf (text topic : String) : Reprompt :=
  { module := Topic.moduleOf (topicKey topic), topic := topicKey topic, text }

/-- The last `capacity` entries. -/
def newest (entries : List Reprompt) : List Reprompt := entries.drop (entries.length - capacity)

/-- **Records** a text for a topic, in place of what was kept for the topic's module. -/
def record (queue : RepromptQueue) (text topic : String) : RepromptQueue :=
  let entry := entryOf text topic
  ⟨newest (queue.entries.filter (·.module ≠ entry.module) ++ [entry])⟩

/-- The queue without what is kept for a module. -/
def clearModule (queue : RepromptQueue) (module : String) : RepromptQueue :=
  ⟨queue.entries.filter (·.module ≠ Topic.moduleKey module)⟩

/-- The reprompt that is kept for a topic. -/
def find? (queue : RepromptQueue) (topic : String) : Option Reprompt :=
  queue.entries.find? (·.topic = topicKey topic)

/-- The number of reprompts. -/
def size (queue : RepromptQueue) : Nat := queue.entries.length

/-- Whether there is none. -/
def isEmpty (queue : RepromptQueue) : Bool := queue.entries.isEmpty

end RepromptQueue

end Colloquy

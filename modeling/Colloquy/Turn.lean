import Colloquy.Dict

/-!
# Turns

A conversation proceeds in **turns**: something comes in, an utterance or an event, and something is
answered. Along with the answer a request may go out to a remote engine, which answers for the
dialogue engine when that has nothing to say.
-/

namespace Colloquy

/-! ### What comes in -/

/-- Whether a turn answers an utterance or an event. -/
inductive InputKind where
  | speech
  | event
deriving DecidableEq, Repr, Inhabited

/-- The **input** of a turn: the text of an utterance or the name of an event, with variables that
are set for this turn only. An internal event is `promoted` when it is to be treated as something
the user did. -/
structure Input where
  kind : InputKind
  text : String
  vars : Dict String := ∅
  promoted : Bool := false
deriving DecidableEq, Inhabited

namespace Input

/-- The input of an utterance. -/
def speech (text : String) : Input := { kind := .speech, text }

/-- The input of an event. -/
def event (name : String) : Input := { kind := .event, text := name }

/-- The input with one more variable. -/
def withVariable (input : Input) (name value : String) : Input :=
  { input with vars := input.vars.insert name value }

/-- Whether the input is an event. -/
def isEvent (input : Input) : Bool := input.kind = .event

/-- Whether the input is the event of this name. -/
def isEventNamed (input : Input) (name : String) : Bool := input.isEvent && input.text = name

/-- The value of a variable of the input. -/
def value? (input : Input) (name : String) : Option String := input.vars.get? name

/-- The input as something the user did. -/
def promote (input : Input) : Input := { input with promoted := true }

end Input

/-! ### What is answered -/

/-- What an output **counts as**. -/
inductive OutputKind where
  | normal
  | fallback
  | contextualFallback
  | eventInput
  | globalCommand
  | globalResponse
  | empty
deriving DecidableEq, Repr, Inhabited

namespace OutputKind

/-- Whether the output leaves what came in unresolved. -/
def isFallback : OutputKind → Bool
  | fallback | contextualFallback => true
  | _ => false

/-- Whether the output says nothing about how the conversation goes, so that counting goes on. -/
def preservesCounter : OutputKind → Bool
  | eventInput | globalCommand | globalResponse => true
  | _ => false

end OutputKind

/-- The **output** of a turn: what is said, what it counts as, the module and the content it ended
in, and the topics it went through on the way. -/
structure Output where
  response : String
  kind : OutputKind := .normal
  module : String := ""
  topics : List String := []
  contentId : String := ""
deriving DecidableEq, Repr, Inhabited

/-- The output in a module, by way of these topics. -/
def Output.inModule (output : Output) (module : String) (topics : List String) : Output :=
  { output with module, topics }

/-! ### What is asked of the remote engine -/

/-- The **context** in which the remote engine is to answer. -/
structure RemoteContext where
  id : String := ""
  text : String := ""
deriving DecidableEq, Repr, Inhabited

/-- Whether the context says nothing. -/
def RemoteContext.isEmpty (context : RemoteContext) : Bool := context.id = "" && context.text = ""

/-- The **request** to the remote engine. -/
structure RemoteRequest where
  context : RemoteContext := {}
  allowMultiple : Bool := false
  settings : Dict String := ∅
deriving DecidableEq, Inhabited

/-! ### Both together -/

/-- A **turn**: its input, its output if it has one yet, the request that goes out with it, and
whether social chat is on. -/
structure Turn where
  input : Input
  output : Option Output := none
  remoteRequest : RemoteRequest := {}
  socialChat : Bool := false
deriving DecidableEq, Inhabited

namespace Turn

/-- What the turn's output counts as. -/
def outputKind? (turn : Turn) : Option OutputKind := turn.output.map Output.kind

/-- What the turn says. -/
def response? (turn : Turn) : Option String := turn.output.map Output.response

end Turn

end Colloquy

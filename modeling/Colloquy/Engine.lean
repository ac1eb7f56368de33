import Colloquy.Turn

/-!
# The dialogue engine

What the policies of a fallback ask of the dialogue engine: they read and set variables, call
functions, reuse rules, send signals, and have stock lines said. Here the engine answers from a
**script** for the turn, and keeps a record of what it was asked and of what it was made to say.
-/

namespace Colloquy

/-- A line the engine has in stock. -/
inductive StockLine where
  | idleAnimation
  | curiousAnimation
  | fallbackRepeat
deriving DecidableEq, Repr, Inhabited

/-- How the engine renders a stock line. -/
def StockLine.text : StockLine → String
  | .idleAnimation => "<mark name=\"cmd:playback-anim,data:idle\"/>"
  | .curiousAnimation => "<mark name=\"cmd:playback-anim,data:curious\"/>"
  | .fallbackRepeat => "Sorry, could you say that again?"

/-- How a fallback was **resolved**. -/
inductive Resolution where
  | unknown
  | localRule
  | localFallback
  | moveOn
  | confirmation
  | clarification
  | reprompt
  | noRemote
  | useRemote
deriving DecidableEq, Repr, Inhabited

/-- The code by which a resolution is reported. -/
def Resolution.code : Resolution → String
  | .unknown => "FALLBACK_UNKNOWN"
  | .localRule => "FALLBACK_LOCAL_RULE"
  | .localFallback => "FALLBACK_LOCAL_FALLBACK"
  | .moveOn => "FALLBACK_MOVE_ON"
  | .confirmation => "FALLBACK_CONFIRMATION"
  | .clarification => "CLARIFICATION"
  | .reprompt => "REPROMPT"
  | .noRemote => "FALLBACK_NO_REMOTE"
  | .useRemote => "FALLBACK_USE_REMOTE"

/-- What a resolution means, for readers. -/
def Resolution.description : Resolution → String
  | .unknown => "Fallback in progress"
  | .localRule => "Answered by the topic's local rule"
  | .localFallback => "Generic fallback line"
  | .moveOn => "Moved on to another topic"
  | .confirmation => "Asked to keep chatting"
  | .clarification => "Asked for clarification"
  | .reprompt => "Repeated the current prompt"
  | .noRemote => "Resolved without the remote engine"
  | .useRemote => "Deferred to the remote engine"

/-- Code and meaning. -/
def Resolution.label (r : Resolution) : String := r.code ++ ": " ++ r.description

/-- What the engine answers during one turn: the variables that are set, which functions produce a
result, the texts of the rules, and which signals are handled. -/
structure EngineScript where
  vars : Dict String := ∅
  functions : Dict Bool := ∅
  rules : Dict String := ∅
  signals : Dict Bool := ∅
deriving DecidableEq, Inhabited

/-- Something the engine was **asked**. -/
inductive EngineCall where
  | setVariable (name value : String)
  | function (name : String) (args : List String)
  | reuseRule (rule : String)
  | signal (signal : String)
deriving DecidableEq, Repr

/-- The **engine** during a turn. -/
structure Engine where
  script : EngineScript := {}
  calls : List EngineCall := []
  lines : List String := []
  kind? : Option OutputKind := none
  resolution? : Option Resolution := none
deriving DecidableEq, Inhabited

namespace Engine

/-! ### Names the policies use -/

/-- Keeps the rejoinder that was waiting for an answer. -/
def keepRejoinder : String := "^keepRejoinder"
/-- Does not count the line as said. -/
def noRepeat : String := "^noRepeat"
/-- Lets the engine keep its own counter. -/
def keepCounter : String := "^fallbacks_keepCounter"
/-- Goes into a topic and comes back. -/
def gambitTangent : String := "^gambitTangent"
/-- Moves on to another topic. -/
def moveOn : String := "^doMoveOn"
/-- Restores the markup of the current prompt. -/
def markupRestore : String := "^markup_restore"
/-- Says the current prompt again. -/
def reprompt : String := "^doReprompt"

/-- The variable that keeps the engine from an opening phrase. -/
def noPrelude : String := "$$State_noPrelude"
/-- The variable that names the rule for fallbacks in the current topic. -/
def fallbackRule : String := "$$fallback_rule"
/-- The variable by which the call is ended. -/
def endSignal : String := "$$signal"

/-- The signal that asks for a clarification. -/
def clarificationSignal : String := "signal-clarification"
/-- The topic in which the user is asked whether to keep chatting. -/
def confirmationTopic : String := "~FALLBACK_SXC_fallbackOpenConvo_Intro"

/-! ### What the engine can be asked -/

/-- The value of a variable. -/
def value? (engine : Engine) (name : String) : Option String := engine.script.vars.get? name

/-- The engine with one more call on record. -/
def recorded (engine : Engine) (call : EngineCall) : Engine :=
  { engine with calls := engine.calls ++ [call] }

/-- Sets a variable. -/
def setVariable (engine : Engine) (name value : String) : Engine :=
  { engine.recorded (.setVariable name value) with
    script := { engine.script with vars := engine.script.vars.insert name value } }

/-- Calls a function: whether it produced a result, and the engine after it. -/
def call (engine : Engine) (name : String) (args : List String := []) : Bool × Engine :=
  (engine.script.functions.getD name false, engine.recorded (.function name args))

/-- Calls a function for its effect only. -/
def run (engine : Engine) (name : String) : Engine := (engine.call name).2

/-- Reuses a rule, whose text is said if it has one. -/
def reuse (engine : Engine) (rule : String) : Bool × Engine :=
  let asked := engine.recorded (.reuseRule rule)
  match engine.script.rules.get? rule with
  | some text => (true, { asked with lines := asked.lines ++ [text] })
  | none => (false, asked)

/-- Sends a signal: whether something handled it, and the engine after it. -/
def send (engine : Engine) (signal : String) : Bool × Engine :=
  (engine.script.signals.getD signal false, engine.recorded (.signal signal))

/-- Sets what the output is to count as. -/
def setKind (engine : Engine) (kind : OutputKind) : Engine := { engine with kind? := some kind }

/-- Notes how the fallback was resolved. -/
def resolve (engine : Engine) (r : Resolution) : Engine := { engine with resolution? := some r }

/-- Has a stock line said. -/
def say (engine : Engine) (line : StockLine) : Engine :=
  { engine with lines := engine.lines ++ [line.text] }

/-- Whether a function was called at least once. -/
def called (engine : Engine) (name : String) : Bool :=
  engine.calls.any fun
    | .function other _ => other = name
    | _ => false

/-! ### What the turn says in the end -/

/-- Two pieces of speech with a space between them if the first one is not empty. -/
def joinSpeech (response line : String) : String :=
  if response = "" then line else response ++ " " ++ line

/-- The **output** of the turn: what was scripted, then the lines the engine was made to say. A
kind that was set takes the place of the scripted one. There is no output if there is nothing to
make one of. -/
def applyTo (engine : Engine) (output : Option Output) : Option Output :=
  if output.isNone ∧ engine.lines = [] ∧ engine.kind?.isNone then none
  else
    let scripted : Output := output.getD { response := "" }
    some { scripted with
      response := engine.lines.foldl joinSpeech scripted.response
      kind := engine.kind?.getD scripted.kind }

end Engine

end Colloquy

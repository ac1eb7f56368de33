import Colloquy.Command

/-!
# Reports

After every turn there is a **report** of it. Its line names the counters and states in a fixed
order and ends with the response, so that it can be taken apart again; for a terminal the input goes
in front and the response on a line of its own.

On a terminal with colours the first part is red if the turn was aborted, yellow if it was left
unresolved, and green otherwise, and the response is dimmed. A colour holds until it is switched
off; where the coloured text itself switches off a colour, it is switched on again.
-/

namespace Colloquy

/-- What is **reported** of a turn. -/
structure Report where
  turn : UInt64
  input : String
  response : Option String
  outputKind : Option OutputKind
  resolution : Option Resolution
  owner : Option Owner
  counter : UInt32
  stage : Stage
  slot : Slot
  reprompts : UInt64
  module : String
  commands : List CommandOutcome
  aborted : Bool
deriving DecidableEq, Repr, Inhabited

namespace Report

/-- What stands for something that is not there. -/
def absent : String := "-"

/-- What stands for the response of an aborted turn. -/
def noResponse : String := "<aborted>"

/-- The owner, by name. -/
def ownerText (r : Report) : String := (r.owner.map Owner.name).getD absent

/-- How the fallback was resolved, by code. -/
def resolutionText (r : Report) : String := (r.resolution.map Resolution.code).getD absent

/-- The response, or what stands for it. -/
def responseText (r : Report) : String := r.response.getD noResponse

/-- The states and counters that every form of the report shows. -/
def stateText (r : Report) : String :=
  "state=" ++ r.stage.name ++ " | counter=" ++ toString r.counter.toNat ++
    " | slot=" ++ r.slot.digit ++ " | reprompts=" ++ toString r.reprompts.toNat ++
    " | kind=" ++ r.resolutionText

/-- The report as **one line**, response last. -/
def line (r : Report) : String :=
  "turn=" ++ toString r.turn.toNat ++ " | policy=" ++ r.ownerText ++ " | " ++ r.stateText ++
    " | response=" ++ r.responseText

/-! ### On a terminal -/

/-- How a text is set off on a terminal. -/
inductive Style where
  | red
  | green
  | yellow
  | dimmed
deriving DecidableEq, Repr

/-- The number that switches a style on. -/
def Style.code : Style → String
  | .red => "31"
  | .green => "32"
  | .yellow => "33"
  | .dimmed => "2"

/-- What switches a style on. -/
def Style.switchOn (style : Style) : String := "\x1b[" ++ style.code ++ "m"

/-- What switches every style off. -/
def Style.switchOff : String := "\x1b[0m"

/-- The text **in a style**. -/
def Style.paint (style : Style) (text : String) : String :=
  style.switchOn ++ Text.replaceAll switchOff (switchOff ++ style.switchOn) text ++ switchOff

/-- The style of the first part. -/
def headStyle (r : Report) : Style :=
  if r.aborted then .red
  else if r.outputKind.any OutputKind.isFallback then .yellow
  else .green

/-- The report for a **terminal**, with colours or without. -/
def display (colours : Bool) (r : Report) : String :=
  let paint (style : Style) (text : String) := if colours then style.paint text else text
  let head := "#" ++ toString r.turn.toNat ++ " [" ++ r.ownerText ++ "] " ++ r.input
  paint r.headStyle head ++ " | " ++ r.stateText ++ "\n  " ++ paint .dimmed r.responseText

end Report

end Colloquy

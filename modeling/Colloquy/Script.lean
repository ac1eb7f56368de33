import Colloquy.Wire.Session

/-!
# Written scripts

The turns of a conversation are **written** one to a line, each as JSON. Blanks around a line mean
nothing; a line that is empty then, or begins with a number sign, is no turn. The first line that
cannot be read is what is wrong with the whole.
-/

namespace Colloquy.Script

open Colloquy.Json (Failure)

/-- Whether a line, without the blanks around it, is to be read as a turn. -/
def isTurn (line : String) : Bool := line ≠ "" && line.toList.head? ≠ some '#'

/-- The lines of a text that are to be read as turns. -/
def turnLines (text : String) : List String := ((Text.lines text).map Text.trim).filter isTurn

/-- The **turns** that a text writes. -/
def ofText (text : String) : Except Failure (List TurnScript) :=
  (turnLines text).mapM Wire.turnScript.ofText

end Colloquy.Script

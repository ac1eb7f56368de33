/-!
# The program

The name and the version by which the program introduces itself.
-/

namespace Colloquy.Program

/-- The **name** of the program. -/
def name : String := "fallback-arbiter"

/-- The **version** of the program. -/
def version : String := "1.0.0"

/-- What the program does, in one line. -/
def summary : String :=
  "Fallback arbitration and reprompt/markup tracking for conversational agents"

end Colloquy.Program

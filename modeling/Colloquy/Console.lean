import Colloquy.Program
import Colloquy.Script

/-!
# Sessions at the console

A session can be **replayed** from a written script, or held in **conversation**, a line at a time.
In a conversation a line is a turn as JSON if it begins with a brace, and an utterance otherwise;
`quit` and `exit` end it, in capitals or small letters.

Reports are printed as JSON, or as lines, or laid out for a terminal. The event that a turn raised
is printed after its report. All printing is a matter of texts here; nothing is printed by this
module.
-/

namespace Colloquy.Console

/-- How reports are **printed**. -/
structure Format where
  /-- As JSON. -/
  json : Bool := false
  /-- On one line, without colours. -/
  plain : Bool := false
  /-- The output is a terminal, on which colours are shown. -/
  terminal : Bool := false
deriving DecidableEq, Repr, Inhabited

/-- A line with its end. -/
def line (s : String) : String := s ++ "\n"

/-- A report as it is printed. -/
def reportText (format : Format) (report : Report) : String :=
  if format.json then line (Wire.report.write report).text
  else if format.plain then line report.line
  else line (report.display format.terminal)

/-- An event as it is printed. -/
def eventText (format : Format) (event : Input) : String :=
  if format.json then line (Wire.input.write event).text
  else line ("  -> reprompt event: " ++ event.text)

/-- **Runs** a turn: what is printed, and the session after it. -/
def runTurn (setup : Setup) (format : Format) (s : Session) (script : TurnScript) :
    String × Session :=
  let (report, s) := s.runTurn setup script
  let (event, s) := s.takeEvent
  (reportText format report ++ event.elim "" (eventText format), s)

/-- **Replays** turns: what is printed. -/
def replay (setup : Setup) (format : Format) (s : Session) : List TurnScript → String
  | [] => ""
  | script :: rest =>
    let (text, s) := runTurn setup format s script
    text ++ replay setup format s rest

/-! ### Conversation -/

/-- What is printed before the first line is read. -/
def greeting (format : Format) : String :=
  if format.json then ""
  else line (Program.name ++ " v" ++ Program.version ++ " - interactive") ++
    line "Enter a JSON turn or plain text. Type 'quit' to exit." ++ line ""

/-- What is printed before each line is read. -/
def cue (format : Format) : String := if format.json then "" else "> "

/-- What is printed in the end, if the user ends the conversation. -/
def farewell (format : Format) (s : Session) : String :=
  if format.json then "" else line "" ++ line ("Session ended. Turns: " ++ toString s.turns.toNat)

/-- What a line of input **means**. -/
inductive Entry where
  | quit
  | nothing
  | turn (script : TurnScript)
  | invalid (failure : Json.Failure)

/-- Reads a line of input. -/
def Entry.ofLine (s : String) : Entry :=
  let s := Text.trim s
  let small := s.toList.map Char.toLower
  if small = ['q', 'u', 'i', 't'] ∨ small = ['e', 'x', 'i', 't'] then .quit
  else if s = "" then .nothing
  else if s.toList.head? = some '{' then
    match Wire.turnScript.ofText s with
    | .ok script => .turn script
    | .error failure => .invalid failure
  else .turn (.ofInput (.speech s))

/-- **Answers** a line of input: what is printed, and the session after it unless the conversation
is over. -/
def answer (setup : Setup) (format : Format) (s : Session) (input : String) :
    String × Option Session :=
  match Entry.ofLine input with
  | .quit => (farewell format s, none)
  | .nothing | .invalid _ => ("", some s)
  | .turn script =>
    let (text, s) := runTurn setup format s script
    (text, some s)

/-- **Holds** a conversation over these lines: what is printed after the greeting. -/
def converse (setup : Setup) (format : Format) (s : Session) : List String → String
  | [] => cue format
  | input :: rest =>
    match answer setup format s input with
    | (text, some s) => cue format ++ text ++ converse setup format s rest
    | (text, none) => cue format ++ text

end Colloquy.Console

import Colloquy.CommandLine

/-!
# The program

Reads the files that the arguments name and the lines of the standard input, and prints what the
command line makes of them. Reports are in colours if the standard output is a terminal.
-/

open Colloquy Colloquy.CommandLine

namespace Colloquy.Main

/-- The contents of a file, if it can be read. -/
def contents? (path : String) : IO (Option String) := do
  try
    return some (← IO.FS.readFile path)
  catch _ =>
    return none

/-- The contents of the files that can be read, by their paths. -/
def readAll (paths : List String) : IO (List (String × String)) := do
  let mut found := []
  for path in paths do
    if let some text ← contents? path then
      found := (path, text) :: found
  return found

/-- Prints a result and gives its exit code. -/
def finish (result : Result) : IO UInt32 := do
  IO.print result.output
  IO.eprint result.error
  return result.exit.toUInt32

/-- Holds a conversation until the input or the user ends it. -/
partial def converse (setup : Setup) (format : Console.Format) (s : Session) : IO Unit := do
  IO.print (Console.cue format)
  (← IO.getStdout).flush
  let input ← (← IO.getStdin).getLine
  if input = "" then return
  let (text, next) := Console.answer setup format s input
  IO.print text
  match next with
  | some s => converse setup format s
  | none => return

end Colloquy.Main

open Colloquy.Main in
/-- Runs the program. -/
def main (arguments : List String) : IO UInt32 := do
  match parse arguments with
  | .error detour => finish detour.result
  | .ok options =>
    let paths := options.settings.toList ++ options.catalog.toList ++ options.script.toList
    let texts ← readAll paths
    let format := options.format (← (← IO.getStdout).isTty)
    match prepare (fun path => texts.lookup path) options with
    | .error result => finish result
    | .ok (_, .serve address) => finish (.failed ("Server error: cannot listen on " ++ address))
    | .ok (setup, .replay scripts) =>
      finish { output := Console.replay setup format .new scripts }
    | .ok (setup, .converse) =>
      IO.print (Console.greeting format)
      converse setup format .new
      return 0

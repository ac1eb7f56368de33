import Colloquy.Console
import Colloquy.Program

/-!
# The command line

The program replays a script, or holds a conversation on its standard input. Its arguments are
options only, each at most once; one with a value has it in the next argument, or after an equals
sign, and a next argument that looks like an option is no value. Options of one letter may be
written together.

Arguments are gone through from the left, and the first that is misused, or asks for help or for the
version, decides. Then the settings are read, then the catalog, then the script; what cannot be read
ends the program before anything is printed.
-/

namespace Colloquy.CommandLine

open Colloquy.Json (Codec Complaint Failure Flaw)

/-- What the arguments **ask for**. -/
structure Options where
  script : Option String := none
  interactive : Bool := false
  serve : Bool := false
  address : Option String := none
  json : Bool := false
  noColor : Bool := false
  settings : Option String := none
  catalog : Option String := none
  logLevel : Option String := none
deriving DecidableEq, Repr, Inhabited

/-- What the program does **instead** of running. -/
inductive Detour where
  | help
  | summaryOfHelp
  | version
  | misuse (argument : String)
deriving DecidableEq, Repr

/-! ### Arguments -/

/-- Sets an option that takes no value, if it has not been set. -/
def setFlag (argument : String) (isSet : Bool) (options : Options) : Except Detour Options :=
  if isSet then .error (.misuse argument) else .ok options

/-- The options that take **no value**, by their long names. -/
def flag? (name : String) (o : Options) : Option (Except Detour Options) :=
  if name = "interactive" then some (setFlag name o.interactive { o with interactive := true })
  else if name = "serve" then some (setFlag name o.serve { o with serve := true })
  else if name = "json" then some (setFlag name o.json { o with json := true })
  else if name = "no-color" then some (setFlag name o.noColor { o with noColor := true })
  else if name = "help" then some (.error .help)
  else if name = "version" then some (.error .version)
  else none

/-- The options that take **a value**, by their names. -/
def valued? (name : String) (value : String) (o : Options) : Option (Except Detour Options) :=
  if name = "script" then some (setFlag name o.script.isSome { o with script := value })
  else if name = "addr" then some (setFlag name o.address.isSome { o with address := value })
  else if name = "config" then some (setFlag name o.settings.isSome { o with settings := value })
  else if name = "catalog" then some (setFlag name o.catalog.isSome { o with catalog := value })
  else if name = "log-level" then
    some (setFlag name o.logLevel.isSome { o with logLevel := value })
  else none

/-- Options of one letter, written together. -/
def letters (o : Options) : List Char → Except Detour Options
  | [] => .ok o
  | c :: rest => do
    let o ←
      if c = 'i' then setFlag "-i" o.interactive { o with interactive := true }
      else if c = 's' then setFlag "-s" o.serve { o with serve := true }
      else if c = 'h' then .error .summaryOfHelp
      else if c = 'V' then .error .version
      else .error (.misuse (String.ofList ['-', c]))
    letters o rest

/-- Whether an argument looks like an option, so that it is no value. -/
def looksLikeOption (argument : String) : Bool :=
  match argument.toList with
  | '-' :: _ :: _ => true
  | _ => false

/-- Reads the arguments, of which some have gone into the options already. -/
def parseFrom (o : Options) : List String → Except Detour Options
  | [] => .ok o
  | argument :: rest =>
    match argument.toList with
    | ['-', '-'] =>
      match rest with
      | [] => .ok o
      | extra :: _ => .error (.misuse extra)
    | '-' :: '-' :: long =>
      match Text.cutAt? '=' (String.ofList long) with
      | some (name, value) =>
        match valued? name value o with
        | some options => do parseFrom (← options) rest
        | none => .error (.misuse argument)
      | none =>
        match flag? (String.ofList long) o with
        | some options => do parseFrom (← options) rest
        | none =>
          match rest with
          | [] => .error (.misuse argument)
          | value :: rest =>
            if looksLikeOption value then .error (.misuse argument)
            else match valued? (String.ofList long) value o with
              | some options => do parseFrom (← options) rest
              | none => .error (.misuse argument)
    | '-' :: c :: cs => do parseFrom (← letters o (c :: cs)) rest
    | _ => .error (.misuse argument)

/-- What the arguments ask for. -/
def parse (arguments : List String) : Except Detour Options := parseFrom {} arguments

/-! ### Help -/

/-- The long description of the program. -/
def description : List String := [
  "Drives a fallback arbitrator and a reprompt tracker through scripted turns.",
  "",
  "Each turn is a JSON object: input, optional output, mid-turn commands",
  "and the scripted answers of the dialogue engine.",
  "",
  "Modes:",
  "  --script       Replay a JSON-lines script",
  "  --interactive  Read turns from stdin (JSON, or plain text as speech)",
  "  --serve        HTTP API server mode",
  "",
  "Policies (first claim wins):",
  "  EVENT, SILENT, CONVERSATION, SOCIAL_ONLY, DEFAULT"]

/-- The options with what they do and the value they have by themselves. -/
def optionTable : List (String × String × Option String) := [
  ("    --script <SCRIPT>", "JSON-lines script to replay", none),
  ("-i, --interactive", "Interactive mode - one turn per stdin line", none),
  ("-s, --serve", "Run as HTTP API server", none),
  ("    --addr <ADDR>", "Server address (default: 127.0.0.1:3000)", some "127.0.0.1:3000"),
  ("    --json", "Output as JSON", none),
  ("    --no-color", "Disable colors in output", none),
  ("    --config <CONFIG>", "JSON configuration file", none),
  ("    --catalog <CATALOG>", "JSON content catalog (authored fallback metadata)", none),
  ("    --log-level <LOG_LEVEL>", "Log filter, e.g. \"info\" or \"fallback_arbiter=debug\"",
    some "fallback_arbiter=info")]

/-- How the program is called. -/
def usage : List String := ["", "Usage: " ++ Program.name ++ " [OPTIONS]", "", "Options:"]

/-- The **help** at length. -/
def longHelp : List String :=
  let entry (option what : String) (fallback : Option String) : List String :=
    ["  " ++ option, "          " ++ what] ++
      match fallback with
      | some value => ["          ", "          [default: " ++ value ++ "]", ""]
      | none => [""]
  description ++ usage ++
    optionTable.flatMap (fun (option, what, fallback) => entry option what fallback) ++
    entry "-h, --help" "Print help (see a summary with '-h')" none ++
    ["  -V, --version", "          Print version"]

/-- A name filled up with blanks to the width of the longest one. -/
def padded (s : String) : String := s ++ String.ofList (List.replicate (29 - s.length) ' ')

/-- The **help** at a glance. -/
def shortHelp : List String :=
  [Program.summary] ++ usage ++
    optionTable.map (fun (option, what, fallback) =>
      "  " ++ padded option ++ what ++
        fallback.elim "" fun value => " [default: " ++ value ++ "]") ++
    ["  " ++ padded "-h, --help" ++ "Print help (see more with '--help')",
      "  " ++ padded "-V, --version" ++ "Print version"]

/-! ### Running -/

/-- What comes of **running** the program: the exit code, and what is printed. -/
structure Result where
  exit : Nat := 0
  output : String := ""
  error : String := ""
deriving DecidableEq, Repr, Inhabited

/-- What comes of a detour. -/
def Detour.result : Detour → Result
  | .help => { output := "\n".intercalate longHelp ++ "\n" }
  | .summaryOfHelp => { output := "\n".intercalate shortHelp ++ "\n" }
  | .version => { output := Program.name ++ " " ++ Program.version ++ "\n" }
  | .misuse argument =>
    { exit := 2
      error := "error: cannot use '" ++ argument ++ "'\n\nUsage: " ++ Program.name ++
        " [OPTIONS]\n\nFor more information, try '--help'.\n" }

/-- What is said about a text that cannot be read. -/
def failureText (failure : Failure) : String :=
  match failure.inText with
  | .flaw .malformed => "not JSON"
  | .flaw .unfinished => "ends too early"
  | .mismatch message => message

/-- What comes of a failure, said in one line. -/
def Result.failed (message : String) : Result := { exit := 1, error := message ++ "\n" }

/-- Reads a file as what is wanted. -/
def load {α : Type} (files : String → Option String) (subject path : String)
    (read : String → Except Failure α) : Except Result α :=
  match files path with
  | none => .error (.failed (subject ++ ": cannot read " ++ path))
  | some text =>
    (read text).mapError fun failure => .failed (subject ++ ": " ++ failureText failure)

/-- How the options want reports printed. -/
def Options.format (o : Options) (terminal : Bool) : Console.Format :=
  { json := o.json, plain := o.noColor, terminal }

/-- What the program does once everything is read. -/
inductive Job where
  | serve (address : String)
  | replay (scripts : List TurnScript)
  | converse

/-- Reads what the options name: the setup, and what is to be done with it. -/
def prepare (files : String → Option String) (o : Options) : Except Result (Setup × Job) := do
  let settings ← o.settings.elim (.ok {}) fun path =>
    load files "Config error" path Wire.settings.ofText
  let catalog ← o.catalog.elim (.ok {}) fun path =>
    load files "Catalog error" path Wire.catalog.ofText
  let setup : Setup := { settings, catalog }
  if o.serve then return (setup, .serve (o.address.getD "127.0.0.1:3000"))
  else match o.script with
    | some path => return (setup, .replay (← load files "Invalid script" path Script.ofText))
    | none => return (setup, .converse)

/-- **Runs** the program on these arguments, files and standard input, where the standard output is
not a terminal. Serving needs a network, which there is none of here. -/
def run (files : String → Option String) (arguments : List String) (input : String) : Result :=
  match parse arguments with
  | .error detour => detour.result
  | .ok options =>
    let format := options.format false
    match prepare files options with
    | .error result => result
    | .ok (_, .serve address) => .failed ("Server error: cannot listen on " ++ address)
    | .ok (setup, .replay scripts) => { output := Console.replay setup format .new scripts }
    | .ok (setup, .converse) =>
      { output := Console.greeting format ++
          Console.converse setup format .new (Text.lines input) }

end Colloquy.CommandLine

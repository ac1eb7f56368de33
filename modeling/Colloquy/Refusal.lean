/-!
# Refusals

What the arbiter and the commands refuse to do, and what is said about it. None of these ends a
conversation: a refusal is reported in place of a result.
-/

namespace Colloquy

/-- Why something is **refused**. -/
inductive Refusal where
  /-- The arbiter was asked to handle a turn that has no owner. -/
  | noPolicyClaimed
  /-- A counter command came when no turn had an owner. -/
  | noActivePolicy
  /-- No context is authored for where the conversation was. -/
  | missingContext (module topic : String)
  /-- A deferred turn was to be resumed by another input than the resume event. -/
  | staleTransition (input : String)
  /-- There is no command of this name. -/
  | unknownCommand (name : String)
  /-- The command needs an argument that was not given. -/
  | missingArgument (command argument : String)
deriving DecidableEq, Repr

/-- The name of the kind of refusal. -/
def Refusal.kind : Refusal → String
  | .noPolicyClaimed => "NoPolicyClaimed"
  | .noActivePolicy => "NoActivePolicy"
  | .missingContext .. => "MissingContext"
  | .staleTransition .. => "StaleTransition"
  | .unknownCommand .. => "UnknownCommand"
  | .missingArgument .. => "MissingArgument"

/-- What is **said** about a refusal. -/
def Refusal.message : Refusal → String
  | .noPolicyClaimed => "No fallback policy claimed this turn"
  | .noActivePolicy => "No active fallback policy"
  | .missingContext module topic =>
    "No fallback context for topic '" ++ topic ++ "' in module '" ++ module ++ "'"
  | .staleTransition input =>
    "Second fallback turn entered with unexpected input '" ++ input ++ "'"
  | .unknownCommand name => "Unknown command: " ++ name
  | .missingArgument command argument =>
    "Command '" ++ command ++ "' requires argument '" ++ argument ++ "'"

end Colloquy

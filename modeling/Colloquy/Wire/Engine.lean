import Colloquy.Wire.Names

/-!
# The form of engine scripts and engine calls

A script is a record. A call is an object with a member `call` that says which call it is, and the
fields of that call beside it, in any order. The member may come after the fields, so these are
taken up as values first, whatever they are, and read when the kind of call is known. A call may
also be an array of its kind and its fields.
-/

namespace Colloquy.Wire

open Colloquy.Json (Codec Shape Draft Failure Flaw Lexeme closing toDraft)

/-- The shape of an engine script. -/
def engineScriptShape : Shape EngineScript where
  name := "EngineScript"
  blank := {}
  fields := [
    ⟨"variables", .dict .string, (·.vars), fun v r => { r with vars := v }, .optional⟩,
    ⟨"functions", .dict .bool, (·.functions), fun v r => { r with functions := v }, .optional⟩,
    ⟨"rules", .dict .string, (·.rules), fun v r => { r with rules := v }, .optional⟩,
    ⟨"signals", .dict .bool, (·.signals), fun v r => { r with signals := v }, .optional⟩]

/-- Engine scripts. -/
def engineScript : Codec EngineScript := engineScriptShape.codec

/-! ### Taking up a value -/

mutual

/-- The **value** of a draft in which nothing is wrong. It may be nested, the outermost object
included, at most one level less than the count. -/
def takeUp (depth : Nat) : Draft → Except Failure Json
  | .null torn => do
    closing torn
    return .null
  | .bool b torn => do
    closing torn
    return .bool b
  | .number lexeme => lexeme.read.map .number
  | .string lexeme => lexeme.read.map .string
  | .array items ending =>
    if depth ≤ 1 then .error (.flaw .malformed)
    else do
      let items ← takeUpItems (depth - 1) items
      closing ending
      return .array items
  | .object members ending =>
    if depth ≤ 1 then .error (.flaw .malformed)
    else do
      let members ← takeUpMembers (depth - 1) members
      closing ending
      return .object members
  | .nothing flaw => .error (.flaw flaw)

/-- The values of the items of an array. -/
def takeUpItems (depth : Nat) : List Draft → Except Failure (List Json)
  | [] => .ok []
  | item :: rest => do
    let item ← takeUp depth item
    return item :: (← takeUpItems depth rest)

/-- The values of the members of an object. -/
def takeUpMembers (depth : Nat) :
    List (Lexeme String × Draft) → Except Failure (List (String × Json))
  | [] => .ok []
  | (name, value) :: rest => do
    let name ← name.read
    let value ← takeUp depth value
    return (name, value) :: (← takeUpMembers depth rest)

end

/-! ### Calls -/

/-- The **kinds** of call. -/
inductive CallKind where
  | setVariable
  | function
  | reuseRule
  | signal
deriving DecidableEq, Repr

namespace CallKind

/-- The kinds, in the order in which a message names them. -/
def all : List CallKind := [setVariable, function, reuseRule, signal]

/-- The name of a kind. -/
def name : CallKind → String
  | setVariable => "set_variable"
  | function => "function"
  | reuseRule => "reuse_rule"
  | signal => "signal"

/-- The kind that a draft names. -/
def read : Draft → Except Failure CallKind
  | .string lexeme => do Codec.pick all name (← lexeme.read)
  | d => .error (d.unlike "variant identifier")

end CallKind

/-- The shape of a call that sets a variable, given as name and value. -/
def setVariableShape : Shape (String × String) where
  name := "variant EngineCall::SetVariable"
  blank := ("", "")
  fields := [
    ⟨"name", .string, (·.1), fun v r => (v, r.2), .required⟩,
    ⟨"value", .string, (·.2), fun v r => (r.1, v), .required⟩]

/-- The shape of a call of a function, given as name and arguments. -/
def functionShape : Shape (String × List String) where
  name := "variant EngineCall::Function"
  blank := ("", [])
  fields := [
    ⟨"name", .string, (·.1), fun v r => (v, r.2), .required⟩,
    ⟨"args", .list .string, (·.2), fun v r => (r.1, v), .required⟩]

/-- The shape of a call that reuses a rule, given as its name. -/
def reuseRuleShape : Shape String where
  name := "variant EngineCall::ReuseRule"
  blank := ""
  fields := [⟨"rule", .string, id, fun v _ => v, .required⟩]

/-- The shape of a call that sends a signal, given as its name. -/
def signalShape : Shape String where
  name := "variant EngineCall::Signal"
  blank := ""
  fields := [⟨"signal", .string, id, fun v _ => v, .required⟩]

/-- The fields of a call, from the values beside its kind. An array of too many values is not what
was wanted, as these have been taken up by now. -/
def readFields {ρ : Type} (shape : Shape ρ) (fields : Json) : Except Failure ρ :=
  match shape.codec.read (toDraft fields) with
  | .error (.surplus length) =>
    .error (.mismatch (.wrongLength length (shape.elements ++ " in sequence")))
  | outcome => outcome

/-- A call of a kind, from the values beside the kind. -/
def callOf (kind : CallKind) (fields : Json) : Except Failure EngineCall :=
  match kind with
  | .setVariable => (readFields setVariableShape fields).map fun r => .setVariable r.1 r.2
  | .function => (readFields functionShape fields).map fun r => .function r.1 r.2
  | .reuseRule => (readFields reuseRuleShape fields).map .reuseRule
  | .signal => (readFields signalShape fields).map .signal

/-- The levels to which the values beside `call` may be nested, one more than that. -/
def nesting : Nat := 127

/-- Goes through the members of a call: the kind, if it has been named, and the other members. -/
def readCallMembers (kind : Option CallKind) :
    List (Lexeme String × Draft) → Except Failure (Option CallKind × List (String × Json))
  | [] => .ok (kind, [])
  | (name, value) :: rest => do
    let name ← name.read
    if name = "call" then
      if kind.isSome then .error (.mismatch (.duplicateField "call"))
      else readCallMembers (some (← CallKind.read value)) rest
    else
      let value ← takeUp nesting value
      let (kind, members) ← readCallMembers kind rest
      return (kind, (name, value) :: members)

/-- Engine calls. -/
def engineCall : Codec EngineCall where
  write
    | .setVariable name value =>
      .object [("call", .string CallKind.setVariable.name), ("name", .string name),
        ("value", .string value)]
    | .function name args =>
      .object [("call", .string CallKind.function.name), ("name", .string name),
        ("args", .array (args.map .string))]
    | .reuseRule rule =>
      .object [("call", .string CallKind.reuseRule.name), ("rule", .string rule)]
    | .signal signal =>
      .object [("call", .string CallKind.signal.name), ("signal", .string signal)]
  read
    | .object members ending => do
      let (kind, members) ← readCallMembers none members
      closing ending
      match kind with
      | some kind => callOf kind (.object members)
      | none => .error (.mismatch (.missingField "call"))
    | .array [] ending => do
      closing ending
      .error (.mismatch (.missingField "call"))
    | .array (item :: items) ending => do
      let kind ← CallKind.read item
      let items ← takeUpItems nesting items
      closing ending
      callOf kind (.array items)
    | d => .error (d.unlike "internally tagged enum EngineCall")

end Colloquy.Wire

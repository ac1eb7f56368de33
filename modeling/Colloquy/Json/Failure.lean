import Colloquy.Json.Draft
import Colloquy.Text.Escaped

/-!
# Why a draft cannot be read

A reader that knows what it wants stops at the first thing that is wrong. That may be a **flaw** of
the text, which is no JSON there, or a **mismatch**: the text is JSON as far as it has been read,
but not what was wanted. Three failures are a matter of the surface they occur on. Where one of
several names is wanted, a value that cannot be a name at all counts as a flaw of a text, and as a
mismatch in a value that has been read before; the same goes for an array that is too long for its
fields. An object of several members in the place of a name is told by its size in a value, while a
text is read on to the first thing that is wrong.
-/

namespace Colloquy.Json

/-- What was **found** in place of something else. -/
inductive Found where
  | null
  | bool (b : Bool)
  | number (n : Number)
  | string (s : String)
  | sequence
  | map
deriving DecidableEq, Repr

/-- A boolean as it is written. -/
def boolText (b : Bool) : String := if b then "true" else "false"

/-- How a message names what was found. -/
def Found.text : Found → String
  | .null => "null"
  | .bool b => "boolean `" ++ boolText b ++ "`"
  | .number (.floating bits) => "floating point `" ++ (Number.floating bits).text ++ "`"
  | .number n => "integer `" ++ n.text ++ "`"
  | .string s => "string " ++ Text.escaped s
  | .sequence => "sequence"
  | .map => "map"

/-- A draft that is **not what was wanted**. -/
inductive Mismatch where
  | wrongType (found : Found) (expected : String)
  | wrongValue (found : Found) (expected : String)
  | wrongLength (length : Nat) (expected : String)
  | unknownVariant (name : String) (known : List String)
  | missingField (name : String)
  | duplicateField (name : String)
deriving DecidableEq, Repr

/-- A name between backticks. -/
def ticked (name : String) : String := "`" ++ name ++ "`"

/-- The names that would have been right. -/
def oneOf : List String → String
  | [] => "nothing"
  | [a] => ticked a
  | [a, b] => ticked a ++ " or " ++ ticked b
  | names => "one of " ++ ", ".intercalate (names.map ticked)

/-- The **message** of a mismatch. -/
def Mismatch.message : Mismatch → String
  | .wrongType found expected => "invalid type: " ++ found.text ++ ", expected " ++ expected
  | .wrongValue found expected => "invalid value: " ++ found.text ++ ", expected " ++ expected
  | .wrongLength length expected =>
    "invalid length " ++ toString length ++ ", expected " ++ expected
  | .unknownVariant name known =>
    "unknown variant " ++ ticked name ++ ", expected " ++ oneOf known
  | .missingField name => "missing field " ++ ticked name
  | .duplicateField name => "duplicate field " ++ ticked name

/-- Why reading **failed**. -/
inductive Failure where
  | flaw (flaw : Flaw)
  | mismatch (mismatch : Mismatch)
  | noName (found : Found)
  | manyNames (first : Failure)
  | surplus (length : Nat)
deriving DecidableEq, Repr

/-- What is reported of a failure: a flaw, or a mismatch with its message. -/
inductive Complaint where
  | flaw (flaw : Flaw)
  | mismatch (message : String)
deriving DecidableEq, Repr

/-- What a reader of a text reports. -/
def Failure.inText : Failure → Complaint
  | .flaw f => .flaw f
  | .mismatch m => .mismatch m.message
  | .manyNames first => first.inText
  | .noName _ | .surplus _ => .flaw .malformed

/-- What a reader of a value reports. -/
def Failure.inValue : Failure → Complaint
  | .flaw f => .flaw f
  | .mismatch m => .mismatch m.message
  | .noName .map | .manyNames _ =>
    .mismatch (Mismatch.wrongValue .map "map with a single key").message
  | .noName found => .mismatch (Mismatch.wrongType found "string or map").message
  | .surplus length => .mismatch (Mismatch.wrongLength length "fewer elements in array").message

/-- What a string or a number **stands for**. -/
def Lexeme.read {α : Type} (lexeme : Lexeme α) : Except Failure α := lexeme.value.mapError .flaw

/-- What a draft turns out to be, or the flaw that keeps it from being anything. -/
def Draft.found : Draft → Except Flaw Found
  | .null none => .ok .null
  | .bool b none => .ok (.bool b)
  | .null (some flaw) | .bool _ (some flaw) | .nothing flaw => .error flaw
  | .number lexeme => lexeme.value.map .number
  | .string lexeme => lexeme.value.map .string
  | .array .. => .ok .sequence
  | .object .. => .ok .map

/-- The failure of a reader that expected something else than this draft. -/
def Draft.unlike (d : Draft) (expected : String) : Failure :=
  match d.found with
  | .ok found => .mismatch (.wrongType found expected)
  | .error flaw => .flaw flaw

end Colloquy.Json

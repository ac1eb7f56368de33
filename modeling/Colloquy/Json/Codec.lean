import Colloquy.Dict
import Colloquy.Json.Failure

/-!
# Codecs: one form for writing and for reading

A **codec** of a type says how its values are written as JSON and how drafts are read back. Codecs
are put together from those of strings, booleans and numbers: lists and dictionaries, values that
may be absent, choices among names, and records.

## Records

The form of a record is a table of its fields, its `Shape`. Writing gives an object with every field
in the order of the table. Reading takes an object whose members may come in any order, with members
that are not in the table passed over, or an array of the fields in the order of the table. A field
is `required`, or it may be left out and then keeps the value of the blank record; one whose value
may be `null` may be left out of an object but not of an array.

A member is looked at when its turn comes in the text, so of several things wrong with a record the
first one is reported. Only what is missing comes to light at the end.
-/

namespace Colloquy.Json

/-- How values of a type are **written and read**. -/
structure Codec (α : Type) where
  write : α → Json
  read : Draft → Except Failure α

/-- Nothing if there is no flaw. -/
def closing : Option Flaw → Except Failure Unit
  | none => .ok ()
  | some flaw => .error (.flaw flaw)

namespace Codec

/-! ### Strings, booleans and numbers -/

/-- Strings. -/
def string : Codec String where
  write := .string
  read
    | .string lexeme => lexeme.read
    | d => .error (d.unlike "a string")

/-- Booleans. -/
def bool : Codec Bool where
  write := .bool
  read
    | .bool b none => .ok b
    | d => .error (d.unlike "a boolean")

/-- The natural number below `bound` that a draft holds; a message calls such numbers `kind`. -/
def readNatural (bound : Nat) (kind : String) (d : Draft) : Except Failure Nat :=
  match d.found with
  | .ok (.number (.natural n)) =>
    if n.toNat < bound then .ok n.toNat
    else .error (.mismatch (.wrongValue (.number (.natural n)) kind))
  | .ok (.number (.negative n)) => .error (.mismatch (.wrongValue (.number (.negative n)) kind))
  | _ => .error (d.unlike kind)

/-- Natural numbers of sixty-four bits, by the name that messages give them. -/
def word64 (kind : String) : Codec UInt64 where
  write n := .number (.natural n)
  read d := (readNatural UInt64.size kind d).map Nat.toUInt64

/-- Natural numbers of thirty-two bits. -/
def word32 : Codec UInt32 where
  write n := .number (.natural n.toUInt64)
  read d := (readNatural UInt32.size "u32" d).map Nat.toUInt32

/-! ### Lists, dictionaries and absent values -/

/-- Lists, as arrays. -/
def list {α : Type} (item : Codec α) : Codec (List α) where
  write items := .array (items.map item.write)
  read
    | .array items ending => do
      let values ← items.mapM item.read
      closing ending
      return values
    | d => .error (d.unlike "a sequence")

/-- Adds the members of an object to a dictionary; of members of one name the last one stays. -/
def readEntries {α : Type} (item : Codec α) (d : Dict α) :
    List (Lexeme String × Draft) → Except Failure (Dict α)
  | [] => .ok d
  | (name, value) :: rest => do
    let name ← name.read
    let value ← item.read value
    readEntries item (d.insert name value) rest

/-- Dictionaries, as objects. -/
def dict {α : Type} (item : Codec α) : Codec (Dict α) where
  write d := .object (d.entries.map fun entry => (entry.1, item.write entry.2))
  read
    | .object members ending => do
      let d ← readEntries item ∅ members
      closing ending
      return d
    | d => .error (d.unlike "a map")

/-- Values that may be absent, which is written `null`. -/
def option {α : Type} (item : Codec α) : Codec (Option α) where
  write
    | none => .null
    | some value => item.write value
  read
    | .null none => .ok none
    | .null (some flaw) => .error (.flaw flaw)
    | d => (item.read d).map some

/-! ### Choices among names -/

/-- The member of the list that has the name. -/
def pick {α : Type} (all : List α) (nameOf : α → String) (name : String) : Except Failure α :=
  match all.find? (nameOf · = name) with
  | some a => .ok a
  | none => .error (.mismatch (.unknownVariant name (all.map nameOf)))

/-- The value that goes with a name that takes none. -/
def readUnit : Draft → Except Failure Unit
  | .null none => .ok ()
  | d => .error (d.unlike "unit")

/-- The name that a member writes, and nothing beside it. -/
def readMember {α : Type} (all : List α) (nameOf : α → String) (name : Lexeme String)
    (value : Draft) : Except Failure α := do
  let a ← pick all nameOf (← name.read)
  readUnit value
  return a

/-- A **choice** among names: a string, or an object with the name as its one member. -/
def choice {α : Type} (all : List α) (nameOf : α → String) : Codec α where
  write a := .string (nameOf a)
  read
    | .string lexeme => do pick all nameOf (← lexeme.read)
    | .object [] none => .error (.noName .map)
    | .object [] (some flaw) => .error (.flaw flaw)
    | .object [(name, value)] ending => do
      let a ← readMember all nameOf name value
      closing ending
      return a
    | .object ((name, value) :: _ :: _) _ =>
      match readMember all nameOf name value with
      | .ok _ => .error (.manyNames (.noName .map))
      | .error failure => .error (.manyNames failure)
    | .nothing flaw => .error (.flaw flaw)
    | d => match d.found with
      | .ok found => .error (.noName found)
      | .error _ => .error (.flaw .malformed)

end Codec

/-! ### Records -/

/-- Whether a field may be left out. -/
inductive Presence where
  | required
  | nullable
  | optional
deriving DecidableEq, Repr

/-- A **field** of a record: its name, the form of its value, and how it is got and set. -/
structure Field (ρ : Type) : Type 1 where
  {Value : Type}
  name : String
  codec : Codec Value
  get : ρ → Value
  set : Value → ρ → ρ
  presence : Presence

/-- The **shape** of a record: what messages call it, the record whose fields are all left out, and
the table of its fields. -/
structure Shape (ρ : Type) : Type 1 where
  name : String
  blank : ρ
  fields : List (Field ρ)

namespace Shape

variable {ρ : Type} (shape : Shape ρ)

/-- The number of fields, as messages give it. -/
def elements : String :=
  let n := shape.fields.length
  toString n ++ if n = 1 then " element" else " elements"

/-- How messages call the record as an array. -/
def arrayName : String := "struct " ++ shape.name ++ " with " ++ shape.elements

/-- The field of a name. -/
def field? (name : String) : Option (Field ρ) := shape.fields.find? (·.name = name)

/-- Reads the members of an object into a record, of which the fields in `seen` have been read;
gives the record and all fields read. -/
def readMembers (record : ρ) (seen : List String) :
    List (Lexeme String × Draft) → Except Failure (ρ × List String)
  | [] => .ok (record, seen)
  | (name, value) :: rest => do
    let name ← name.read
    match shape.field? name with
    | none =>
      closing value.flaw?
      readMembers record seen rest
    | some f =>
      if name ∈ seen then .error (.mismatch (.duplicateField name))
      else
        let v ← f.codec.read value
        readMembers (f.set v record) (name :: seen) rest

/-- Nothing if every required field has been read. -/
def complete (seen : List String) : Except Failure Unit :=
  match shape.fields.find? fun f => f.presence = .required ∧ f.name ∉ seen with
  | some f => .error (.mismatch (.missingField f.name))
  | none => .ok ()

/-- Reads the items of an array into the fields that are still to come. -/
def readItems (record : ρ) (position : Nat) (ending : Option Flaw) :
    List (Field ρ) → List Draft → Except Failure ρ
  | [], [] => do
    closing ending
    return record
  | [], surplus => .error (.surplus (position + surplus.length))
  | f :: fields, [] => do
    closing ending
    if f.presence = .optional then readItems record (position + 1) ending fields []
    else .error (.mismatch (.wrongLength position shape.arrayName))
  | f :: fields, item :: items => do
    let v ← f.codec.read item
    readItems (f.set v record) (position + 1) ending fields items

/-- The codec of a record by its shape. -/
def codec : Codec ρ where
  write record := .object (shape.fields.map fun f => (f.name, f.codec.write (f.get record)))
  read
    | .object members ending => do
      let (record, seen) ← shape.readMembers shape.blank [] members
      closing ending
      shape.complete seen
      return record
    | .array items ending => shape.readItems shape.blank 0 ending shape.fields items
    | d => .error (d.unlike ("struct " ++ shape.name))

end Shape

/-! ### Texts and values -/

mutual

/-- The value with the members of every object in the order of their names, the last one only of
those with one name. -/
def sorted : Json → Json
  | .array items => .array (sortedItems items)
  | .object members => .object (Dict.ofList (sortedMembers members)).entries
  | j => j

/-- The items of an array, sorted inside. -/
def sortedItems : List Json → List Json
  | [] => []
  | item :: rest => sorted item :: sortedItems rest

/-- The members of an object, sorted inside. -/
def sortedMembers : List (String × Json) → List (String × Json)
  | [] => []
  | (name, value) :: rest => (name, sorted value) :: sortedMembers rest

end

namespace Codec

variable {α : Type} (codec : Codec α)

/-- Reads the value at the **head** of a text and leaves what follows it alone. -/
def ofHead (text : String) : Except Failure α := codec.read (Draft.ofChars text.toList).1

/-- Reads a **text** that holds one value and nothing else. -/
def ofText (text : String) : Except Failure α := do
  let (draft, rest) := Draft.ofChars text.toList
  let a ← codec.read draft
  if (rest.map Draft.skipSpace).getD [] = [] then return a else .error (.flaw .malformed)

/-- Reads a value as it is. -/
def ofJson (j : Json) : Except Failure α := codec.read (toDraft j)

/-- Reads a value in which the order of members has no meaning. -/
def ofUnordered (j : Json) : Except Failure α := codec.ofJson (sorted j)

end Codec

end Colloquy.Json

import Colloquy.Json.Number

/-!
# JSON values and their text

A value is a tree; the members of an object keep the order in which they were given, and a name may
occur twice. The text of a value is compact: no blanks, a character that a string may hold is
written as it stands, and only the quote, the backslash and the control characters are escaped.
-/

namespace Colloquy

/-- A **JSON value**. -/
inductive Json where
  | null
  | bool (b : Bool)
  | number (n : Json.Number)
  | string (s : String)
  | array (items : List Json)
  | object (members : List (String × Json))
deriving Repr, Inhabited

namespace Json

/-- A natural number as a value. -/
def ofNat (n : Nat) : Json := .number (.natural n.toUInt64)

/-- The four hexadecimal digits of a code point below `10000`. -/
def fourHex (n : Nat) : List Char :=
  [n / 4096 % 16, n / 256 % 16, n / 16 % 16, n % 16].map Nat.digitChar

/-- One character as it stands in a string. -/
def spelledChar (c : Char) : List Char :=
  if c = '"' then ['\\', '"']
  else if c = '\\' then ['\\', '\\']
  else if c = '\n' then ['\\', 'n']
  else if c = '\r' then ['\\', 'r']
  else if c = '\t' then ['\\', 't']
  else if c.toNat = 8 then ['\\', 'b']
  else if c.toNat = 12 then ['\\', 'f']
  else if c.toNat < 32 then '\\' :: 'u' :: fourHex c.toNat
  else [c]

/-- A string between its quotes. -/
def spelledString (s : String) : List Char := '"' :: s.toList.flatMap spelledChar ++ ['"']

mutual

/-- The characters of a value. -/
def chars : Json → List Char
  | .null => "null".toList
  | .bool true => "true".toList
  | .bool false => "false".toList
  | .number n => n.text.toList
  | .string s => spelledString s
  | .array items => '[' :: charsOfItems items ++ [']']
  | .object members => '{' :: charsOfMembers members ++ ['}']

/-- The items of an array with commas between them. -/
def charsOfItems : List Json → List Char
  | [] => []
  | [item] => chars item
  | item :: rest => chars item ++ ',' :: charsOfItems rest

/-- The members of an object with commas between them. -/
def charsOfMembers : List (String × Json) → List Char
  | [] => []
  | [(name, value)] => spelledString name ++ ':' :: chars value
  | (name, value) :: rest => spelledString name ++ ':' :: chars value ++ ',' :: charsOfMembers rest

end

/-- The **text** of a value. -/
def text (j : Json) : String := String.ofList j.chars

/-- The value of the last member of this name. -/
def member? (j : Json) (name : String) : Option Json :=
  match j with
  | .object members => (members.reverse.find? (·.1 = name)).map (·.2)
  | _ => none

end Json

end Colloquy

import Colloquy.Json.Value
import Colloquy.Text.Hex

/-!
# Drafts: what a text says before it is taken as anything

A text that is meant to be JSON may break off or go wrong anywhere, and what is wrong with it
depends on how far a reader has to look: one that expects a string is done with an array at its
bracket, and one that passes over a value does not mind what its strings spell. So a text is first
made into a **draft**, a tree that holds the values as far as they can be made out and, where they
cannot, the reason. Readers of drafts then go through the tree in the order of the text and stop at
the first thing that concerns them.

## What a draft remembers

* A string or a number is a `Lexeme`: what it stands for, or why it stands for nothing, and apart
  from that whether even its end could not be found. A string may have an end and still spell
  nothing, when half a surrogate pair stands in it; a number may have one and be out of range.
* An array or an object has its parts as far as they go, and an ending: none if it was closed. A
  member whose name is no string has a name that stands for nothing.
* Where no value begins there is `nothing`, with the reason.

A draft stops at the first place behind which the text cannot be divided into values.
-/

namespace Colloquy.Json

/-- What is **wrong** with a text: it is not JSON at some point, or it ends too early. -/
inductive Flaw where
  | malformed
  | unfinished
deriving DecidableEq, Repr

/-- A string or a number as it stands in a text: its `value`, and whether its end is missing. -/
structure Lexeme (α : Type) where
  value : Except Flaw α
  torn : Option Flaw

/-- A **draft** of a value. -/
inductive Draft where
  | null (torn : Option Flaw)
  | bool (b : Bool) (torn : Option Flaw)
  | number (lexeme : Lexeme Number)
  | string (lexeme : Lexeme String)
  | array (items : List Draft) (ending : Option Flaw)
  | object (members : List (Lexeme String × Draft)) (ending : Option Flaw)
  | nothing (flaw : Flaw)
deriving Inhabited

/-- The member that stands where one has to begin and none does. -/
def missingMember (flaw : Flaw) : Lexeme String × Draft := (⟨.error flaw, some flaw⟩, .nothing flaw)

/-! ### Drafts of values -/

mutual

/-- The draft of a value, in which nothing is wrong. -/
def toDraft : Json → Draft
  | .null => .null none
  | .bool b => .bool b none
  | .number n => .number ⟨.ok n, none⟩
  | .string s => .string ⟨.ok s, none⟩
  | .array items => .array (toDrafts items) none
  | .object members => .object (toDraftMembers members) none

/-- The drafts of the items of an array. -/
def toDrafts : List Json → List Draft
  | [] => []
  | item :: rest => toDraft item :: toDrafts rest

/-- The drafts of the members of an object. -/
def toDraftMembers : List (String × Json) → List (Lexeme String × Draft)
  | [] => []
  | (name, value) :: rest => (⟨.ok name, none⟩, toDraft value) :: toDraftMembers rest

end

namespace Draft

/-! ### Passing over a draft -/

mutual

/-- The first **flaw** that keeps a reader from passing over the draft. What strings spell and how
large numbers are is of no concern here. -/
def flaw? : Draft → Option Flaw
  | .null torn => torn
  | .bool _ torn => torn
  | .number lexeme => lexeme.torn
  | .string lexeme => lexeme.torn
  | .array items ending => (itemsFlaw? items).or ending
  | .object members ending => (membersFlaw? members).or ending
  | .nothing flaw => some flaw

/-- The first flaw among the items of an array. -/
def itemsFlaw? : List Draft → Option Flaw
  | [] => none
  | item :: rest => (flaw? item).or (itemsFlaw? rest)

/-- The first flaw among the members of an object. -/
def membersFlaw? : List (Lexeme String × Draft) → Option Flaw
  | [] => none
  | (name, value) :: rest => (name.torn.or (flaw? value)).or (membersFlaw? rest)

end

/-! ### Blanks and words -/

/-- The four characters that may stand between tokens. -/
def isSpace (c : Char) : Bool := c = ' ' || c = '\t' || c = '\n' || c = '\r'

/-- The text from its first character that is not a space. -/
def skipSpace (s : List Char) : List Char := s.dropWhile isSpace

/-- Compares a text with the rest of a word: what is wrong, and what follows the word. -/
def word : List Char → List Char → Option Flaw × List Char
  | [], s => (none, s)
  | _ :: _, [] => (some .unfinished, [])
  | e :: expected, c :: s => if c = e then word expected s else (some .malformed, [])

/-! ### Strings -/

/-- The sixteen bits that four hexadecimal digits spell. -/
def unit? (a b c d : Char) : Option Nat := do
  let a ← Text.hexValue? a
  let b ← Text.hexValue? b
  let c ← Text.hexValue? c
  let d ← Text.hexValue? d
  return ((a * 16 + b) * 16 + c) * 16 + d

/-- What is wrong where four hexadecimal digits are expected and do not stand: the text has ended
if fewer than four bytes of it are left. -/
def unitFlaw (s : List Char) : Flaw :=
  if ((s.take 4).map Char.utf8Size).foldl (· + ·) 0 < 4 then .unfinished else .malformed

/-- The character that a letter after a backslash stands for. -/
def escaped? (c : Char) : Option Char :=
  if c = '"' ∨ c = '\\' ∨ c = '/' then some c
  else if c = 'b' then some (Char.ofNat 8)
  else if c = 'f' then some (Char.ofNat 12)
  else if c = 'n' then some '\n'
  else if c = 'r' then some '\r'
  else if c = 't' then some '\t'
  else none

/-- Whether the unit is the first half of a surrogate pair. -/
def isLeading (n : Nat) : Bool := 0xD800 ≤ n && n < 0xDC00

/-- Whether the unit is the second half of a surrogate pair. -/
def isTrailing (n : Nat) : Bool := 0xDC00 ≤ n && n < 0xE000

/-- The character of a surrogate pair. -/
def joined (n m : Nat) : Char := Char.ofNat (0x10000 + (n - 0xD800) * 0x400 + (m - 0xDC00))

/-- **Passes over** a string whose opening quote has been read: the text after its closing quote.
Escapes have to be well formed, but need not be characters. -/
def passOver : List Char → Except Flaw (List Char)
  | [] => .error .unfinished
  | '"' :: s => .ok s
  | '\\' :: 'u' :: a :: b :: c :: d :: s =>
    if (unit? a b c d).isSome then passOver s else .error .malformed
  | '\\' :: 'u' :: s => .error (unitFlaw s)
  | ['\\'] => .error .unfinished
  | '\\' :: c :: s => if (escaped? c).isSome then passOver s else .error .malformed
  | c :: s => if c.toNat < 0x20 then .error .malformed else passOver s

/-- The characters that a string **spells** whose opening quote has been read. The first half of a
surrogate pair has to be followed by a second half, and a second half cannot stand alone. -/
def spell : List Char → Except Flaw (List Char)
  | [] => .error .unfinished
  | '"' :: _ => .ok []
  | '\\' :: 'u' :: a :: b :: c :: d :: s =>
    match unit? a b c d with
    | none => .error .malformed
    | some n =>
      if isTrailing n then .error .malformed
      else if isLeading n then
        match s with
        | '\\' :: 'u' :: a' :: b' :: c' :: d' :: s =>
          match unit? a' b' c' d' with
          | none => .error .malformed
          | some m => if isTrailing m then (spell s).map (joined n m :: ·) else .error .malformed
        | '\\' :: 'u' :: s => .error (unitFlaw s)
        | ['\\'] => .error .unfinished
        | [] => .error .unfinished
        | _ => .error .malformed
      else (spell s).map (Char.ofNat n :: ·)
  | '\\' :: 'u' :: s => .error (unitFlaw s)
  | ['\\'] => .error .unfinished
  | '\\' :: c :: s =>
    match escaped? c with
    | some d => (spell s).map (d :: ·)
    | none => .error .malformed
  | c :: s => if c.toNat < 0x20 then .error .malformed else (spell s).map (c :: ·)

/-- A string whose opening quote has been read, and the text after it if it has an end. -/
def readString (s : List Char) : Lexeme String × Option (List Char) :=
  let value := (spell s).map String.ofList
  match passOver s with
  | .ok rest => (⟨value, none⟩, some rest)
  | .error flaw => (⟨value, some flaw⟩, none)

/-! ### Numbers -/

/-- A number that lacks digits. Where the text ends instead, a reader who wants the number finds
it unfinished, and one who passes over it finds no number. -/
def digitless (s : List Char) : Draft :=
  .number ⟨.error (if s = [] then .unfinished else .malformed), some .malformed⟩

/-- A numeral whose parts before the exponent have been read, with the text after it. -/
def readExponent (negative : Bool) (whole : List Char) (fraction : Option (List Char))
    (s : List Char) : Draft × Option (List Char) :=
  let finish (exponent : Option (Bool × List Char)) (rest : List Char) :=
    let value := (Numeral.value ⟨negative, whole, fraction, exponent⟩).elim
      (.error Flaw.malformed) .ok
    (.number ⟨value, none⟩, some rest)
  match s with
  | [] => finish none s
  | c :: s' =>
    if c = 'e' ∨ c = 'E' then
      let (down, s') := match s' with
        | '+' :: r => (false, r)
        | '-' :: r => (true, r)
        | _ => (false, s')
      let digits := s'.takeWhile Char.isDigit
      let rest := s'.dropWhile Char.isDigit
      if digits = [] then (digitless s', none) else finish (some (down, digits)) rest
    else finish none s

/-- A numeral whose sign has been read, with the text after it. -/
def readUnsigned (negative : Bool) (s : List Char) : Draft × Option (List Char) :=
  let whole := s.takeWhile Char.isDigit
  let rest := s.dropWhile Char.isDigit
  if whole = [] then (digitless s, none)
  else if whole.head? = some '0' ∧ whole.length ≠ 1 then
    (.number ⟨.error .malformed, some .malformed⟩, none)
  else match rest with
    | '.' :: s' =>
      let digits := s'.takeWhile Char.isDigit
      if digits = [] then (digitless s', none)
      else readExponent negative whole (some digits) (s'.dropWhile Char.isDigit)
    | _ => readExponent negative whole none rest

/-! ### Values -/

mutual

/-- The draft of the value at the head of a text, and the text after it if it has an end. The count
bounds the steps, of which no more than two go into one character. -/
def read : Nat → List Char → Draft × Option (List Char)
  | 0, _ => (.nothing .unfinished, none)
  | n + 1, s =>
    match skipSpace s with
    | [] => (.nothing .unfinished, none)
    | '"' :: s =>
      let (lexeme, rest) := readString s
      (.string lexeme, rest)
    | '[' :: s =>
      match skipSpace s with
      | [] => (.array [] (some .unfinished), none)
      | ']' :: s => (.array [] none, some s)
      | s =>
        let (items, ending, rest) := readItems n s
        (.array items ending, rest)
    | '{' :: s =>
      match skipSpace s with
      | [] => (.object [] (some .unfinished), none)
      | '}' :: s => (.object [] none, some s)
      | s =>
        let (members, ending, rest) := readMembers n s
        (.object members ending, rest)
    | '-' :: s => readUnsigned true s
    | c :: s =>
      if c = 'n' then
        match word ['u', 'l', 'l'] s with
        | (none, s) => (.null none, some s)
        | (torn, _) => (.null torn, none)
      else if c = 't' then
        match word ['r', 'u', 'e'] s with
        | (none, s) => (.bool true none, some s)
        | (torn, _) => (.bool true torn, none)
      else if c = 'f' then
        match word ['a', 'l', 's', 'e'] s with
        | (none, s) => (.bool false none, some s)
        | (torn, _) => (.bool false torn, none)
      else if c.isDigit then readUnsigned false (c :: s)
      else (.nothing .malformed, none)

/-- The items of an array from the next one on, its ending, and the text after it. -/
def readItems : Nat → List Char → List Draft × Option Flaw × Option (List Char)
  | 0, _ => ([], some .unfinished, none)
  | n + 1, s =>
    match read n s with
    | (item, none) => ([item], some .unfinished, none)
    | (item, some s) =>
      match skipSpace s with
      | [] => ([item], some .unfinished, none)
      | ',' :: s =>
        let (items, ending, rest) := readItems n s
        (item :: items, ending, rest)
      | ']' :: s => ([item], none, some s)
      | _ => ([item], some .malformed, none)

/-- The members of an object from the next one on, its ending, and the text after it. -/
def readMembers : Nat → List Char → List (Lexeme String × Draft) × Option Flaw × Option (List Char)
  | 0, _ => ([], some .unfinished, none)
  | n + 1, s =>
    match skipSpace s with
    | [] => ([missingMember .unfinished], some .unfinished, none)
    | '"' :: s =>
      match readString s with
      | (name, none) => ([(name, .nothing .malformed)], some .unfinished, none)
      | (name, some s) =>
        match skipSpace s with
        | [] => ([(name, .nothing .unfinished)], some .unfinished, none)
        | ':' :: s =>
          match read n s with
          | (value, none) => ([(name, value)], some .unfinished, none)
          | (value, some s) =>
            match skipSpace s with
            | [] => ([(name, value)], some .unfinished, none)
            | ',' :: s =>
              let (members, ending, rest) := readMembers n s
              ((name, value) :: members, ending, rest)
            | '}' :: s => ([(name, value)], none, some s)
            | _ => ([(name, value)], some .malformed, none)
        | _ => ([(name, .nothing .malformed)], some .unfinished, none)
    | _ => ([missingMember .malformed], some .malformed, none)

end

/-- The draft of a text: its first value, and what follows that. -/
def ofChars (s : List Char) : Draft × Option (List Char) := read (2 * s.length + 2) s

end Draft

end Colloquy.Json

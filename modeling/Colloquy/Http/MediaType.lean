import Colloquy.Text.Search

/-!
# Media types

A body is declared by its **media type**: a type and a subtype with a slash between them, and after
a semicolon any number of parameters. The subtype may end with a suffix after its last plus sign,
which tells the syntax that is underneath. A plus sign at the head of a subtype belongs to it.

A parameter is a name and a value with an equals sign between them. The value may be in double
quotes, and may be empty if it is not. Spaces may stand before a parameter and after a quoted value,
and nowhere else; a semicolon may stand at the end.

What the parameters say is of no concern here, only that they are well formed.
-/

namespace Colloquy.Http

/-- Whether a character may stand in a **token**, which is what names and plain values are. -/
def isTokenChar (c : Char) : Bool :=
  c.isAlphanum || "!#$%&'*+-.^_`|~".toList.contains c

/-- Whether a character may stand between double quotes. -/
def isQuotedChar (c : Char) : Bool := ' ' ≤ c && c ≤ '~'

/-! ### Parameters -/

/-- Where in a list of **parameters** a reader is. -/
inductive ParameterState where
  | beforeName
  | inName
  | beforeValue
  | inValue
  | beforeQuoted
  | inQuoted
  | afterQuoted
deriving DecidableEq, Repr

namespace ParameterState

/-- The state after one more character, if it may stand there. The first character between double
quotes may be anything, a double quote too. -/
def next (state : ParameterState) (c : Char) : Option ParameterState :=
  match state with
  | beforeName => if c = ' ' then some beforeName else if isTokenChar c then some inName else none
  | inName => if c = '=' then some beforeValue else if isTokenChar c then some inName else none
  | beforeValue =>
    if c = '"' then some beforeQuoted else if isTokenChar c then some inValue else none
  | inValue => if c = ';' then some beforeName else if isTokenChar c then some inValue else none
  | beforeQuoted => if isQuotedChar c then some inQuoted else none
  | inQuoted =>
    if c = '"' then some afterQuoted else if isQuotedChar c then some inQuoted else none
  | afterQuoted =>
    if c = ';' then some beforeName else if c = ' ' then some afterQuoted else none

/-- Whether the parameters may end in this state. -/
def mayEnd : ParameterState → Bool
  | beforeName | beforeValue | inValue | afterQuoted => true
  | inName | beforeQuoted | inQuoted => false

/-- Whether the characters, read from this state on, end well. -/
def accepts (state : ParameterState) : List Char → Bool
  | [] => state.mayEnd
  | c :: rest => (state.next c).any (·.accepts rest)

end ParameterState

/-! ### Types -/

/-- A **media type**, in small letters. -/
structure MediaType where
  type : String
  subtype : String
  suffix? : Option String := none
deriving DecidableEq, Repr, Inhabited

/-- The characters before and after the last plus sign, if there is one. -/
def cutAtLastPlus (s : List Char) : List Char × Option (List Char) :=
  if s.contains '+' then
    let suffix := (s.reverse.takeWhile (· ≠ '+')).reverse
    (s.take (s.length - suffix.length - 1), some suffix)
  else (s, none)

/-- A text of these characters, in small letters. -/
def lowered (s : List Char) : String := String.ofList (s.map Char.toLower)

namespace MediaType

/-- The media type of a type and a subtype as they are written. -/
def ofNames (type subtype : List Char) : MediaType :=
  let (rest, suffix) := cutAtLastPlus (subtype.drop 1)
  { type := lowered type
    subtype := lowered (subtype.take 1 ++ rest)
    suffix? := suffix.map lowered }

/-- The **media type that a text writes**, if it writes one. A subtype may be missing only where
nothing follows it. -/
def ofText (s : String) : Option MediaType :=
  let type := s.toList.takeWhile isTokenChar
  match s.toList.drop type.length with
  | '/' :: rest =>
    if type = [] then none
    else
      let subtype := rest.takeWhile isTokenChar
      match rest.drop subtype.length with
      | [] => some (ofNames type subtype)
      | ';' :: parameters =>
        if subtype ≠ [] ∧ ParameterState.beforeName.accepts parameters then
          some (ofNames type subtype)
        else none
      | _ => none
  | _ => none

/-- Whether the media type declares **JSON**. -/
def isJson (m : MediaType) : Bool :=
  m.type = "application" && (m.subtype = "json" || m.suffix? = some "json")

end MediaType

end Colloquy.Http

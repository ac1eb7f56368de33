import Colloquy.Text.Hex

/-!
# Request targets

A request names what it is about by its **target**. Mostly that is a path, and it may be a whole
address, `scheme://authority/path`; a query after a question mark and a fragment after `#` may
follow, and are no part of the path. A target may also be a star, or an authority alone, which has
no path. Of the path of an address nothing need be written, and it is `/` then.

Here the **path** of a target is found (`path?`), and what a piece of it stands for (`decoded?`): a
percent sign with two hexadecimal digits after it writes one byte, and all bytes together have to be
a text.
-/

namespace Colloquy.Http

/-! ### The parts of a target -/

/-- Whether a character may stand in a path as it is. -/
def isPathChar (c : Char) : Bool := ' ' < c && !"<>`".toList.contains c

/-- Whether a character may stand in a query as it is. -/
def isQueryChar (c : Char) : Bool := ' ' < c && !"\"<>".toList.contains c

/-- Whether a character may stand in a scheme. -/
def isSchemeChar (c : Char) : Bool := c.isAlphanum || ['+', '-', '.', '~'].contains c

/-- Whether a character may stand in an authority without meaning anything by itself. -/
def isAuthorityChar (c : Char) : Bool := c.isAlphanum || "!$&'()*+,-.;=_~".toList.contains c

/-- The path at the head of some characters, if these are a path and what may follow it. -/
def leadingPath? (s : List Char) : Option (List Char) :=
  let path := s.takeWhile fun c => c ≠ '?' && c ≠ '#'
  let query := match s.drop path.length with
    | '?' :: rest => rest.takeWhile (· ≠ '#')
    | _ => []
  if path.all isPathChar && query.all isQueryChar then some (if path = [] then ['/'] else path)
  else none

/-- What follows a scheme and its mark, if there is a scheme. -/
def afterScheme? (s : List Char) : Option (List Char) :=
  let scheme := s.takeWhile isSchemeChar
  match s.drop scheme.length with
  | ':' :: '/' :: '/' :: rest => if scheme.length ≤ 64 then some rest else none
  | _ => none

/-! ### Authorities -/

/-- What has been seen of an **authority**. A user comes before an at sign; colons and percent signs
count anew after it, and after the closing bracket of a numeric host. -/
structure AuthorityState where
  colons : Nat := 0
  percent : Bool := false
  opened : Bool := false
  closed : Bool := false
  hostMissing : Bool := false
deriving DecidableEq, Repr

namespace AuthorityState

/-- The state after one more character, if it may stand there. -/
def next (state : AuthorityState) (c : Char) : Option AuthorityState :=
  let state := { state with hostMissing := false }
  if c = ':' then
    if state.colons < 8 then some { state with colons := state.colons + 1 } else none
  else if c = '[' then
    if state.percent || state.opened then none else some { state with opened := true }
  else if c = ']' then
    if !state.opened || state.closed then none
    else some { state with closed := true, colons := 0, percent := false }
  else if c = '@' then some { state with colons := 0, percent := false, hostMissing := true }
  else if c = '%' then some { state with percent := true }
  else if isAuthorityChar c then some state
  else none

/-- Whether the authority may end in this state. -/
def mayEnd (state : AuthorityState) : Bool :=
  state.opened = state.closed && state.colons ≤ 1 && !state.percent && !state.hostMissing

/-- Whether the characters, read from this state on, end well. -/
def accepts (state : AuthorityState) : List Char → Bool
  | [] => state.mayEnd
  | c :: rest => (state.next c).any (·.accepts rest)

end AuthorityState

/-- Whether the characters are an **authority**. -/
def isAuthority (s : List Char) : Bool := s ≠ [] && AuthorityState.accepts {} s

/-! ### Paths -/

/-- The largest number of bytes in a target. -/
def targetLimit : Nat := 65534

/-- The path of a target by its characters, if it is one. -/
def pathOf? : List Char → Option (List Char)
  | ['*'] => some ['*']
  | '/' :: rest => leadingPath? ('/' :: rest)
  | s =>
    match afterScheme? s with
    | some rest =>
      let authority := rest.takeWhile fun c => c ≠ '/' && c ≠ '?' && c ≠ '#'
      if isAuthority authority then leadingPath? (rest.drop authority.length) else none
    | none => if isAuthority s then some [] else none

/-- The **path of a target**, if it is one. -/
def path? (target : String) : Option String :=
  if target.utf8ByteSize ≤ targetLimit then (pathOf? target.toList).map String.ofList else none

/-! ### What a piece of a path stands for -/

/-- The value of a byte that is the code of a hexadecimal digit. -/
def hexByte? (b : UInt8) : Option UInt8 := (Text.hexValue? (Char.ofNat b.toNat)).map Nat.toUInt8

/-- The bytes that bytes with percent signs among them **stand for**. A percent sign without two
hexadecimal digits after it stands for itself. -/
def unescaped : List UInt8 → List UInt8
  | b :: high :: low :: rest =>
    match hexByte? high, hexByte? low with
    | some h, some l =>
      if b = 0x25 then (16 * h + l) :: unescaped rest else b :: unescaped (high :: low :: rest)
    | _, _ => b :: unescaped (high :: low :: rest)
  | bytes => bytes

/-- The text that a piece of a path **stands for**, if it stands for one. -/
def decoded? (piece : String) : Option String :=
  String.fromUTF8? (ByteArray.mk (unescaped piece.toUTF8.toList).toArray)

end Colloquy.Http

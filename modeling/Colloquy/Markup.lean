import Colloquy.Text.Blank
import Colloquy.Text.Word

/-!
# Markup in what is said

A response is speech with **tags** in it, which tell the renderer what to do beside speaking. Two of
them save and restore the state of the playback, in one of two slots or in a place of its own that
has no slot. What the renderer does with them is not modelled; only whether one is written, and
which slot it names.

A text is **speechless** if nothing but blanks is left of it when its tags are taken out. A tag is
`<mark`, not followed by a word character, then any characters other than `>`, and `/>`.
-/

namespace Colloquy

/-- One of the two **slots** in which the state of the playback is saved. -/
inductive Slot where
  | zero
  | one
deriving DecidableEq, Repr, Inhabited

namespace Slot

/-- The other slot. -/
def toggled : Slot → Slot
  | zero => one
  | one => zero

@[simp] theorem toggled_toggled (slot : Slot) : slot.toggled.toggled = slot := by cases slot <;> rfl

theorem toggled_ne (slot : Slot) : slot.toggled ≠ slot := by cases slot <;> decide

/-- The number of the slot. -/
def index : Slot → Nat
  | zero => 0
  | one => 1

/-- The digit of the slot. -/
def digit : Slot → String
  | zero => "0"
  | one => "1"

end Slot

namespace Markup

/-! ### Directives -/

/-- The **save directive** of a slot, or the one without a slot. -/
def save (slot : Option Slot) : String :=
  "<mark name=\"cmd:playback-save,data:\x7b+stateToSAVE+:+MarkupState" ++
    slot.elim "" Slot.digit ++ "+\x7d\"/>"

/-- The **restore directive** of a slot, or the one without a slot. -/
def restore (slot : Option Slot) : String :=
  "<mark name=\"cmd:playback-restore,data:\x7b+stateToRESTORE+:+MarkupState" ++
    slot.elim "" Slot.digit ++ "+\x7d\"/>"

/-! ### Speech -/

/-- The characters every tag begins with. -/
def opening : List Char := ['<', 'm', 'a', 'r', 'k']

/-- The number of characters in the **tag** at the head of a text, if one stands there. -/
def tagLength? (s : List Char) : Option Nat :=
  if opening.isPrefixOf s then
    let inside := (s.drop opening.length).takeWhile (· ≠ '>')
    let closed := (s.drop opening.length).drop inside.length ≠ []
    if closed ∧ inside.getLast? = some '/' ∧ ¬ (inside.head?.any Text.isWordChar) then
      some (opening.length + inside.length + 1)
    else none
  else none

/-- The text without its tags. The count says how many of the coming characters belong to a tag
that has been found already. -/
def untaggedFrom : Nat → List Char → List Char
  | _, [] => []
  | inTag + 1, _ :: rest => untaggedFrom inTag rest
  | 0, c :: rest =>
    match tagLength? (c :: rest) with
    | some length => untaggedFrom (length - 1) rest
    | none => c :: untaggedFrom 0 rest

/-- Whether a text is **speechless**: only tags and blanks. -/
def isSpeechless (s : String) : Bool := (untaggedFrom 0 s.toList).all Text.isBlank

end Markup

end Colloquy

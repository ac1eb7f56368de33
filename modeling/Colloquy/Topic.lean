import Colloquy.Text.Blank
import Colloquy.Text.Casing
import Colloquy.Text.Search

/-!
# Topics and modules

A conversation moves through **topics**, and every topic belongs to a **module**. A topic is written
`~module_subject.rule`: a tilde that may be left out, the name of the module up to the first
underscore, and after the first dot the label of a rule, which is not part of the topic. Blanks
around a name mean nothing, and modules are compared in small letters.

The topic that a turn ends in is the last one it went through that belongs to the module it ended
in (`Topic.resolve`).
-/

namespace Colloquy.Topic

/-- The text without a tilde at its head. -/
def dropTilde : List Char → List Char
  | '~' :: rest => rest
  | s => s

/-- The **bare name**: without the blanks around it and without one tilde before it. -/
def bare (name : String) : String := String.ofList (dropTilde (Text.trimChars name.toList))

@[simp] theorem toList_bare (name : String) :
    (bare name).toList = dropTilde (Text.trimChars name.toList) := by
  simp [bare]

/-- The **module** of a topic, as it is written. -/
def moduleOf (topic : String) : String := bare (Text.before '_' topic)

/-- The name by which a module is **compared**: its bare name in small letters. -/
def moduleKey (module : String) : String := Text.lower (bare module)

/-- A topic without the label of the rule. -/
def withoutRule (topic : String) : String := Text.before '.' topic

/-- Whether the topic belongs to the module of this key. -/
def belongs (key topic : String) : Bool := Text.lower (moduleOf topic) = key

/-- The **topic a turn ends in**: of the topics it went through, the last one of its module. There
is none if the module has no name or if nothing of that topic's name is left. -/
def resolve (module : String) (topics : List String) : Option String :=
  if Text.allBlank module then none
  else
    let own := (topics.map withoutRule).filter (belongs (moduleKey module))
    (own.getLast?.map bare).filter (· ≠ "")

end Colloquy.Topic

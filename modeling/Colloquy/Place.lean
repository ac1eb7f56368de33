import Colloquy.Catalog
import Colloquy.Refusal

/-!
# Places in a conversation

A **place** is where the conversation was when a turn ended. The context of a remote request is
looked up there, from the narrowest to the widest: topic, content, module, and the one for
everything else. The first that says anything is taken, and a request that has a context keeps it.
-/

namespace Colloquy

/-- A **place** in a conversation. -/
structure Place where
  module : String := ""
  contentId : String := ""
  topic : String := ""
deriving DecidableEq, Repr, Inhabited

namespace Place

/-- The contexts that come into question at a place, the narrowest first. -/
def contexts (catalog : Catalog) (place : Place) : List RemoteContext :=
  [(catalog.topicEntry place.module place.topic).context,
   catalog.contentContext place.module place.contentId,
   catalog.moduleContext place.module,
   catalog.defaultContext]

end Place

/-- The request with the **context of a place**, refused if there is none. -/
def RemoteRequest.placed (request : RemoteRequest) (catalog : Catalog) (place : Place) :
    Except Refusal RemoteRequest :=
  if request.context.isEmpty then
    match (place.contexts catalog).find? (! ·.isEmpty) with
    | some context => .ok { request with context }
    | none => .error (.missingContext place.module place.topic)
  else .ok request

end Colloquy

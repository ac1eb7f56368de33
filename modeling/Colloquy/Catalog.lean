import Colloquy.Turn

/-!
# The catalog of authored content

Authors say for each topic how turns that find no answer in it are to be treated, and for topics,
contents and modules in which context the remote engine is to answer. Where nothing is authored the
treatment is the ordinary one and the context is empty.
-/

namespace Colloquy

/-- How a turn without an answer is **treated** in a topic. -/
inductive Treatment where
  | ordinary
  | silent
  | conversation
  | localOnly
  | noRemote
deriving DecidableEq, Repr, Inhabited

/-- What is authored for a **topic**. -/
structure TopicEntry where
  treatment : Treatment := .ordinary
  context : RemoteContext := {}
deriving DecidableEq, Repr, Inhabited

/-- What is authored for a **module**: its context, and those of its contents and topics. -/
structure ModuleEntry where
  context : RemoteContext := {}
  contents : Dict RemoteContext := ∅
  topics : Dict TopicEntry := ∅
deriving DecidableEq, Inhabited

/-- The **catalog**: the modules by name, and the context where nothing else is authored. -/
structure Catalog where
  defaultContext : RemoteContext := {}
  modules : Dict ModuleEntry := ∅
deriving DecidableEq, Inhabited

namespace Catalog

/-- What is authored for a module. -/
def entry (catalog : Catalog) (module : String) : ModuleEntry := catalog.modules.getD module {}

/-- What is authored for a topic. -/
def topicEntry (catalog : Catalog) (module topic : String) : TopicEntry :=
  (catalog.entry module).topics.getD topic {}

/-- The context of a module. -/
def moduleContext (catalog : Catalog) (module : String) : RemoteContext :=
  (catalog.entry module).context

/-- The context of a content. -/
def contentContext (catalog : Catalog) (module contentId : String) : RemoteContext :=
  (catalog.entry module).contents.getD contentId {}

/-! ### Authoring -/

/-- The catalog with another entry for a module. -/
def setEntry (catalog : Catalog) (module : String) (entry : ModuleEntry) : Catalog :=
  { catalog with modules := catalog.modules.insert module entry }

/-- Authors a topic. -/
def withTopic (catalog : Catalog) (module topic : String) (entry : TopicEntry) : Catalog :=
  let old := catalog.entry module
  catalog.setEntry module { old with topics := old.topics.insert topic entry }

/-- Authors the context of a module. -/
def withModuleContext (catalog : Catalog) (module : String) (context : RemoteContext) : Catalog :=
  catalog.setEntry module { catalog.entry module with context }

/-- Authors the context of a content. -/
def withContentContext (catalog : Catalog) (module contentId : String) (context : RemoteContext) :
    Catalog :=
  let old := catalog.entry module
  catalog.setEntry module { old with contents := old.contents.insert contentId context }

/-- Authors the context where nothing else is authored. -/
def withDefaultContext (catalog : Catalog) (context : RemoteContext) : Catalog :=
  { catalog with defaultContext := context }

end Catalog

end Colloquy

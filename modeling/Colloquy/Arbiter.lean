import Colloquy.Escalation
import Colloquy.Topic

/-!
# The arbiter: who owns a turn

Each turn is **owned** by one of five policies, and the owner decides what happens if the turn finds
no answer. The policies are asked in a fixed order, and the first that claims the turn has it:

* `event`: an event other than the resume event;
* `silent`: the user may interrupt, or the topic asks for silence;
* `conversation`: the conversation is open, and the remote engine has it;
* `social`: social chat, with local rules only;
* `default`: everything else, with escalation.

Only the last of them remembers anything from one turn to the next. What is authored for the topic
is looked up where the conversation was when the last turn ended, which the arbiter keeps track of.
-/

namespace Colloquy

/-! ### The conversation as a whole -/

/-- Whether the conversation is **awake**. -/
inductive Phase where
  | awake
  | sleep
deriving DecidableEq, Repr, Inhabited

/-- What the surroundings say about the **conversation**. -/
structure Conversation where
  phase : Phase := .awake
  interruptible : Bool := false
deriving DecidableEq, Repr, Inhabited

/-! ### Owners -/

/-- The **owner** of a turn. -/
inductive Owner where
  | event
  | silent
  | conversation
  | social
  | default
deriving DecidableEq, Repr, Inhabited

/-- What a policy looks at before it claims a turn. -/
structure Claim where
  turn : Turn
  conversation : Conversation
  priorModule : String
  treatment : Treatment
deriving DecidableEq, Inhabited

namespace Owner

/-- The name of a policy. -/
def name : Owner → String
  | event => "EVENT"
  | silent => "SILENT"
  | conversation => "CONVERSATION"
  | social => "SOCIAL_ONLY"
  | default => "DEFAULT"

/-- The policies in the order in which they are asked. -/
def all : List Owner := [event, silent, conversation, social, default]

/-- Whether a policy **claims** a turn. -/
def claims (settings : ArbiterSettings) (claim : Claim) : Owner → Bool
  | event => claim.turn.input.isEvent && !claim.turn.input.isEventNamed settings.resumeEvent
  | silent => claim.conversation.interruptible || claim.treatment = .silent
  | conversation => claim.priorModule = settings.openModule || claim.treatment = .conversation
  | social => claim.turn.socialChat || claim.treatment = .localOnly
  | default => true

/-- The **first** policy that claims the turn. The last one claims every turn. -/
def first (settings : ArbiterSettings) (claim : Claim) : Owner :=
  (all.find? (·.claims settings claim)).getD default

/-- What a policy that claims a turn remembers of the topic. -/
def accept (owner : Owner) (treatment : Treatment) (e : Escalation) : Escalation :=
  if owner = default then e.claim treatment else e

/-- The owner **starts** the turn. -/
def start (settings : ArbiterSettings) (catalog : Catalog) (place : Place) (owner : Owner)
    (e : Escalation) (turn : Turn) : Escalation × Turn :=
  match owner with
  | conversation =>
    (e, { turn with remoteRequest := { turn.remoteRequest with allowMultiple := true } })
  | default => e.start settings catalog place turn
  | _ => (e, turn)

/-- Reuses the rule that the engine names for fallbacks, if it names one. -/
def reuseAuthored (engine : Engine) : Bool × Engine :=
  let rule := (engine.value? Engine.fallbackRule).getD ""
  if rule = "" then (false, engine) else engine.reuse rule

/-- The owner **handles** a fallback: whether it did, and what it remembers and asked. -/
def handle (owner : Owner) (e : Escalation) (engine : Engine) : Bool × Escalation × Engine :=
  match owner with
  | event => (true, e, (engine.run Engine.keepRejoinder).run Engine.keepCounter)
  | silent =>
    let engine := ((engine.setVariable Engine.noPrelude "true").run Engine.keepRejoinder).run
      Engine.noRepeat
    (true, e, (engine.setKind .empty).run Engine.keepCounter)
  | conversation =>
    (true, e, ((engine.setKind .fallback).resolve .useRemote).say .fallbackRepeat)
  | social =>
    let (done, engine) := reuseAuthored engine
    (done, e, engine)
  | default =>
    let (e, engine) := e.handle engine
    (true, e, engine)

/-- What the owner remembers when something is done to it that only the escalation minds. -/
def adjust (owner : Owner) (change : Escalation → Escalation) (e : Escalation) : Escalation :=
  if owner = default then change e else e

/-- The counter as the owner has it. -/
def counter (owner : Owner) (e : Escalation) : UInt32 := if owner = default then e.counter else 0

/-- The waiting utterance as the owner has it. -/
def lastSpeech (owner : Owner) (e : Escalation) : String :=
  if owner = default then e.lastSpeech else ""

end Owner

/-! ### The arbiter -/

/-- The state of the **arbiter**: the owner of the turn, the place where the last turn ended, and
the escalation. -/
structure Arbiter where
  owner? : Option Owner := none
  place : Place := {}
  escalation : Escalation := {}
deriving DecidableEq, Repr, Inhabited

/-- What came of handling a fallback: nothing, because the arbiter is switched off; or the owner
handled it, by its own means or with the generic line in its stead. -/
inductive Handled where
  | disabled
  | by (owner : Owner) (itself : Bool)
deriving DecidableEq, Repr

namespace Arbiter

/-- What the policies look at, at the start of a turn. -/
def claimOf (catalog : Catalog) (conversation : Conversation) (arbiter : Arbiter) (turn : Turn) :
    Claim where
  turn := turn
  conversation := conversation
  priorModule := arbiter.place.module
  treatment := (catalog.topicEntry arbiter.place.module arbiter.place.topic).treatment

/-- **Starts** a turn: finds its owner and lets it prepare the turn. -/
def start (settings : ArbiterSettings) (catalog : Catalog) (conversation : Conversation)
    (arbiter : Arbiter) (turn : Turn) : Arbiter × Turn :=
  if settings.enabled then
    let claim := arbiter.claimOf catalog conversation turn
    let owner := Owner.first settings claim
    let (escalation, turn) := owner.start settings catalog arbiter.place
      (owner.accept claim.treatment arbiter.escalation) turn
    ({ arbiter with owner? := some owner, escalation }, turn)
  else (arbiter, turn)

/-- **Handles** a fallback. If the owner has nothing to say, the generic line is said for it. -/
def handle (settings : ArbiterSettings) (arbiter : Arbiter) (engine : Engine) :
    Except Refusal (Handled × Arbiter × Engine) :=
  if settings.enabled then
    match arbiter.owner? with
    | none => .error .noPolicyClaimed
    | some owner =>
      let (done, escalation, engine) := owner.handle arbiter.escalation engine
      let engine :=
        if done then engine
        else ((engine.setKind .fallback).say .fallbackRepeat).run Engine.keepCounter
      .ok (.by owner done, { arbiter with escalation }, engine)
  else .ok (.disabled, arbiter, engine)

/-- The place where an output leaves the conversation. An output without a module leaves it without
a topic; one whose topics are all of other modules leaves it in the topic it was in. -/
def placeAfter (place : Place) (output : Output) : Place where
  module := output.module
  contentId := output.contentId
  topic :=
    if output.module = "" then ""
    else (Topic.resolve output.module output.topics).getD place.topic

/-- The arbiter with its owner's memory changed. -/
def adjust (change : Escalation → Escalation) (arbiter : Arbiter) : Arbiter :=
  match arbiter.owner? with
  | some owner => { arbiter with escalation := owner.adjust change arbiter.escalation }
  | none => arbiter

/-- **Finishes** a turn, answered here or by the remote engine. -/
def finish (arbiter : Arbiter) (turn : Turn) : Arbiter :=
  let place := turn.output.elim arbiter.place (placeAfter arbiter.place)
  { arbiter with place }.adjust (·.finish turn)

/-- **Aborts** a turn. -/
def abort (arbiter : Arbiter) : Arbiter := arbiter.adjust Escalation.abort

/-! ### Counters -/

/-- Sets every counter to zero, whoever owns the turn. -/
def resetAllCounters (arbiter : Arbiter) : Arbiter :=
  { arbiter with escalation := arbiter.escalation.resetCounter }

/-- The conversation goes from one phase to another; waking up sets every counter to zero. -/
def phaseChanged (arbiter : Arbiter) (previous current : Phase) : Arbiter :=
  if previous = .sleep ∧ current ≠ .sleep then arbiter.resetAllCounters else arbiter

/-- The owner, which a counter command needs. -/
def ownerOrRefusal (arbiter : Arbiter) : Except Refusal Owner :=
  match arbiter.owner? with
  | some owner => .ok owner
  | none => .error .noActivePolicy

/-- A counter command, refused if the turn has no owner. -/
def command (change : Escalation → Escalation) (arbiter : Arbiter) : Except Refusal Arbiter := do
  let _ ← arbiter.ownerOrRefusal
  return arbiter.adjust change

/-- The owner's counter. -/
def counter (arbiter : Arbiter) : Except Refusal UInt32 := do
  return (← arbiter.ownerOrRefusal).counter arbiter.escalation

/-- The owner's waiting utterance. -/
def lastSpeech (arbiter : Arbiter) : Except Refusal String := do
  return (← arbiter.ownerOrRefusal).lastSpeech arbiter.escalation

end Arbiter

end Colloquy

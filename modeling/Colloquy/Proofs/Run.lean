import Colloquy.Proofs.Command

/-!
# How a turn runs

A turn goes from the desk at which its commands begin to be answered (`openedDesk`) to the desk at
which they have been (`answeredDesk`), and from there to its end. This file says what the session is
after it in terms of the second desk (`runTurn_snd`), and what the report says of it, so that
statements about a whole turn are put together from statements about its three parts.

## What holds between turns

A session is **reachable** if it comes from a new one by turns, by changes of the surroundings, and
by taking events (`Reachable`). In one whose arbiter is switched off nobody ever owns a turn, so
that a turn of the escalation is always one that was taken up (`Reachable.enabled_of_default`).
-/

namespace Colloquy

/-! ### Who owns a turn -/

@[simp] theorem Input.isEventNamed_event (name other : String) :
    (Input.event name).isEventNamed other = decide (name = other) := rfl

namespace Owner

variable {settings : ArbiterSettings} {claim : Claim}

/-- The policies are asked **one after the other**. -/
theorem first_eq :
    first settings claim =
      if event.claims settings claim then event
      else if silent.claims settings claim then silent
      else if conversation.claims settings claim then conversation
      else if social.claims settings claim then social
      else default := by
  simp only [first, all, List.find?_cons]
  cases event.claims settings claim <;> cases silent.claims settings claim <;>
    cases conversation.claims settings claim <;> cases social.claims settings claim <;> rfl

/-- An event that resumes nothing owns its turn. -/
theorem first_of_event (h : claim.turn.input.isEvent = true)
    (hresumes : claim.turn.input.isEventNamed settings.resumeEvent = false) :
    first settings claim = .event := by
  rw [first_eq, if_pos]
  simp [claims, h, hresumes]

/-- The escalation owns no turn in which the user may interrupt. -/
theorem interruptible_of_first (h : first settings claim = .default) :
    claim.conversation.interruptible = false := by
  cases hi : claim.conversation.interruptible with
  | false => rfl
  | true =>
    have hsilent : silent.claims settings claim = true := by simp [claims, hi]
    rw [first_eq, hsilent, if_pos rfl] at h
    split at h <;> cases h

/-- The turn that **resumes** a resolution is the escalation's, where nothing else is authored. -/
theorem first_of_resumes (hresumes : claim.turn.input.isEventNamed settings.resumeEvent = true)
    (hinterruptible : claim.conversation.interruptible = false)
    (htreatment : claim.treatment = .ordinary) (hmodule : claim.priorModule ≠ settings.openModule)
    (hsocial : claim.turn.socialChat = false) : first settings claim = .default := by
  simp [first_eq, claims, hresumes, hinterruptible, htreatment, hmodule, hsocial]

end Owner

/-! ### The arbiter at the start and at the end of a turn -/

namespace Arbiter

variable (settings : ArbiterSettings) (catalog : Catalog) (conversation : Conversation)
  (arbiter : Arbiter) (turn : Turn)

/-- Only the escalation has a memory that its owner could adjust. -/
theorem adjust_eq (change : Escalation → Escalation) :
    arbiter.adjust change =
      if arbiter.owner? = some .default then
        { arbiter with escalation := change arbiter.escalation }
      else arbiter := by
  obtain ⟨owner, place, escalation⟩ := arbiter
  cases owner with
  | none => rfl
  | some owner => cases owner <;> rfl

theorem abort_eq :
    arbiter.abort =
      if arbiter.owner? = some .default then
        { arbiter with escalation := arbiter.escalation.abort }
      else arbiter :=
  arbiter.adjust_eq _

theorem finish_eq :
    arbiter.finish turn =
      { owner? := arbiter.owner?
        place := turn.output.elim arbiter.place (placeAfter arbiter.place)
        escalation :=
          if arbiter.owner? = some .default then arbiter.escalation.finish turn
          else arbiter.escalation } := by
  rw [finish, adjust_eq]
  split <;> rfl

/-- An arbiter that is switched off leaves everything as it is. -/
theorem start_of_disabled (h : settings.enabled = false) :
    arbiter.start settings catalog conversation turn = (arbiter, turn) := by
  simp [start, h]

/-- **The start of a turn** finds its owner, and takes the turn up if that is the escalation. -/
theorem start_of_enabled (h : settings.enabled = true) :
    (arbiter.start settings catalog conversation turn).1 =
      let claim := arbiter.claimOf catalog conversation turn
      { owner? := some (Owner.first settings claim)
        place := arbiter.place
        escalation :=
          if Owner.first settings claim = .default then
            arbiter.escalation.takenUp settings claim.treatment turn.input
          else arbiter.escalation } := by
  simp only [start, h, if_true]
  cases Owner.first settings (arbiter.claimOf catalog conversation turn) <;>
    simp [Owner.start, Owner.accept, Escalation.start_claim]

/-- The input keeps its text, and there is no output yet. -/
theorem start_turn :
    (arbiter.start settings catalog conversation turn).2.input.text = turn.input.text ∧
      (arbiter.start settings catalog conversation turn).2.output = turn.output := by
  cases h : settings.enabled with
  | false => rw [start_of_disabled _ _ _ _ _ h]; exact ⟨rfl, rfl⟩
  | true =>
    simp only [start, h, if_true]
    cases Owner.first settings (arbiter.claimOf catalog conversation turn) with
    | default => exact Escalation.start_turn settings _ catalog arbiter.place turn
    | _ => exact ⟨rfl, rfl⟩

end Arbiter

/-- The script of a turn in which the fallback is handled. -/
def TurnScript.handling (input : Input) : TurnScript :=
  (TurnScript.ofInput input).withCommand Command.handleFallback.call

namespace Session

variable (setup : Setup) (s : Session) (script : TurnScript)

/-! ### The parts of a turn -/

/-- The surroundings **wake** the conversation at the start of this turn. -/
def Wakes : Prop :=
  s.conversation.phase = .sleep ∧ ∃ conversation ∈ script.conversation, conversation.phase = .awake

instance : Decidable (s.Wakes script) := inferInstanceAs (Decidable (_ ∧ _))

/-- Where the surroundings say nothing, nobody wakes up. -/
theorem not_wakes {script : TurnScript} (h : script.conversation = none) : ¬ s.Wakes script := by
  simp [Wakes, h]

/-- The **treatment** of the topic in which the last turn ended. -/
def treatment : Treatment :=
  (setup.catalog.topicEntry s.arbiter.place.module s.arbiter.place.topic).treatment

/-- The desk at which the commands of a turn **begin** to be answered. -/
def openedDesk : Desk where
  arbiter := (s.openTurn setup script).1.arbiter
  tracker := (s.openTurn setup script).1.tracker
  engine := { script := script.engine }

/-- The desk at which the commands of a turn **have been** answered. -/
def answeredDesk : Desk :=
  (answerAll setup.settings.arbiter (s.openedDesk setup script) script.commands).2.2

/-- What the commands of a turn have said. -/
def spoken : List String :=
  (answerAll setup.settings.arbiter (s.openedDesk setup script) script.commands).2.1

/-- The turn with the **output** that has been put together when its commands have been answered. -/
def answeredTurn : Turn :=
  { (s.openTurn setup script).2 with
    output := withSpoken ((s.answeredDesk setup script).engine.applyTo script.output)
      (s.spoken setup script) }

/-- The session when the commands of a turn have been answered. -/
def answered : Session :=
  { (s.openTurn setup script).1 with
    arbiter := (s.answeredDesk setup script).arbiter
    tracker := (s.answeredDesk setup script).tracker }

/-- A turn is opened, its commands are answered, it is closed, and it is reported. -/
theorem runTurn_eq :
    s.runTurn setup script =
      let closed := (s.answered setup script).closeTurn setup script (s.answeredTurn setup script)
      (closed.1.report script closed.2 (s.answeredDesk setup script).engine
        (answerAll setup.settings.arbiter (s.openedDesk setup script) script.commands).1,
        closed.1) := rfl

/-- The **report** of a turn is made of the session after it, and of the turn as it was closed. -/
theorem runTurn_fst :
    (s.runTurn setup script).1 =
      (s.runTurn setup script).2.report script
        ((s.answered setup script).closeTurn setup script (s.answeredTurn setup script)).2
        (s.answeredDesk setup script).engine
        (answerAll setup.settings.arbiter (s.openedDesk setup script) script.commands).1 := rfl

/-- The session **after a turn**. -/
theorem runTurn_snd :
    (s.runTurn setup script).2 =
      { arbiter :=
          if script.abort then (s.answeredDesk setup script).arbiter.abort
          else (s.answeredDesk setup script).arbiter.finish (s.answeredTurn setup script)
        tracker :=
          if script.abort then (s.answeredDesk setup script).tracker.abort
          else if script.remote then
            (s.answeredDesk setup script).tracker.finishRemote setup.settings.tracker
              (s.answeredTurn setup script)
          else
            ((s.answeredDesk setup script).tracker.finish setup.settings.tracker
              (s.answeredTurn setup script)).1
        conversation := script.conversation.getD s.conversation
        turns := s.turns + 1 } := by
  have hconv : (s.answered setup script).conversation =
      script.conversation.getD s.conversation := by
    cases h : script.conversation <;> simp [answered, openTurn, setConversation, h]
  have hturns : (s.answered setup script).turns = s.turns + 1 := by
    cases h : script.conversation <;> simp [answered, openTurn, setConversation, h]
  rw [← hconv, ← hturns, runTurn_eq]
  dsimp only [closeTurn]
  split
  · rfl
  · split <;> rfl

/-- The first of the turns that are run is over before the others. -/
theorem runTurns_cons (scripts : List TurnScript) :
    s.runTurns setup (script :: scripts) =
      ((s.runTurn setup script).1 :: ((s.runTurn setup script).2.runTurns setup scripts).1,
        ((s.runTurn setup script).2.runTurns setup scripts).2) := rfl

/-! ### The opened desk -/

/-- The escalation when the surroundings have been **heard**, before the turn has an owner. -/
def heard : Escalation :=
  if s.Wakes script then s.arbiter.escalation.resetCounter else s.arbiter.escalation

/-- What a turn is opened with: its input, and no output yet. -/
def bareTurn (script : TurnScript) : Turn where
  input := script.input
  socialChat := script.socialChat

theorem arbiter_heard :
    (script.conversation.elim s s.setConversation).arbiter =
      { s.arbiter with escalation := s.heard script } := by
  cases hc : script.conversation with
  | none => simp [heard, Wakes, hc]
  | some conversation =>
    have hphase : conversation.phase ≠ .sleep ↔ conversation.phase = .awake := by
      cases conversation.phase <;> decide
    simp only [Option.elim_some, setConversation, Arbiter.phaseChanged, heard, Wakes, hc,
      Option.mem_some_iff, exists_eq_left', hphase]
    split <;> rfl

/-- The arbiter of the opened desk is the one that has heard the surroundings, started. -/
theorem openTurn_start :
    ((s.openTurn setup script).1.arbiter, (s.openTurn setup script).2) =
      Arbiter.start setup.settings.arbiter setup.catalog (script.conversation.getD s.conversation)
        { s.arbiter with escalation := s.heard script } (bareTurn script) := by
  have hconv : (script.conversation.elim s s.setConversation).conversation =
      script.conversation.getD s.conversation := by
    cases script.conversation <;> rfl
  rw [← arbiter_heard, ← hconv]
  cases h : script.conversation <;> simp [openTurn, setConversation, bareTurn, h]

theorem tracker_openedDesk : (s.openedDesk setup script).tracker = s.tracker.start := by
  cases h : script.conversation <;> simp [openedDesk, openTurn, setConversation, h]

theorem openedDesk_arbiter :
    (s.openedDesk setup script).arbiter =
      (Arbiter.start setup.settings.arbiter setup.catalog (script.conversation.getD s.conversation)
        { s.arbiter with escalation := s.heard script } (bareTurn script)).1 :=
  congrArg Prod.fst (s.openTurn_start setup script)

/-- The place where the last turn ended is still the same. -/
theorem place_openedDesk : (s.openedDesk setup script).arbiter.place = s.arbiter.place := by
  rw [openedDesk_arbiter]
  cases h : setup.settings.arbiter.enabled with
  | false => rw [Arbiter.start_of_disabled _ _ _ _ _ h]
  | true => rw [Arbiter.start_of_enabled _ _ _ _ _ h]

theorem owner?_openedDesk_of_disabled (h : setup.settings.arbiter.enabled = false) :
    (s.openedDesk setup script).arbiter.owner? = s.arbiter.owner? := by
  rw [openedDesk_arbiter, Arbiter.start_of_disabled _ _ _ _ _ h]

/-- What the policies look at when the turn is opened. -/
def claim : Claim :=
  Arbiter.claimOf setup.catalog (script.conversation.getD s.conversation) s.arbiter
    (bareTurn script)

theorem owner?_openedDesk_of_enabled (h : setup.settings.arbiter.enabled = true) :
    (s.openedDesk setup script).arbiter.owner? =
      some (Owner.first setup.settings.arbiter (s.claim setup script)) := by
  rw [openedDesk_arbiter, Arbiter.start_of_enabled _ _ _ _ _ h]
  rfl

/-- In a turn that the escalation owns, the turn has been **taken up**. -/
theorem escalation_openedDesk_of_default (hen : setup.settings.arbiter.enabled = true)
    (h : (s.openedDesk setup script).arbiter.owner? = some .default) :
    (s.openedDesk setup script).arbiter.escalation =
      (s.heard script).takenUp setup.settings.arbiter (s.treatment setup) script.input := by
  rw [owner?_openedDesk_of_enabled _ _ _ hen, Option.some_inj] at h
  rw [openedDesk_arbiter, Arbiter.start_of_enabled _ _ _ _ _ hen]
  exact if_pos h

/-- In every other turn the escalation is left alone. -/
theorem escalation_openedDesk_of_other
    (h : (s.openedDesk setup script).arbiter.owner? ≠ some .default) :
    (s.openedDesk setup script).arbiter.escalation = s.heard script := by
  rw [openedDesk_arbiter]
  cases hen : setup.settings.arbiter.enabled with
  | false => rw [Arbiter.start_of_disabled _ _ _ _ _ hen]
  | true =>
    rw [owner?_openedDesk_of_enabled _ _ _ hen] at h
    rw [Arbiter.start_of_enabled _ _ _ _ _ hen]
    exact if_neg fun he => h (congrArg some he)

/-! ### The answered desk -/

theorem answeredDesk_eq :
    s.answeredDesk setup script =
      let half := (accepted script.commands).foldl (Command.onArbiter setup.settings.arbiter)
        ((s.openedDesk setup script).arbiter, { script := script.engine })
      { arbiter := half.1
        tracker := (accepted script.commands).foldl Command.onTracker s.tracker.start
        engine := half.2 } := by
  rw [answeredDesk, answerAll_eq, tracker_openedDesk]
  rfl

theorem answeredDesk_frame :
    (s.answeredDesk setup script).arbiter.owner? = (s.openedDesk setup script).arbiter.owner? ∧
      (s.answeredDesk setup script).arbiter.place = s.arbiter.place := by
  obtain ⟨howner, hplace⟩ := Command.foldl_onArbiter_frame setup.settings.arbiter
    ((s.openedDesk setup script).arbiter, { script := script.engine }) (accepted script.commands)
  rw [answeredDesk_eq]
  exact ⟨howner, hplace.trans (s.place_openedDesk setup script)⟩

theorem tracker_answeredDesk :
    (s.answeredDesk setup script).tracker =
      (accepted script.commands).foldl Command.onTracker s.tracker.start := by
  rw [answeredDesk_eq]

/-- The commands of a turn leave the queue and the last prompt. -/
theorem remembered_answeredDesk :
    (s.answeredDesk setup script).tracker.queue = s.tracker.queue ∧
      (s.answeredDesk setup script).tracker.lastPrompt = s.tracker.lastPrompt := by
  obtain ⟨hqueue, hprompt, -⟩ :=
    Command.foldl_onTracker_frame s.tracker.start (accepted script.commands)
  rw [tracker_answeredDesk]
  exact ⟨hqueue, hprompt⟩

/-- The escalation and the engine when the commands of a turn have been answered, if the
**escalation** owns the turn. -/
def escalated : Escalation × Engine :=
  (accepted script.commands).foldl Command.onEscalation
    ((s.heard script).takenUp setup.settings.arbiter (s.treatment setup) script.input,
      { script := script.engine })

theorem answeredDesk_of_default (hen : setup.settings.arbiter.enabled = true)
    (h : (s.openedDesk setup script).arbiter.owner? = some .default) :
    (s.answeredDesk setup script).arbiter.escalation = (s.escalated setup script).1 ∧
      (s.answeredDesk setup script).engine = (s.escalated setup script).2 := by
  rw [answeredDesk_eq, Command.foldl_onArbiter_of_default hen h,
    escalation_openedDesk_of_default _ _ _ hen h]
  exact ⟨rfl, rfl⟩

/-- In every other turn only the resetting of all counters reaches the escalation. -/
theorem escalation_answeredDesk_of_other
    (h : (s.openedDesk setup script).arbiter.owner? ≠ some .default) :
    (s.answeredDesk setup script).arbiter.escalation =
      if .resetAllCounters ∈ accepted script.commands ∧
          (s.openedDesk setup script).arbiter.owner?.isSome then
        (s.heard script).resetCounter
      else s.heard script := by
  rw [answeredDesk_eq]
  dsimp only
  rw [Command.foldl_onArbiter_of_other _ h]
  split
  · rw [Arbiter.resetAllCounters, escalation_openedDesk_of_other _ _ _ h]
  · exact escalation_openedDesk_of_other _ _ _ h

/-! ### The end of the turn -/

theorem arbiter_runTurn :
    (s.runTurn setup script).2.arbiter =
      if script.abort then (s.answeredDesk setup script).arbiter.abort
      else (s.answeredDesk setup script).arbiter.finish (s.answeredTurn setup script) := by
  rw [runTurn_snd]

theorem tracker_runTurn :
    (s.runTurn setup script).2.tracker =
      if script.abort then (s.answeredDesk setup script).tracker.abort
      else if script.remote then
        (s.answeredDesk setup script).tracker.finishRemote setup.settings.tracker
          (s.answeredTurn setup script)
      else
        ((s.answeredDesk setup script).tracker.finish setup.settings.tracker
          (s.answeredTurn setup script)).1 := by
  rw [runTurn_snd]

/-- The owner that was found when the turn was opened owns it to the end. -/
theorem owner?_runTurn :
    (s.runTurn setup script).2.arbiter.owner? = (s.openedDesk setup script).arbiter.owner? := by
  rw [arbiter_runTurn, ← (s.answeredDesk_frame setup script).1, Arbiter.abort_eq, Arbiter.finish_eq]
  split
  · split <;> rfl
  · rfl

theorem place_runTurn :
    (s.runTurn setup script).2.arbiter.place =
      if script.abort then s.arbiter.place
      else (s.answeredTurn setup script).output.elim s.arbiter.place
        (Arbiter.placeAfter s.arbiter.place) := by
  rw [arbiter_runTurn, ← (s.answeredDesk_frame setup script).2, Arbiter.abort_eq, Arbiter.finish_eq]
  split
  · split <;> rfl
  · rfl

theorem escalation_runTurn_of_default
    (h : (s.openedDesk setup script).arbiter.owner? = some .default) :
    (s.runTurn setup script).2.arbiter.escalation =
      if script.abort then (s.answeredDesk setup script).arbiter.escalation.abort
      else (s.answeredDesk setup script).arbiter.escalation.finish
        (s.answeredTurn setup script) := by
  rw [← (s.answeredDesk_frame setup script).1] at h
  rw [arbiter_runTurn, Arbiter.abort_eq, Arbiter.finish_eq, if_pos h, if_pos h]
  split <;> rfl

theorem escalation_runTurn_of_other
    (h : (s.openedDesk setup script).arbiter.owner? ≠ some .default) :
    (s.runTurn setup script).2.arbiter.escalation =
      (s.answeredDesk setup script).arbiter.escalation := by
  rw [← (s.answeredDesk_frame setup script).1] at h
  rw [arbiter_runTurn, Arbiter.abort_eq, Arbiter.finish_eq, if_neg h, if_neg h]
  split <;> rfl

/-! ### What is reported -/

theorem owner_report :
    (s.runTurn setup script).1.owner = (s.openedDesk setup script).arbiter.owner? :=
  s.owner?_runTurn setup script

theorem resolution_report :
    (s.runTurn setup script).1.resolution = (s.answeredDesk setup script).engine.resolution? := rfl

/-- Finishing a turn may change what is said, but not what it counts as. -/
theorem outputKind?_finish (settings : TrackerSettings) (t : Tracker) (turn : Turn) :
    (t.finish settings turn).2.outputKind? = turn.outputKind? := by
  obtain ⟨input, output, request, social⟩ := turn
  cases output <;> rfl

theorem outputKind_report :
    (s.runTurn setup script).1.outputKind =
      if script.abort then none else (s.answeredTurn setup script).outputKind? := by
  rw [runTurn_eq]
  dsimp only [report, closeTurn]
  split
  · rfl
  · split
    · rfl
    · exact outputKind?_finish _ _ _

theorem response_report_of_abort (h : script.abort = true) :
    (s.runTurn setup script).1.response = none := by
  rw [runTurn_eq]
  dsimp only [report, closeTurn]
  rw [if_pos h]
  rfl

theorem text_answeredTurn : (s.answeredTurn setup script).input.text = script.input.text := by
  have h := (Arbiter.start_turn setup.settings.arbiter setup.catalog
    (script.conversation.getD s.conversation) { s.arbiter with escalation := s.heard script }
    (bareTurn script)).1
  rw [← openTurn_start] at h
  exact h

/-- What the engine's output counts as is what the turn's output does, and there is one. -/
theorem outputKind?_answeredTurn {kind : OutputKind}
    (h : (s.answeredDesk setup script).engine.kind? = some kind) :
    (s.answeredTurn setup script).outputKind? = some kind := by
  rw [Turn.outputKind?, answeredTurn, Engine.applyTo, h]
  simp only [Option.isNone_some, Bool.false_eq_true, and_false, if_false, Option.getD_some,
    withSpoken]
  split <;> rfl

/-! ### Sessions that can come about -/

/-- A session that **can come about** with this setup: a new one, one after a turn, one that has
been told of other surroundings, or one whose event has been taken. -/
inductive Reachable : Session → Prop where
  | new : Reachable Session.new
  | turn {s : Session} (script : TurnScript) : Reachable s → Reachable (s.runTurn setup script).2
  | conversation {s : Session} (conversation : Conversation) :
      Reachable s → Reachable (s.setConversation conversation)
  | event {s : Session} : Reachable s → Reachable s.takeEvent.2

variable {setup} {s}

theorem Reachable.runTurns (h : Reachable setup s) (scripts : List TurnScript) :
    Reachable setup (s.runTurns setup scripts).2 := by
  induction scripts generalizing s with
  | nil => exact h
  | cons script rest ih => exact ih (h.turn script)

/-- Nobody ever owns a turn in a session whose arbiter is switched off. -/
theorem Reachable.owner?_of_disabled (h : Reachable setup s)
    (hen : setup.settings.arbiter.enabled = false) : s.arbiter.owner? = none := by
  induction h with
  | new => rfl
  | turn script _ ih => rw [owner?_runTurn, owner?_openedDesk_of_disabled _ _ _ hen, ih]
  | @conversation s conversation _ ih =>
    rw [← ih, setConversation, Arbiter.phaseChanged]
    split <;> rfl
  | @event s _ ih =>
    rw [← ih, takeEvent]

/-- A turn that the escalation owns is one of an arbiter that is switched on. -/
theorem Reachable.enabled_of_default (h : Reachable setup s)
    (howner : (s.openedDesk setup script).arbiter.owner? = some .default) :
    setup.settings.arbiter.enabled = true := by
  cases hen : setup.settings.arbiter.enabled with
  | true => rfl
  | false =>
    rw [owner?_openedDesk_of_disabled _ _ _ hen, h.owner?_of_disabled hen] at howner
    cases howner

/-- A turn of the **past**: the session in which it began, and its script. -/
structure PastTurn where
  session : Session
  script : TurnScript

variable (setup) in
/-- A session that has come about by the turns of a **past**, in this order. Between the turns the
surroundings may have changed, and events may have been taken. -/
inductive Past : List PastTurn → Session → Prop where
  | new : Past [] Session.new
  | turn {past : List PastTurn} {s : Session} (script : TurnScript) :
      Past past s → Past (past ++ [⟨s, script⟩]) (s.runTurn setup script).2
  | conversation {past : List PastTurn} {s : Session} (conversation : Conversation) :
      Past past s → Past past (s.setConversation conversation)
  | event {past : List PastTurn} {s : Session} : Past past s → Past past s.takeEvent.2

/-- What has come about by the turns of a past can come about. -/
theorem Past.reachable {past : List PastTurn} (h : Past setup past s) : Reachable setup s := by
  induction h with
  | new => exact .new
  | turn script _ ih => exact ih.turn script
  | conversation conversation _ ih => exact ih.conversation conversation
  | event _ ih => exact ih.event

/-- Each turn of a past began in a session that can come about. -/
theorem Past.reachable_of_mem {past : List PastTurn} (h : Past setup past s) :
    ∀ turn ∈ past, Reachable setup turn.session := by
  induction h with
  | new => exact fun _ hturn => absurd hturn List.not_mem_nil
  | turn script h ih =>
    intro turn hturn
    rcases List.mem_append.mp hturn with hturn | hturn
    · exact ih turn hturn
    · rw [List.mem_singleton.mp hturn]
      exact h.reachable
  | conversation _ _ ih => exact ih
  | event _ ih => exact ih

/-! ### The turns of a run -/

namespace PastTurn

variable (setup) (turn : PastTurn)

/-- The **report** of a turn. -/
def report : Report := (turn.session.runTurn setup turn.script).1

/-- The session **after** a turn. -/
def after : Session := (turn.session.runTurn setup turn.script).2

end PastTurn

variable (setup) in
/-- The **turns of a run**, each with the session in which it begins. -/
def turnsOf (s : Session) : List TurnScript → List PastTurn
  | [] => []
  | script :: rest => ⟨s, script⟩ :: (s.runTurn setup script).2.turnsOf rest

variable (setup s) in
theorem report_turnsOf (scripts : List TurnScript) :
    (s.turnsOf setup scripts).map (PastTurn.report setup) = (s.runTurns setup scripts).1 := by
  induction scripts generalizing s with
  | nil => rfl
  | cons script rest ih =>
    rw [turnsOf, List.map_cons, ih, runTurns_cons]
    rfl

/-- A session in which a resolution **waits** for its second turn. -/
def pending : Session := (Session.new.runTurn {} (.handling (.speech "blorp"))).2

theorem reachable_pending : Reachable {} pending := Reachable.new.turn _

end Session

end Colloquy

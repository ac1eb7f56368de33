import Colloquy.Proofs.Counter

/-!
# An aborted turn leaves no trace that is seen

Commands act at once, long before it is known how their turn ends: a fallback that is handled moves
the stage, markup that is restored moves the slot, a replay may raise an event. When the turn is
aborted, all of this is taken back or lost. The arbiter goes back to the stage at the start of the
turn, the tracker to the slot (`Command.start_abort_foldl`); what was put together to be said is
dropped, and no event is left to be taken.

What a command sets the counter to is meant to last, so the session is the same at a glance only
after a turn without such commands, and without a wake-up (`Session.NoTrace`).
-/

namespace Colloquy

namespace Session

variable {setup : Setup} {s : Session} {script : TurnScript}

/-- Without a command that sets it, and without a wake-up, the counter is called what it was. -/
theorem calledCounter_of_not
    (hcounter : ∀ command ∈ accepted script.commands, command.setsCounter = false)
    (hwakes : ¬ s.Wakes script) : s.calledCounter script = s.arbiter.escalation.counter := by
  rw [calledCounter, Command.foldl_onCounter_of_not hcounter, startCounter, if_neg hwakes]

/-- An aborted turn leaves the counter, whoever owns it, if no command of it sets the counter. -/
theorem Reachable.counter_of_abort (h : Reachable setup s) (habort : script.abort = true)
    (hcounter : ∀ command ∈ accepted script.commands, command.setsCounter = false)
    (hwakes : ¬ s.Wakes script) :
    (s.runTurn setup script).2.arbiter.escalation.counter = s.arbiter.escalation.counter := by
  by_cases howner : (s.openedDesk setup script).arbiter.owner? = some .default
  · rw [counter_of_unanswered (h.enabled_of_default script howner) howner (Or.inl habort),
      calledCounter_of_not hcounter hwakes]
  · have hreset : .resetAllCounters ∉ accepted script.commands := fun hmem =>
      absurd (hcounter _ hmem) (by decide)
    rw [counter_of_other howner, if_neg fun hand => hreset hand.1, startCounter, if_neg hwakes]

/-- An aborted turn leaves the stage, whoever owns it. -/
theorem Reachable.stage_of_abort (h : Reachable setup s) (habort : script.abort = true) :
    (s.runTurn setup script).2.arbiter.escalation.stage = s.arbiter.escalation.stage :=
  (twoTurns_of_reachable h h.resting).aborted habort

/-- The tracker of an aborted turn, at the end of it. -/
theorem tracker_of_abort (habort : script.abort = true) :
    (s.runTurn setup script).2.tracker =
      ((accepted script.commands).foldl Command.onTracker s.tracker.start).abort := by
  rw [tracker_runTurn, if_pos habort, tracker_answeredDesk]

variable (setup s script)

/-- A turn that leaves **no trace** that is seen: the session is the same at a glance, nothing is
reported as said, and no event is left to be taken. -/
structure NoTrace : Prop where
  counter : (s.runTurn setup script).2.summary.counter = s.summary.counter
  stage : (s.runTurn setup script).2.summary.stage = s.summary.stage
  slot : (s.runTurn setup script).2.summary.slot = s.summary.slot
  prevModule : (s.runTurn setup script).2.summary.prevModule = s.summary.prevModule
  place : (s.runTurn setup script).2.summary.place = s.summary.place
  reprompts : (s.runTurn setup script).2.summary.reprompts = s.summary.reprompts
  lastPrompt : (s.runTurn setup script).2.summary.lastPrompt = s.summary.lastPrompt
  response : (s.runTurn setup script).1.response = none
  outputKind : (s.runTurn setup script).1.outputKind = none
  event : (s.runTurn setup script).2.takeEvent.1 = none

variable {setup s script}

/-- **An aborted turn leaves no trace** that is seen, if no command of it sets the counter and the
conversation does not wake up in it. -/
theorem noTrace_of_abort (h : Reachable setup s) (habort : script.abort = true)
    (hcounter : ∀ command ∈ accepted script.commands, command.setsCounter = false)
    (hwakes : ¬ s.Wakes script) : s.NoTrace setup script := by
  obtain ⟨hqueue, hprompt, hmodule, -, hslot⟩ :=
    Command.foldl_onTracker_frame s.tracker.start (accepted script.commands)
  have htracker : (s.runTurn setup script).2.tracker =
      ((accepted script.commands).foldl Command.onTracker s.tracker.start).abort :=
    tracker_of_abort habort
  constructor
  case counter => exact h.counter_of_abort habort hcounter hwakes
  case stage => exact h.stage_of_abort habort
  case slot => rw [summary, htracker]; exact hslot
  case prevModule => rw [summary, htracker]; exact hmodule
  case place => rw [summary, place_runTurn, if_pos habort]; rfl
  case reprompts => rw [summary, htracker]; exact congrArg RepromptQueue.entries hqueue
  case lastPrompt => rw [summary, htracker]; exact hprompt
  case response => exact response_report_of_abort setup s script habort
  case outputKind => rw [outputKind_report, if_pos habort]
  case event => rw [takeEvent, htracker]; rfl

/-- The script of a turn that meddles with everything, and is aborted. -/
def meddling : TurnScript where
  input := .speech "wait"
  commands := [Command.handleFallback, .restoreMarkup, .saveMarkup, .sendReprompt none,
    .overrideWithReprompt, .prependReprompt "so", .keepCounter].map Command.call
  output := some { response := "All right.", module := "om" }
  abort := true

theorem noTrace_pending :
    Reachable {} pending ∧ meddling.abort = true ∧
      (∀ command ∈ accepted meddling.commands, command.setsCounter = false) ∧
      ¬ pending.Wakes meddling ∧ pending.NoTrace {} meddling :=
  ⟨reachable_pending, rfl, by decide, by decide,
    noTrace_of_abort reachable_pending rfl (by decide) (by decide)⟩

end Session

end Colloquy

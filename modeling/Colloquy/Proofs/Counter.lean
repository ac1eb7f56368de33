import Colloquy.Proofs.TwoTurns

/-!
# What a turn makes of the counter

Five marks with different lifetimes, the stage and the output decide what the counter is after a
turn. What they come to can be said without them, in terms of what was called in the turn and of
what its output counts as (`Session.CounterLaw`):

* the **counter commands** set the counter, one after the other;
* a turn that ends in the **second** stage counts one more fallback that was left unresolved, if its
  output is one and the engine has not moved on;
* a turn that ends in the **first** stage sets the counter to zero, unless it was to be kept or the
  output says nothing about how the conversation goes.

The marks of earlier turns play no part in this. They may be set in a turn that somebody else owns,
and a wake-up sets one between turns, but taking a turn up clears them all
(`Escalation.takenUp_marks`).
-/

namespace Colloquy

namespace Escalation

variable {e : Escalation} {turn : Turn} {kind : OutputKind}

/-- Handling a fallback leads out of the first stage. -/
theorem stageHandled_ne_initial (e : Escalation) : e.stageHandled ≠ .initial := by
  rw [stageHandled]
  split
  · decide
  · split
    · decide
    · assumption

theorem counter_finish_of_second (hs : e.stage = .second) (h : turn.outputKind? = some kind) :
    (e.finish turn).counter =
      if (kind = .fallback ∨ kind = .contextualFallback) ∧ e.movedOn = false then e.counter + 1
      else e.counter := by
  obtain ⟨output, ho, rfl⟩ := Option.map_eq_some_iff.mp h
  have hcounts : e.counts output = true ↔
      (output.kind = .fallback ∨ output.kind = .contextualFallback) ∧ e.movedOn = false := by
    rw [counts]
    cases e.movedOn <;> cases output.kind <;> decide
  simp only [finish, ho, hs, hcounts]

theorem counter_finish_of_initial (hs : e.stage = .initial) (h : turn.outputKind? = some kind) :
    (e.finish turn).counter =
      if e.kept = true then e.counter
      else if e.resetAsked = true ∨
          (kind ≠ .eventInput ∧ kind ≠ .globalCommand ∧ kind ≠ .globalResponse) then 0
      else e.counter := by
  obtain ⟨output, ho, rfl⟩ := Option.map_eq_some_iff.mp h
  have hresets : e.resets output = true ↔ e.kept = false ∧ (e.resetAsked = true ∨
      (output.kind ≠ .eventInput ∧ output.kind ≠ .globalCommand ∧
        output.kind ≠ .globalResponse)) := by
    rw [resets]
    cases e.kept <;> cases e.resetAsked <;> cases output.kind <;> decide
  rw [finish_of_initial turn hs, ho, Option.any_some]
  simp only [hresets]
  cases e.kept <;> simp

end Escalation

namespace Session

variable (setup : Setup) (s : Session) (script : TurnScript)

/-- The counter **at the start** of a turn: as it was, or zero if the conversation wakes up. -/
def startCounter : UInt32 := if s.Wakes script then 0 else s.arbiter.escalation.counter

/-- The counter as the commands of a turn **call** it, one after the other. -/
def calledCounter : UInt32 :=
  (accepted script.commands).foldl Command.onCounter (s.startCounter script)

theorem counter_heard : (s.heard script).counter = s.startCounter script := by
  rw [heard, startCounter]
  split <;> rfl

theorem counter_escalated : (s.escalated setup script).1.counter = s.calledCounter script := by
  rw [escalated, Command.counter_foldl, ((s.heard script).takenUp_frame _ _ _).2.1, counter_heard]
  rfl

theorem movedOn_escalated :
    (s.escalated setup script).1.movedOn = (s.escalated setup script).2.movedOn := by
  refine Command.movedOn_foldl ?_ _
  rw [((s.heard script).takenUp_marks _ _ _).2.2]
  rfl

theorem resetAsked_escalated :
    (s.escalated setup script).1.resetAsked = true ↔
      .resetCounter ∈ accepted script.commands ∨ .resetAllCounters ∈ accepted script.commands := by
  rw [escalated, Command.resetAsked_foldl, ((s.heard script).takenUp_marks _ _ _).2.1]
  simp

/-- A turn that still stands in the first stage has handled no fallback. -/
theorem not_handles_of_initial (h : (s.escalated setup script).1.stage = .initial) :
    ¬ Handles script := by
  intro hhandles
  rw [escalated, Command.stage_foldl] at h
  exact Escalation.stageHandled_ne_initial _ ((if_pos hhandles).symm.trans h)

theorem kept_escalated_of_initial (h : (s.escalated setup script).1.stage = .initial) :
    (s.escalated setup script).1.kept = true ↔ .keepCounter ∈ accepted script.commands := by
  rw [escalated, Command.kept_foldl _ (s.not_handles_of_initial setup script h),
    ((s.heard script).takenUp_marks _ _ _).1]
  simp

/-- The **counter law** of a turn. The stage in which a turn ends is the one when its commands have
been answered, before it is closed. -/
structure CounterLaw : Prop where
  /-- In a turn that the escalation does not own, the counter is set to zero if all counters were
  reset and somebody owned the turn. -/
  other : (s.runTurn setup script).1.owner ≠ some .default →
    (s.runTurn setup script).2.arbiter.escalation.counter =
      if .resetAllCounters ∈ accepted script.commands ∧
          (s.runTurn setup script).1.owner.isSome then 0
      else s.startCounter script
  /-- A turn that is aborted or has no output leaves the counter as it was called. -/
  unanswered : (s.runTurn setup script).1.owner = some .default →
    script.abort = true ∨ (s.runTurn setup script).1.outputKind = none →
    (s.runTurn setup script).2.arbiter.escalation.counter = s.calledCounter script
  /-- So does a first turn. -/
  afterInitial : (s.runTurn setup script).1.owner = some .default →
    (s.answeredDesk setup script).arbiter.escalation.stage = .afterInitial →
    (s.runTurn setup script).2.arbiter.escalation.counter = s.calledCounter script
  /-- A second turn counts one more, if its output leaves the fallback unresolved and the engine has
  not moved on in it. -/
  second : (s.runTurn setup script).1.owner = some .default →
    (s.answeredDesk setup script).arbiter.escalation.stage = .second →
    ∀ kind, (s.runTurn setup script).1.outputKind = some kind →
      (s.runTurn setup script).2.arbiter.escalation.counter =
        if (kind = .fallback ∨ kind = .contextualFallback) ∧
            (s.answeredDesk setup script).engine.movedOn = false then
          s.calledCounter script + 1
        else s.calledCounter script
  /-- A turn without a fallback sets the counter to zero, unless that was called off or its output
  says nothing about how the conversation goes. -/
  initial : (s.runTurn setup script).1.owner = some .default →
    (s.answeredDesk setup script).arbiter.escalation.stage = .initial →
    ∀ kind, (s.runTurn setup script).1.outputKind = some kind →
      (s.runTurn setup script).2.arbiter.escalation.counter =
        if .keepCounter ∈ accepted script.commands then s.calledCounter script
        else if (.resetCounter ∈ accepted script.commands ∨
              .resetAllCounters ∈ accepted script.commands) ∨
            (kind ≠ .eventInput ∧ kind ≠ .globalCommand ∧ kind ≠ .globalResponse) then 0
        else s.calledCounter script

variable {setup s script}

/-! ### The cases of the law -/

theorem counter_of_other (howner : (s.openedDesk setup script).arbiter.owner? ≠ some .default) :
    (s.runTurn setup script).2.arbiter.escalation.counter =
      if .resetAllCounters ∈ accepted script.commands ∧
          (s.openedDesk setup script).arbiter.owner?.isSome then 0
      else s.startCounter script := by
  rw [escalation_runTurn_of_other _ _ _ howner, escalation_answeredDesk_of_other _ _ _ howner]
  split
  · rfl
  · exact s.counter_heard script

section Owned

variable (hen : setup.settings.arbiter.enabled = true)
  (howner : (s.openedDesk setup script).arbiter.owner? = some .default)
include hen howner

theorem counter_of_unanswered
    (h : script.abort = true ∨ (s.runTurn setup script).1.outputKind = none) :
    (s.runTurn setup script).2.arbiter.escalation.counter = s.calledCounter script := by
  cases habort : script.abort with
  | true =>
    rw [escalation_of_abort hen howner habort]
    exact s.counter_escalated setup script
  | false =>
    rw [outputKind_report, habort] at h
    rw [escalation_of_finish hen howner habort,
      Escalation.finish_of_none (h.resolve_left (by decide))]
    exact s.counter_escalated setup script

/-- A turn whose report has an output was finished, with that output. -/
theorem escalation_of_outputKind {kind : OutputKind}
    (hkind : (s.runTurn setup script).1.outputKind = some kind) :
    (s.runTurn setup script).2.arbiter.escalation =
        (s.escalated setup script).1.finish (s.answeredTurn setup script) ∧
      (s.answeredTurn setup script).outputKind? = some kind := by
  rw [outputKind_report] at hkind
  cases habort : script.abort with
  | true => rw [habort] at hkind; cases hkind
  | false =>
    rw [habort] at hkind
    exact ⟨escalation_of_finish hen howner habort, hkind⟩

theorem counter_of_afterInitial
    (hstage : (s.answeredDesk setup script).arbiter.escalation.stage = .afterInitial) :
    (s.runTurn setup script).2.arbiter.escalation.counter = s.calledCounter script := by
  cases hkind : (s.runTurn setup script).1.outputKind with
  | none => exact counter_of_unanswered hen howner (Or.inr hkind)
  | some kind =>
    obtain ⟨hfinish, hkind⟩ := escalation_of_outputKind hen howner hkind
    rw [(s.answeredDesk_of_default setup script hen howner).1] at hstage
    rw [hfinish, Escalation.finish_of_afterInitial hstage hkind]
    exact s.counter_escalated setup script

theorem counter_of_second {kind : OutputKind}
    (hstage : (s.answeredDesk setup script).arbiter.escalation.stage = .second)
    (hkind : (s.runTurn setup script).1.outputKind = some kind) :
    (s.runTurn setup script).2.arbiter.escalation.counter =
      if (kind = .fallback ∨ kind = .contextualFallback) ∧
          (s.answeredDesk setup script).engine.movedOn = false then
        s.calledCounter script + 1
      else s.calledCounter script := by
  obtain ⟨hfinish, hkind⟩ := escalation_of_outputKind hen howner hkind
  obtain ⟨hescalation, hengine⟩ := s.answeredDesk_of_default setup script hen howner
  rw [hescalation] at hstage
  rw [hfinish, hengine, Escalation.counter_finish_of_second hstage hkind, movedOn_escalated,
    counter_escalated]

theorem counter_of_initial {kind : OutputKind}
    (hstage : (s.answeredDesk setup script).arbiter.escalation.stage = .initial)
    (hkind : (s.runTurn setup script).1.outputKind = some kind) :
    (s.runTurn setup script).2.arbiter.escalation.counter =
      if .keepCounter ∈ accepted script.commands then s.calledCounter script
      else if (.resetCounter ∈ accepted script.commands ∨
            .resetAllCounters ∈ accepted script.commands) ∨
          (kind ≠ .eventInput ∧ kind ≠ .globalCommand ∧ kind ≠ .globalResponse) then 0
      else s.calledCounter script := by
  obtain ⟨hfinish, hkind⟩ := escalation_of_outputKind hen howner hkind
  rw [(s.answeredDesk_of_default setup script hen howner).1] at hstage
  rw [hfinish, Escalation.counter_finish_of_initial hstage hkind, counter_escalated]
  simp only [kept_escalated_of_initial _ _ _ hstage, resetAsked_escalated]

end Owned

/-- **Every turn** of a session that can come about obeys the counter law. -/
theorem counter_runTurn (h : Reachable setup s) : s.CounterLaw setup script where
  other howner := by
    rw [owner_report] at howner ⊢
    exact counter_of_other howner
  unanswered howner hnone := by
    rw [owner_report] at howner
    exact counter_of_unanswered (h.enabled_of_default script howner) howner hnone
  afterInitial howner hstage := by
    rw [owner_report] at howner
    exact counter_of_afterInitial (h.enabled_of_default script howner) howner hstage
  second howner hstage kind hkind := by
    rw [owner_report] at howner
    exact counter_of_second (h.enabled_of_default script howner) howner hstage hkind
  initial howner hstage kind hkind := by
    rw [owner_report] at howner
    exact counter_of_initial (h.enabled_of_default script howner) howner hstage hkind

/-- The second turn of a fallback that is left unresolved counts one. -/
theorem counter_runTurn_pending :
    let script := TurnScript.handling (.event "eb-remote-act-speak")
    Reachable {} pending ∧ pending.CounterLaw {} script ∧
      (pending.runTurn {} script).2.arbiter.escalation.counter = 1 :=
  ⟨reachable_pending, counter_runTurn reachable_pending, by decide +kernel⟩

end Session

end Colloquy

import Colloquy.Proofs.Run

/-!
# A fallback is resolved in two turns

Between turns a resolution either has not begun, and then nothing is waiting, or it stands before
its second turn (`Escalation.Resting`). The stage in between, in which the first turn has been
handled and not finished, is never seen from outside: handling the fallback makes the engine count
the output as one (`Command.kind?_foldl`), so the turn has an output, and finishing a turn that has
one leaves that stage.

How a single turn steps the stage and the waiting utterance depends on four things only: who owns
the turn, whether it is aborted, whether the fallback was handled in it, and whether it resumes a
resolution (`Session.TwoTurns`).
-/

namespace Colloquy

namespace Escalation

variable (settings : ArbiterSettings) (e : Escalation) (treatment : Treatment) (input : Input)

/-- The escalation **between turns**: nothing has begun and nothing is waiting, or the second turn
is being waited for. -/
structure Resting : Prop where
  stage : e.stage = .initial ∨ e.stage = .second
  silent : e.stage = .initial → e.lastSpeech = ""

variable {e}

/-! ### Taking a turn up -/

/-- Taking a turn up keeps what was there before it, and clears the marks for one turn. -/
theorem takenUp_frame :
    (e.takenUp settings treatment input).startStage = e.stage ∧
      (e.takenUp settings treatment input).counter = e.counter ∧
      (e.takenUp settings treatment input).localRule = e.localRule ∧
      (e.takenUp settings treatment input).oneTurn = decide (treatment = .noRemote) := by
  rw [takenUp]
  split <;> exact ⟨rfl, rfl, rfl, rfl⟩

theorem takenUp_marks :
    (e.takenUp settings treatment input).kept = false ∧
      (e.takenUp settings treatment input).resetAsked = false ∧
      (e.takenUp settings treatment input).movedOn = false := by
  rw [takenUp]
  split <;> exact ⟨rfl, rfl, rfl⟩

namespace Resting

variable (h : e.Resting)
include h

/-- From rest, the turn stands before the second turn if it resumes the resolution, and at the
beginning otherwise. -/
theorem stage_takenUp :
    (e.takenUp settings treatment input).stage =
      if e.Resumes settings input then .second else .initial := by
  rw [takenUp]
  rcases h.stage with hs | hs <;> rcases hr : input.isEventNamed settings.resumeEvent <;>
    simp [Resumes, hs, hr, opened, claim, withdrawn]

theorem lastSpeech_takenUp :
    (e.takenUp settings treatment input).lastSpeech =
      if e.Resumes settings input then e.lastSpeech else "" := by
  rw [takenUp]
  rcases h.stage with hs | hs <;> rcases hr : input.isEventNamed settings.resumeEvent <;>
    simp [Resumes, hs, hr, opened, claim, withdrawn, h.silent]

end Resting

/-! ### Finishing a turn -/

theorem finish_of_none {turn : Turn} (h : turn.outputKind? = none) : e.finish turn = e := by
  rw [Turn.outputKind?, Option.map_eq_none_iff] at h
  rw [finish, h]

/-- In the first stage, finishing a turn may set the counter to zero, and that is all. -/
theorem finish_of_initial (turn : Turn) (hs : e.stage = .initial) :
    e.finish turn = { e with counter := if turn.output.any e.resets then 0 else e.counter } := by
  obtain ⟨stage, startStage, counter, kept, resetAsked, movedOn, oneTurn, localRule, lastSpeech⟩ :=
    e
  dsimp only at hs
  subst hs
  rw [finish]
  cases turn.output with
  | none => rfl
  | some output =>
    rw [Option.any_some]
    dsimp only
    split <;> rfl

theorem finish_of_afterInitial {turn : Turn} {kind : OutputKind} (hs : e.stage = .afterInitial)
    (h : turn.outputKind? = some kind) :
    e.finish turn = { e with stage := .second, lastSpeech := turn.input.text } := by
  obtain ⟨output, ho, -⟩ := Option.map_eq_some_iff.mp h
  simp [finish, ho, hs]

theorem finish_of_second {turn : Turn} {kind : OutputKind} (hs : e.stage = .second)
    (h : turn.outputKind? = some kind) :
    (e.finish turn).stage = .initial ∧ (e.finish turn).lastSpeech = "" := by
  obtain ⟨output, ho, -⟩ := Option.map_eq_some_iff.mp h
  simp [finish, ho, hs, withdrawn]

end Escalation

namespace Session

variable (setup : Setup) (s : Session) (script : TurnScript)

/-- What is heard of the surroundings changes the counter at most. -/
theorem heard_frame :
    (s.heard script).stage = s.arbiter.escalation.stage ∧
      (s.heard script).lastSpeech = s.arbiter.escalation.lastSpeech ∧
      (s.heard script).localRule = s.arbiter.escalation.localRule := by
  rw [heard]
  split <;> exact ⟨rfl, rfl, rfl⟩

theorem resting_heard (h : s.arbiter.escalation.Resting) : (s.heard script).Resting := by
  obtain ⟨hstage, hspeech, -⟩ := s.heard_frame script
  exact ⟨by rw [hstage]; exact h.stage, by rw [hstage, hspeech]; exact h.silent⟩

theorem resumes_heard (settings : ArbiterSettings) :
    (s.heard script).Resumes settings script.input ↔
      s.arbiter.escalation.Resumes settings script.input := by
  rw [Escalation.Resumes, Escalation.Resumes, (s.heard_frame script).1]

/-- The fallback is **handled** in the turn. -/
def Handles (script : TurnScript) : Prop := .handleFallback ∈ accepted script.commands

instance : Decidable (Handles script) := inferInstanceAs (Decidable (_ ∈ _))

/-! ### A turn that the escalation owns, and one that it does not -/

variable {s}

/-- The **stage** when the commands have been answered. -/
theorem stage_escalated (hrest : s.arbiter.escalation.Resting) :
    (s.escalated setup script).1.stage =
      if s.arbiter.escalation.Resumes setup.settings.arbiter script.input then .second
      else if Handles script then
        if s.treatment setup = .noRemote then .second else .afterInitial
      else .initial := by
  have htaken := (s.resting_heard script hrest).stage_takenUp setup.settings.arbiter
    (s.treatment setup) script.input
  obtain ⟨-, -, -, hone⟩ := (s.heard script).takenUp_frame setup.settings.arbiter
    (s.treatment setup) script.input
  rw [escalated, Command.stage_foldl, Escalation.stageHandled, htaken, hone]
  simp only [resumes_heard, Handles]
  by_cases hr : s.arbiter.escalation.Resumes setup.settings.arbiter script.input <;>
    by_cases hh : .handleFallback ∈ accepted script.commands <;>
    by_cases ht : s.treatment setup = .noRemote <;> simp [hr, hh, ht]

/-- The **waiting utterance** when the commands have been answered. -/
theorem lastSpeech_escalated (hrest : s.arbiter.escalation.Resting) :
    (s.escalated setup script).1.lastSpeech =
      if s.arbiter.escalation.Resumes setup.settings.arbiter script.input then
        s.arbiter.escalation.lastSpeech
      else "" := by
  have htaken := (s.resting_heard script hrest).lastSpeech_takenUp setup.settings.arbiter
    (s.treatment setup) script.input
  rw [escalated, (Command.foldl_onEscalation_frame _ _).2.1, htaken, (s.heard_frame script).2.1]
  simp only [resumes_heard]

variable {setup script}

/-- Aborting the turn takes the stage back to where it was before it. -/
theorem startStage_escalated :
    (s.escalated setup script).1.startStage = s.arbiter.escalation.stage := by
  rw [escalated, (Command.foldl_onEscalation_frame _ _).1,
    ((s.heard script).takenUp_frame _ _ _).1, (s.heard_frame script).1]

section Owned

variable (hen : setup.settings.arbiter.enabled = true)
  (howner : (s.openedDesk setup script).arbiter.owner? = some .default)
include hen howner

/-- A turn in which the fallback is handled has an **output**, which counts as a fallback. -/
theorem outputKind?_of_handles (h : Handles script) :
    (s.answeredTurn setup script).outputKind? = some .fallback := by
  refine outputKind?_answeredTurn setup s script ?_
  rw [(s.answeredDesk_of_default setup script hen howner).2, escalated, Command.kind?_foldl]
  exact if_pos h

theorem escalation_of_abort (habort : script.abort = true) :
    (s.runTurn setup script).2.arbiter.escalation = (s.escalated setup script).1.abort := by
  rw [escalation_runTurn_of_default _ _ _ howner,
    (s.answeredDesk_of_default setup script hen howner).1]
  exact if_pos habort

theorem escalation_of_finish (habort : script.abort = false) :
    (s.runTurn setup script).2.arbiter.escalation =
      (s.escalated setup script).1.finish (s.answeredTurn setup script) := by
  rw [escalation_runTurn_of_default _ _ _ howner,
    (s.answeredDesk_of_default setup script hen howner).1, habort]
  rfl

/-- An aborted turn leaves the stage. -/
theorem stage_of_abort (habort : script.abort = true) :
    (s.runTurn setup script).2.arbiter.escalation.stage = s.arbiter.escalation.stage := by
  rw [escalation_of_abort hen howner habort]
  exact startStage_escalated

variable (hrest : s.arbiter.escalation.Resting)
include hrest

/-- An aborted turn leaves the waiting utterance if it resumes the resolution. If it does not, the
utterance was dropped when the turn was taken up, and is not there again afterwards. -/
theorem lastSpeech_of_abort (habort : script.abort = true) :
    (s.runTurn setup script).2.arbiter.escalation.lastSpeech =
      if s.arbiter.escalation.Resumes setup.settings.arbiter script.input then
        s.arbiter.escalation.lastSpeech
      else "" := by
  rw [escalation_of_abort hen howner habort]
  exact lastSpeech_escalated setup script hrest

section Finished

variable (habort : script.abort = false)
include habort

/-- The first turn, handled and finished: its utterance waits for the second one. -/
theorem escalation_of_first (hhandles : Handles script) (htopic : s.treatment setup ≠ .noRemote)
    (hresumes : ¬ s.arbiter.escalation.Resumes setup.settings.arbiter script.input) :
    (s.runTurn setup script).2.arbiter.escalation.stage = .second ∧
      (s.runTurn setup script).2.arbiter.escalation.lastSpeech = script.input.text := by
  have hstage := stage_escalated setup script hrest
  rw [if_neg hresumes, if_pos hhandles, if_neg htopic] at hstage
  -- a fallback that was handled has an output, so that finishing leads on from here
  have hkind := outputKind?_of_handles hen howner hhandles
  rw [escalation_of_finish hen howner habort, Escalation.finish_of_afterInitial hstage hkind]
  exact ⟨rfl, s.text_answeredTurn setup script⟩

/-- A turn that resumes the resolution and is finished without an output: everything waits on. -/
theorem escalation_of_waiting
    (hresumes : s.arbiter.escalation.Resumes setup.settings.arbiter script.input)
    (hnone : (s.answeredTurn setup script).outputKind? = none) :
    (s.runTurn setup script).2.arbiter.escalation.stage = s.arbiter.escalation.stage ∧
      (s.runTurn setup script).2.arbiter.escalation.lastSpeech =
        s.arbiter.escalation.lastSpeech := by
  have hstage := stage_escalated setup script hrest
  have hspeech := lastSpeech_escalated setup script hrest
  rw [if_pos hresumes] at hstage hspeech
  rw [escalation_of_finish hen howner habort, Escalation.finish_of_none hnone, hstage, hspeech]
  exact ⟨hresumes.1.symm, rfl⟩

/-- A turn of the escalation that stands in the first stage at its end, or in the second one with an
output, ends the resolution. -/
theorem escalation_of_over
    (hfirst : ¬ (Handles script ∧ s.treatment setup ≠ .noRemote ∧
      ¬ s.arbiter.escalation.Resumes setup.settings.arbiter script.input))
    (hwaiting : ¬ (s.arbiter.escalation.Resumes setup.settings.arbiter script.input ∧
      (s.answeredTurn setup script).outputKind? = none)) :
    (s.runTurn setup script).2.arbiter.escalation.stage = .initial ∧
      (s.runTurn setup script).2.arbiter.escalation.lastSpeech = "" := by
  have hstage := stage_escalated setup script hrest
  have hspeech := lastSpeech_escalated setup script hrest
  rw [escalation_of_finish hen howner habort]
  by_cases hresumes : s.arbiter.escalation.Resumes setup.settings.arbiter script.input
  · -- the second turn, which has an output
    rw [if_pos hresumes] at hstage
    obtain ⟨kind, hkind⟩ := Option.ne_none_iff_exists'.mp fun hnone => hwaiting ⟨hresumes, hnone⟩
    exact Escalation.finish_of_second hstage hkind
  rw [if_neg hresumes] at hstage hspeech
  by_cases hhandles : Handles script
  · -- both turns in one
    have htopic : s.treatment setup = .noRemote :=
      Decidable.byContradiction fun hne => hfirst ⟨hhandles, hne, hresumes⟩
    rw [if_pos hhandles, if_pos htopic] at hstage
    exact Escalation.finish_of_second hstage (outputKind?_of_handles hen howner hhandles)
  · -- no fallback at all
    rw [if_neg hhandles] at hstage
    rw [Escalation.finish_of_initial _ hstage]
    exact ⟨hstage, hspeech⟩

end Finished

end Owned

/-- A turn that somebody else owns leaves the stage, the waiting utterance and the rule. -/
theorem escalation_of_other (howner : (s.openedDesk setup script).arbiter.owner? ≠ some .default) :
    (s.runTurn setup script).2.arbiter.escalation.stage = s.arbiter.escalation.stage ∧
      (s.runTurn setup script).2.arbiter.escalation.lastSpeech =
        s.arbiter.escalation.lastSpeech ∧
      (s.runTurn setup script).2.arbiter.escalation.localRule =
        s.arbiter.escalation.localRule := by
  rw [escalation_runTurn_of_other _ _ _ howner, escalation_answeredDesk_of_other _ _ _ howner]
  split <;> exact s.heard_frame script

/-! ### One turn of the protocol -/

variable (setup s script)

/-- How **a turn** steps the stage of the resolution and the utterance that waits for its second
turn. -/
structure TwoTurns : Prop where
  /-- A turn that the escalation does not own changes neither. -/
  other : (s.runTurn setup script).1.owner ≠ some .default →
    (s.runTurn setup script).2.arbiter.escalation.stage = s.arbiter.escalation.stage ∧
      (s.runTurn setup script).2.arbiter.escalation.lastSpeech = s.arbiter.escalation.lastSpeech
  /-- An aborted turn leaves the stage. -/
  aborted : script.abort = true →
    (s.runTurn setup script).2.arbiter.escalation.stage = s.arbiter.escalation.stage
  /-- The first turn, handled and finished, makes its utterance wait for the second one. -/
  first : (s.runTurn setup script).1.owner = some .default → script.abort = false →
    Handles script → s.treatment setup ≠ .noRemote →
    ¬ s.arbiter.escalation.Resumes setup.settings.arbiter script.input →
    (s.runTurn setup script).2.arbiter.escalation.stage = .second ∧
      (s.runTurn setup script).2.arbiter.escalation.lastSpeech = script.input.text
  /-- A turn that resumes the resolution and has no output changes neither. -/
  waiting : s.arbiter.escalation.Resumes setup.settings.arbiter script.input →
    (s.runTurn setup script).1.outputKind = none →
    (s.runTurn setup script).2.arbiter.escalation.stage = s.arbiter.escalation.stage ∧
      (s.runTurn setup script).2.arbiter.escalation.lastSpeech = s.arbiter.escalation.lastSpeech
  /-- Every other turn of the escalation that is finished ends the resolution. -/
  ended : (s.runTurn setup script).1.owner = some .default → script.abort = false →
    ¬ (Handles script ∧ s.treatment setup ≠ .noRemote ∧
        ¬ s.arbiter.escalation.Resumes setup.settings.arbiter script.input) →
    ¬ (s.arbiter.escalation.Resumes setup.settings.arbiter script.input ∧
        (s.runTurn setup script).1.outputKind = none) →
    (s.runTurn setup script).2.arbiter.escalation.stage = .initial ∧
      (s.runTurn setup script).2.arbiter.escalation.lastSpeech = ""

variable {setup s script}

theorem twoTurns_of_reachable (h : Reachable setup s) (hrest : s.arbiter.escalation.Resting) :
    s.TwoTurns setup script where
  other howner := by
    rw [owner_report] at howner
    obtain ⟨hstage, hspeech, -⟩ := escalation_of_other howner
    exact ⟨hstage, hspeech⟩
  aborted habort := by
    by_cases howner : (s.openedDesk setup script).arbiter.owner? = some .default
    · exact stage_of_abort (h.enabled_of_default script howner) howner habort
    · exact (escalation_of_other howner).1
  first howner habort hhandles htopic hresumes := by
    rw [owner_report] at howner
    exact escalation_of_first (h.enabled_of_default script howner) howner hrest habort hhandles
      htopic hresumes
  waiting hresumes hnone := by
    by_cases howner : (s.openedDesk setup script).arbiter.owner? = some .default
    · have hen := h.enabled_of_default script howner
      cases habort : script.abort with
      | true =>
        rw [stage_of_abort hen howner habort, lastSpeech_of_abort hen howner hrest habort,
          if_pos hresumes]
        exact ⟨rfl, rfl⟩
      | false =>
        rw [outputKind_report, habort] at hnone
        exact escalation_of_waiting hen howner hrest habort hresumes hnone
    · obtain ⟨hstage, hspeech, -⟩ := escalation_of_other howner
      exact ⟨hstage, hspeech⟩
  ended howner habort hfirst hwaiting := by
    rw [owner_report] at howner
    rw [outputKind_report, habort] at hwaiting
    exact escalation_of_over (h.enabled_of_default script howner) howner hrest habort hfirst
      hwaiting

/-- A turn leads from rest to rest. -/
theorem resting_runTurn (h : Reachable setup s) (hrest : s.arbiter.escalation.Resting) :
    (s.runTurn setup script).2.arbiter.escalation.Resting := by
  have hstep : s.TwoTurns setup script := twoTurns_of_reachable h hrest
  by_cases howner : (s.openedDesk setup script).arbiter.owner? = some .default
  · have hen := h.enabled_of_default script howner
    have hreport := (s.owner_report setup script).trans howner
    cases habort : script.abort with
    | true =>
      have hspeech := lastSpeech_of_abort hen howner hrest habort
      refine ⟨by rw [hstep.aborted habort]; exact hrest.stage, fun hinitial => ?_⟩
      rw [hstep.aborted habort] at hinitial
      rw [hspeech]
      split
      · exact hrest.silent hinitial
      · rfl
    | false =>
      by_cases hfirst : Handles script ∧ s.treatment setup ≠ .noRemote ∧
          ¬ s.arbiter.escalation.Resumes setup.settings.arbiter script.input
      · obtain ⟨hhandles, htopic, hresumes⟩ := hfirst
        obtain ⟨hsecond, -⟩ := hstep.first hreport habort hhandles htopic hresumes
        exact ⟨Or.inr hsecond, fun hinitial => absurd (hinitial.symm.trans hsecond) (by decide)⟩
      by_cases hwaiting : s.arbiter.escalation.Resumes setup.settings.arbiter script.input ∧
          (s.runTurn setup script).1.outputKind = none
      · obtain ⟨hstage, hspeech⟩ := hstep.waiting hwaiting.1 hwaiting.2
        exact ⟨by rw [hstage]; exact hrest.stage, by rw [hstage, hspeech]; exact hrest.silent⟩
      · obtain ⟨hinitial, hspeech⟩ := hstep.ended hreport habort hfirst hwaiting
        exact ⟨Or.inl hinitial, fun _ => hspeech⟩
  · obtain ⟨hstage, hspeech, -⟩ := escalation_of_other howner
    exact ⟨by rw [hstage]; exact hrest.stage, by rw [hstage, hspeech]; exact hrest.silent⟩

/-! ### Whole runs -/

/-- A session that can come about is at rest between its turns. -/
theorem Reachable.resting (h : Reachable setup s) : s.arbiter.escalation.Resting := by
  induction h with
  | new => exact ⟨Or.inl rfl, fun _ => rfl⟩
  | turn script h ih => exact resting_runTurn h ih
  | @conversation s conversation _ ih =>
    rw [setConversation, Arbiter.phaseChanged]
    split <;> exact ⟨ih.stage, ih.silent⟩
  | event _ ih => exact ih

/-- **The two-turn protocol over whole runs**: after every turn of a session, the resolution has not
begun, with nothing waiting, or stands before its second turn; and the turn has stepped it as the
protocol says. -/
theorem twoTurns_runTurns (setup : Setup) (scripts : List TurnScript) (script : TurnScript) :
    let s := (Session.new.runTurns setup scripts).2
    (s.runTurn setup script).2.arbiter.escalation.Resting ∧ s.TwoTurns setup script := by
  have h : Reachable setup (Session.new.runTurns setup scripts).2 := Reachable.new.runTurns scripts
  exact ⟨resting_runTurn h h.resting, twoTurns_of_reachable h h.resting⟩

/-- Nothing is understood, and the utterance waits for the second turn; the event that resumes the
resolution ends it. -/
theorem twoTurns_runTurns_resumed :
    let resuming := TurnScript.handling (.event "eb-remote-act-speak")
    (pending.arbiter.escalation.stage = .second ∧
        pending.arbiter.escalation.lastSpeech = "blorp") ∧
      (pending.runTurn {} resuming).2.arbiter.escalation.stage = .initial ∧
      (pending.runTurn {} resuming).2.arbiter.escalation.lastSpeech = "" := by
  intro resuming
  have hnew : (Session.new.runTurns {} []).2 = .new := rfl
  have hpending : (Session.new.runTurns {} [.handling (.speech "blorp")]).2 = pending := rfl
  have hfirst := twoTurns_runTurns {} [] (.handling (.speech "blorp"))
  have hsecond := twoTurns_runTurns {} [.handling (.speech "blorp")] resuming
  dsimp only at hfirst hsecond
  rw [hnew] at hfirst
  rw [hpending] at hsecond
  have hresumes :
      pending.arbiter.escalation.Resumes ({} : Setup).settings.arbiter resuming.input := by
    decide +kernel
  have hspoken : (pending.runTurn {} resuming).1.outputKind ≠ none := by decide +kernel
  refine ⟨hfirst.2.first ?_ rfl (by decide) ?_ ?_,
    hsecond.2.ended ?_ rfl (fun h => h.2.2 hresumes) (fun h => hspoken h.2)⟩
  all_goals decide +kernel

end Session

end Colloquy

import Mathlib.Data.List.Chain
import Colloquy.Proofs.Abort
import Colloquy.Proofs.Ownership

/-!
# The counter counts the fallbacks that are left unresolved

As long as every turn handles its fallback and none sets the counter, the counter only goes up. A
turn raises it by one exactly if it ends a resolution without having moved on
(`Session.PastTurn.Counts`): it is finished, the escalation owns it, it is a second turn or both
turns in one, and the engine has not gone on to another topic. Every other turn leaves it.

The counter has thirty-two bits. It grows by one in a turn at most, and no command calls it to more
than three, so that after a conversation of `n` turns it is `n + 3` at most
(`Session.counter_le_of_past`); as long as this fits, counting is exact.

## Fallbacks that are resolved in two turns

The plainest conversation of this kind is one in which an utterance is not understood, the remote
engine is asked, and the second turn comes when it has answered (`Session.Exchange`), again and
again. Then the counter is the number of exchanges less those whose second turn is reported as
moving on.
-/

namespace Colloquy

namespace Session

variable {setup : Setup} {past : List PastTurn} {s : Session}

/-! ### How far the counter can get -/

/-- A counter command calls the counter to three at most, if not to what it was. -/
theorem toNat_foldl_onCounter_le (commands : List Command) (counter : UInt32) :
    (commands.foldl Command.onCounter counter).toNat ≤ max counter.toNat 3 := by
  induction commands generalizing counter with
  | nil => exact Nat.le_max_left _ _
  | cons command rest ih =>
    have hstep : (command.onCounter counter).toNat ≤ max counter.toNat 3 := by
      cases command with
      | resetCounter | resetAllCounters => exact Nat.zero_le _
      | restoreCounter => exact Nat.le_max_right _ _
      | _ => exact Nat.le_max_left _ _
    have hrest := ih (command.onCounter counter)
    rw [List.foldl_cons]
    omega

theorem toNat_startCounter_le (s : Session) (script : TurnScript) :
    (s.startCounter script).toNat ≤ s.arbiter.escalation.counter.toNat := by
  rw [startCounter]
  split
  · exact Nat.zero_le _
  · exact Nat.le_refl _

theorem toNat_calledCounter_le (s : Session) (script : TurnScript) :
    (s.calledCounter script).toNat ≤ max s.arbiter.escalation.counter.toNat 3 := by
  have hcalled := toNat_foldl_onCounter_le (accepted script.commands) (s.startCounter script)
  have hstart := toNat_startCounter_le s script
  rw [calledCounter]
  omega

/-- Counting one more adds one, or starts anew when it no longer fits. -/
theorem toNat_add_one_le (counter : UInt32) : (counter + 1).toNat ≤ counter.toNat + 1 := by
  rw [UInt32.toNat_add]
  exact Nat.mod_le _ _

/-- What a turn makes of the counter is zero, or what it was called, or one more. -/
theorem counter_runTurn_cases (h : Reachable setup s) (script : TurnScript) :
    (s.runTurn setup script).2.arbiter.escalation.counter = 0 ∨
      (s.runTurn setup script).2.arbiter.escalation.counter = s.startCounter script ∨
      (s.runTurn setup script).2.arbiter.escalation.counter = s.calledCounter script ∨
      (s.runTurn setup script).2.arbiter.escalation.counter = s.calledCounter script + 1 := by
  by_cases howner : (s.openedDesk setup script).arbiter.owner? = some .default
  · have hen := h.enabled_of_default script howner
    cases hkind : (s.runTurn setup script).1.outputKind with
    | none => exact Or.inr (Or.inr (Or.inl (counter_of_unanswered hen howner (Or.inr hkind))))
    | some kind =>
      cases hstage : (s.answeredDesk setup script).arbiter.escalation.stage with
      | initial =>
        rw [counter_of_initial hen howner hstage hkind]
        split
        · exact Or.inr (Or.inr (Or.inl rfl))
        · split
          · exact Or.inl rfl
          · exact Or.inr (Or.inr (Or.inl rfl))
      | afterInitial =>
        exact Or.inr (Or.inr (Or.inl (counter_of_afterInitial hen howner hstage)))
      | second =>
        rw [counter_of_second hen howner hstage hkind]
        split
        · exact Or.inr (Or.inr (Or.inr rfl))
        · exact Or.inr (Or.inr (Or.inl rfl))
  · rw [counter_of_other howner]
    split
    · exact Or.inl rfl
    · exact Or.inr (Or.inl rfl)

theorem toNat_counter_runTurn_le (h : Reachable setup s) (script : TurnScript) :
    (s.runTurn setup script).2.arbiter.escalation.counter.toNat ≤
      max s.arbiter.escalation.counter.toNat 3 + 1 := by
  have hcalled := toNat_calledCounter_le s script
  have hmore := toNat_add_one_le (s.calledCounter script)
  have hstart := toNat_startCounter_le s script
  rcases counter_runTurn_cases h script with heq | heq | heq | heq
  · rw [heq]
    exact Nat.zero_le _
  · rw [heq]
    omega
  · rw [heq]
    omega
  · rw [heq]
    omega

/-- After a conversation of so many turns, the counter is three more at most. -/
theorem counter_le_of_past (h : Past setup past s) :
    s.arbiter.escalation.counter.toNat ≤ past.length + 3 := by
  induction h with
  | new => exact Nat.zero_le _
  | turn script h ih =>
    have hstep := toNat_counter_runTurn_le h.reachable script
    rw [List.length_append, List.length_singleton]
    omega
  | @conversation past s conversation _ ih =>
    rw [setConversation, Arbiter.phaseChanged]
    split
    · exact Nat.zero_le _
    · exact ih
  | event _ ih => exact ih

/-! ### A turn that leaves its fallback to be counted -/

namespace PastTurn

variable (setup) (turn : PastTurn)

/-- A turn that **handles** its fallback, sets no counter, and does not wake the conversation. -/
structure Handling : Prop where
  handles : Handles turn.script
  counters : ∀ command ∈ accepted turn.script.commands, command.setsCounter = false
  wakes : ¬ turn.session.Wakes turn.script

/-- A turn that **counts**: it is not aborted, the escalation owns it, it is a second turn or both
turns in one, and the engine has not moved on in it. -/
def Counts : Prop :=
  turn.script.abort = false ∧ (turn.report setup).owner = some .default ∧
    (turn.session.treatment setup = .noRemote ∨
      turn.session.arbiter.escalation.Resumes setup.settings.arbiter turn.script.input) ∧
    (turn.session.answeredDesk setup turn.script).engine.movedOn = false

instance : Decidable (turn.Counts setup) := inferInstanceAs (Decidable (_ ∧ _ ∧ _ ∧ _))

variable {setup} {script : TurnScript}

/-- Where everything else speaks for counting, the engine decides. -/
theorem counts_iff (hfinished : script.abort = false)
    (howner : (s.openedDesk setup script).arbiter.owner? = some .default)
    (hended : s.treatment setup = .noRemote ∨
      s.arbiter.escalation.Resumes setup.settings.arbiter script.input) :
    Counts setup ⟨s, script⟩ ↔ (s.answeredDesk setup script).engine.movedOn = false := by
  constructor
  · rintro ⟨-, -, -, hmoved⟩
    exact hmoved
  · intro hmoved
    exact ⟨hfinished, (s.owner_report setup script).trans howner, hended, hmoved⟩

end PastTurn

/-- Where a turn stands when it has handled its fallback: the resolution is ended if the turn resumes
it, or is both turns in one, and waits otherwise. -/
theorem stage_of_handles {script : TurnScript} (hen : setup.settings.arbiter.enabled = true)
    (howner : (s.openedDesk setup script).arbiter.owner? = some .default)
    (hrest : s.arbiter.escalation.Resting) (hhandles : Handles script) :
    (s.answeredDesk setup script).arbiter.escalation.stage =
      if s.treatment setup = .noRemote ∨
          s.arbiter.escalation.Resumes setup.settings.arbiter script.input then .second
      else .afterInitial := by
  have hstage := stage_escalated setup script hrest
  rw [if_pos hhandles, ← (s.answeredDesk_of_default setup script hen howner).1] at hstage
  rw [hstage]
  by_cases htopic : s.treatment setup = .noRemote
  · rw [if_pos htopic, if_pos (Or.inl htopic)]
    split <;> rfl
  · rw [if_neg htopic]
    by_cases hresumes : s.arbiter.escalation.Resumes setup.settings.arbiter script.input
    · rw [if_pos hresumes, if_pos (Or.inr hresumes)]
    · rw [if_neg hresumes, if_neg (not_or.mpr ⟨htopic, hresumes⟩)]

/-- **One turn** that handles its fallback raises the counter if it counts, and leaves it if not. -/
theorem counter_of_handling {turn : PastTurn} (h : Reachable setup turn.session)
    (hturn : turn.Handling) :
    (turn.report setup).counter =
      if turn.Counts setup then turn.session.arbiter.escalation.counter + 1
      else turn.session.arbiter.escalation.counter := by
  obtain ⟨s, script⟩ := turn
  obtain ⟨hhandles, hcounters, hwakes⟩ := hturn
  have hcalled : s.calledCounter script = s.arbiter.escalation.counter :=
    calledCounter_of_not hcounters hwakes
  have hreport : (PastTurn.report setup ⟨s, script⟩).counter =
      (s.runTurn setup script).2.arbiter.escalation.counter := rfl
  rw [hreport]
  by_cases howner : (s.openedDesk setup script).arbiter.owner? = some .default
  · have hen := h.enabled_of_default script howner
    cases habort : script.abort with
    | true =>
      rw [counter_of_unanswered hen howner (Or.inl habort), hcalled, if_neg]
      rintro ⟨hfinished, -⟩
      exact absurd (habort.symm.trans hfinished) (by decide)
    | false =>
      have hkind : (s.runTurn setup script).1.outputKind = some .fallback := by
        rw [outputKind_report, habort]
        exact outputKind?_of_handles hen howner hhandles
      have hstage := stage_of_handles hen howner h.resting hhandles
      by_cases hsecond : s.treatment setup = .noRemote ∨
          s.arbiter.escalation.Resumes setup.settings.arbiter script.input
      · -- the resolution is ended
        rw [if_pos hsecond] at hstage
        rw [counter_of_second hen howner hstage hkind, hcalled]
        have hcounts := PastTurn.counts_iff habort howner hsecond
        by_cases hmoved : (s.answeredDesk setup script).engine.movedOn = false
        · rw [if_pos ⟨Or.inl rfl, hmoved⟩, if_pos (hcounts.mpr hmoved)]
        · rw [if_neg fun hmore => hmoved hmore.2, if_neg (mt hcounts.mp hmoved)]
      · -- the second turn is still to come
        rw [if_neg hsecond] at hstage
        rw [counter_of_afterInitial hen howner hstage, hcalled, if_neg]
        rintro ⟨-, -, hended, -⟩
        exact hsecond hended
  · have hreset : .resetAllCounters ∉ accepted script.commands := fun hmem =>
      absurd (hcounters _ hmem) (by decide)
    rw [counter_of_other howner, if_neg fun hand => hreset hand.1, startCounter, if_neg hwakes,
      if_neg]
    rintro ⟨-, hdefault, -⟩
    exact howner ((s.owner_report setup script).symm.trans hdefault)

/-- As long as the counter fits, this is counting in the natural numbers. -/
theorem toNat_counter_of_handling {turn : PastTurn} (h : Past setup past turn.session)
    (hturn : turn.Handling) (hlength : past.length < UInt32.size - 4) :
    (turn.report setup).counter.toNat =
      turn.session.arbiter.escalation.counter.toNat + if turn.Counts setup then 1 else 0 := by
  have hbound := counter_le_of_past h
  have hone : (1 : UInt32).toNat = 1 := rfl
  have hsize : UInt32.size = 2 ^ 32 := rfl
  rw [counter_of_handling h.reachable hturn]
  split
  · rw [UInt32.toNat_add, hone, Nat.mod_eq_of_lt]
    omega
  · rfl

/-! ### Whole runs -/

/-- **Every turn of a run** in which all turns handle their fallbacks raises the counter by one if it
counts, and leaves it if not. -/
theorem counters_of_handling {scripts : List TurnScript} (h : Past setup past s)
    (hturns : ∀ turn ∈ s.turnsOf setup scripts, turn.Handling)
    (hlength : past.length + scripts.length < UInt32.size - 4) :
    ∀ turn ∈ s.turnsOf setup scripts,
      (turn.report setup).counter.toNat =
        turn.session.arbiter.escalation.counter.toNat + if turn.Counts setup then 1 else 0 := by
  induction scripts generalizing past s with
  | nil =>
    intro turn hmem
    cases hmem
  | cons script rest ih =>
    rw [List.length_cons] at hlength
    intro turn hmem
    rcases List.mem_cons.mp hmem with rfl | hmem
    · exact toNat_counter_of_handling h (hturns _ List.mem_cons_self) (by omega)
    · refine ih (h.turn script) (fun other hother => hturns other (List.mem_cons_of_mem _ hother))
        ?_ turn hmem
      rw [List.length_append, List.length_singleton]
      omega

/-- From one report to the next the counter **never decreases**. -/
theorem isChain_of_grows {scripts : List TurnScript}
    (h : ∀ turn ∈ s.turnsOf setup scripts,
      turn.session.arbiter.escalation.counter ≤ (turn.report setup).counter) :
    (s.arbiter.escalation.counter :: (s.runTurns setup scripts).1.map Report.counter).IsChain
      (· ≤ ·) := by
  rw [← report_turnsOf]
  induction scripts generalizing s with
  | nil => exact List.isChain_singleton _
  | cons script rest ih =>
    rw [turnsOf, List.map_cons, List.map_cons, List.isChain_cons_cons]
    exact ⟨h _ List.mem_cons_self, ih fun turn hturn => h turn (List.mem_cons_of_mem _ hturn)⟩

/-- In the end the counter has grown by the number of turns that count. -/
theorem counter_runTurns_of_grows {scripts : List TurnScript}
    (h : ∀ turn ∈ s.turnsOf setup scripts,
      (turn.report setup).counter.toNat =
        turn.session.arbiter.escalation.counter.toNat + if turn.Counts setup then 1 else 0) :
    (s.runTurns setup scripts).2.arbiter.escalation.counter.toNat =
      s.arbiter.escalation.counter.toNat +
        (s.turnsOf setup scripts).countP (decide <| PastTurn.Counts setup ·) := by
  induction scripts generalizing s with
  | nil => rfl
  | cons script rest ih =>
    have hfirst := h _ List.mem_cons_self
    have hreport : (PastTurn.report setup ⟨s, script⟩).counter =
      (s.runTurn setup script).2.arbiter.escalation.counter := rfl
    rw [hreport] at hfirst
    rw [runTurns_cons, ih fun turn hturn => h turn (List.mem_cons_of_mem _ hturn), hfirst, turnsOf,
      List.countP_cons]
    simp only [decide_eq_true_eq]
    omega

/-! ### Fallbacks that are resolved in two turns -/

theorem script_of_mem_turnsOf {scripts : List TurnScript} {turn : PastTurn}
    (h : turn ∈ s.turnsOf setup scripts) : turn.script ∈ scripts := by
  induction scripts generalizing s with
  | nil => cases h
  | cons script rest ih =>
    rcases List.mem_cons.mp h with rfl | h
    · exact List.mem_cons_self
    · exact List.mem_cons_of_mem _ (ih h)

end Session

/-- The script of a turn in which the fallback is handled **once**, and nothing else is done. How the
engine answers meanwhile is left open. -/
structure TurnScript.Lone (script : TurnScript) : Prop where
  accepted : accepted script.commands = [.handleFallback]
  output : script.output = none
  finished : script.abort = false
  conversation : script.conversation = none
  socialChat : script.socialChat = false

/-- An **exchange**: an utterance that is not understood, and the event that brings the turn back. -/
structure Exchange where
  speech : TurnScript
  resume : TurnScript
  isSpeech : speech.input.kind = .speech
  resumes : resume.input.isEventNamed "eb-remote-act-speak" = true
  speech_lone : speech.Lone
  resume_lone : resume.Lone

/-- The turns of an exchange. -/
def Exchange.scripts (exchange : Exchange) : List TurnScript := [exchange.speech, exchange.resume]

namespace Session

variable {s : Session} {script : TurnScript}

theorem PastTurn.Handling.of_lone {turn : PastTurn} (h : turn.script.Lone) : turn.Handling where
  handles := by simp [Handles, h.accepted]
  counters := by simp [h.accepted, Command.setsCounter]
  wakes := not_wakes _ h.conversation

theorem handling_of_exchanges {setup : Setup} {exchanges : List Exchange} {turn : PastTurn}
    (h : turn ∈ s.turnsOf setup (exchanges.flatMap Exchange.scripts)) : turn.Handling := by
  obtain ⟨exchange, -, hscript⟩ := List.mem_flatMap.mp (script_of_mem_turnsOf h)
  rw [Exchange.scripts, List.mem_pair] at hscript
  refine .of_lone ?_
  rcases hscript with heq | heq
  · rw [heq]
    exact exchange.speech_lone
  · rw [heq]
    exact exchange.resume_lone

/-- A session in which **nothing but fallbacks** has happened: the conversation is in no module, and
the user may not interrupt. -/
structure Idle (s : Session) : Prop where
  module : s.arbiter.place.module = ""
  interruptible : s.conversation.interruptible = false

/-- If no output is scripted, the turn ends in no module. -/
theorem module_of_unscripted {setup : Setup} (h : script.output = none) {output : Output}
    (houtput : (s.answeredTurn setup script).output = some output) : output.module = "" := by
  rw [answeredTurn, h] at houtput
  dsimp only [withSpoken, Engine.applyTo] at houtput
  split at houtput <;> split at houtput <;> cases houtput <;> rfl

/-- In an idle session, the escalation owns a turn of an exchange. -/
theorem Idle.owner? (h : s.Idle) (hlone : script.Lone)
    (hinput : ¬ (script.input.isEvent ∧ script.input.text ≠ "eb-remote-act-speak")) :
    (s.openedDesk {} script).arbiter.owner? = some .default := by
  have hinterruptible : (s.claim {} script).conversation.interruptible = false := by
    rw [claim, Arbiter.claimOf, hlone.conversation]
    exact h.interruptible
  have hmodule : (s.claim {} script).priorModule = "" := h.module
  have hsocial : (s.claim {} script).turn.socialChat = false := hlone.socialChat
  have htreatment : (s.claim {} script).treatment = .ordinary := rfl
  have hopen : "" ≠ ({} : Setup).settings.arbiter.openModule := by decide
  rw [owner?_openedDesk_of_enabled _ _ _ rfl, Owner.first_eq_of_claim, hinterruptible, hmodule,
    hsocial, htreatment]
  refine congrArg some ((if_neg hinput).trans ?_)
  simp [hopen]

/-- An exchange leaves an idle session idle. -/
theorem Idle.runTurn (h : s.Idle) (hlone : script.Lone) : (s.runTurn {} script).2.Idle := by
  constructor
  · rw [place_runTurn, hlone.finished, if_neg (by decide)]
    cases houtput : (s.answeredTurn {} script).output with
    | none => exact h.module
    | some output => exact module_of_unscripted hlone.output houtput
  · rw [runTurn_snd, hlone.conversation]
    exact h.interruptible

/-- Where nothing is authored, no topic wants its fallbacks resolved in one turn. -/
theorem treatment_of_unauthored (s : Session) : s.treatment {} ≠ .noRemote := by
  have htreatment : s.treatment {} = .ordinary := rfl
  rw [htreatment]
  decide

/-- The **first turn** of an exchange does not count, and leaves the second one to come. -/
theorem speech_of_exchange (exchange : Exchange) (h : Reachable {} s) (hidle : s.Idle)
    (hstage : s.arbiter.escalation.stage = .initial) :
    ¬ PastTurn.Counts {} ⟨s, exchange.speech⟩ ∧
      (s.runTurn {} exchange.speech).2.arbiter.escalation.stage = .second := by
  have hnot : ¬ s.arbiter.escalation.Resumes ({} : Setup).settings.arbiter
      exchange.speech.input := by
    rintro ⟨hsecond, -⟩
    exact absurd (hstage.symm.trans hsecond) (by decide)
  have hordinary := treatment_of_unauthored s
  constructor
  · rintro ⟨-, -, hended, -⟩
    exact hended.elim hordinary hnot
  · have howner := hidle.owner? exchange.speech_lone fun hevent =>
      absurd hevent.1 (by simp [Input.isEvent, exchange.isSpeech])
    have hhandling : PastTurn.Handling ⟨s, exchange.speech⟩ := .of_lone exchange.speech_lone
    exact (escalation_of_first rfl howner h.resting exchange.speech_lone.finished
      hhandling.handles hordinary hnot).1

/-- If the second turn handles its fallback once, it is reported as moving on exactly when the engine
does. -/
theorem resolution_of_lone {setup : Setup} (hen : setup.settings.arbiter.enabled = true)
    (howner : (s.openedDesk setup script).arbiter.owner? = some .default)
    (hrest : s.arbiter.escalation.Resting) (htopic : s.treatment setup ≠ .noRemote)
    (hresumes : s.arbiter.escalation.Resumes setup.settings.arbiter script.input)
    (hcommands : accepted script.commands = [.handleFallback]) :
    (s.runTurn setup script).1.resolution = some .moveOn ↔
      (s.answeredDesk setup script).engine.movedOn = true := by
  -- the engine has done nothing before it handles the fallback in the second stage
  have hengine : (s.answeredDesk setup script).engine =
      (((s.heard script).takenUp setup.settings.arbiter (s.treatment setup) script.input).handle
        { script := script.engine }).2 := by
    rw [(s.answeredDesk_of_default setup script hen howner).2, escalated, hcommands]
    rfl
  have hstage := (s.resting_heard script hrest).stage_takenUp setup.settings.arbiter
    (s.treatment setup) script.input
  rw [if_pos ((s.resumes_heard script _).mpr hresumes)] at hstage
  have hone := ((s.heard script).takenUp_frame setup.settings.arbiter (s.treatment setup)
    script.input).2.2.2
  rw [decide_eq_false htopic] at hone
  have hfresh : ({ script := script.engine } : Engine).movedOn = false := rfl
  rw [s.resolution_report, hengine]
  exact Escalation.resolution?_handle_eq_moveOn_iff hstage hone hfresh

/-- The **second turn** of an exchange counts unless it is reported as moving on, and ends the
resolution. -/
theorem resume_of_exchange (exchange : Exchange) (h : Reachable {} s) (hidle : s.Idle)
    (hstage : s.arbiter.escalation.stage = .second) :
    (PastTurn.Counts {} ⟨s, exchange.resume⟩ ↔
        (s.runTurn {} exchange.resume).1.resolution ≠ some .moveOn) ∧
      (s.runTurn {} exchange.resume).2.arbiter.escalation.stage = .initial := by
  have hresumes : s.arbiter.escalation.Resumes ({} : Setup).settings.arbiter
      exchange.resume.input := ⟨hstage, exchange.resumes⟩
  have hlone := exchange.resume_lone
  have hnamed := exchange.resumes
  rw [Input.isEventNamed, Bool.and_eq_true, decide_eq_true_eq] at hnamed
  have howner := hidle.owner? hlone fun hevent => hevent.2 hnamed.2
  have hhandling : PastTurn.Handling ⟨s, exchange.resume⟩ := .of_lone hlone
  have hordinary := treatment_of_unauthored s
  constructor
  · rw [PastTurn.counts_iff hlone.finished howner (Or.inr hresumes), ne_eq,
      resolution_of_lone rfl howner h.resting hordinary hresumes hlone.accepted, Bool.not_eq_true]
  · have hkind := outputKind?_of_handles rfl howner hhandling.handles
    have hnotFirst : ¬ (Handles exchange.resume ∧ s.treatment {} ≠ .noRemote ∧
        ¬ s.arbiter.escalation.Resumes ({} : Setup).settings.arbiter exchange.resume.input) :=
      fun hfirst => hfirst.2.2 hresumes
    have hspoken : (s.answeredTurn {} exchange.resume).outputKind? ≠ none := by
      rw [hkind]
      exact Option.some_ne_none _
    exact (escalation_of_over rfl howner h.resting hlone.finished hnotFirst
      fun hwaiting => hspoken hwaiting.2).1

/-- Over any number of exchanges, each second turn counts or is reported as moving on. -/
theorem countP_of_exchanges {exchanges : List Exchange} (h : Reachable {} s) (hidle : s.Idle)
    (hstage : s.arbiter.escalation.stage = .initial) :
    (s.turnsOf {} (exchanges.flatMap Exchange.scripts)).countP
        (decide <| PastTurn.Counts {} ·) +
      (s.turnsOf {} (exchanges.flatMap Exchange.scripts)).countP
        (fun turn => turn.script.input.isEvent &&
          decide ((turn.report {}).resolution = some .moveOn)) = exchanges.length := by
  induction exchanges generalizing s with
  | nil => rfl
  | cons exchange rest ih =>
    obtain ⟨hfirst, hsecond⟩ := speech_of_exchange exchange h hidle hstage
    have hidle' := hidle.runTurn exchange.speech_lone
    obtain ⟨hcounts, hinitial⟩ := resume_of_exchange exchange (h.turn exchange.speech) hidle' hsecond
    have hrest := ih ((h.turn exchange.speech).turn exchange.resume)
      (hidle'.runTurn exchange.resume_lone) hinitial
    have hspeech : exchange.speech.input.isEvent = false := by
      simp [Input.isEvent, exchange.isSpeech]
    have hevent : exchange.resume.input.isEvent = true := by
      have hnamed := exchange.resumes
      rw [Input.isEventNamed, Bool.and_eq_true] at hnamed
      exact hnamed.1
    have hturns : s.turnsOf {} ((exchange :: rest).flatMap Exchange.scripts) =
        ⟨s, exchange.speech⟩ :: ⟨(s.runTurn {} exchange.speech).2, exchange.resume⟩ ::
          ((s.runTurn {} exchange.speech).2.runTurn {} exchange.resume).2.turnsOf {}
            (rest.flatMap Exchange.scripts) := rfl
    have hreport : (PastTurn.report {} ⟨(s.runTurn {} exchange.speech).2, exchange.resume⟩) =
        ((s.runTurn {} exchange.speech).2.runTurn {} exchange.resume).1 := rfl
    rw [hturns, List.countP_cons, List.countP_cons, List.countP_cons, List.countP_cons,
      decide_eq_false hfirst, hspeech, hevent, hreport, List.length_cons, ← hrest]
    simp only [hcounts, Bool.true_and, Bool.false_and, decide_eq_true_eq]
    by_cases hmoved : ((s.runTurn {} exchange.speech).2.runTurn {} exchange.resume).1.resolution =
        some .moveOn
    · rw [if_neg (not_not_intro hmoved), if_pos hmoved]
      simp only [Bool.false_eq_true, if_false]
      omega
    · rw [if_pos hmoved, if_neg hmoved]
      simp only [Bool.false_eq_true, if_false]
      omega

/-- **The counter counts the fallbacks that are left unresolved.** In any run in which every turn
handles its fallback and sets no counter, it never decreases, and grows by one in exactly the turns
that count. So in a new session, after some exchanges, it is their number less that of the second
turns that are reported as moving on. -/
theorem counter_counts_unresolved :
    (∀ (setup : Setup) (past : List PastTurn) (s : Session) (scripts : List TurnScript),
      Past setup past s → (∀ turn ∈ s.turnsOf setup scripts, turn.Handling) →
      past.length + scripts.length < UInt32.size - 4 →
      (s.arbiter.escalation.counter :: (s.runTurns setup scripts).1.map Report.counter).IsChain
          (· ≤ ·) ∧
        ∀ turn ∈ s.turnsOf setup scripts,
          (turn.report setup).counter.toNat =
            turn.session.arbiter.escalation.counter.toNat +
              if turn.Counts setup then 1 else 0) ∧
    ∀ exchanges : List Exchange, 2 * exchanges.length < UInt32.size - 4 →
      (new.runTurns {} (exchanges.flatMap Exchange.scripts)).2.arbiter.escalation.counter.toNat +
          (new.turnsOf {} (exchanges.flatMap Exchange.scripts)).countP (fun turn =>
            turn.script.input.isEvent && decide ((turn.report {}).resolution = some .moveOn)) =
        exchanges.length := by
  constructor
  · intro setup past s scripts hpast hturns hlength
    have hgrows := counters_of_handling hpast hturns hlength
    refine ⟨isChain_of_grows fun turn hturn => ?_, hgrows⟩
    rw [UInt32.le_iff_toNat_le, hgrows turn hturn]
    exact Nat.le_add_right _ _
  · intro exchanges hlength
    have hscripts : (exchanges.flatMap Exchange.scripts).length = 2 * exchanges.length := by
      simp [List.length_flatMap, Exchange.scripts, Nat.mul_comm]
    have hgrows := counters_of_handling (Past.new : Past {} [] new)
      (fun turn (hturn : turn ∈ new.turnsOf {} (exchanges.flatMap Exchange.scripts)) =>
        handling_of_exchanges hturn) (by simpa [hscripts] using hlength)
    rw [counter_runTurns_of_grows hgrows, ← countP_of_exchanges Reachable.new ⟨rfl, rfl⟩ rfl]
    have hnew : new.arbiter.escalation.counter.toNat = 0 := rfl
    rw [hnew, Nat.zero_add]

/-- An exchange with these answers of the engine to the second turn. -/
def exchangeWith (engine : EngineScript) : Exchange where
  speech := .handling (.speech "blorp")
  resume := (TurnScript.handling (.event "eb-remote-act-speak")).withEngine engine
  isSpeech := rfl
  resumes := (by decide : (Input.event "eb-remote-act-speak").isEventNamed _ = true)
  speech_lone := ⟨by decide, rfl, rfl, rfl, rfl⟩
  resume_lone :=
    ⟨(by decide : accepted [Command.handleFallback.call] = [.handleFallback]), rfl, rfl, rfl, rfl⟩

/-- Three exchanges that are left unresolved, and one that moves on. -/
def exchanges : List Exchange :=
  [exchangeWith {}, exchangeWith {}, exchangeWith {},
    exchangeWith { functions := Dict.empty.insert Engine.moveOn true }]

theorem counter_counts_unresolved_exchanges :
    Past {} [] new ∧
      (∀ turn ∈ new.turnsOf {} (exchanges.flatMap Exchange.scripts), turn.Handling) ∧
      ([] : List PastTurn).length + (exchanges.flatMap Exchange.scripts).length < UInt32.size - 4 ∧
      2 * exchanges.length < UInt32.size - 4 ∧
      (new.arbiter.escalation.counter ::
        (new.runTurns {} (exchanges.flatMap Exchange.scripts)).1.map Report.counter).IsChain
          (· ≤ ·) ∧
      (new.runTurns {} (exchanges.flatMap Exchange.scripts)).2.arbiter.escalation.counter.toNat =
        3 := by
  have hturns : ∀ turn ∈ new.turnsOf {} (exchanges.flatMap Exchange.scripts), turn.Handling :=
    fun turn hturn => handling_of_exchanges hturn
  obtain ⟨hrun, hexchanges⟩ := counter_counts_unresolved
  have hmoved : (new.turnsOf {} (exchanges.flatMap Exchange.scripts)).countP (fun turn =>
      turn.script.input.isEvent && decide ((turn.report {}).resolution = some .moveOn)) = 1 := by
    decide +kernel
  have hcounted := hexchanges exchanges (by decide)
  have hlength : exchanges.length = 4 := rfl
  rw [hmoved, hlength] at hcounted
  exact ⟨.new, hturns, by decide, by decide, (hrun {} [] new _ .new hturns (by decide)).1,
    Nat.add_right_cancel hcounted⟩

end Session

end Colloquy

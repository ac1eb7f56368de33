import Colloquy.Proofs.Escalation
import Colloquy.Session

/-!
# What the commands of a turn change

A command works on one half of the desk: on the **arbiter** and the engine, or on the **tracker**.
Neither half looks at the other, so that answering calls comes down to two folds over the commands
that are accepted, one for each half (`answerAll_eq`). A call that names no command changes nothing.

In a turn that the escalation owns, the arbiter's half is a fold on the escalation and the engine
alone (`Command.onArbiter_of_default`). In every other turn the only command that reaches the
escalation is the one that resets all counters (`Command.onArbiter_of_other`).
-/

namespace Colloquy

/-! ### The two halves of the desk -/

/-- The command that a call is **accepted** as, if it is. -/
def CommandCall.command? (call : CommandCall) : Option Command :=
  (Command.of call.name call.argument).toOption

/-- The commands that are **accepted** of a list of calls, in order. -/
def accepted (calls : List CommandCall) : List Command := calls.filterMap CommandCall.command?

namespace Command

/-- A command **as it is called**. -/
def call (command : Command) : CommandCall where
  name := command.name
  argument := command.argument?

variable (settings : ArbiterSettings)

/-- What a command does to the **arbiter** and the engine. -/
def onArbiter (half : Arbiter × Engine) : Command → Arbiter × Engine
  | .handleFallback =>
    match half.1.handle settings half.2 with
    | .ok (.by .., handled) => handled
    | _ => half
  | .keepCounter => (half.1.adjust Escalation.keepCounter, half.2)
  | .resetCounter => (half.1.adjust Escalation.resetCounter, half.2)
  | .resetAllCounters => (if half.1.owner?.isSome then half.1.resetAllCounters else half.1, half.2)
  | .restoreCounter => (half.1.adjust Escalation.restoreCounter, half.2)
  | _ => half

/-- What a command does to the **tracker**. -/
def onTracker (t : Tracker) : Command → Tracker
  | .prependReprompt text => t.setLead text
  | .overrideWithReprompt => t.askOverride
  | .sendReprompt wish => (t.replay wish).2
  | .saveMarkup => t.askSave
  | .restoreMarkup => t.restore.2
  | _ => t

/-- What a command does to the **escalation** and the engine in a turn that the escalation owns. -/
def onEscalation (half : Escalation × Engine) : Command → Escalation × Engine
  | .handleFallback => half.1.handle half.2
  | .keepCounter => (half.1.keepCounter, half.2)
  | .resetCounter | .resetAllCounters => (half.1.resetCounter, half.2)
  | .restoreCounter => (half.1.restoreCounter, half.2)
  | _ => half

end Command

namespace Desk

variable (settings : ArbiterSettings) (desk : Desk)

/-- The desk after a command that is accepted. -/
def obey (command : Command) : Desk where
  arbiter := (command.onArbiter settings (desk.arbiter, desk.engine)).1
  tracker := command.onTracker desk.tracker
  engine := (command.onArbiter settings (desk.arbiter, desk.engine)).2

/-- What is **replied** to a command that is accepted. Counter commands need an owner of the turn;
a fallback without one, or with the arbiter switched off, is left alone. -/
def reply : Command → Except Refusal String
  | .handleFallback =>
    .ok (if settings.enabled ∧ desk.arbiter.owner?.isSome then handledValue else "")
  | .keepCounter | .resetCounter | .resetAllCounters | .restoreCounter =>
    if desk.arbiter.owner?.isSome then .ok "" else .error .noActivePolicy
  | .speechInput => desk.arbiter.lastSpeech
  | .sendReprompt wish => .ok (desk.tracker.replay wish).1
  | .restoreMarkup => .ok desk.tracker.restore.1
  | _ => .ok ""

/-- **A command works on its half of the desk**, and one that is refused on neither. -/
theorem run_eq (command : Command) :
    desk.run settings command =
      (.of command.name (desk.reply settings command), desk.obey settings command) := by
  obtain ⟨⟨owner, place, escalation⟩, tracker, engine⟩ := desk
  cases command with
  | handleFallback =>
    cases hs : settings.enabled <;> cases owner <;>
      simp [run, perform, reply, obey, handle, Command.onArbiter, Command.onTracker,
        Arbiter.handle, hs]
  | keepCounter | resetCounter | resetAllCounters | restoreCounter | speechInput =>
    cases owner <;> rfl
  | _ => rfl

/-- **Answering a call** replies to the command that it is accepted as, and works on the desk. -/
theorem answer_of_accepted {call : CommandCall} {command : Command}
    (h : call.command? = some command) :
    desk.answer settings call =
      let outcome := CommandOutcome.of command.name (desk.reply settings command)
      (outcome, if command.isSpoken && outcome.status = .ok && outcome.value ≠ "" then
        some outcome.value else none, desk.obey settings command) := by
  rw [answer]
  cases hof : Command.of call.name call.argument with
  | error refusal => rw [CommandCall.command?, hof] at h; cases h
  | ok other =>
    rw [CommandCall.command?, hof] at h
    cases h
    simp only [run_eq]

/-- A call that names no command is refused, whatever stands on the desk, and leaves it. -/
theorem answer_of_rejected {call : CommandCall} (h : call.command? = none) :
    ∃ refusal, ∀ desk : Desk,
      desk.answer settings call = (.of call.name (.error refusal), none, desk) := by
  cases hof : Command.of call.name call.argument with
  | error refusal => exact ⟨refusal, fun desk => by rw [answer, hof]⟩
  | ok other => rw [CommandCall.command?, hof] at h; cases h

end Desk

/-! ### Answering all calls of a turn -/

variable (settings : ArbiterSettings)

theorem answerAll_cons (desk : Desk) (call : CommandCall) (rest : List CommandCall) :
    Session.answerAll settings desk (call :: rest) =
      let first := desk.answer settings call
      let others := Session.answerAll settings first.2.2 rest
      (first.1 :: others.1, first.2.1.toList ++ others.2.1, others.2.2) := by
  rw [Session.answerAll]

theorem answerAll_desk (desk : Desk) (calls : List CommandCall) :
    (Session.answerAll settings desk calls).2.2 =
      (accepted calls).foldl (Desk.obey settings) desk := by
  induction calls generalizing desk with
  | nil => rfl
  | cons call rest ih =>
    rw [answerAll_cons, accepted]
    cases h : call.command? with
    | none =>
      obtain ⟨refusal, hanswer⟩ := Desk.answer_of_rejected settings h
      rw [hanswer, List.filterMap_cons_none h]
      exact ih desk
    | some command =>
      rw [desk.answer_of_accepted settings h, List.filterMap_cons_some h]
      exact ih (desk.obey settings command)

/-- The two halves of the desk go their own ways. -/
theorem foldl_obey (desk : Desk) (commands : List Command) :
    commands.foldl (Desk.obey settings) desk =
      let half := commands.foldl (Command.onArbiter settings) (desk.arbiter, desk.engine)
      { arbiter := half.1, tracker := commands.foldl Command.onTracker desk.tracker,
        engine := half.2 } := by
  induction commands generalizing desk with
  | nil => rfl
  | cons command rest ih => exact ih (desk.obey settings command)

/-- **Answering calls** is a fold on each half of the desk, over the commands that are accepted. -/
theorem answerAll_eq (desk : Desk) (calls : List CommandCall) :
    (Session.answerAll settings desk calls).2.2 =
      let half := (accepted calls).foldl (Command.onArbiter settings) (desk.arbiter, desk.engine)
      { arbiter := half.1, tracker := (accepted calls).foldl Command.onTracker desk.tracker,
        engine := half.2 } := by
  rw [answerAll_desk, foldl_obey]

namespace Command

/-! ### The arbiter's half -/

/-- No command changes the owner of the turn, nor the place where the last one ended. -/
theorem onArbiter_frame (half : Arbiter × Engine) (command : Command) :
    (command.onArbiter settings half).1.owner? = half.1.owner? ∧
      (command.onArbiter settings half).1.place = half.1.place := by
  obtain ⟨⟨owner, place, escalation⟩, engine⟩ := half
  cases command with
  | handleFallback =>
    cases hs : settings.enabled <;> cases owner <;> simp [onArbiter, Arbiter.handle, hs]
  | keepCounter | resetCounter | resetAllCounters | restoreCounter =>
    cases owner <;> exact ⟨rfl, rfl⟩
  | _ => exact ⟨rfl, rfl⟩

theorem foldl_onArbiter_frame (half : Arbiter × Engine) (commands : List Command) :
    (commands.foldl (onArbiter settings) half).1.owner? = half.1.owner? ∧
      (commands.foldl (onArbiter settings) half).1.place = half.1.place := by
  induction commands generalizing half with
  | nil => exact ⟨rfl, rfl⟩
  | cons command rest ih =>
    obtain ⟨howner, hplace⟩ := onArbiter_frame settings half command
    obtain ⟨howner', hplace'⟩ := ih (command.onArbiter settings half)
    exact ⟨howner'.trans howner, hplace'.trans hplace⟩

/-- In a turn that the escalation owns, the commands work on the escalation. -/
theorem onArbiter_of_default {settings : ArbiterSettings} (henabled : settings.enabled = true)
    {half : Arbiter × Engine} (howner : half.1.owner? = some .default) (command : Command) :
    command.onArbiter settings half =
      ({ half.1 with escalation := (command.onEscalation (half.1.escalation, half.2)).1 },
        (command.onEscalation (half.1.escalation, half.2)).2) := by
  obtain ⟨⟨owner, place, escalation⟩, engine⟩ := half
  dsimp only at howner
  subst howner
  cases command with
  | handleFallback => simp [onArbiter, onEscalation, Arbiter.handle, Owner.handle, henabled]
  | _ => rfl

theorem foldl_onArbiter_of_default {settings : ArbiterSettings} (henabled : settings.enabled = true)
    {half : Arbiter × Engine} (howner : half.1.owner? = some .default) (commands : List Command) :
    commands.foldl (onArbiter settings) half =
      ({ half.1 with
          escalation := (commands.foldl onEscalation (half.1.escalation, half.2)).1 },
        (commands.foldl onEscalation (half.1.escalation, half.2)).2) := by
  induction commands generalizing half with
  | nil => rfl
  | cons command rest ih =>
    -- the owner is still the same when the next command comes
    have hframe := (onArbiter_frame settings half command).1
    rw [List.foldl_cons, List.foldl_cons, ih (by rw [hframe]; exact howner),
      onArbiter_of_default henabled howner]

/-- In a turn that the escalation does not own, only the command that resets all counters reaches
it, and only if somebody else owns the turn. -/
theorem onArbiter_of_other {half : Arbiter × Engine} (howner : half.1.owner? ≠ some .default)
    (command : Command) :
    (command.onArbiter settings half).1 =
      if command = .resetAllCounters ∧ half.1.owner?.isSome then half.1.resetAllCounters
      else half.1 := by
  obtain ⟨⟨owner, place, escalation⟩, engine⟩ := half
  cases command with
  | handleFallback =>
    cases hs : settings.enabled with
    | false => simp [onArbiter, Arbiter.handle, hs]
    | true =>
      cases owner with
      | none => simp [onArbiter, Arbiter.handle, hs]
      | some owner => cases owner <;> simp_all [onArbiter, Arbiter.handle, Owner.handle]
  | keepCounter | resetCounter | restoreCounter =>
    cases owner with
    | none => rfl
    | some owner => cases owner <;> simp_all [onArbiter, Arbiter.adjust, Owner.adjust]
  | resetAllCounters => simp [onArbiter]
  | _ => rfl

theorem foldl_onArbiter_of_other {half : Arbiter × Engine} (howner : half.1.owner? ≠ some .default)
    (commands : List Command) :
    (commands.foldl (onArbiter settings) half).1 =
      if .resetAllCounters ∈ commands ∧ half.1.owner?.isSome then half.1.resetAllCounters
      else half.1 := by
  induction commands generalizing half with
  | nil => rfl
  | cons command rest ih =>
    have hframe := (onArbiter_frame settings half command).1
    rw [List.foldl_cons, ih (by rw [hframe]; exact howner), hframe,
      onArbiter_of_other settings howner command]
    cases hsome : half.1.owner?.isSome with
    | false => simp
    | true =>
      by_cases hreset : command = .resetAllCounters
      · -- resetting all counters again changes nothing
        simp [hreset, Arbiter.resetAllCounters, Escalation.resetCounter]
      · simp [hreset, Ne.symm hreset]

/-! ### The escalation's half -/

/-- What a command makes of the **counter** as it is called: two set it to zero, and one to where
the conversation moves on. -/
def onCounter (counter : UInt32) : Command → UInt32
  | .resetCounter | .resetAllCounters => 0
  | .restoreCounter => Escalation.moveOnThreshold
  | _ => counter

/-- The **counter** is set by the counter commands alone, whatever is handled in between. -/
theorem counter_foldl (half : Escalation × Engine) (commands : List Command) :
    (commands.foldl onEscalation half).1.counter = commands.foldl onCounter half.1.counter := by
  induction commands generalizing half with
  | nil => rfl
  | cons command rest ih =>
    rw [List.foldl_cons, List.foldl_cons, ih]
    congr 1
    cases command <;> simp [onEscalation, onCounter, Escalation.keepCounter,
      Escalation.resetCounter, Escalation.restoreCounter]

/-- A command other than handling the fallback asks nothing of the engine, and changes the counter
and two of the marks for one turn at most. -/
theorem exists_onEscalation {command : Command} (h : command ≠ .handleFallback)
    (half : Escalation × Engine) :
    ∃ counter kept resetAsked,
      command.onEscalation half = ({ half.1 with counter, kept, resetAsked }, half.2) := by
  cases command with
  | handleFallback => exact absurd rfl h
  | keepCounter => exact ⟨half.1.counter, true, half.1.resetAsked, rfl⟩
  | resetCounter | resetAllCounters => exact ⟨0, half.1.kept, true, rfl⟩
  | restoreCounter => exact ⟨Escalation.moveOnThreshold, half.1.kept, half.1.resetAsked, rfl⟩
  | _ => exact ⟨half.1.counter, half.1.kept, half.1.resetAsked, rfl⟩

/-- What no command of a turn changes: the stage at its start, the waiting utterance, and whether
the topic wants a single turn. -/
theorem foldl_onEscalation_frame (half : Escalation × Engine) (commands : List Command) :
    (commands.foldl onEscalation half).1.startStage = half.1.startStage ∧
      (commands.foldl onEscalation half).1.lastSpeech = half.1.lastSpeech ∧
      (commands.foldl onEscalation half).1.oneTurn = half.1.oneTurn := by
  induction commands generalizing half with
  | nil => exact ⟨rfl, rfl, rfl⟩
  | cons command rest ih =>
    obtain ⟨hstart, hspeech, hturn⟩ := ih (command.onEscalation half)
    rw [List.foldl_cons, hstart, hspeech, hturn]
    by_cases h : command = .handleFallback
    · subst h
      simp [onEscalation]
    · obtain ⟨_, _, _, heq⟩ := exists_onEscalation h half
      rw [heq]
      exact ⟨rfl, rfl, rfl⟩

/-- The **stage** is moved by handling the fallback alone, and by the first time only. -/
theorem stage_foldl (half : Escalation × Engine) (commands : List Command) :
    (commands.foldl onEscalation half).1.stage =
      if .handleFallback ∈ commands then half.1.stageHandled else half.1.stage := by
  induction commands generalizing half with
  | nil => rfl
  | cons command rest ih =>
    rw [List.foldl_cons, ih]
    by_cases h : command = .handleFallback
    · -- any later one finds the stage that this one leaves
      subst h
      simp [onEscalation, Escalation.stageHandled_handle]
    · obtain ⟨_, _, _, heq⟩ := exists_onEscalation h half
      rw [heq]
      simp [Ne.symm h, Escalation.stageHandled]

/-- The **rule** is remembered by handling the fallback alone, and by the first time only. -/
theorem localRule_foldl (half : Escalation × Engine) (commands : List Command) :
    (commands.foldl onEscalation half).1.localRule =
      if .handleFallback ∈ commands then half.1.ruleHandled half.2 else half.1.localRule := by
  induction commands generalizing half with
  | nil => rfl
  | cons command rest ih =>
    rw [List.foldl_cons, ih]
    by_cases h : command = .handleFallback
    · -- any later one finds the same rule named, or keeps this one
      subst h
      simp [onEscalation, Escalation.ruleHandled_handle]
    · obtain ⟨_, _, _, heq⟩ := exists_onEscalation h half
      rw [heq]
      simp [Ne.symm h, Escalation.ruleHandled]

/-- The engine's output counts as a fallback once one has been handled. -/
theorem kind?_foldl (half : Escalation × Engine) (commands : List Command) :
    (commands.foldl onEscalation half).2.kind? =
      if .handleFallback ∈ commands then some .fallback else half.2.kind? := by
  induction commands generalizing half with
  | nil => rfl
  | cons command rest ih =>
    rw [List.foldl_cons, ih]
    by_cases h : command = .handleFallback
    · subst h
      simp [onEscalation]
    · obtain ⟨_, _, _, heq⟩ := exists_onEscalation h half
      rw [heq]
      simp [Ne.symm h]

/-- The mark of having moved on says the same as the engine's record, after any commands. -/
theorem movedOn_foldl {half : Escalation × Engine} (h : half.1.movedOn = half.2.movedOn)
    (commands : List Command) :
    (commands.foldl onEscalation half).1.movedOn =
      (commands.foldl onEscalation half).2.movedOn := by
  induction commands generalizing half with
  | nil => exact h
  | cons command rest ih =>
    rw [List.foldl_cons]
    refine ih ?_
    by_cases hc : command = .handleFallback
    · subst hc
      exact half.1.movedOn_handle half.2 h
    · obtain ⟨_, _, _, heq⟩ := exists_onEscalation hc half
      rw [heq]
      exact h

/-- A **reset** is on the mark exactly if one was asked for. -/
theorem resetAsked_foldl (half : Escalation × Engine) (commands : List Command) :
    (commands.foldl onEscalation half).1.resetAsked =
      (half.1.resetAsked ||
        decide (.resetCounter ∈ commands ∨ .resetAllCounters ∈ commands)) := by
  induction commands generalizing half with
  | nil => simp
  | cons command rest ih =>
    rw [List.foldl_cons, ih]
    cases command <;> simp [onEscalation, Escalation.keepCounter, Escalation.resetCounter,
      Escalation.restoreCounter]

/-- The counter is **kept** exactly if that was asked for, as long as no fallback is handled. -/
theorem kept_foldl (half : Escalation × Engine) {commands : List Command}
    (h : .handleFallback ∉ commands) :
    (commands.foldl onEscalation half).1.kept =
      (half.1.kept || decide (.keepCounter ∈ commands)) := by
  induction commands generalizing half with
  | nil => simp
  | cons command rest ih =>
    rw [List.foldl_cons, ih _ (fun hmem => h (List.mem_cons_of_mem _ hmem))]
    cases command with
    | handleFallback => exact absurd List.mem_cons_self h
    | _ => simp [onEscalation, Escalation.keepCounter, Escalation.resetCounter,
        Escalation.restoreCounter]

/-- Whether a command **sets** the counter. -/
def setsCounter : Command → Bool
  | .resetCounter | .resetAllCounters | .restoreCounter => true
  | _ => false

/-- Without a command that sets it, the counter stays. -/
theorem foldl_onCounter_of_not {commands : List Command}
    (h : ∀ command ∈ commands, command.setsCounter = false) (counter : UInt32) :
    commands.foldl onCounter counter = counter := by
  induction commands with
  | nil => rfl
  | cons command rest ih =>
    have hstep : command.onCounter counter = counter := by
      have hnot := h command List.mem_cons_self
      cases command <;> first | rfl | cases hnot
    rw [List.foldl_cons, hstep]
    exact ih fun other hmem => h other (List.mem_cons_of_mem _ hmem)

end Command

/-! ### The tracker's half -/

namespace Tracker

/-- Replaying leaves everything but four marks for the turn. -/
theorem replay_frame (t : Tracker) (wish : Option String) :
    ∃ interruptionSettled promptKept eventPending repromptSent,
      (t.replay wish).2 =
        { t with interruptionSettled, promptKept, eventPending, repromptSent } := by
  rw [replay]
  split
  · exact ⟨t.interruptionSettled, t.promptKept, t.eventPending, t.repromptSent, rfl⟩
  · dsimp only
    split
    · exact ⟨true, true, t.eventPending, true, rfl⟩
    · exact ⟨true, true, true, true, rfl⟩

/-- Restoring leaves everything but the slot and the mark that it was done. -/
theorem restore_frame (t : Tracker) :
    ∃ slot restoreAsked, t.restore.2 = { t with slot, restoreAsked } := by
  rw [restore]
  split
  · exact ⟨t.slot, t.restoreAsked, rfl⟩
  · exact ⟨t.slot.toggled, true, rfl⟩

end Tracker

namespace Command

/-- No command touches what the tracker remembers from turn to turn, but for the slot; and where the
slot was at the start of the turn stays known. -/
theorem onTracker_frame (t : Tracker) (command : Command) :
    (command.onTracker t).queue = t.queue ∧ (command.onTracker t).lastPrompt = t.lastPrompt ∧
      (command.onTracker t).prevModule = t.prevModule ∧
      (command.onTracker t).storedTopic = t.storedTopic ∧
      (command.onTracker t).slotAtStart = t.slotAtStart := by
  cases command with
  | sendReprompt wish =>
    obtain ⟨_, _, _, _, hreplay⟩ := t.replay_frame wish
    rw [onTracker, hreplay]
    exact ⟨rfl, rfl, rfl, rfl, rfl⟩
  | restoreMarkup =>
    obtain ⟨_, _, hrestore⟩ := t.restore_frame
    rw [onTracker, hrestore]
    exact ⟨rfl, rfl, rfl, rfl, rfl⟩
  | _ => exact ⟨rfl, rfl, rfl, rfl, rfl⟩

theorem foldl_onTracker_frame (t : Tracker) (commands : List Command) :
    (commands.foldl onTracker t).queue = t.queue ∧
      (commands.foldl onTracker t).lastPrompt = t.lastPrompt ∧
      (commands.foldl onTracker t).prevModule = t.prevModule ∧
      (commands.foldl onTracker t).storedTopic = t.storedTopic ∧
      (commands.foldl onTracker t).slotAtStart = t.slotAtStart := by
  induction commands generalizing t with
  | nil => exact ⟨rfl, rfl, rfl, rfl, rfl⟩
  | cons command rest ih =>
    obtain ⟨hqueue, hprompt, hmodule, htopic, hslot⟩ := ih (command.onTracker t)
    obtain ⟨hqueue', hprompt', hmodule', htopic', hslot'⟩ := onTracker_frame t command
    exact ⟨hqueue.trans hqueue', hprompt.trans hprompt', hmodule.trans hmodule',
      htopic.trans htopic', hslot.trans hslot'⟩

/-- What a command has said before a reprompt. -/
def lead? : Command → Option String
  | .prependReprompt text => some text
  | _ => none

/-- What one command **asks** of the tracker for the end of the turn. -/
theorem onTracker_asked (t : Tracker) (command : Command) :
    (command.onTracker t).saveAsked = (t.saveAsked || decide (command = .saveMarkup)) ∧
      (command.onTracker t).overrideAsked =
        (t.overrideAsked || decide (command = .overrideWithReprompt)) ∧
      (command.onTracker t).lead = command.lead?.getD t.lead := by
  cases command with
  | sendReprompt wish =>
    obtain ⟨_, _, _, _, hreplay⟩ := t.replay_frame wish
    simp [onTracker, hreplay, lead?]
  | restoreMarkup =>
    obtain ⟨_, _, hrestore⟩ := t.restore_frame
    simp [onTracker, hrestore, lead?]
  | _ => simp [onTracker, Tracker.askSave, Tracker.askOverride, Tracker.setLead, lead?]

/-- What was asked once stays asked, and what is **said before a reprompt** is what the last command
for it has set. -/
theorem foldl_onTracker_asked (t : Tracker) (commands : List Command) :
    (commands.foldl onTracker t).saveAsked = (t.saveAsked || decide (.saveMarkup ∈ commands)) ∧
      (commands.foldl onTracker t).overrideAsked =
        (t.overrideAsked || decide (.overrideWithReprompt ∈ commands)) ∧
      (commands.foldl onTracker t).lead =
        (commands.filterMap lead?).getLast?.getD t.lead := by
  induction commands generalizing t with
  | nil => simp
  | cons command rest ih =>
    obtain ⟨hsave, hoverride, hlead⟩ := ih (command.onTracker t)
    obtain ⟨hsave', hoverride', hlead'⟩ := onTracker_asked t command
    rw [List.foldl_cons, hsave, hoverride, hlead, hsave', hoverride', hlead']
    refine ⟨by simp [eq_comm, Bool.or_assoc], by simp [eq_comm, Bool.or_assoc], ?_⟩
    cases htext : command.lead? with
    | none => rw [List.filterMap_cons_none htext, Option.getD_none]
    | some text =>
      rw [List.filterMap_cons_some htext, List.getLast?_cons, Option.getD_some, Option.getD_some]

/-- **Aborting** a turn takes the tracker back to where it was before it, whatever was asked of it
in between. -/
theorem start_abort_foldl (t : Tracker) (commands : List Command) :
    (commands.foldl onTracker t.start).abort.start = t.start := by
  obtain ⟨hqueue, hprompt, hmodule, htopic, hslot⟩ := foldl_onTracker_frame t.start commands
  rw [Tracker.start, Tracker.abort]
  simp only [hqueue, hprompt, hmodule, htopic, hslot]
  rfl

end Command

end Colloquy

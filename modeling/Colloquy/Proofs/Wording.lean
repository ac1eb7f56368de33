import Colloquy.Proofs.Agreement
import Colloquy.Proofs.Directives

/-!
# What is said, from end to end

What a turn says goes through three hands. The engine joins its lines to what was scripted, the
session adds the values of commands, and the tracker has the last word: it may let a reprompt stand
in, and puts a directive in front. Each hand sets pieces off in its own way, and the tracker decides
by what was asked in the turn, by where the conversation was, and by what has been kept.

This file says what comes of it all, in the words of the script, of the report, and of the session
before the turn:

| what | is | theorem |
|---|---|---|
| nothing (`NothingToSay`) | said where none of the three has anything | `output_answeredTurn_eq_none_iff` |
| what is put together (`composed`) | the scripted response, the lines, the values | `assembled_eq_composed` |
| what stands in (`standIn?`) | kept for the topic that the turn enters | `reprompt?_answeredDesk` |
| the directive | that of the module that the turn enters | `courseTaken_eq` |

So nothing that is produced in a turn is lost or changes its place (`response_of_turn`), but for two
things: what stands in takes the place of everything that was put together, and what is restored
where nothing was left no longer names the slot.
-/

namespace Colloquy

/-! ### What is asked of the tracker -/

namespace Command

/-- One command settles the interruption if it is to replay the prompt. -/
theorem interruptionSettled_onTracker {t : Tracker} (h : t.interruptionSettled = t.repromptSent)
    (command : Command) :
    (command.onTracker t).interruptionSettled =
        (t.interruptionSettled || command.wish?.isSome) ∧
      (command.onTracker t).interruptionSettled = (command.onTracker t).repromptSent := by
  cases command with
  | sendReprompt wish =>
    -- whether or not it is the first replay, it has been settled now
    have hsettled : (t.replay wish).2.interruptionSettled = true := by
      rw [Tracker.replay]
      split
      · rename_i hsent
        exact h.trans hsent
      · dsimp only
        split <;> rfl
    exact ⟨by simp [onTracker, hsettled, wish?], hsettled.trans (t.replay_eq wish).2.1.symm⟩
  | restoreMarkup =>
    obtain ⟨_, _, hrestore⟩ := t.restore_frame
    rw [onTracker, hrestore]
    exact ⟨by simp [wish?], h⟩
  | _ => exact ⟨by simp [onTracker, Tracker.setLead, Tracker.askOverride, Tracker.askSave, wish?], h⟩

/-- An interruption is no longer **looked for** exactly if the prompt was to be replayed. -/
theorem interruptionSettled_foldl {t : Tracker} (h : t.interruptionSettled = t.repromptSent)
    (commands : List Command) :
    (commands.foldl onTracker t).interruptionSettled =
      (t.interruptionSettled || commands.any (·.wish?.isSome)) := by
  induction commands generalizing t with
  | nil => simp
  | cons command rest ih =>
    obtain ⟨hsettled, hsent⟩ := interruptionSettled_onTracker h command
    rw [List.foldl_cons, ih hsent, hsettled, List.any_cons, Bool.or_assoc]

end Command

namespace Tracker

variable (settings : TrackerSettings) (t : Tracker) (turn : Turn) (output : Output)

/-- **What stands in**, told from the tracker before the turn is finished. -/
theorem reprompt?_eq {topic : String}
    (h : t.topicAfter (t.modulesOf settings output).1 output.topics = topic) :
    t.reprompt? settings turn output =
      if t.overrideAsked ∧ t.interruptionSettled = false ∧ topic ≠ "" then
        (if settings.isBase topic then {}
          else if interrupts settings turn.input then t.recordPrompt.queue else t.queue).find? topic
      else none := by
  have htopic : (t.located settings turn output).storedTopic = topic := storedTopic_located.trans h
  have hasked : (t.located settings turn output).overrideAsked =
      (t.settleInterruption settings turn.input).overrideAsked := by
    rw [located, locate_eq]
  rw [reprompt?, queue_located, htopic, hasked, settleInterruption]
  cases hsettled : t.interruptionSettled with
  | true => simp
  | false =>
    have hrecord : t.recordPrompt.overrideAsked = t.overrideAsked := by
      rw [recordPrompt]
      split
      · split <;> rfl
      · rfl
    by_cases hcut : interrupts settings turn.input = true <;> simp [hcut, hrecord]

end Tracker

/-! ### What is asked in a turn -/

namespace TurnScript

variable (script : TurnScript)

/-- The markup is **saved** in a turn of this script. -/
def Saves : Prop := .saveMarkup ∈ accepted script.commands

instance : Decidable script.Saves := inferInstanceAs (Decidable (_ ∈ _))

/-- The prompt is **replayed** in a turn of this script. -/
def Replays : Prop := ∃ command ∈ accepted script.commands, command.wish?.isSome = true

instance : Decidable script.Replays := inferInstanceAs (Decidable (∃ command ∈ _, _))

/-- A reprompt is to **stand in** in a turn of this script. -/
def Overrides : Prop := .overrideWithReprompt ∈ accepted script.commands

instance : Decidable script.Overrides := inferInstanceAs (Decidable (_ ∈ _))

/-- What is to be said **before** a reprompt. -/
def lead : String := ((accepted script.commands).filterMap Command.lead?).getLast?.getD ""

/-- The **key** of the module that the script answers in. -/
def moduleKey : String := Topic.moduleKey (script.output.elim "" Output.module)

/-- The **topics** of what the script answers. -/
def topics : List String := script.output.elim [] Output.topics

end TurnScript

/-- The value of a call that is **said** in the turn: that of a replay or a restoring which has done
what it was called for, if it is not empty. -/
def CommandCall.said? (call : CommandCall) (outcome : CommandOutcome) : Option String :=
  call.command?.bind fun command =>
    if command.isSpoken ∧ outcome.status = .ok ∧ outcome.value ≠ "" then some outcome.value else none

/-! ### The output of a turn -/

/-- There is nothing to make an output of where nothing was scripted and the engine has neither a
line nor a kind. -/
theorem Engine.applyTo_eq_none_iff (engine : Engine) (scripted : Option Output) :
    engine.applyTo scripted = none ↔
      scripted = none ∧ engine.lines = [] ∧ engine.kind? = none := by
  rw [applyTo]
  simp only [Option.isNone_iff_eq_none]
  split
  · rename_i hnothing
    exact ⟨fun _ => hnothing, fun _ => rfl⟩
  · rename_i hsomething
    exact ⟨fun h => absurd h (Option.some_ne_none _), fun h => absurd h hsomething⟩

/-- The engine leaves an output in its module. -/
theorem Engine.module_applyTo (engine : Engine) (scripted : Option Output) :
    (engine.applyTo scripted).elim "" Output.module = scripted.elim "" Output.module ∧
      (engine.applyTo scripted).elim [] Output.topics = scripted.elim [] Output.topics := by
  rw [applyTo]
  split
  · rename_i hnothing
    rw [Option.isNone_iff_eq_none.mp hnothing.1]
    exact ⟨rfl, rfl⟩
  · cases scripted <;> exact ⟨rfl, rfl⟩

namespace Session

theorem withSpoken_eq_none_iff (output : Option Output) (spoken : List String) :
    withSpoken output spoken = none ↔ output = none ∧ spoken = [] := by
  rw [withSpoken]
  split
  · rename_i hnothing
    simp [hnothing]
  · rename_i hsomething
    simp [hsomething]

theorem module_withSpoken (output : Option Output) (spoken : List String) :
    (withSpoken output spoken).elim "" Output.module = output.elim "" Output.module ∧
      (withSpoken output spoken).elim [] Output.topics = output.elim [] Output.topics := by
  rw [withSpoken]
  split
  · exact ⟨rfl, rfl⟩
  · cases output <;> exact ⟨rfl, rfl⟩

end Session

/-- What is said of calls can be **read off** their outcomes. -/
theorem spoken_eq_filterMap_said? (settings : ArbiterSettings) (desk : Desk)
    (calls : List CommandCall) :
    (Session.answerAll settings desk calls).2.1 =
      (calls.zip (Session.answerAll settings desk calls).1).filterMap fun reply =>
        reply.1.said? reply.2 := by
  induction calls generalizing desk with
  | nil => rfl
  | cons call rest ih =>
    rw [answerAll_cons]
    dsimp only
    rw [List.zip_cons_cons, List.filterMap_cons, ih]
    cases h : call.command? with
    | none =>
      obtain ⟨refusal, hanswer⟩ := Desk.answer_of_rejected settings h
      simp [hanswer, CommandCall.said?, h]
    | some command =>
      simp only [desk.answer_of_accepted settings h, CommandCall.said?, h, Option.bind_some,
        Bool.and_eq_true, decide_eq_true_eq, and_assoc]
      split <;> rfl

namespace Session

variable (setup : Setup) (s : Session) (script : TurnScript)

/-! ### What is put together -/

/-- The **lines** that the engine was made to say. -/
def linesSaid : List String := (s.answeredDesk setup script).engine.lines

/-- The **values** of commands that are said in the turn, as the report of the turn has them. -/
def valuesSaid : List String :=
  (script.commands.zip (s.runTurn setup script).1.commands).filterMap fun reply =>
    reply.1.said? reply.2

/-- What is **put together** in a turn: what was scripted; each line, behind a space if anything is
there before it; and each value, behind a space if anything is there before it and it carries
speech. -/
def composed : String :=
  (s.valuesSaid setup script).foldl
    (fun text value =>
      if text ≠ "" ∧ ¬ Markup.isSpeechless value then text ++ " " ++ value else text ++ value)
    ((s.linesSaid setup script).foldl
      (fun text line => if text ≠ "" then text ++ " " ++ line else text ++ line)
      (script.output.elim "" Output.response))

theorem spoken_eq_valuesSaid : s.spoken setup script = s.valuesSaid setup script :=
  spoken_eq_filterMap_said? setup.settings.arbiter (s.openedDesk setup script) script.commands

theorem assembled_eq_composed : s.assembled setup script = s.composed setup script := by
  have hjoin : Engine.joinSpeech =
      fun text line => if text ≠ "" then text ++ " " ++ line else text ++ line := by
    funext text line
    rw [Engine.joinSpeech]
    by_cases hempty : text = "" <;> simp [hempty]
  rw [assembled, composed, spoken_eq_valuesSaid, hjoin]
  rfl

/-- There is **nothing to say** in a turn for which nothing was scripted, no line and no value is
said, and the engine has not been told what the output counts as. -/
def NothingToSay : Prop :=
  script.output = none ∧ s.linesSaid setup script = [] ∧
    (s.answeredDesk setup script).engine.kind? = none ∧ s.valuesSaid setup script = []

theorem output_answeredTurn_eq_none_iff :
    (s.answeredTurn setup script).output = none ↔ s.NothingToSay setup script := by
  rw [answeredTurn, withSpoken_eq_none_iff, Engine.applyTo_eq_none_iff, spoken_eq_valuesSaid,
    NothingToSay, linesSaid]
  simp only [and_assoc]

/-- The output of a turn is in the module that was scripted, by way of the topics that were. -/
theorem module_answeredTurn {output : Output}
    (h : (s.answeredTurn setup script).output = some output) :
    Topic.moduleKey output.module = script.moduleKey ∧ output.topics = script.topics := by
  have hspoken := module_withSpoken ((s.answeredDesk setup script).engine.applyTo script.output)
    (s.spoken setup script)
  have hengine := (s.answeredDesk setup script).engine.module_applyTo script.output
  have houtput : withSpoken ((s.answeredDesk setup script).engine.applyTo script.output)
      (s.spoken setup script) = some output := h
  rw [houtput] at hspoken
  exact ⟨congrArg Topic.moduleKey (hspoken.1.trans hengine.1), hspoken.2.trans hengine.2⟩

/-! ### What stands in -/

/-- The **module** that the turn enters. -/
def entered : String :=
  if script.Saves then Tracker.stateChangeModule
  else if setup.settings.tracker.isTangent script.moduleKey ∧ s.tracker.prevModule ≠ "" ∧
      s.tracker.prevModule ≠ Tracker.stateChangeModule then s.tracker.prevModule
  else script.moduleKey

/-- The **topic** that the turn enters. -/
def topicEntered : String :=
  if script.Saves then
    (Topic.resolve Tracker.stateChangeModule script.topics).elim Tracker.stateChangeTopic Text.lower
  else (Topic.resolve script.moduleKey script.topics).elim s.tracker.storedTopic Text.lower

/-- What is **kept** when the turn has entered its topic: what was kept before, with the prompt that
the input cuts off; and nothing in a base topic. -/
def keptThen : RepromptQueue :=
  if setup.settings.tracker.isBase (s.topicEntered script) then {}
  else if Tracker.interrupts setup.settings.tracker script.input then s.tracker.recordPrompt.queue
  else s.tracker.queue

/-- What **stands in** for what was put together, if anything does: what is kept for the topic. -/
def standIn? : Option Reprompt :=
  if script.Overrides ∧ ¬ script.Replays ∧ s.topicEntered script ≠ "" then
    (s.keptThen setup script).find? (s.topicEntered script)
  else none

variable {setup s script}

/-- What has been asked of the tracker when the commands of a turn have been answered. -/
theorem asked_answeredDesk :
    (s.answeredDesk setup script).tracker.saveAsked = decide script.Saves ∧
      (s.answeredDesk setup script).tracker.overrideAsked = decide script.Overrides ∧
      (s.answeredDesk setup script).tracker.interruptionSettled = decide script.Replays ∧
      (s.answeredDesk setup script).tracker.lead = script.lead := by
  refine ⟨saveAsked_answeredDesk, ?_⟩
  obtain ⟨-, hoverride, hlead⟩ :=
    Command.foldl_onTracker_asked s.tracker.start (accepted script.commands)
  rw [tracker_answeredDesk, hoverride, hlead, Command.interruptionSettled_foldl rfl]
  refine ⟨Bool.false_or _, ?_, rfl⟩
  rw [Bool.eq_iff_iff, decide_eq_true_iff, TurnScript.Replays]
  simp [Tracker.start]

/-- The modules that the tracker finds for the output of a turn are the one that was scripted, and
the one that the turn enters. -/
theorem modulesOf_answeredDesk {output : Output}
    (houtput : (s.answeredTurn setup script).output = some output) :
    (s.answeredDesk setup script).tracker.modulesOf setup.settings.tracker output =
      (if script.Saves then Tracker.stateChangeModule else script.moduleKey,
        s.entered setup script) := by
  rw [Tracker.modulesOf, entered, asked_answeredDesk.1, (frame_answeredDesk setup s script).2,
    (module_answeredTurn setup s script houtput).1]
  by_cases hsave : script.Saves <;> simp [hsave, and_assoc]

theorem topicAfter_answeredDesk {output : Output}
    (houtput : (s.answeredTurn setup script).output = some output) :
    let t := (s.answeredDesk setup script).tracker
    t.topicAfter (t.modulesOf setup.settings.tracker output).1 output.topics =
      s.topicEntered script := by
  intro t
  rw [modulesOf_answeredDesk houtput, Tracker.topicAfter, topicEntered,
    (module_answeredTurn setup s script houtput).2, (frame_answeredDesk setup s script).1,
    asked_answeredDesk.1]
  by_cases hsave : script.Saves <;> simp [hsave]

/-- What is recorded depends on the last prompt and on what is kept already. -/
theorem queue_recordPrompt_congr {t t' : Tracker} (hprompt : t.lastPrompt = t'.lastPrompt)
    (hqueue : t.queue = t'.queue) : t.recordPrompt.queue = t'.recordPrompt.queue := by
  rw [Tracker.recordPrompt, Tracker.recordPrompt, ← hprompt]
  cases t.lastPrompt with
  | none => exact hqueue
  | some prompt =>
    dsimp only
    split
    · rw [hqueue]
    · exact hqueue

theorem reprompt?_answeredDesk {output : Output}
    (houtput : (s.answeredTurn setup script).output = some output) :
    (s.answeredDesk setup script).tracker.reprompt? setup.settings.tracker
        (s.answeredTurn setup script) output = s.standIn? setup script := by
  obtain ⟨-, hoverride, hreplay, -⟩ : _ ∧ _ ∧ _ ∧ (s.answeredDesk setup script).tracker.lead = _ :=
    asked_answeredDesk
  obtain ⟨hqueue, hprompt⟩ := s.remembered_answeredDesk setup script
  rw [Tracker.reprompt?_eq _ _ _ _ (topicAfter_answeredDesk houtput), standIn?, keptThen,
    interrupts_answeredTurn, hoverride, hreplay, queue_recordPrompt_congr hprompt hqueue, hqueue]
  simp only [decide_eq_true_eq, decide_eq_false_iff_not]

variable (setup s script)

/-- The **wording** of a turn: what stands in, behind what is to be said before it, or else what was
put together. -/
def wording : String :=
  match s.standIn? setup script with
  | some entry => if script.lead = "" then entry.text else script.lead ++ " " ++ entry.text
  | none => s.composed setup script

/-! ### Which directive is put in front -/

/-- A turn **comes back** to where it began: the markup is restored and the module is the same. -/
def ComesBack : Prop := script.Restores ∧ s.entered setup script = s.tracker.prevModule

/-- A turn **leaves** the module it began in, and not by restoring. Nothing is left where there was
no module yet or only the state change, or for a module that is only visited. -/
def Leaves : Prop :=
  ¬ script.Restores ∧ s.tracker.prevModule ≠ "" ∧
    s.tracker.prevModule ≠ Tracker.stateChangeModule ∧
    s.entered setup script ≠ s.tracker.prevModule ∧
    setup.settings.tracker.isTangent (s.entered setup script) = false

instance : Decidable (s.ComesBack setup script) := inferInstanceAs (Decidable (_ ∧ _))

instance : Decidable (s.Leaves setup script) := inferInstanceAs (Decidable (_ ∧ _))

variable {setup s script}

theorem courseTaken_eq (hremote : script.remote = false) {output : Output}
    (houtput : (s.answeredTurn setup script).output = some output) :
    s.courseTaken setup script output =
      if s.ComesBack setup script then .collapsed
      else if s.Leaves setup script then .saved else .plain := by
  rw [courseTaken, hremote, if_neg Bool.false_ne_true, Tracker.course,
    modulesOf_answeredDesk houtput, Tracker.courseInto, restoreAsked_answeredDesk,
    (frame_answeredDesk setup s script).2]
  by_cases hsame : s.tracker.prevModule = s.entered setup script
  · have hstays : ¬ s.Leaves setup script := fun h => h.2.2.2.1 hsame.symm
    by_cases hrestores : script.Restores <;> simp [ComesBack, ← hsame, hrestores, hstays]
  · have hleaves : s.Leaves setup script ↔ ¬ (s.tracker.prevModule = "" ∨
        decide script.Restores = true ∨ s.tracker.prevModule = Tracker.stateChangeModule ∨
        setup.settings.tracker.isTangent (s.entered setup script) = true) := by
      simp only [Leaves, ne_eq, Ne.symm hsame, not_false_eq_true, true_and, not_or,
        decide_eq_true_eq, Bool.not_eq_true]
      exact and_left_comm
    rw [if_neg hsame, if_neg fun hback : s.ComesBack setup script => hsame hback.2.symm]
    simp only [hleaves, ite_not]

/-- **What is said** in a turn with an output. -/
theorem response_of_output (habort : script.abort = false) {output : Output}
    (houtput : (s.answeredTurn setup script).output = some output) :
    (s.runTurn setup script).1.response = some (
      if script.remote then s.composed setup script
      else if s.ComesBack setup script then
        Markup.save none ++
          Text.replaceAll (Markup.restore s.tracker.slot) (Markup.restore none)
            (s.wording setup script)
      else if s.Leaves setup script then
        Markup.save s.tracker.slot.toggled ++ s.wording setup script
      else s.wording setup script) := by
  have hcomposed : output.response = s.composed setup script := by
    rw [(s.output_answeredTurn setup script).1 output houtput, assembled_eq_composed]
  rw [(runTurn_of_some habort houtput).1]
  cases hremote : script.remote with
  | true => simp [courseTaken, bodySaid, reprompted?, hremote, Tracker.Course.said, hcomposed]
  | false =>
    have hbody : s.bodySaid setup script output = s.wording setup script := by
      rw [bodySaid, reprompted?, hremote, if_neg Bool.false_ne_true, houtput, Option.bind_some,
        reprompt?_answeredDesk houtput, wording, hcomposed]
      cases s.standIn? setup script with
      | none => rfl
      | some entry =>
        dsimp only [Option.elim_some, Tracker.repromptText]
        rw [asked_answeredDesk.2.2.2]
    rw [hbody, courseTaken_eq hremote houtput, slot_answeredDesk, if_neg Bool.false_ne_true]
    by_cases hback : s.ComesBack setup script
    · rw [if_pos hback, if_pos hback, if_pos hback.1]
      simp [Tracker.Course.said, Tracker.Course.prompt]
    · rw [if_neg hback, if_neg hback]
      by_cases hleaves : s.Leaves setup script
      · rw [if_pos hleaves, if_pos hleaves, if_neg hleaves.1]
        rfl
      · rw [if_neg hleaves, if_neg hleaves]
        rfl

/-- **What a turn says**, from end to end. There is a response exactly if there is anything to say.
What the remote engine answers is said as it has been put together. What is answered here is said in
its wording, behind the directive that saves without a slot if the turn comes back to where it began,
and then what it restores names no slot either; or behind the directive that saves in the other slot
if the turn leaves its module. -/
theorem response_of_turn (habort : script.abort = false) :
    ((s.runTurn setup script).1.response = none ↔ s.NothingToSay setup script) ∧
      (¬ s.NothingToSay setup script →
        (s.runTurn setup script).1.response = some (
          if script.remote then s.composed setup script
          else if s.ComesBack setup script then
            Markup.save none ++
              Text.replaceAll (Markup.restore s.tracker.slot) (Markup.restore none)
                (s.wording setup script)
          else if s.Leaves setup script then
            Markup.save s.tracker.slot.toggled ++ s.wording setup script
          else s.wording setup script)) := by
  rw [← output_answeredTurn_eq_none_iff]
  cases houtput : (s.answeredTurn setup script).output with
  | none => exact ⟨iff_of_true (runTurn_of_none habort houtput).1 rfl, fun h => absurd rfl h⟩
  | some output =>
    have hresponse := response_of_output habort houtput
    exact ⟨by rw [hresponse]; simp, fun _ => hresponse⟩

/-- A question has been asked. -/
def asked : Session := (new.runTurn {} (telling (.speech "hi") "What color?" "root" "~root_ask")).2

/-- It is asked again, as the answer was not understood, and the markup is restored. -/
def again : TurnScript :=
  (((telling (.speech "blue-ish") "Hm." "root" "~root_ask").withCommand Command.handleFallback.call
    ).withCommand (Command.sendReprompt none).call).withCommand Command.restoreMarkup.call

/-- The conversation comes back to where it was cut off, and what was cut off is to stand in. -/
def backAgain : TurnScript :=
  ((telling (.speech "back") "Right." "root" "~root_ask").withCommand
    (Command.prependReprompt "So.").call).withCommand Command.overrideWithReprompt.call

/-- All three hands at once: what was scripted, a line of the engine and two values, of which one is
a directive and no longer names the slot. And what stands in for a response, behind the directive of
a turn that leaves its module. -/
theorem response_of_turn_again :
    (asked.runTurn {} again).1.response = some (Markup.save none ++
        "Hm. Sorry, could you say that again? What color?" ++ Markup.restore none) ∧
      (interrupted.runTurn {} backAgain).1.response = some (Markup.save (some .zero) ++
        "So. What color?") := by
  have hagain : again.abort = false := rfl
  have hbackAgain : backAgain.abort = false := rfl
  constructor
  · refine ((response_of_turn hagain).2 fun hnothing => ?_).trans (by decide +kernel)
    exact absurd hnothing.1 (by decide)
  · refine ((response_of_turn hbackAgain).2 fun hnothing => ?_).trans (by decide +kernel)
    exact absurd hnothing.1 (by decide)

end Session

end Colloquy

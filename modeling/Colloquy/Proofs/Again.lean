import Colloquy.Proofs.Order
import Colloquy.Proofs.Wording

/-!
# A command that comes again

The tracker is told each thing once in a turn. Of four of its commands it keeps a mark that they
have come, and one that comes again finds the mark and does nothing. Of the fifth, which says what
is to come before a reprompt, it keeps no mark: what it sets is set anew each time.

So what comes again is **ignored** (`Session.Ignores`) unless it sets what comes before a reprompt,
and nothing sets that later in the turn, and a reprompt does stand in for the response, and its
wording does become another (`Session.ignores_iff`). Even then nothing differs but the response:
what comes before a reprompt never reaches the last prompt, since the last prompt stands in such a
turn, and the next turn begins without it.
-/

namespace Colloquy

/-! ### What the tracker has been told -/

namespace Tracker

/-- A command **has come** in this turn, as far as the tracker keeps a mark of that. -/
def Marked (t : Tracker) : Command → Prop
  | .overrideWithReprompt => t.overrideAsked = true
  | .sendReprompt _ => t.repromptSent = true
  | .saveMarkup => t.saveAsked = true
  | .restoreMarkup => t.restoreAsked = true
  | _ => True

/-! ### What is said before a reprompt is not looked at -/

variable (t : Tracker) (lead : String)

theorem replay_setLead (wish : Option String) :
    (t.setLead lead).replay wish = ((t.replay wish).1, (t.replay wish).2.setLead lead) := by
  dsimp only [replay, replayable?, setLead]
  split
  · rfl
  · split <;> rfl

theorem restore_setLead :
    (t.setLead lead).restore = (t.restore.1, t.restore.2.setLead lead) := by
  dsimp only [restore, setLead]
  split <;> rfl

end Tracker

namespace Command

/-- A prompt that has been replayed is the mark that the interruption has been settled. -/
theorem repromptSent_foldl {t : Tracker} (h : t.interruptionSettled = t.repromptSent)
    (commands : List Command) :
    (commands.foldl onTracker t).repromptSent =
      (t.interruptionSettled || commands.any (·.wish?.isSome)) := by
  have hsettled := interruptionSettled_foldl h commands
  suffices (commands.foldl onTracker t).interruptionSettled =
      (commands.foldl onTracker t).repromptSent by rw [← this, hsettled]
  clear hsettled
  induction commands generalizing t with
  | nil => exact h
  | cons command rest ih => exact ih (interruptionSettled_onTracker h command).2

/-- Once a command **has come**, its mark is there. -/
theorem marked_foldl (t : Tracker) {commands : List Command} {command : Command}
    (h : ∃ other ∈ commands, other.name = command.name) :
    (commands.foldl onTracker t.start).Marked command := by
  obtain ⟨other, hother, hname⟩ := h
  obtain ⟨hsave, hoverride, -⟩ := foldl_onTracker_asked t.start commands
  cases command with
  | overrideWithReprompt =>
    have hsame : other = .overrideWithReprompt := by cases other <;> simp [name] at hname ⊢
    simp [Tracker.Marked, hoverride, ← hsame, hother]
  | saveMarkup =>
    have hsame : other = .saveMarkup := by cases other <;> simp [name] at hname ⊢
    simp [Tracker.Marked, hsave, ← hsame, hother]
  | restoreMarkup =>
    have hsame : other = .restoreMarkup := by cases other <;> simp [name] at hname ⊢
    simp [Tracker.Marked, (foldl_onTracker_slot _ _).1, ← hsame, hother]
  | sendReprompt =>
    have hreplays : other.wish?.isSome = true := by cases other <;> simp [name, wish?] at hname ⊢
    rw [Tracker.Marked, repromptSent_foldl rfl, Bool.or_eq_true, List.any_eq_true]
    exact Or.inr ⟨other, hother, hreplays⟩
  | _ => trivial

/-- A command whose mark is there sets what comes before a reprompt, and else nothing. -/
theorem onTracker_of_marked {t : Tracker} {command : Command} (h : t.Marked command) :
    command.onTracker t = t.setLead (command.lead?.getD t.lead) := by
  obtain ⟨queue, lastPrompt, prevModule, storedTopic, slot, slotAtStart, lead, saveAsked,
    restoreAsked, overrideAsked, interruptionSettled, promptKept, eventPending, repromptSent⟩ := t
  cases command with
  | overrideWithReprompt | sendReprompt | saveMarkup | restoreMarkup =>
    dsimp only [Tracker.Marked] at h
    subst h
    rfl
  | _ => rfl

/-- **No command looks** at what comes before a reprompt. -/
theorem onTracker_setLead (t : Tracker) (lead : String) (command : Command) :
    ∃ after, command.onTracker (t.setLead lead) = (command.onTracker t).setLead after := by
  cases command with
  | prependReprompt text => exact ⟨text, rfl⟩
  | sendReprompt wish => exact ⟨lead, by rw [onTracker, t.replay_setLead, onTracker]⟩
  | restoreMarkup => exact ⟨lead, by rw [onTracker, t.restore_setLead, onTracker]⟩
  | _ => exact ⟨lead, rfl⟩

end Command

namespace Tracker

variable (settings : TrackerSettings) (t : Tracker) (lead : String) (turn : Turn) (output : Output)

/-! ### Finishing a turn -/

theorem recordPrompt_setLead : (t.setLead lead).recordPrompt = t.recordPrompt.setLead lead := by
  dsimp only [recordPrompt, setLead]
  split
  · split <;> rfl
  · rfl

theorem settleInterruption_setLead (input : Input) :
    (t.setLead lead).settleInterruption settings input =
      (t.settleInterruption settings input).setLead lead := by
  rw [settleInterruption, settleInterruption, recordPrompt_setLead, apply_ite (setLead · lead),
    apply_ite (setLead · lead)]
  rfl

theorem located_setLead :
    (t.setLead lead).located settings turn output =
      (t.located settings turn output).setLead lead := by
  rw [located, located, settleInterruption_setLead, locate_eq, locate_eq]
  rfl

theorem reprompt?_setLead :
    (t.setLead lead).reprompt? settings turn output = t.reprompt? settings turn output := by
  rw [reprompt?, reprompt?, located_setLead]
  rfl

/-- A reprompt in place of the response is dropped with all that is kept for the module, and then
the last prompt **is to stand**. -/
theorem overridden_snd (module response : String) :
    (t.overridden module response).2 =
      if t.overrideAsked ∧ t.storedTopic ≠ "" ∧ ¬ t.queue.isEmpty then
        { t with
          queue := if module ≠ "" then t.queue.clearModule module else t.queue
          promptKept := (t.queue.find? t.storedTopic).isSome || t.promptKept }
      else t := by
  rw [overridden]
  split
  · cases t.queue.find? t.storedTopic <;> dsimp only <;> split <;> rfl
  · rfl

theorem bodied_setLead :
    (t.setLead lead).bodied settings turn output =
      (t.bodied settings turn output).setLead lead := by
  rw [bodied, bodied, located_setLead, overridden_snd, overridden_snd, apply_ite (setLead · lead)]
  rfl

theorem promptKept_bodied {entry : Reprompt} (h : t.reprompt? settings turn output = some entry) :
    (t.bodied settings turn output).promptKept = true := by
  rw [reprompt?] at h
  split at h
  · rename_i hasked
    have hkept : ¬ (t.located settings turn output).queue.isEmpty := by
      rw [RepromptQueue.isEmpty, List.isEmpty_iff]
      exact List.ne_nil_of_mem (List.mem_of_find?_eq_some h)
    rw [bodied, overridden_snd, h, if_pos ⟨hasked.1, hasked.2, hkept⟩]
    rfl
  · cases h

theorem cachePrompt_setLead (text topicBefore : String) (source : PromptSource) :
    (t.setLead lead).cachePrompt text topicBefore source =
      (t.cachePrompt text topicBefore source).setLead lead := by
  dsimp only [cachePrompt, setPrompt, setLead]
  split
  · rfl
  · split <;> rfl

theorem cached_setLead (prompt topicBefore : String) :
    (t.setLead lead).cached prompt topicBefore = (t.cached prompt topicBefore).setLead lead := by
  rw [cached, cached, cachePrompt_setLead, apply_ite (setLead · lead)]
  rfl

theorem finishRemote_setLead :
    (t.setLead lead).finishRemote settings turn = (t.finishRemote settings turn).setLead lead := by
  rw [finishRemote, finishRemote, cachePrompt_setLead, apply_ite (setLead · lead)]
  rfl

theorem ended_setLead :
    (t.setLead lead).ended settings turn output = (t.ended settings turn output).setLead lead := by
  rw [ended, bodied_setLead]
  rfl

/-- What is said before a reprompt does not outlast the turn in anything else: where a reprompt
stands in, the last prompt is to stand. -/
theorem finish_setLead :
    ((t.setLead lead).finish settings turn).1 = (t.finish settings turn).1.setLead lead := by
  cases houtput : turn.output with
  | none =>
    rw [finish_of_none _ _ houtput, finish_of_none _ _ houtput, settleInterruption_setLead]
  | some output =>
    rw [finish_of_some _ _ houtput, finish_of_some _ _ houtput, ended_setLead, cached_setLead]
    cases hentry : t.reprompt? settings turn output with
    | none =>
      have hbody : (t.setLead lead).body settings turn output = t.body settings turn output := by
        rw [body, body, reprompt?_setLead, hentry]
        rfl
      rw [hbody]
      rfl
    | some entry =>
      have hkept : (t.ended settings turn output).promptKept = true :=
        t.promptKept_bodied settings turn output hentry
      rw [cached, cached, if_pos hkept, if_pos hkept]

end Tracker

namespace Desk

variable {settings : ArbiterSettings}

/-- The desk with something else to be said **before a reprompt**. -/
def setLead (desk : Desk) (lead : String) : Desk :=
  { desk with tracker := desk.tracker.setLead lead }

/-- **No command is replied to otherwise** if something else is to be said before a reprompt. -/
theorem reply_setLead (desk : Desk) (lead : String) (command : Command) :
    (desk.setLead lead).reply settings command = desk.reply settings command := by
  cases command with
  | sendReprompt wish => rw [reply, setLead, desk.tracker.replay_setLead, reply]
  | restoreMarkup => rw [reply, setLead, desk.tracker.restore_setLead, reply]
  | _ => rfl

/-- A command to the tracker that comes **again** is answered as if all was well, and sets what is
said before a reprompt at most. -/
theorem answer_of_marked {desk : Desk} {call : CommandCall} {command : Command}
    (hcall : call.command? = some command) (htracker : command.isToTracker = true)
    (hmarked : desk.tracker.Marked command) :
    desk.answer settings call = (⟨command.name, .ok, ""⟩, none,
      desk.setLead (command.lead?.getD desk.tracker.lead)) := by
  have hreply : desk.reply settings command = .ok "" := by
    cases command with
    | sendReprompt wish =>
      exact congrArg Except.ok ((desk.tracker.replay_eq wish).1.trans (if_pos hmarked))
    | restoreMarkup => exact congrArg Except.ok (desk.tracker.restore_eq.1.trans (if_pos hmarked))
    | prependReprompt | overrideWithReprompt | saveMarkup => rfl
    | _ => cases htracker
  have hobey : desk.obey settings command =
      desk.setLead (command.lead?.getD desk.tracker.lead) := by
    rw [obey, Command.onTracker_of_marked hmarked, setLead]
    cases command <;> first | rfl | cases htracker
  rw [answer_of_accepted settings _ hcall, hreply, hobey]
  simp [CommandOutcome.of]

end Desk

/-! ### All calls of a turn -/

variable (settings : ArbiterSettings)

theorem answerAll_setLead (desk : Desk) (lead : String) (calls : List CommandCall) :
    ∃ after, Session.answerAll settings (desk.setLead lead) calls =
      ((Session.answerAll settings desk calls).1, (Session.answerAll settings desk calls).2.1,
        (Session.answerAll settings desk calls).2.2.setLead after) := by
  obtain ⟨houtcomes, hspoken, after, hdesk⟩ := answerAll_congr settings
    (fun desk desk' => ∃ lead, desk' = desk.setLead lead) calls
    (fun command _ desk _ ⟨lead, hlead⟩ => by
      obtain ⟨after, htracker⟩ := command.onTracker_setLead desk.tracker lead
      subst hlead
      refine ⟨desk.reply_setLead lead command, after, ?_⟩
      rw [Desk.obey, Desk.setLead, htracker]
      rfl)
    ⟨lead, rfl⟩
  exact ⟨after, Prod.ext houtcomes (Prod.ext hspoken hdesk)⟩

/-- **A call that comes again** among those of a turn. -/
theorem answerAll_again {desk : Desk} {t : Tracker} (hdesk : desk.tracker = t.start)
    {before : List CommandCall} {call : CommandCall} {command : Command}
    (hcall : call.command? = some command) (htracker : command.isToTracker = true)
    (hcame : ∃ other ∈ accepted before, other.name = command.name) (rest : List CommandCall) :
    ∃ first others after, first.length = before.length ∧
      (Session.answerAll settings desk (before ++ rest)).1 = first ++ others ∧
      Session.answerAll settings desk (before ++ call :: rest) =
        (first ++ ⟨command.name, .ok, ""⟩ :: others,
          (Session.answerAll settings desk (before ++ rest)).2.1,
          (Session.answerAll settings desk (before ++ rest)).2.2.setLead after) := by
  have hmarked : (Session.answerAll settings desk before).2.2.tracker.Marked command := by
    rw [answerAll_eq, hdesk]
    exact Command.marked_foldl t hcame
  obtain ⟨after, hrest⟩ := answerAll_setLead settings (Session.answerAll settings desk before).2.2
    (command.lead?.getD (Session.answerAll settings desk before).2.2.tracker.lead) rest
  refine ⟨(Session.answerAll settings desk before).1, _, after,
    length_answerAll settings desk before,
    congrArg Prod.fst (answerAll_append settings desk before rest), ?_⟩
  simp only [answerAll_append, answerAll_cons, Desk.answer_of_marked hcall htracker hmarked, hrest]
  rfl

/-! ### A turn -/

/-- What is said when a reprompt stands in **behind** this. -/
def Reprompt.behind (entry : Reprompt) (lead : String) : String :=
  if lead = "" then entry.text else lead ++ " " ++ entry.text

/-- What comes before a reprompt is what was set **last**. -/
theorem TurnScript.lead_again (script : TurnScript) (before : List CommandCall) {call : CommandCall}
    {command : Command} (hcall : call.command? = some command) (rest : List CommandCall) :
    (script.calling (before ++ call :: rest)).lead =
      if (accepted rest).filterMap Command.lead? = [] then
        command.lead?.getD (script.calling (before ++ rest)).lead
      else (script.calling (before ++ rest)).lead := by
  have hlead (calls : List CommandCall) :
      (script.calling calls).lead =
        ((accepted calls).filterMap Command.lead?).getLast?.getD "" := rfl
  have hsplit (calls others : List CommandCall) :
      (accepted (calls ++ others)).filterMap Command.lead? =
        (accepted calls).filterMap Command.lead? ++ (accepted others).filterMap Command.lead? := by
    rw [accepted, List.filterMap_append, List.filterMap_append]
    rfl
  have hcons : accepted (call :: rest) = command :: accepted rest := List.filterMap_cons_some hcall
  rw [hlead, hlead, hsplit, hsplit, hcons, List.getLast?_append, List.getLast?_append]
  cases hlater : (accepted rest).filterMap Command.lead? with
  | nil => cases htext : command.lead? <;> simp [htext, hlater]
  | cons later others => cases htext : command.lead? <;> simp [htext, hlater]

namespace Tracker.Course

/-- What is said is told apart by the prompt it leaves. -/
theorem said_inj (course : Course) (slot : Slot) (body other : String) :
    course.said slot body = course.said slot other ↔
      course.prompt slot body = course.prompt slot other := by
  cases course with
  | collapsed => exact String.append_right_inj _
  | plain => rfl
  | saved => exact String.append_right_inj _

end Tracker.Course

namespace Session

variable (setup : Setup) (s : Session) (script : TurnScript)

/-- The session with something else to be said **before a reprompt**. -/
def setLead (s : Session) (lead : String) : Session :=
  { s with tracker := s.tracker.setLead lead }

/-- **The next turn** begins without anything to be said before a reprompt. -/
theorem runTurn_setLead (lead : String) :
    (s.setLead lead).runTurn setup script = s.runTurn setup script := by
  have hopen : (s.setLead lead).openTurn setup script = s.openTurn setup script := by
    cases h : script.conversation <;> simp only [openTurn, h] <;> rfl
  rw [runTurn, runTurn, hopen]

theorem takeEvent_setLead (lead : String) : (s.setLead lead).takeEvent.1 = s.takeEvent.1 := by
  dsimp only [takeEvent, Tracker.takeEvent, setLead, Tracker.setLead]
  split <;> rfl

/-- Closing a turn leaves its input, and does not look at what is said before a reprompt but for
what is said. -/
theorem closeTurn_setLead (lead : String) (turn : Turn) :
    ((s.setLead lead).closeTurn setup script turn).1 =
        (s.closeTurn setup script turn).1.setLead lead ∧
      ((s.setLead lead).closeTurn setup script turn).2.input =
        (s.closeTurn setup script turn).2.input ∧
      ((s.setLead lead).closeTurn setup script turn).2.outputKind? =
        (s.closeTurn setup script turn).2.outputKind? := by
  have hinput (t : Tracker) : (t.finish setup.settings.tracker turn).2.input = turn.input := by
    cases h : turn.output with
    | none => rw [t.finish_of_none _ h]
    | some output => rw [t.finish_of_some _ h]
  dsimp only [closeTurn]
  split
  · exact ⟨rfl, rfl, rfl⟩
  · split
    · refine ⟨?_, rfl, rfl⟩
      rw [setLead, s.tracker.finishRemote_setLead]
      rfl
    · refine ⟨?_, ?_, ?_⟩
      · rw [setLead, s.tracker.finish_setLead]
        rfl
      · rw [hinput, hinput]
      · rw [outputKind?_finish, outputKind?_finish]

variable {script} in
/-- **Other calls** that say the same and leave the same desk but for what is said before a reprompt
make the same turn, but for their outcomes and for what is said in it. -/
theorem runTurn_calling_setLead {calls others : List CommandCall} {lead : String}
    (hdesk : s.answeredDesk setup (script.calling others) =
      (s.answeredDesk setup (script.calling calls)).setLead lead)
    (hspoken : s.spoken setup (script.calling others) = s.spoken setup (script.calling calls)) :
    (s.runTurn setup (script.calling others)).2 =
        (s.runTurn setup (script.calling calls)).2.setLead lead ∧
      ((s.runTurn setup (script.calling others)).1.response =
          (s.runTurn setup (script.calling calls)).1.response →
        (s.runTurn setup (script.calling others)).1 =
          (s.runTurn setup (script.calling calls)).1.withOutcomes
            (answerAll setup.settings.arbiter (s.openedDesk setup script) others).1) := by
  have hturn := answeredTurn_calling setup s script (by rw [hdesk]; rfl) hspoken
  have hanswered : s.answered setup (script.calling others) =
      (s.answered setup (script.calling calls)).setLead lead := by
    rw [answered, answered, hdesk]
    rfl
  obtain ⟨hsession, hinput, hkind⟩ := closeTurn_setLead setup
    (s.answered setup (script.calling calls)) script lead
    (s.answeredTurn setup (script.calling calls))
  -- how a turn is closed does not depend on its calls
  have hclose (s : Session) (calls : List CommandCall) (turn : Turn) :
      s.closeTurn setup (script.calling calls) turn = s.closeTurn setup script turn := rfl
  rw [runTurn_eq, runTurn_eq, hanswered, hturn, hdesk]
  dsimp only [report, Report.withOutcomes]
  rw [hclose, hclose, hsession, hinput, hkind]
  refine ⟨rfl, fun hresponse => ?_⟩
  rw [hresponse]
  rfl

/-- How a wording is **said** in a turn, but for a directive in front: what is restored where
nothing was left no longer names the slot. -/
def reworded (wording : String) : String :=
  if s.ComesBack setup script then
    Text.replaceAll (Markup.restore s.tracker.slot) (Markup.restore none) wording
  else wording

theorem prompt_courseTaken (hremote : script.remote = false) {output : Output}
    (houtput : (s.answeredTurn setup script).output = some output) (wording : String) :
    (s.courseTaken setup script output).prompt (s.answeredDesk setup script).tracker.slot wording =
      s.reworded setup script wording := by
  rw [courseTaken_eq hremote houtput, slot_answeredDesk, reworded]
  by_cases hback : s.ComesBack setup script
  · rw [if_pos hback, if_pos hback, if_pos hback.1]
    simp [Tracker.Course.prompt]
  · rw [if_neg hback, if_neg hback]
    split <;> rfl

/-- What the remote engine answers is said as it is, and without an output nothing is. -/
theorem exists_output_of_reprompted? {entry : Reprompt} (h : entry ∈ s.reprompted? setup script) :
    script.remote = false ∧ ∃ output, (s.answeredTurn setup script).output = some output := by
  rw [reprompted?] at h
  split at h
  · cases h
  · rename_i hremote
    obtain ⟨output, houtput, -⟩ := Option.bind_eq_some_iff.mp h
    exact ⟨Bool.eq_false_iff.mpr hremote, output, houtput⟩

section Lead

variable {setup s script} {calls others : List CommandCall} {lead : String}
  (hdesk : s.answeredDesk setup (script.calling others) =
    (s.answeredDesk setup (script.calling calls)).setLead lead)
  (hspoken : s.spoken setup (script.calling others) = s.spoken setup (script.calling calls))
include hdesk hspoken

theorem reprompted?_calling_setLead :
    s.reprompted? setup (script.calling others) = s.reprompted? setup (script.calling calls) := by
  have hkept : ((s.answeredDesk setup (script.calling calls)).setLead lead).tracker.reprompt?
        setup.settings.tracker (s.answeredTurn setup (script.calling calls)) =
      (s.answeredDesk setup (script.calling calls)).tracker.reprompt? setup.settings.tracker
        (s.answeredTurn setup (script.calling calls)) :=
    funext fun output => Tracker.reprompt?_setLead _ _ _ _ _
  rw [reprompted?, reprompted?, answeredTurn_calling setup s script (by rw [hdesk]; rfl) hspoken,
    hdesk, hkept]
  rfl

/-- What is said before a reprompt is said in the **body** of the turn, and nowhere else. -/
theorem response_of_bodySaid (habort : script.abort = false) {output : Output}
    (houtput : (s.answeredTurn setup (script.calling calls)).output = some output) :
    (s.runTurn setup (script.calling others)).1.response =
        (s.runTurn setup (script.calling calls)).1.response ↔
      (s.courseTaken setup (script.calling calls) output).prompt
          (s.answeredDesk setup (script.calling calls)).tracker.slot
          ((s.reprompted? setup (script.calling calls)).elim output.response (·.behind lead)) =
        (s.courseTaken setup (script.calling calls) output).prompt
          (s.answeredDesk setup (script.calling calls)).tracker.slot
          ((s.reprompted? setup (script.calling calls)).elim output.response
            (·.behind (script.calling calls).lead)) := by
  have hturn := answeredTurn_calling setup s script (by rw [hdesk]; rfl) hspoken
  have hfinished (calls : List CommandCall) : (script.calling calls).abort = false := habort
  have hcourse : s.courseTaken setup (script.calling others) output =
      s.courseTaken setup (script.calling calls) output := by
    rw [courseTaken, courseTaken, hdesk]
    rfl
  have hslot : (s.answeredDesk setup (script.calling others)).tracker.slot =
      (s.answeredDesk setup (script.calling calls)).tracker.slot := by
    rw [hdesk]
    rfl
  have htext : (s.answeredDesk setup (script.calling others)).tracker.repromptText =
      (·.behind lead) := by
    rw [hdesk]
    rfl
  have htext' : (s.answeredDesk setup (script.calling calls)).tracker.repromptText =
      (·.behind (script.calling calls).lead) := by
    rw [← asked_answeredDesk.2.2.2]
    rfl
  rw [(runTurn_of_some (hfinished calls) houtput).1,
    (runTurn_of_some (hfinished others) (hturn ▸ houtput)).1, hcourse, hslot,
    Option.some_inj, Tracker.Course.said_inj, bodySaid, bodySaid,
    reprompted?_calling_setLead hdesk hspoken, htext, htext']

/-- **What is said before a reprompt** is heard in a turn in which a reprompt stands in. -/
theorem response_calling_setLead :
    (s.runTurn setup (script.calling others)).1.response =
        (s.runTurn setup (script.calling calls)).1.response ↔
      (script.abort = false → ∀ entry ∈ s.reprompted? setup (script.calling calls),
        s.reworded setup (script.calling calls) (entry.behind lead) =
          s.reworded setup (script.calling calls) (entry.behind (script.calling calls).lead)) := by
  cases habort : script.abort with
  | true =>
    refine iff_of_true ?_ nofun
    rw [response_report_of_abort _ _ (script.calling others) habort,
      response_report_of_abort _ _ (script.calling calls) habort]
  | false =>
    rw [forall_prop_of_true rfl]
    cases houtput : (s.answeredTurn setup (script.calling calls)).output with
    | none =>
      have hturn := answeredTurn_calling setup s script (by rw [hdesk]; rfl) hspoken
      have hfinished (calls : List CommandCall) : (script.calling calls).abort = false := habort
      refine iff_of_true ?_ fun entry hentry => ?_
      · rw [(runTurn_of_none (hfinished calls) houtput).1,
          (runTurn_of_none (hfinished others) (hturn ▸ houtput)).1]
      · obtain ⟨-, output, hsome⟩ := exists_output_of_reprompted? _ _ _ hentry
        rw [houtput] at hsome
        cases hsome
    | some output =>
      rw [response_of_bodySaid hdesk hspoken habort houtput]
      cases hstands : s.reprompted? setup (script.calling calls) with
      | none => exact iff_of_true rfl nofun
      | some entry =>
        have hremote := (exists_output_of_reprompted? _ _ _ hstands).1
        simp only [Option.elim_some, prompt_courseTaken _ _ _ hremote houtput,
          Option.mem_some_iff, forall_eq']

end Lead

/-! ### A command that comes again -/

/-- A call that is put between others is **ignored**: it is answered as if all was well, and without
it the turn leaves the same session but for what is said before a reprompt, which no later turn
looks at (`Session.runTurn_setLead`), the same event waits, and the report is the same but for the
outcome of this call. -/
def Ignores (before : List CommandCall) (call : CommandCall) (rest : List CommandCall) : Prop :=
  let one := s.runTurn setup (script.calling (before ++ rest))
  let other := s.runTurn setup (script.calling (before ++ call :: rest))
  other.2.setLead "" = one.2.setLead "" ∧ other.2.takeEvent.1 = one.2.takeEvent.1 ∧
    ∃ command ∈ call.command?, ∃ first others, first.length = before.length ∧
      one.1.commands = first ++ others ∧
      other.1 = one.1.withOutcomes (first ++ ⟨command.name, .ok, ""⟩ :: others)

section Again

variable {setup s script} {before : List CommandCall} {call : CommandCall} {command : Command}
  (hcall : call.command? = some command) (htracker : command.isToTracker = true)
  (hcame : ∃ other ∈ accepted before, other.name = command.name) (rest : List CommandCall)
include hcall htracker hcame

variable (setup s script) in
/-- What comes again leaves the desk as it is without it, but for what is said before a reprompt if
it sets that **last**. -/
theorem answeredDesk_again :
    s.answeredDesk setup (script.calling (before ++ call :: rest)) =
        (s.answeredDesk setup (script.calling (before ++ rest))).setLead
          (if (accepted rest).filterMap Command.lead? = [] then
            command.lead?.getD (script.calling (before ++ rest)).lead
          else (script.calling (before ++ rest)).lead) ∧
      s.spoken setup (script.calling (before ++ call :: rest)) =
        s.spoken setup (script.calling (before ++ rest)) := by
  obtain ⟨_, _, lead, -, -, hother⟩ := answerAll_again setup.settings.arbiter
    (s.tracker_openedDesk setup script) hcall htracker hcame rest
  have hdesk : s.answeredDesk setup (script.calling (before ++ call :: rest)) =
      (s.answeredDesk setup (script.calling (before ++ rest))).setLead lead :=
    congrArg (·.2.2) hother
  obtain ⟨-, -, -, hset⟩ := @asked_answeredDesk setup s (script.calling (before ++ call :: rest))
  refine ⟨?_, congrArg (·.2.1) hother⟩
  rw [← script.lead_again before hcall rest, ← hset, hdesk]
  rfl

/-- What comes again is ignored if **the same is said** without it. -/
theorem ignores_iff_response :
    s.Ignores setup script before call rest ↔
      (s.runTurn setup (script.calling (before ++ call :: rest))).1.response =
        (s.runTurn setup (script.calling (before ++ rest))).1.response := by
  obtain ⟨first, others, _, hlength, hone, hother⟩ := answerAll_again setup.settings.arbiter
    (s.tracker_openedDesk setup script) hcall htracker hcame rest
  obtain ⟨hdesk, hspoken⟩ := answeredDesk_again setup s script hcall htracker hcame rest
  obtain ⟨hsession, hreport⟩ := s.runTurn_calling_setLead setup hdesk hspoken
  constructor
  · rintro ⟨-, -, _, -, _, _, -, -, hsame⟩
    rw [hsame, Report.response_withOutcomes]
  · intro hsame
    refine ⟨by rw [hsession]; rfl, by rw [hsession, takeEvent_setLead], command, hcall, first,
      others, hlength, hone, ?_⟩
    rw [hreport hsame, hother]

end Again

variable {setup s script} in
/-- **A tracker command that comes again** in a turn is ignored, whatever its argument, unless it is
the one that sets what is said before a reprompt. That one is ignored exactly if the turn is
aborted, or it is set again later, or no reprompt stands in, or the one that does is worded the
same. Every other one leaves the very same session. -/
theorem ignores_iff {before : List CommandCall} {call : CommandCall} {command : Command}
    (hcall : call.command? = some command) (htracker : command.isToTracker = true)
    (hcame : ∃ other ∈ accepted before, other.name = command.name) (rest : List CommandCall) :
    let script' := script.calling (before ++ rest)
    (s.Ignores setup script before call rest ↔
      ∀ text ∈ command.lead?, script.abort = false → (accepted rest).filterMap Command.lead? = [] →
        ∀ entry ∈ s.reprompted? setup script',
          s.reworded setup script' (entry.behind text) =
            s.reworded setup script' (entry.behind script'.lead)) ∧
      (command.lead? = none →
        (s.runTurn setup (script.calling (before ++ call :: rest))).2 =
          (s.runTurn setup script').2) := by
  intro script'
  obtain ⟨hdesk, hspoken⟩ := answeredDesk_again setup s script hcall htracker hcame rest
  constructor
  · rw [ignores_iff_response hcall htracker hcame rest, response_calling_setLead hdesk hspoken]
    constructor
    · intro h text htext habort hlater
      rw [if_pos hlater, Option.mem_def.mp htext, Option.getD_some] at h
      exact h habort
    · intro h habort entry hentry
      by_cases hlater : (accepted rest).filterMap Command.lead? = []
      · rw [if_pos hlater]
        cases htext : command.lead? with
        | none => rw [Option.getD_none]
        | some text => exact h text htext habort hlater entry hentry
      · rw [if_neg hlater]
  · intro hnone
    have hdesk' : s.answeredDesk setup (script.calling (before ++ call :: rest)) =
        s.answeredDesk setup script' := by
      rw [hdesk, hnone, Option.getD_none, ite_self, ← asked_answeredDesk.2.2.2]
      rfl
    exact (runTurn_calling setup s script (Prod.ext hspoken hdesk')).1

/-- What is to stand in is asked for twice, which is ignored. What is to come before it is set
twice, which is ignored where it is set a third time, and heard where it is not. -/
theorem ignores_iff_backAgain :
    let calls := backAgain.commands
    let anyway := (Command.prependReprompt "Anyway,").call
    interrupted.Ignores {} backAgain calls Command.overrideWithReprompt.call [] ∧
      interrupted.Ignores {} backAgain calls anyway [(Command.prependReprompt "Now.").call] ∧
      ¬ interrupted.Ignores {} backAgain calls anyway [] := by
  intro calls anyway
  have hoverride : Command.overrideWithReprompt.call.command? = some .overrideWithReprompt := by
    decide
  have hanyway : anyway.command? = some (.prependReprompt "Anyway,") := by decide
  refine ⟨?_, ?_, ?_⟩
  · exact (ignores_iff hoverride rfl (by decide) _).1.mpr nofun
  · exact (ignores_iff hanyway rfl (by decide) _).1.mpr
      fun _ _ _ hlater => absurd hlater (by decide)
  · intro hignored
    have hsame := (ignores_iff hanyway rfl (by decide) []).1.mp hignored "Anyway," rfl rfl rfl
      ⟨"root", "root_ask", "What color?"⟩ (by decide +kernel)
    exact absurd hsame (by decide +kernel)

/-- Not every command that comes again is ignored. -/
theorem not_forall_ignores :
    ¬ ∀ (s : Session) (script : TurnScript) (before rest : List CommandCall) (call : CommandCall)
      (command : Command), Reachable {} s → call.command? = some command →
        command.isToTracker = true → (∃ other ∈ accepted before, other.name = command.name) →
          s.Ignores {} script before call rest := by
  intro hall
  obtain ⟨-, -, _, -, _, _, -, -, hreport⟩ := hall interrupted backAgain backAgain.commands []
    (Command.prependReprompt "Anyway,").call (.prependReprompt "Anyway,")
    ((Reachable.new.turn _).turn _) (by decide) rfl (by decide)
  have hresponse := congrArg Report.response hreport
  rw [Report.response_withOutcomes] at hresponse
  exact absurd hresponse (by decide +kernel)

end Session

end Colloquy

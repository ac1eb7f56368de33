import Colloquy.Proofs.Directives
import Colloquy.Proofs.Visit

/-!
# What is said again saves nothing

A save directive is put in front of what is said and is no part of the prompt that is remembered.
So the texts that may be said again **save nothing** (`Markup.SavesNothing`), neither in a slot nor
without one, and however often they come back, as a prompt that is replayed, as one more piece of a
stream, or as a reprompt in place of the response, they bring no save directive along
(`Session.SavesInFront`). There is at most the one in front, and it is there on account of the turn:
the module has changed, or markup was restored in the module that the conversation was in already.
-/

namespace Colloquy

namespace Markup

/-- A text **saves nothing** if no save directive stands in it. -/
def SavesNothing (s : String) : Prop := ∀ slot : Option Slot, ¬ Stands (save slot) s

theorem savesNothing_iff {s : String} :
    SavesNothing s ↔ ∀ slot, (save slot).toList ∉ tags s :=
  forall_congr' fun slot => not_congr (stands_iff (isTag_save slot))

theorem Heard.savesNothing {s : String} (h : Heard s) : SavesNothing s :=
  savesNothing_iff.mpr h.save

end Markup

namespace Session

variable (setup : Setup) (s : Session) (script : TurnScript)

/-- A turn **saves in front** only: no value that is said in it brings a save directive along, and no
reprompt that takes the place of the response; what it says is a text that saves nothing, behind one
save directive or none; and there is none in a turn that restores nothing and leaves the
conversation in its module. -/
structure SavesInFront : Prop where
  values : ∀ value ∈ s.spoken setup script, Markup.SavesNothing value
  reprompt : ∀ entry ∈ s.reprompted? setup script,
    Markup.SavesNothing ((s.answeredDesk setup script).tracker.repromptText entry)
  response : ∀ response ∈ (s.runTurn setup script).1.response,
    ∃ prompt, Markup.SavesNothing prompt ∧
      (response = prompt ∨ ∃ slot, response = Markup.save slot ++ prompt)
  stays : ¬ script.Restores →
    (s.runTurn setup script).2.tracker.prevModule = s.tracker.prevModule →
    ∀ response ∈ (s.runTurn setup script).1.response, Markup.SavesNothing response

variable {setup s script}

/-- What a course **says** is its prompt, behind one save directive or none. -/
theorem said_eq_prompt (course : Tracker.Course) (slot : Slot) (body : String) :
    course.said slot body = course.prompt slot body ∨
      ∃ saved, course.said slot body = Markup.save saved ++ course.prompt slot body := by
  cases course with
  | plain => exact Or.inl rfl
  | collapsed => exact Or.inr ⟨none, rfl⟩
  | saved => exact Or.inr ⟨some slot.toggled, rfl⟩

/-- A turn that restores nothing and leaves the conversation in its module is of a **plain** course. -/
theorem courseTaken_of_stays (habort : script.abort = false) {output : Output}
    (houtput : (s.answeredTurn setup script).output = some output) (hrestores : ¬ script.Restores)
    (hmodule : (s.runTurn setup script).2.tracker.prevModule = s.tracker.prevModule) :
    s.courseTaken setup script output = .plain := by
  have hbefore : (s.answeredDesk setup script).tracker.prevModule = s.tracker.prevModule := by
    rw [tracker_answeredDesk]
    exact (Command.foldl_onTracker_frame _ _).2.2.1
  rw [tracker_runTurn, habort] at hmodule
  rw [courseTaken]
  cases hremote : script.remote with
  | true => rfl
  | false =>
    rw [hremote] at hmodule
    replace hmodule := ((s.answeredDesk setup script).tracker.prevModule_finish
      setup.settings.tracker houtput).symm.trans hmodule
    rw [if_neg (by decide), Tracker.course, hmodule, ← hbefore, Tracker.courseInto_prevModule,
      restoreAsked_answeredDesk, decide_eq_false hrestores, if_neg (by decide)]

/-- **A plain script** saves in front only, if all texts are heard that it may have said again. -/
theorem savesInFront (hplain : script.Plain) (hclean : s.tracker.Clean) :
    s.SavesInFront setup script := by
  -- a turn that says anything is one with an output
  have hsaid : ∀ response ∈ (s.runTurn setup script).1.response,
      script.abort = false ∧ ∃ output, (s.answeredTurn setup script).output = some output := by
    intro response hresponse
    cases habort : script.abort with
    | true =>
      rw [response_report_of_abort _ _ _ habort] at hresponse
      cases hresponse
    | false =>
      cases houtput : (s.answeredTurn setup script).output with
      | none =>
        rw [(runTurn_of_none habort houtput).1] at hresponse
        cases hresponse
      | some output => exact ⟨rfl, output, rfl⟩
  refine ⟨fun value hvalue => (heard_spoken hclean value hvalue).savesNothing,
    fun entry hentry => ?_, fun response hresponse => ?_,
    fun hrestores hmodule response hresponse => ?_⟩
  · have hheard := heard_reprompted hclean entry hentry
    obtain ⟨htags, -⟩ := Tracker.tags_repromptText (s.lead_answeredDesk setup script hplain) entry
    rw [Markup.savesNothing_iff, htags]
    exact hheard.save
  · obtain ⟨habort, output, houtput⟩ := hsaid response hresponse
    rw [(runTurn_of_some habort houtput).1, Option.mem_some_iff] at hresponse
    subst hresponse
    exact ⟨_, (Markup.heard_prompt _ _ (tags_bodySaid hplain hclean houtput).1).savesNothing,
      said_eq_prompt _ _ _⟩
  · obtain ⟨habort, output, houtput⟩ := hsaid response hresponse
    rw [(runTurn_of_some habort houtput).1, courseTaken_of_stays habort houtput hrestores hmodule,
      Option.mem_some_iff] at hresponse
    subst hresponse
    exact (tags_bodySaid hplain hclean houtput).1.savesNothing

/-- **No text that is remembered saves anything.** In a conversation of plain scripts there is no
save directive in the last prompt and none in a reprompt, whatever slot it names or if it names
none; and so in each further turn of a plain script there is at most one save directive, in front of
what is said. -/
theorem remembered_saves_nothing {past : List PastTurn} (h : Past setup past s)
    (hplain : ∀ turn ∈ past, turn.script.Plain) :
    (∀ prompt ∈ s.tracker.lastPrompt, Markup.SavesNothing prompt.text) ∧
      (∀ entry ∈ s.tracker.queue.entries, Markup.SavesNothing entry.text) ∧
      ∀ script : TurnScript, script.Plain → s.SavesInFront setup script :=
  have hclean := h.clean hplain
  ⟨fun prompt hprompt => (hclean.prompt prompt hprompt).savesNothing,
    fun entry hentry => (hclean.queue entry hentry).savesNothing,
    fun _ hscript => savesInFront hscript hclean⟩

/-- The prompt is **asked for again**, and then the conversation stays where it is. -/
def askingAgain : TurnScript :=
  (telling (.speech "eh") "As I said." "side" "~side_game").withCommand
    (Command.sendReprompt none).call

/-- A directive is put in front of a prompt when the module changes. In the next turn the prompt is
replayed, and the directive does not come with it. -/
theorem remembered_saves_nothing_interrupted :
    let changing := telling (.event "eb-mpu-picked-up-interrupt") "Yes?" "side" "~side_game"
    (∃ before : Session, (before.runTurn {} changing).2 = interrupted ∧
      (before.runTurn {} changing).1.response = some (Markup.save (some .one) ++ "Yes?")) ∧
    (∀ prompt ∈ interrupted.tracker.lastPrompt, Markup.SavesNothing prompt.text) ∧
    (interrupted.runTurn {} askingAgain).1.response = some "As I said. Yes?" ∧
    Markup.SavesNothing "As I said. Yes?" := by
  intro changing
  obtain ⟨past, hpast, hplain⟩ := plain_past_interrupted
  obtain ⟨hprompt, -, hturn⟩ := remembered_saves_nothing hpast hplain
  have hresponse : (interrupted.runTurn {} askingAgain).1.response = some "As I said. Yes?" := by
    decide +kernel
  have hasking : askingAgain.Plain :=
    (TurnScript.plain_telling (by decide) (by decide)).withCommand rfl
  exact ⟨⟨_, rfl, by decide +kernel⟩, hprompt, hresponse,
    (hturn askingAgain hasking).stays (by decide) (by decide +kernel) _ hresponse⟩

end Session

end Colloquy

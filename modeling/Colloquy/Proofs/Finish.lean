import Colloquy.Tracker

/-!
# What finishing a turn makes of the tracker

Finishing a turn goes through six stages, and each of them looks at what the ones before have left.
This file says what comes of them together, so that no later proof goes through the stages again:

| what | becomes | theorem |
|---|---|---|
| the response | its body, behind the directive of the course | `response_finish` |
| the slot | what the course makes of it | `slot_finish` |
| the last prompt | what it was, what was said behind the directive, or none | `lastPrompt_finish` |
| the queue | what it was and what was cut off, or a part of that | `entries_finish_sublist` |

The **body** of what is said (`body`) is the response or the reprompt that takes its place, before
any directive is put in front. The **course** of a turn (`course`) says which directive that is:
a visit that was none collapses, a change of module is saved, and every other turn is plain.
-/

namespace Colloquy

namespace Tracker

variable (settings : TrackerSettings) (t : Tracker) (turn : Turn) (output : Output)

/-! ### The stages -/

/-- The tracker when the topic of the output has been **located**. -/
def located : Tracker :=
  (t.settleInterruption settings turn.input).locate settings (t.modulesOf settings output).1
    output.topics

/-- The reprompt that takes the place of the response, if one does. -/
def reprompt? : Option Reprompt :=
  if (t.located settings turn output).overrideAsked ∧
      (t.located settings turn output).storedTopic ≠ "" then
    (t.located settings turn output).queue.find? (t.located settings turn output).storedTopic
  else none

/-- The **body** of what is said: the response, or the reprompt that takes its place. -/
def body : String := (t.reprompt? settings turn output).elim output.response t.repromptText

/-- The tracker when a reprompt may have taken the place of the response. -/
def bodied : Tracker :=
  ((t.located settings turn output).overridden (t.modulesOf settings output).1 output.response).2

/-- Settling an interruption leaves everything but the queue and the wish for a reprompt. -/
theorem settleInterruption_frame (input : Input) :
    ∃ queue overrideAsked,
      t.settleInterruption settings input = { t with queue, overrideAsked } := by
  rw [settleInterruption]
  split
  · exact ⟨t.queue, false, rfl⟩
  · split
    · rw [recordPrompt]
      split
      · split
        · exact ⟨_, t.overrideAsked, rfl⟩
        · exact ⟨t.queue, t.overrideAsked, rfl⟩
      · exact ⟨t.queue, t.overrideAsked, rfl⟩
    · exact ⟨t.queue, t.overrideAsked, rfl⟩

theorem modulesOf_settleInterruption (input : Input) :
    (t.settleInterruption settings input).modulesOf settings output =
      t.modulesOf settings output := by
  obtain ⟨queue, overrideAsked, h⟩ := t.settleInterruption_frame settings input
  rw [h]
  rfl

/-- The topic the conversation is in when an output of this module has gone through these topics. -/
def topicAfter (module : String) (topics : List String) : String :=
  (Topic.resolve module topics).elim (if t.saveAsked then stateChangeTopic else t.storedTopic)
    Text.lower

theorem locate_eq (module : String) (topics : List String) :
    t.locate settings module topics =
      { t with
        queue := if settings.isBase (t.topicAfter module topics) then {} else t.queue
        storedTopic := t.topicAfter module topics
        promptKept := t.saveAsked || t.promptKept } := by
  obtain ⟨queue, lastPrompt, prevModule, storedTopic, slot, slotAtStart, lead, saveAsked,
    restoreAsked, overrideAsked, interruptionSettled, promptKept, eventPending, repromptSent⟩ := t
  rw [locate, topicAfter]
  cases saveAsked <;> cases Topic.resolve module topics <;>
    simp only [Bool.false_eq_true, if_true, if_false, Option.elim_none, Option.elim_some,
      Bool.true_or, Bool.false_or] <;> split <;> rfl

theorem located_frame :
    ∃ queue overrideAsked storedTopic promptKept,
      t.located settings turn output =
        { t with queue, overrideAsked, storedTopic, promptKept } := by
  obtain ⟨queue, overrideAsked, hsettle⟩ := t.settleInterruption_frame settings turn.input
  exact ⟨_, overrideAsked, _, _, by rw [located, hsettle, locate_eq]⟩

/-- What a reprompt in place of the response changes is the queue, and whether the prompt stands. -/
theorem overridden_frame (module response : String) :
    ∃ queue promptKept, (t.overridden module response).2 = { t with queue, promptKept } ∧
      (queue = t.queue ∨ queue = t.queue.clearModule module) := by
  rw [overridden]
  split
  · cases t.queue.find? t.storedTopic <;> by_cases hmodule : module ≠ "" <;> dsimp only
    · exact ⟨_, _, if_pos hmodule, Or.inr rfl⟩
    · exact ⟨_, _, if_neg hmodule, Or.inl rfl⟩
    · exact ⟨_, _, if_pos hmodule, Or.inr rfl⟩
    · exact ⟨_, _, if_neg hmodule, Or.inl rfl⟩
  · exact ⟨t.queue, t.promptKept, rfl, Or.inl rfl⟩

theorem bodied_frame :
    ∃ queue overrideAsked storedTopic promptKept,
      t.bodied settings turn output =
        { t with queue, overrideAsked, storedTopic, promptKept } := by
  obtain ⟨queue, overrideAsked, storedTopic, promptKept, hlocated⟩ :=
    t.located_frame settings turn output
  obtain ⟨queue', promptKept', hoverridden, -⟩ := overridden_frame (t.located settings turn output)
    (t.modulesOf settings output).1 output.response
  exact ⟨queue', overrideAsked, storedTopic, promptKept', by rw [bodied, hoverridden, hlocated]⟩

/-- Nothing can be found in an empty queue, so it need not be asked for. -/
theorem overridden_fst (module response : String) :
    (t.overridden module response).1 =
      (if t.overrideAsked ∧ t.storedTopic ≠ "" then t.queue.find? t.storedTopic else none).elim
        response t.repromptText := by
  rw [overridden]
  by_cases hasked : t.overrideAsked ∧ t.storedTopic ≠ ""
  · rw [if_pos hasked]
    cases hempty : t.queue.isEmpty with
    | false =>
      rw [if_pos ⟨hasked.1, hasked.2, by decide⟩]
      cases t.queue.find? t.storedTopic <;> rfl
    | true =>
      have hnone : t.queue.find? t.storedTopic = none := by
        rw [RepromptQueue.find?, List.isEmpty_iff.mp hempty]
        rfl
      rw [hnone, if_neg (by simp)]
      rfl
  · rw [if_neg hasked, if_neg fun h => hasked ⟨h.1, h.2.1⟩]
    rfl

theorem overridden_fst_eq_body :
    ((t.located settings turn output).overridden (t.modulesOf settings output).1
      output.response).1 = t.body settings turn output := by
  obtain ⟨queue, overrideAsked, storedTopic, promptKept, h⟩ := t.located_frame settings turn output
  have htext : (t.located settings turn output).repromptText = t.repromptText := by
    rw [h]
    rfl
  rw [overridden_fst, body, reprompt?, htext]

/-! ### The course of a turn -/

/-- The **course** of a turn, by the directive that is put before what is said: the one without a
slot, none, or the one for the other slot. -/
inductive Course where
  | collapsed
  | plain
  | saved
deriving DecidableEq, Repr

namespace Course

/-- The slot after a turn of this course. -/
def slot : Course → Slot → Slot
  | plain, slot => slot
  | collapsed, slot | saved, slot => slot.toggled

/-- The prompt that a turn of this course leaves. -/
def prompt : Course → Slot → String → String
  | collapsed, slot, body =>
    Text.replaceAll (Markup.restore slot.toggled) (Markup.restore none) body
  | plain, _, body | saved, _, body => body

/-- What is **said** in a turn of this course. -/
def said (course : Course) (slot : Slot) (body : String) : String :=
  match course with
  | collapsed => Markup.save none ++ collapsed.prompt slot body
  | plain => body
  | saved => Markup.save slot.toggled ++ body

end Course

/-- The course of a turn that leads **into** a module. -/
def courseInto (module : String) : Course :=
  if t.prevModule = module then
    if t.restoreAsked then .collapsed else .plain
  else if t.prevModule = "" ∨ t.restoreAsked ∨ t.prevModule = stateChangeModule ∨
      settings.isTangent module then .plain
  else .saved

/-- The **course** of a turn with this output. -/
def course : Course := t.courseInto settings (t.modulesOf settings output).2

theorem marked_eq (module response : String) :
    t.marked settings module response =
      ((t.courseInto settings module).said t.slot response,
        (t.courseInto settings module).prompt t.slot response,
        { t with slot := (t.courseInto settings module).slot t.slot, prevModule := module }) := by
  rw [marked, courseInto]
  by_cases hmodule : t.prevModule = module
  · subst hmodule
    by_cases hrestore : t.restoreAsked = true
    · rw [if_pos ⟨hrestore, rfl⟩, if_pos rfl, if_pos hrestore]
      rfl
    · rw [if_neg fun h => hrestore h.1, if_pos rfl, if_pos rfl, if_neg hrestore]
      rfl
  · simp only [hmodule, and_false, if_false]
    split <;> rfl

/-- What becomes the last prompt, apart from which nothing changes when a prompt is kept. -/
theorem cached_frame (prompt topicBefore : String) :
    ∃ lastPrompt, t.cached prompt topicBefore = { t with lastPrompt } ∧
      (lastPrompt = t.lastPrompt ∨ lastPrompt = none ∨
        lastPrompt = some { text := prompt, topic := t.storedTopic, source := .localEngine }) := by
  rw [cached]
  split
  · exact ⟨t.lastPrompt, rfl, Or.inl rfl⟩
  · rw [cachePrompt]
    split
    · exact ⟨_, rfl, Or.inr (Or.inr rfl)⟩
    · split
      · exact ⟨none, rfl, Or.inr (Or.inl rfl)⟩
      · exact ⟨t.lastPrompt, rfl, Or.inl rfl⟩

/-! ### Together -/

/-- The tracker when the directive has been put before the body of what is said. -/
def ended : Tracker :=
  { t.bodied settings turn output with
    slot := (t.course settings output).slot t.slot
    prevModule := (t.modulesOf settings output).2 }

theorem marked_bodied :
    (t.bodied settings turn output).marked settings (t.modulesOf settings output).2
        (t.body settings turn output) =
      ((t.course settings output).said t.slot (t.body settings turn output),
        (t.course settings output).prompt t.slot (t.body settings turn output),
        t.ended settings turn output) := by
  obtain ⟨queue, overrideAsked, storedTopic, promptKept, hbodied⟩ :=
    t.bodied_frame settings turn output
  rw [marked_eq, ended, hbodied]
  rfl

variable {turn output}

/-- **Finishing a turn** without an output settles the interruption, and nothing else. -/
theorem finish_of_none (h : turn.output = none) :
    t.finish settings turn = (t.settleInterruption settings turn.input, turn) := by
  rw [finish, h]

/-- **Finishing a turn** with an output says its body, behind the directive of its course. -/
theorem finish_of_some (h : turn.output = some output) :
    t.finish settings turn =
      ((t.ended settings turn output).cached
          ((t.course settings output).prompt t.slot (t.body settings turn output)) t.promptTopic,
        { turn with
          output := some { output with
            response := (t.course settings output).said t.slot
              (t.body settings turn output) } }) := by
  -- the stages one by one, each in the words of its lemma
  have hmarked := t.marked_bodied settings turn output
  rw [← overridden_fst_eq_body] at hmarked ⊢
  rw [finish, h]
  dsimp only [finishOutput]
  rw [modulesOf_settleInterruption]
  dsimp only [bodied, located] at hmarked ⊢
  rw [hmarked]

theorem response_finish (h : turn.output = some output) :
    (t.finish settings turn).2.response? =
      some ((t.course settings output).said t.slot (t.body settings turn output)) := by
  rw [t.finish_of_some settings h]
  rfl

theorem slot_finish (h : turn.output = some output) :
    (t.finish settings turn).1.slot = (t.course settings output).slot t.slot := by
  obtain ⟨_, hcached, -⟩ := cached_frame (t.ended settings turn output)
    ((t.course settings output).prompt t.slot (t.body settings turn output)) t.promptTopic
  rw [t.finish_of_some settings h, hcached]
  rfl

/-- Nothing is made the last prompt before the directive has been put before what is said. -/
theorem lastPrompt_ended (turn : Turn) (output : Output) :
    (t.ended settings turn output).lastPrompt = t.lastPrompt := by
  obtain ⟨_, _, _, _, hbodied⟩ := t.bodied_frame settings turn output
  rw [ended, hbodied]

/-- The last prompt after a turn is what it was, or what was said behind the directive. -/
theorem lastPrompt_finish (h : turn.output = some output) {prompt : Prompt}
    (hprompt : (t.finish settings turn).1.lastPrompt = some prompt) :
    t.lastPrompt = some prompt ∨
      prompt.text =
        (t.course settings output).prompt t.slot (t.body settings turn output) := by
  obtain ⟨lastPrompt, hcached, hcases⟩ := cached_frame (t.ended settings turn output)
    ((t.course settings output).prompt t.slot (t.body settings turn output)) t.promptTopic
  rw [t.finish_of_some settings h, hcached] at hprompt
  replace hprompt : lastPrompt = some prompt := hprompt
  rcases hcases with hkept | hnone | hnew
  · exact Or.inl (by rw [← hprompt, hkept, lastPrompt_ended])
  · exact absurd (hnone.symm.trans hprompt) (by simp)
  · exact Or.inr (by rw [Option.some_inj.mp (hprompt.symm.trans hnew)])

/-! ### An answer of the remote engine -/

variable (turn) in
/-- **An answer of the remote engine** changes nothing but the last prompt, which is what it was, or
the answer, or both in one. -/
theorem finishRemote_frame :
    ∃ lastPrompt, t.finishRemote settings turn = { t with lastPrompt } ∧
      ∀ prompt ∈ lastPrompt, t.lastPrompt = some prompt ∨
        prompt.text = turn.response?.getD "" ∨
        prompt.text = t.lastPrompt.elim "" Prompt.text ++ turn.response?.getD "" := by
  rw [finishRemote]
  split
  · refine ⟨_, rfl, fun prompt hprompt => ?_⟩
    cases hprompt
    exact Or.inr (Or.inr rfl)
  · rw [cachePrompt]
    split
    · refine ⟨_, rfl, fun prompt hprompt => ?_⟩
      cases hprompt
      exact Or.inr (Or.inl rfl)
    · split
      · exact ⟨none, rfl, nofun⟩
      · exact ⟨t.lastPrompt, rfl, fun prompt hprompt => Or.inl hprompt⟩

variable (turn) in
theorem slot_finishRemote : (t.finishRemote settings turn).slot = t.slot := by
  obtain ⟨_, hremote, -⟩ := t.finishRemote_frame settings turn
  rw [hremote]

variable (turn) in
theorem queue_finishRemote : (t.finishRemote settings turn).queue = t.queue := by
  obtain ⟨_, hremote, -⟩ := t.finishRemote_frame settings turn
  rw [hremote]

/-! ### The queue -/

variable (turn) in
/-- When an interruption is settled, the queue stays, or the last prompt is recorded in it. -/
theorem queue_settleInterruption :
    (t.settleInterruption settings turn.input).queue = t.queue ∨
      interrupts settings turn.input = true ∧ ∃ prompt, t.lastPrompt = some prompt ∧
        Markup.isSpeechless prompt.text = false ∧
        (t.settleInterruption settings turn.input).queue =
          t.queue.record prompt.text prompt.topic := by
  rw [settleInterruption]
  split
  · exact Or.inl rfl
  · split
    · rename_i hinterrupts
      rw [recordPrompt]
      cases hprompt : t.lastPrompt with
      | none => exact Or.inl rfl
      | some prompt =>
        dsimp only
        split
        · rename_i hspeech
          exact Or.inr ⟨hinterrupts, prompt, rfl, Bool.eq_false_iff.mpr hspeech.2.2, rfl⟩
        · exact Or.inl rfl
    · exact Or.inl rfl

theorem queue_located :
    (t.located settings turn output).queue =
      if settings.isBase (t.located settings turn output).storedTopic then {}
      else (t.settleInterruption settings turn.input).queue := by
  rw [located, locate_eq]

variable {settings t} in
/-- A reprompt that takes the place of the response stood in the queue when the interruption had
been settled. -/
theorem mem_of_reprompt? {entry : Reprompt} (h : t.reprompt? settings turn output = some entry) :
    entry ∈ (t.settleInterruption settings turn.input).queue.entries := by
  rw [reprompt?] at h
  split at h
  · have hmem := List.mem_of_find?_eq_some h
    rw [queue_located] at hmem
    split at hmem
    · cases hmem
    · exact hmem
  · cases h

/-- What is done to the queue after the topic is known takes away from it at most. -/
theorem queue_finish_of_some (h : turn.output = some output) :
    (t.finish settings turn).1.storedTopic = (t.located settings turn output).storedTopic ∧
      ((t.finish settings turn).1.queue.entries).Sublist
        (t.located settings turn output).queue.entries := by
  obtain ⟨_, hcached, -⟩ := cached_frame (t.ended settings turn output)
    ((t.course settings output).prompt t.slot (t.body settings turn output)) t.promptTopic
  obtain ⟨queue, promptKept, hbodied, hqueue⟩ :=
    (t.located settings turn output).overridden_frame (t.modulesOf settings output).1
      output.response
  rw [t.finish_of_some settings h, hcached, ended, bodied, hbodied]
  refine ⟨rfl, ?_⟩
  rcases hqueue with rfl | rfl
  · exact List.Sublist.refl _
  · exact List.filter_sublist

/-- **In a base topic** nothing is left in the queue. -/
theorem queue_finish_of_base (h : turn.output = some output)
    (hbase : settings.isBase (t.finish settings turn).1.storedTopic = true) :
    (t.finish settings turn).1.queue.entries = [] := by
  obtain ⟨htopic, hsublist⟩ := t.queue_finish_of_some settings h
  rw [htopic] at hbase
  rw [queue_located, if_pos hbase] at hsublist
  exact List.sublist_nil.mp hsublist

/-- **The queue** after a turn is a part of what it was when the interruption had been settled. -/
theorem entries_finish_sublist :
    ((t.finish settings turn).1.queue.entries).Sublist
      (t.settleInterruption settings turn.input).queue.entries := by
  cases h : turn.output with
  | none =>
    have hsame := congrArg Prod.fst (t.finish_of_none settings h)
    exact hsame ▸ List.Sublist.refl _
  | some output =>
    have hsublist := (t.queue_finish_of_some settings h).2
    rw [queue_located] at hsublist
    refine hsublist.trans ?_
    split
    · exact List.nil_sublist _
    · exact List.Sublist.refl _

end Tracker

end Colloquy

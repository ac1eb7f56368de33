import Colloquy.Proofs.Interruption
import Colloquy.Proofs.Names
import Colloquy.Proofs.Slot

/-!
# A reprompt that has been replayed

When a reprompt takes the place of a response it has been said again, so it should not be kept any
longer. But it is looked up under one name and dropped under another. It is found by the **topic**
the conversation is in; what is dropped is what is kept for the **module** that the output names.
The two belong together where the topic has been found in this very turn: it is one of the module's
own (`moduleOf_resolve`). They need not where the topic is the one of an earlier turn, as nothing
has been found for the module of this one, or none is named. Then the reprompt **stays**
(`mem_queue_finish_of_reprompt_iff`), and it can be replayed again and again. One that is gone can
only be replayed when it has been cut off anew (`exists_records_of_replays`).

There is one more way to miss it. A topic that is written with two tildes, or with a blank behind
the tilde, is found under a name that is not bare. The module is read off what was written and the
reprompt is kept under what is left of the name, so they may differ.
-/

namespace Colloquy

namespace RepromptQueue

theorem mem_clearModule_iff {queue : RepromptQueue} {module : String} {entry : Reprompt} :
    entry ∈ (queue.clearModule module).entries ↔
      entry ∈ queue.entries ∧ entry.module ≠ Topic.moduleKey module := by
  simp [clearModule]

end RepromptQueue

namespace Topic

/-- **The module of a topic** that has been found is the module it was looked up in, if its name is
bare. -/
theorem moduleOf_resolve {module topic : String} {topics : List String}
    (h : resolve module topics = some topic) (hbare : bare topic = topic) :
    module ≠ "" ∧ moduleOf (Text.lower topic) = moduleKey module := by
  rw [resolve] at h
  split at h
  · cases h
  · rename_i hblank
    refine ⟨fun heq => hblank (heq ▸ rfl), ?_⟩
    dsimp only at h
    obtain ⟨hlast, -⟩ := Option.filter_eq_some_iff.mp h
    obtain ⟨written, hwritten, rfl⟩ := Option.map_eq_some_iff.mp hlast
    have hown := (List.mem_filter.mp (List.mem_of_getLast? hwritten)).2
    rw [belongs, decide_eq_true_eq] at hown
    rw [← lower_moduleOf, moduleOf_bare hbare, hown]

end Topic

namespace Tracker

variable {settings : TrackerSettings} {t : Tracker} {turn : Turn} {output : Output}
  {entry : Reprompt}

/-! ### A turn in which a reprompt takes the place of the response -/

theorem orderly_located (h : t.queue.Orderly) : (t.located settings turn output).queue.Orderly := by
  rw [queue_located]
  split
  · exact ⟨Nat.zero_le _, List.nodup_nil, nofun, nofun⟩
  · exact orderly_settleInterruption settings turn h

theorem storedTopic_located :
    (t.located settings turn output).storedTopic =
      t.topicAfter (t.modulesOf settings output).1 output.topics := by
  obtain ⟨queue, overrideAsked, hsettle⟩ := t.settleInterruption_frame settings turn.input
  rw [located, locate_eq, hsettle]
  rfl

theorem reprompt?_eq_some_iff :
    t.reprompt? settings turn output = some entry ↔
      ((t.located settings turn output).overrideAsked = true ∧
        (t.located settings turn output).storedTopic ≠ "") ∧
      (t.located settings turn output).queue.find? (t.located settings turn output).storedTopic =
        some entry := by
  rw [reprompt?]
  split <;> simp_all

/-- What is **dropped** in a turn in which a reprompt takes the place of the response is what is
kept for the module of the output, if it names one. -/
theorem queue_finish_of_reprompt (houtput : turn.output = some output)
    (h : t.reprompt? settings turn output = some entry) :
    (t.finish settings turn).1.queue =
      if (t.modulesOf settings output).1 ≠ "" then
        (t.located settings turn output).queue.clearModule (t.modulesOf settings output).1
      else (t.located settings turn output).queue := by
  obtain ⟨⟨hasked, htopic⟩, hfind⟩ := reprompt?_eq_some_iff.mp h
  obtain ⟨_, hcached, -⟩ := cached_frame (t.ended settings turn output)
    ((t.course settings output).prompt t.slot (t.body settings turn output)) t.promptTopic
  have hempty : (t.located settings turn output).queue.isEmpty = false :=
    List.isEmpty_eq_false_iff_exists_mem.mpr
      ⟨entry, (RepromptQueue.of_find?_eq_some hfind).1⟩
  rw [t.finish_of_some settings houtput, hcached]
  change (t.bodied settings turn output).queue = _
  rw [bodied, overridden, if_pos ⟨hasked, htopic, by simp [hempty]⟩, hfind]
  dsimp only
  split <;> rfl

/-- **What is said** in its place is the reprompt, behind the directive of the turn and behind what
was to be said before it. -/
theorem response_finish_of_reprompt (houtput : turn.output = some output)
    (h : t.reprompt? settings turn output = some entry) :
    (t.finish settings turn).2.response? =
      some ((t.course settings output).said t.slot (t.repromptText entry)) := by
  rw [t.response_finish settings houtput, body, h]
  rfl

theorem mem_queue_finish_of_reprompt_iff (houtput : turn.output = some output)
    (h : t.reprompt? settings turn output = some entry) :
    entry ∈ (t.finish settings turn).1.queue.entries ↔
      (t.modulesOf settings output).1 = "" ∨
        entry.module ≠ Topic.moduleKey (t.modulesOf settings output).1 := by
  have hmem := (RepromptQueue.of_find?_eq_some (reprompt?_eq_some_iff.mp h).2).1
  rw [queue_finish_of_reprompt houtput h]
  split
  · rename_i hmodule
    simp [RepromptQueue.mem_clearModule_iff, hmem, hmodule]
  · rename_i hmodule
    simp [hmem, not_not.mp hmodule]

/-- The topic of an output is **carried over** from an earlier turn if none has been found, and the
turn is no change of the state. -/
def Carries (settings : TrackerSettings) (t : Tracker) (output : Output) : Prop :=
  t.saveAsked = false ∧ Topic.resolve (t.modulesOf settings output).1 output.topics = none

instance : Decidable (t.Carries settings output) := inferInstanceAs (Decidable (_ ∧ _))

/-- **The module of the reprompt** is the one that is looked up, unless the topic was carried over
or its name is not bare. -/
theorem module_of_reprompt (horderly : t.queue.Orderly)
    (h : t.reprompt? settings turn output = some entry) (hcarries : ¬ t.Carries settings output)
    (hbare : ∀ topic, Topic.resolve (t.modulesOf settings output).1 output.topics = some topic →
      Topic.bare topic = topic) :
    (t.modulesOf settings output).1 ≠ "" ∧
      entry.module = Topic.moduleKey (t.modulesOf settings output).1 := by
  obtain ⟨hmem, hkey⟩ := RepromptQueue.of_find?_eq_some (reprompt?_eq_some_iff.mp h).2
  rw [(orderly_located horderly).module entry hmem, hkey, storedTopic_located, topicAfter]
  cases hresolve : Topic.resolve (t.modulesOf settings output).1 output.topics with
  | some topic =>
    have htopic := hbare topic hresolve
    obtain ⟨hnamed, hmodule⟩ := Topic.moduleOf_resolve hresolve htopic
    refine ⟨hnamed, ?_⟩
    rw [← hmodule, Option.elim_some, RepromptQueue.topicKey, ← Topic.lower_bare, htopic,
      Text.lower_lower]
  | none =>
    -- the topic of the state change belongs to the module of the state change
    have hsave : t.saveAsked = true := by
      by_contra hsave
      exact hcarries ⟨Bool.eq_false_iff.mpr hsave, hresolve⟩
    have hmodule : (t.modulesOf settings output).1 = stateChangeModule := by
      rw [modulesOf, if_pos hsave]
    rw [hmodule, Option.elim_none, if_pos hsave]
    exact ⟨by decide, by decide +kernel⟩

/-! ### Over a whole conversation -/

namespace Round

theorem queue_asked (t : Tracker) (round : Round) : (round.asked t).queue = t.queue :=
  (Command.foldl_onTracker_frame t.start round.commands).1

/-- A round does not depend on what the round before left for one turn only. -/
theorem run_congr {t t' : Tracker} {round : Round} (h : t.start = t'.start) :
    round.run settings t = round.run settings t' := by
  rw [run, run, asked, asked, h]

theorem orderly_run (h : t.queue.Orderly) (round : Round) :
    (round.run settings t).queue.Orderly := by
  have hasked : (round.asked t).queue.Orderly := by rwa [queue_asked]
  rw [run]
  cases round.ending with
  | finished turn => exact orderly_finish settings turn hasked
  | aborted => exact hasked
  | accepted turn =>
    dsimp only
    rwa [queue_finishRemote]

/-- A round **records** a reprompt if what it cuts off is the last prompt, with this text in this
topic. -/
def Records (settings : TrackerSettings) (t : Tracker) (round : Round) (entry : Reprompt) : Prop :=
  ∃ turn prompt, round.ending = .finished turn ∧ interrupts settings turn.input = true ∧
    t.lastPrompt = some prompt ∧ entry = RepromptQueue.entryOf prompt.text prompt.topic

/-- A round **replays** a reprompt if it takes the place of the response. -/
def Replays (settings : TrackerSettings) (t : Tracker) (round : Round) (entry : Reprompt) : Prop :=
  ∃ turn output, round.ending = .finished turn ∧ turn.output = some output ∧
    (round.asked t).reprompt? settings turn output = some entry

variable {round : Round}

/-- When an interruption has been settled, a reprompt was in the queue before, or the round records
it. -/
theorem mem_queue_settled {turn : Turn} (hending : round.ending = .finished turn)
    (h : entry ∈ ((round.asked t).settleInterruption settings turn.input).queue.entries) :
    entry ∈ t.queue.entries ∨ round.Records settings t entry := by
  obtain ⟨hqueue, hprompt, -⟩ := Command.foldl_onTracker_frame t.start round.commands
  rcases (round.asked t).queue_settleInterruption settings turn with
    hsame | ⟨hcut, prompt, hlast, -, hrecord⟩
  · rw [hsame, queue_asked] at h
    exact Or.inl h
  · rw [hrecord] at h
    rcases RepromptQueue.mem_record h with h | h
    · rw [queue_asked] at h
      exact Or.inl h
    · exact Or.inr ⟨turn, prompt, hending, hcut, hprompt.symm.trans hlast, h⟩

theorem mem_queue_run (h : entry ∈ (round.run settings t).queue.entries) :
    entry ∈ t.queue.entries ∨ round.Records settings t entry := by
  rw [run] at h
  cases hending : round.ending with
  | finished turn =>
    rw [hending] at h
    exact mem_queue_settled hending (((round.asked t).entries_finish_sublist settings).subset h)
  | aborted =>
    rw [hending] at h
    exact Or.inl (round.queue_asked t ▸ h)
  | accepted turn =>
    rw [hending] at h
    dsimp only at h
    rw [queue_finishRemote, queue_asked] at h
    exact Or.inl h

theorem mem_queue_of_replays (h : round.Replays settings t entry) :
    entry ∈ t.queue.entries ∨ round.Records settings t entry := by
  obtain ⟨turn, output, hending, -, hreplay⟩ := h
  exact mem_queue_settled hending (mem_of_reprompt? hreplay)

end Round

theorem orderly_after (rounds : List Round) : (after settings {} rounds).queue.Orderly := by
  induction rounds using List.reverseRecOn with
  | nil => exact ⟨Nat.zero_le _, List.nodup_nil, nofun, nofun⟩
  | append_singleton rounds round ih =>
    rw [after, List.foldl_append]
    exact Round.orderly_run ih round

/-- What is in the queue after rounds was there before, or has been recorded in one of them. -/
theorem mem_queue_after {t : Tracker} {rounds : List Round}
    (h : entry ∈ (t.after settings rounds).queue.entries) :
    entry ∈ t.queue.entries ∨ ∃ before round later, rounds = before ++ round :: later ∧
      round.Records settings (t.after settings before) entry := by
  induction rounds using List.reverseRecOn with
  | nil => exact Or.inl h
  | append_singleton rounds round ih =>
    rw [after, List.foldl_append] at h
    rcases Round.mem_queue_run h with h | hrecords
    · rcases ih h with h | ⟨before, other, later, rfl, hrecords⟩
      · exact Or.inl h
      · exact Or.inr ⟨before, other, later ++ [round], by simp, hrecords⟩
    · exact Or.inr ⟨rounds, round, [], rfl, hrecords⟩

/-- **What is gone is not replayed**, unless it has been cut off anew: by an earlier round since
then, or by the one that replays it. -/
theorem exists_records_of_replays {t : Tracker} {rounds : List Round} {round : Round}
    (hgone : entry ∉ t.queue.entries)
    (hreplay : round.Replays settings (t.after settings rounds) entry) :
    ∃ before other later, rounds ++ [round] = before ++ other :: later ∧
      other.Records settings (t.after settings before) entry := by
  rcases Round.mem_queue_of_replays hreplay with hmem | hrecords
  · rcases mem_queue_after hmem with hmem | ⟨before, other, later, rfl, hrecords⟩
    · exact absurd hmem hgone
    · exact ⟨before, other, later ++ [round], by simp, hrecords⟩
  · exact ⟨rounds, round, [], rfl, hrecords⟩

/-- **A reprompt that has been replayed.** In a turn in which a reprompt takes the place of the
response, the reprompt is said. It stays in the queue exactly if the output names no module, or one
that is not the module of the reprompt; and it can do so only if the topic was carried over from an
earlier turn, or if the topic has been found under a name that is not bare. -/
theorem replayed_stays_iff (rounds : List Round) {round : Round}
    (hending : round.ending = .finished turn) (houtput : turn.output = some output)
    (hreplay : (round.asked (after settings {} rounds)).reprompt? settings turn output =
      some entry) :
    let t := round.asked (after settings {} rounds)
    let module := (t.modulesOf settings output).1
    let later := (after settings {} (rounds ++ [round])).queue
    (t.finish settings turn).2.response? =
        some ((t.course settings output).said t.slot (t.repromptText entry)) ∧
      (entry ∈ later.entries ↔ module = "" ∨ entry.module ≠ Topic.moduleKey module) ∧
      (entry ∈ later.entries → t.Carries settings output ∨
        ∃ topic, Topic.resolve module output.topics = some topic ∧ Topic.bare topic ≠ topic) := by
  intro t module later
  have hlater : later = (t.finish settings turn).1.queue := by
    simp only [later, after, List.foldl_append, List.foldl_cons, List.foldl_nil]
    rw [Round.run, hending]
    rfl
  have horderly : t.queue.Orderly := by
    rw [Round.queue_asked]
    exact orderly_after rounds
  have hiff := mem_queue_finish_of_reprompt_iff houtput hreplay
  rw [← hlater] at hiff
  refine ⟨response_finish_of_reprompt houtput hreplay, hiff, fun hstays => ?_⟩
  by_contra hfound
  rw [not_or] at hfound
  obtain ⟨hnamed, hmodule⟩ := module_of_reprompt horderly hreplay hfound.1 fun topic htopic =>
    not_not.mp fun hbare => hfound.2 ⟨topic, htopic, hbare⟩
  rcases hiff.mp hstays with hnone | hother
  · exact hnamed hnone
  · exact hother hmodule

/-- The round of a turn in which this comes in and is answered with this output. -/
def Round.answering (commands : List Command) (input : Input) (output : Output) : Round where
  commands
  ending := .finished { input, output := some output }

/-- A question is asked in one module, and cut off by a call into another one. -/
def cutOff (module : String) (topics : List String) : List Round := [
  .answering [] (.speech "hi")
    { response := "What color?", module := "root", topics := ["~root_ask"] },
  .answering [] (.event "eb-mpu-picked-up-interrupt") { response := "Yes?", module, topics }]

/-- The round in which the conversation goes on in a module, with a reprompt if there is one. -/
def goingOn (module : String) (topics : List String) : Round :=
  .answering [.overrideWithReprompt] (.speech "go on") { response := "Well.", module, topics }

/-- The question, as it is kept to be asked again. -/
def question : Reprompt := { module := "root", topic := "root_ask", text := "What color?" }

/-- Back in the module and topic of the question, the question is asked again and dropped. -/
theorem replayed_gone :
    let rounds := cutOff "side" ["~side_game"]
    question ∈ (after {} {} rounds).queue.entries ∧
      question ∉ (after {} {} (rounds ++ [goingOn "root" ["~root_ask"]])).queue.entries := by
  intro rounds
  refine ⟨by decide +kernel, fun hstays => ?_⟩
  have hiff := (@replayed_stays_iff {} _ _ question rounds (goingOn "root" ["~root_ask"]) rfl rfl
    (by decide +kernel)).2.1
  exact absurd (hiff.mp hstays) (by decide +kernel)

/-- Where the call has led elsewhere without a topic, the topic is still that of the question. So
the question is asked there, and it stays. -/
theorem not_forall_replayed_gone :
    ¬ ∀ (settings : TrackerSettings) (rounds : List Round) (round : Round) (turn : Turn)
      (output : Output) (entry : Reprompt), round.ending = .finished turn →
      turn.output = some output →
      (round.asked (after settings {} rounds)).reprompt? settings turn output = some entry →
      entry ∉ (after settings {} (rounds ++ [round])).queue.entries := by
  intro h
  exact h {} (cutOff "side" []) (goingOn "side" []) _ _ question rfl rfl (by decide +kernel)
    (by decide +kernel)

end Tracker

/-! ### The rounds of a session -/

namespace Session

variable (setup : Setup) (s : Session) (script : TurnScript)

/-- What a turn of a session is to its tracker: a **round**. -/
def round : Tracker.Round where
  commands := accepted script.commands
  ending :=
    if script.abort then .aborted
    else if script.remote then .accepted (s.answeredTurn setup script)
    else .finished (s.answeredTurn setup script)

theorem tracker_runTurn_eq_run :
    (s.runTurn setup script).2.tracker =
      (s.round setup script).run setup.settings.tracker s.tracker := by
  rw [tracker_runTurn, tracker_answeredDesk, Tracker.Round.run, round]
  cases script.abort <;> cases script.remote <;> rfl

/-- What a turn of the past is to the tracker. -/
def PastTurn.round (turn : PastTurn) : Tracker.Round := turn.session.round setup turn.script

variable {setup s}

/-- **The tracker of a session** has gone through the rounds of the turns of its past. What is for
one turn only may differ, as the event of the last turn may have been taken since. -/
theorem Past.start_tracker {past : List PastTurn} (h : Past setup past s) :
    s.tracker.start =
      (Tracker.after setup.settings.tracker {} (past.map (PastTurn.round setup))).start := by
  induction h with
  | new => rfl
  | @turn past s script _ ih =>
    -- a round begins by starting the tracker, so it sees nothing of where they differ
    rw [tracker_runTurn_eq_run, List.map_append, Tracker.after, List.foldl_append]
    exact congrArg Tracker.start (Tracker.Round.run_congr ih)
  | conversation _ _ ih => exact ih
  | @event past s _ ih =>
    have htaken : s.takeEvent.2.tracker.start = s.tracker.start := by
      change s.tracker.takeEvent.2.start = s.tracker.start
      rw [Tracker.takeEvent]
      split <;> rfl
    rwa [htaken]

end Session

end Colloquy

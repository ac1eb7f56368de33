import Colloquy.Proofs.Finish
import Colloquy.Proofs.Queue
import Colloquy.Proofs.Run
import Colloquy.Proofs.SmallLetters

/-!
# What is kept of turns that were cut off

A reprompt enters the queue in one way only: a turn is finished whose input cut off what was being
said, and what was being said is the last prompt at its start. It may be a prompt of either engine,
or one that was put together from a stream; in the course of the turn nothing replaces it, as the
commands of a turn leave it alone and finishing a turn records before it caches. Reprompts leave
the queue in three ways, and all of them take entries away and leave the rest as it is.

So two statements carry everything that holds of a queue over a whole conversation:

* what is recorded is the last prompt of a turn that was **cut off** (`mem_queue_runTurn`);
* recording leaves a queue **orderly**, and so does taking away (`Orderly.record`,
  `Orderly.sublist`).
-/

namespace Colloquy

/-! ### Orderly queues -/

namespace RepromptQueue

/-- A queue is **orderly** if it has room for its reprompts, if no two of them are of one module,
and if each is of the module that its topic names, in small letters. -/
structure Orderly (queue : RepromptQueue) : Prop where
  size : queue.entries.length ≤ 3
  modules : (queue.entries.map Reprompt.module).Nodup
  module : ∀ entry ∈ queue.entries, entry.module = Topic.moduleOf entry.topic
  topic : ∀ entry ∈ queue.entries, Text.lower entry.topic = entry.topic

variable {queue : RepromptQueue}

/-- What is in a queue after recording was in it, or has been recorded. -/
theorem mem_record {text topic : String} {entry : Reprompt}
    (h : entry ∈ (queue.record text topic).entries) :
    entry ∈ queue.entries ∨ entry = entryOf text topic := by
  rw [entries_record] at h
  rcases List.mem_append.mp ((newest_sublist _).subset h) with h | h
  · exact Or.inl (List.mem_of_mem_filter h)
  · exact Or.inr (List.mem_singleton.mp h)

namespace Orderly

theorem record (h : queue.Orderly) (text topic : String) : (queue.record text topic).Orderly where
  size := length_newest_le _
  modules := by
    refine List.Nodup.sublist ((newest_sublist _).map _) ?_
    rw [List.map_append, List.nodup_append]
    refine ⟨h.modules.sublist (List.filter_sublist.map _), by simp, ?_⟩
    rintro module hmodule other hother rfl
    -- the module of the new reprompt has been dropped from the others
    obtain ⟨entry, hentry, rfl⟩ := List.mem_map.mp hmodule
    have hne := (List.mem_filter.mp hentry).2
    simp only [List.map_cons, List.map_nil, List.mem_singleton] at hother
    exact absurd hother (by simpa using hne)
  module entry hentry := by
    rcases mem_record hentry with hentry | rfl
    · exact h.module entry hentry
    · rfl
  topic entry hentry := by
    rcases mem_record hentry with hentry | rfl
    · exact h.topic entry hentry
    · exact Text.lower_lower _

theorem sublist (h : queue.Orderly) {other : RepromptQueue}
    (hsublist : other.entries.Sublist queue.entries) : other.Orderly where
  size := hsublist.length_le.trans h.size
  modules := h.modules.sublist (hsublist.map _)
  module entry hentry := h.module entry (hsublist.subset hentry)
  topic entry hentry := h.topic entry (hsublist.subset hentry)

end Orderly

end RepromptQueue

/-! ### A finished turn -/

namespace Tracker

variable (settings : TrackerSettings) {t : Tracker} (turn : Turn)

theorem orderly_settleInterruption (h : t.queue.Orderly) :
    (t.settleInterruption settings turn.input).queue.Orderly := by
  rcases t.queue_settleInterruption settings turn with hsame | ⟨-, prompt, -, -, hrecord⟩
  · rw [hsame]
    exact h
  · rw [hrecord]
    exact h.record prompt.text prompt.topic

theorem orderly_finish (h : t.queue.Orderly) : (t.finish settings turn).1.queue.Orderly :=
  (orderly_settleInterruption settings turn h).sublist (t.entries_finish_sublist settings)

/-- When an interruption is settled, a reprompt was in the queue before, or is the last prompt, which
has been **cut off**. -/
theorem mem_queue_settleInterruption {entry : Reprompt}
    (h : entry ∈ (t.settleInterruption settings turn.input).queue.entries) :
    entry ∈ t.queue.entries ∨
      interrupts settings turn.input = true ∧ ∃ prompt, t.lastPrompt = some prompt ∧
        Markup.isSpeechless prompt.text = false ∧ entry.text = prompt.text := by
  rcases t.queue_settleInterruption settings turn with hsame | ⟨hcut, prompt, hprompt, hspeech, hrec⟩
  · rw [hsame] at h
    exact Or.inl h
  · rw [hrec] at h
    rcases RepromptQueue.mem_record h with h | rfl
    · exact Or.inl h
    · exact Or.inr ⟨hcut, prompt, hprompt, hspeech, rfl⟩

/-- A finished turn leaves no other reprompts than these. -/
theorem mem_queue_finish {entry : Reprompt}
    (h : entry ∈ (t.finish settings turn).1.queue.entries) :
    entry ∈ t.queue.entries ∨
      interrupts settings turn.input = true ∧ ∃ prompt, t.lastPrompt = some prompt ∧
        Markup.isSpeechless prompt.text = false ∧ entry.text = prompt.text :=
  mem_queue_settleInterruption settings turn ((t.entries_finish_sublist settings).subset h)

/-- Taking the event that is waiting leaves what is remembered. -/
theorem takeEvent_frame (t : Tracker) :
    t.takeEvent.2.queue = t.queue ∧ t.takeEvent.2.lastPrompt = t.lastPrompt := by
  rw [takeEvent]
  split <;> exact ⟨rfl, rfl⟩

end Tracker

/-! ### The input of a turn -/

/-- Taking a turn up promotes its input at most. -/
theorem Escalation.start_input (settings : ArbiterSettings) (e : Escalation) (catalog : Catalog)
    (place : Place) (turn : Turn) :
    (e.start settings catalog place turn).2.input = turn.input ∨
      (e.start settings catalog place turn).2.input = turn.input.promote := by
  rcases hr : turn.input.isEventNamed settings.resumeEvent <;> cases hs : e.stage <;>
    cases ho : e.oneTurn <;> simp [start, opened, withdrawn, hs, hr, ho]

theorem Arbiter.start_input (settings : ArbiterSettings) (catalog : Catalog)
    (conversation : Conversation) (arbiter : Arbiter) (turn : Turn) :
    (arbiter.start settings catalog conversation turn).2.input = turn.input ∨
      (arbiter.start settings catalog conversation turn).2.input = turn.input.promote := by
  cases h : settings.enabled with
  | false =>
    rw [start_of_disabled _ _ _ _ _ h]
    exact Or.inl rfl
  | true =>
    simp only [start, h, if_true]
    cases Owner.first settings (arbiter.claimOf catalog conversation turn) with
    | default => exact Escalation.start_input settings _ catalog arbiter.place turn
    | _ => exact Or.inl rfl

namespace Session

variable (setup : Setup) (s : Session) (script : TurnScript)

theorem input_answeredTurn :
    (s.answeredTurn setup script).input = script.input ∨
      (s.answeredTurn setup script).input = script.input.promote := by
  have h := Arbiter.start_input setup.settings.arbiter setup.catalog
    (script.conversation.getD s.conversation) { s.arbiter with escalation := s.heard script }
    (bareTurn script)
  rw [← openTurn_start] at h
  exact h

/-- Whether the input cuts off what is being said does not change in the course of the turn. -/
theorem interrupts_answeredTurn :
    Tracker.interrupts setup.settings.tracker (s.answeredTurn setup script).input =
      Tracker.interrupts setup.settings.tracker script.input := by
  rcases s.input_answeredTurn setup script with h | h
  · rw [h]
  · rw [h]
    rfl

/-! ### A turn of a session -/

variable {setup s}

theorem tracker_of_finish (habort : script.abort = false) (hremote : script.remote = false) :
    (s.runTurn setup script).2.tracker =
      ((s.answeredDesk setup script).tracker.finish setup.settings.tracker
        (s.answeredTurn setup script)).1 := by
  rw [tracker_runTurn, habort, hremote]
  rfl

theorem orderly_runTurn (h : s.tracker.queue.Orderly) :
    (s.runTurn setup script).2.tracker.queue.Orderly := by
  have hanswered : (s.answeredDesk setup script).tracker.queue.Orderly := by
    rw [(s.remembered_answeredDesk setup script).1]
    exact h
  rw [tracker_runTurn]
  split
  · exact hanswered
  · split
    · rw [Tracker.queue_finishRemote]
      exact hanswered
    · exact Tracker.orderly_finish _ _ hanswered

/-- A reprompt that a turn leaves was there before, or is the last prompt at the start of the turn,
which its input has **cut off**. -/
theorem mem_queue_runTurn {entry : Reprompt}
    (h : entry ∈ (s.runTurn setup script).2.tracker.queue.entries) :
    entry ∈ s.tracker.queue.entries ∨
      Tracker.interrupts setup.settings.tracker script.input = true ∧
        ∃ prompt, s.tracker.lastPrompt = some prompt ∧
          Markup.isSpeechless prompt.text = false ∧ entry.text = prompt.text := by
  obtain ⟨hqueue, hprompt⟩ := s.remembered_answeredDesk setup script
  rw [tracker_runTurn] at h
  rw [← hqueue, ← hprompt, ← interrupts_answeredTurn setup s script]
  split at h
  · exact Or.inl h
  · split at h
    · rw [Tracker.queue_finishRemote] at h
      exact Or.inl h
    · exact Tracker.mem_queue_finish _ _ h

/-! ### Over a whole conversation -/

/-- What holds of the reprompts that are **kept** after the turns of a past. -/
structure Kept (setup : Setup) (past : List PastTurn) (s : Session) : Prop where
  /-- There are at most three. -/
  size : s.tracker.queue.entries.length ≤ 3
  /-- No two of them are of one module. -/
  modules : (s.tracker.queue.entries.map Reprompt.module).Nodup
  /-- Each is of the module that its topic names. -/
  module : ∀ entry ∈ s.tracker.queue.entries, entry.module = Topic.moduleOf entry.topic
  /-- Its topic is in small letters. -/
  topic : ∀ entry ∈ s.tracker.queue.entries, Text.lower entry.topic = entry.topic
  /-- It carries speech. -/
  speech : ∀ entry ∈ s.tracker.queue.entries, Markup.isSpeechless entry.text = false
  /-- It was the last prompt at the start of a turn of the past that cut it off. -/
  heard : ∀ entry ∈ s.tracker.queue.entries, ∃ turn ∈ past,
    Tracker.interrupts setup.settings.tracker turn.script.input = true ∧
      ∃ prompt ∈ turn.session.tracker.lastPrompt, prompt.text = entry.text

/-- What is kept does not depend on anything but the queue. -/
theorem Kept.congr {past : List PastTurn} {other : Session} (h : Kept setup past s)
    (hqueue : other.tracker.queue = s.tracker.queue) : Kept setup past other where
  size := hqueue ▸ h.size
  modules := hqueue ▸ h.modules
  module := hqueue ▸ h.module
  topic := hqueue ▸ h.topic
  speech := hqueue ▸ h.speech
  heard := hqueue ▸ h.heard

theorem Kept.orderly {past : List PastTurn} (h : Kept setup past s) : s.tracker.queue.Orderly :=
  ⟨h.size, h.modules, h.module, h.topic⟩

/-- What is kept after a past is kept after one more **turn**, with what this turn cut off. -/
theorem Kept.runTurn {past : List PastTurn} (h : Kept setup past s) (script : TurnScript) :
    Kept setup (past ++ [⟨s, script⟩]) (s.runTurn setup script).2 := by
  obtain ⟨hsize, hmodules, hmodule, htopic⟩ := orderly_runTurn script h.orderly
  refine ⟨hsize, hmodules, hmodule, htopic, ?_, ?_⟩
  · intro entry hentry
    rcases mem_queue_runTurn script hentry with hbefore | ⟨-, prompt, -, hspeech, htext⟩
    · exact h.speech entry hbefore
    · rw [htext]
      exact hspeech
  · intro entry hentry
    rcases mem_queue_runTurn script hentry with hbefore | ⟨hcut, prompt, hprompt, -, htext⟩
    · obtain ⟨turn, hturn, hheard⟩ := h.heard entry hbefore
      exact ⟨turn, List.mem_append_left _ hturn, hheard⟩
    · exact ⟨⟨s, script⟩, by simp, hcut, prompt, hprompt, htext.symm⟩

theorem Kept.of_past {past : List PastTurn} (h : Past setup past s) : Kept setup past s := by
  induction h with
  | new => exact ⟨Nat.zero_le _, List.nodup_nil, by simp [new], by simp [new], by simp [new],
      by simp [new]⟩
  | turn script _ ih => exact ih.runTurn script
  | conversation _ _ ih => exact ih.congr rfl
  | event _ ih => exact ih.congr (Tracker.takeEvent_frame _).1

variable (s) in
/-- A turn that is not aborted has an output, if its report says what the output counts as. -/
theorem exists_output_of_outputKind (habort : script.abort = false)
    (hkind : (s.runTurn setup script).1.outputKind ≠ none) :
    ∃ output, (s.answeredTurn setup script).output = some output := by
  rw [outputKind_report, habort, Turn.outputKind?] at hkind
  cases houtput : (s.answeredTurn setup script).output with
  | none => exact absurd (by rw [houtput]; rfl) hkind
  | some output => exact ⟨output, rfl⟩

/-- **What is kept over a whole conversation**, after every turn of it: never more than three
reprompts, of different modules, each with speech that a turn of the past has cut off. After a turn
that is finished here with an output, nothing is kept if the topic is a base topic. -/
theorem kept_runTurn {past : List PastTurn} (h : Past setup past s) :
    Kept setup (past ++ [⟨s, script⟩]) (s.runTurn setup script).2 ∧
      (script.abort = false → script.remote = false →
        (s.runTurn setup script).1.outputKind ≠ none →
        setup.settings.tracker.isBase (s.runTurn setup script).2.tracker.storedTopic = true →
        (s.runTurn setup script).2.tracker.queue.entries = []) := by
  refine ⟨Kept.of_past (h.turn script), fun habort hremote hkind hbase => ?_⟩
  obtain ⟨output, houtput⟩ := s.exists_output_of_outputKind script habort hkind
  rw [tracker_of_finish script habort hremote] at hbase ⊢
  exact Tracker.queue_finish_of_base _ _ houtput hbase

/-- The script of a turn in which something is said in a module, by way of one topic. -/
def telling (input : Input) (response module topic : String) : TurnScript :=
  (TurnScript.ofInput input).withOutput (Output.inModule { response } module [topic])

/-- A question is cut off, and the conversation goes elsewhere. -/
def interrupted : Session :=
  ((Session.new.runTurn {} (telling (.speech "hi") "What color?" "root" "~root_ask")).2.runTurn {}
    (telling (.event "eb-mpu-picked-up-interrupt") "Yes?" "side" "~side_game")).2

/-- The question that was cut off is kept after the next turn, and it is gone when the conversation
comes to rest. -/
theorem kept_interrupted :
    let more := telling (.speech "okay") "Nice." "side" "~side_game"
    let rest := telling (.speech "enough") "Sure." "bo" "~bo_heel_cool"
    interrupted.tracker.queue.entries = [⟨"root", "root_ask", "What color?"⟩] ∧
      (∃ past, Kept {} (past ++ [⟨interrupted, more⟩]) (interrupted.runTurn {} more).2) ∧
      (interrupted.runTurn {} rest).2.tracker.queue.entries = [] := by
  intro more rest
  have hpast : Past {} _ interrupted := (Past.new.turn _).turn _
  exact ⟨by decide +kernel, ⟨_, (kept_runTurn more hpast).1⟩,
    (kept_runTurn rest hpast).2 rfl rfl (by decide +kernel) (by decide +kernel)⟩

end Session

end Colloquy

import Colloquy.Proofs.Wording

/-!
# Replaying the prompt

A prompt that is replayed has been said before and may be replayed again, so the turn must not put
anything in its place. But the turn goes on after the replay: other commands come, an output may be
scripted, the input may have cut something off, and the module may change. What holds all of these
off are three marks, which are set by the first replay of a turn and read when the turn is finished:

| mark | what it holds off |
|---|---|
| `repromptSent` | a second replay in this turn |
| `interruptionSettled` | that the prompt is recorded as cut off, and that a reprompt stands in |
| `promptKept` | that what is said becomes the last prompt |

They are set together (`Tracker.HasReplayed`), no command takes them away again, and they leave for
the end of the turn only what has nothing to do with prompts (`Tracker.HasReplayed.finish`). So a
turn that replays is **steady** (`Session.Steady`), and turns that replay one after the other all
speak the same text (`Session.replays_steadily`).
-/

namespace Colloquy

/-! ### Which prompt is replayed -/

/-- A prompt of this source **suits** a wish: one for the remote engine is for a remote prompt, one
for the local engine or for ChatScript is for a local one, and no other wish is for anything. How
the wish is written does not matter, nor do blanks around it. -/
def PromptSource.Suits (source : PromptSource) (wish : Option String) : Prop :=
  ∀ written ∈ wish,
    (Text.lower (Text.trim written) = "remote" → source = .remoteEngine) ∧
      (Text.lower (Text.trim written) ∈ ["local", "chatscript"] → source = .localEngine)

theorem PromptSource.isWanted_iff (source : PromptSource) (wish : Option String) :
    source.isWanted wish = true ↔ source.Suits wish := by
  cases wish with
  | none => exact iff_of_true rfl nofun
  | some written =>
    rw [isWanted, Suits, Option.map_some]
    dsimp only
    simp only [Option.mem_some_iff, forall_eq', List.mem_cons, List.not_mem_nil, or_false]
    by_cases hremote : Text.lower (Text.trim written) = "remote"
    · simp [hremote]
    · by_cases hlocal : Text.lower (Text.trim written) = "local" ∨
          Text.lower (Text.trim written) = "chatscript"
      · simp [hremote, hlocal]
      · simp [hremote, hlocal]

namespace Tracker

variable {t : Tracker} {wish : Option String} {asks : Bool}

/-- A prompt is **at hand** for a wish: it is the last one, it is not empty, and it suits. -/
structure AtHand (t : Tracker) (wish : Option String) (prompt : Prompt) : Prop where
  last : t.lastPrompt = some prompt
  text : prompt.text ≠ ""
  suits : prompt.source.Suits wish

theorem replayable?_eq_some_iff {prompt : Prompt} :
    t.replayable? wish = some prompt ↔ t.AtHand wish prompt := by
  rw [replayable?, Option.filter_eq_some_iff, Bool.and_eq_true, decide_eq_true_eq,
    PromptSource.isWanted_iff]
  constructor
  · rintro ⟨hlast, htext, hsuits⟩
    exact ⟨hlast, htext, hsuits⟩
  · rintro ⟨hlast, htext, hsuits⟩
    exact ⟨hlast, htext, hsuits⟩

theorem replayable?_eq_none_iff :
    t.replayable? wish = none ↔ ∀ prompt, ¬ t.AtHand wish prompt := by
  simp only [Option.eq_none_iff_forall_ne_some, ne_eq, replayable?_eq_some_iff]

/-! ### The marks of a replay -/

/-- The prompt **has been replayed** in this turn; `asks` says whether it was asked for by an event
instead, as it was not at hand. -/
structure HasReplayed (t : Tracker) (asks : Bool) : Prop where
  sent : t.repromptSent = true
  settled : t.interruptionSettled = true
  kept : t.promptKept = true
  event : t.eventPending = asks

/-- **The first replay** of a turn sets all marks, and asks for the prompt if it is not at hand. -/
theorem hasReplayed_replay (hsent : t.repromptSent = false) (hevent : t.eventPending = false) :
    (t.replay wish).2.HasReplayed (t.replayable? wish).isNone := by
  have hsame : ({ t with repromptSent := true, promptKept := true, interruptionSettled := true }
      : Tracker).replayable? wish = t.replayable? wish := rfl
  rw [replay, hsent, if_neg Bool.false_ne_true]
  dsimp only
  rw [hsame]
  cases t.replayable? wish with
  | some prompt => exact ⟨rfl, rfl, rfl, hevent⟩
  | none => exact ⟨rfl, rfl, rfl, rfl⟩

/-- **No command** takes the marks away, and no further replay asks for the prompt. -/
theorem HasReplayed.onTracker (h : t.HasReplayed asks) (command : Command) :
    (command.onTracker t).HasReplayed asks := by
  cases command with
  | sendReprompt wish =>
    have hnothing : (t.replay wish).2 = t := by rw [replay, if_pos h.sent]
    rw [Command.onTracker, hnothing]
    exact h
  | restoreMarkup =>
    obtain ⟨_, _, hrestore⟩ := t.restore_frame
    rw [Command.onTracker, hrestore]
    exact ⟨h.sent, h.settled, h.kept, h.event⟩
  | _ => exact ⟨h.sent, h.settled, h.kept, h.event⟩

theorem HasReplayed.foldl (h : t.HasReplayed asks) (commands : List Command) :
    (commands.foldl Command.onTracker t).HasReplayed asks := by
  induction commands generalizing t with
  | nil => exact h
  | cons command rest ih => exact ih (h.onTracker command)

/-- **Finishing a turn** after a replay leaves the last prompt and the event, and the queue but for
a base topic. -/
theorem HasReplayed.finish (h : t.HasReplayed asks) (settings : TrackerSettings) {turn : Turn}
    {output : Output} (houtput : turn.output = some output) :
    ∃ storedTopic slot prevModule,
      (t.finish settings turn).1 =
        { t with
          storedTopic, slot, prevModule
          overrideAsked := false
          queue := if settings.isBase storedTopic then {} else t.queue } := by
  have hsettled : t.settleInterruption settings turn.input = { t with overrideAsked := false } := by
    rw [settleInterruption, if_pos h.settled]
  -- nothing stands in, so what is located is not changed before the directive
  have hlocated : t.bodied settings turn output = t.located settings turn output := by
    rw [bodied, overridden, located, hsettled, locate_eq]
    simp
  have hkept : (t.ended settings turn output).promptKept = true := by
    rw [ended, hlocated, located, hsettled, locate_eq]
    simp [h.kept]
  refine ⟨t.topicAfter (t.modulesOf settings output).1 output.topics,
    (t.course settings output).slot t.slot, (t.modulesOf settings output).2, ?_⟩
  rw [t.finish_of_some settings houtput, cached, if_pos hkept, ended, hlocated, located, hsettled,
    locate_eq]
  simp only [h.kept, Bool.or_true]
  rfl

end Tracker

/-! ### The first replay of a turn -/

/-- A command that is no replay leaves what a replay looks at and what it sets. -/
theorem Command.onTracker_of_wish?_eq_none {command : Command} (h : command.wish? = none)
    (t : Tracker) :
    (command.onTracker t).repromptSent = t.repromptSent ∧
      (command.onTracker t).eventPending = t.eventPending ∧
      (command.onTracker t).lastPrompt = t.lastPrompt := by
  cases command with
  | sendReprompt wish => cases h
  | restoreMarkup =>
    obtain ⟨_, _, hrestore⟩ := t.restore_frame
    rw [onTracker, hrestore]
    exact ⟨rfl, rfl, rfl⟩
  | _ => exact ⟨rfl, rfl, rfl⟩

/-- Once a replay has been among the commands, its marks **are set**. -/
theorem Tracker.hasReplayed_foldl {t : Tracker} (hsent : t.repromptSent = false)
    (hevent : t.eventPending = false) {commands : List Command} {wish : Option String}
    (h : commands.findSome? Command.wish? = some wish) :
    (commands.foldl Command.onTracker t).HasReplayed (t.replayable? wish).isNone := by
  induction commands generalizing t with
  | nil => cases h
  | cons command rest ih =>
    rw [List.findSome?_cons] at h
    cases hwish : command.wish? with
    | some first =>
      -- this is the first replay, and no later command minds
      rw [hwish, Option.some_inj] at h
      subst h
      cases command with
      | sendReprompt other =>
        cases hwish
        exact (hasReplayed_replay hsent hevent).foldl rest
      | _ => cases hwish
    | none =>
      rw [hwish] at h
      obtain ⟨hsent', hevent', hprompt⟩ := Command.onTracker_of_wish?_eq_none hwish t
      have hsame : (command.onTracker t).replayable? wish = t.replayable? wish := by
        rw [replayable?, replayable?, hprompt]
      rw [List.foldl_cons, ← hsame]
      exact ih (hsent'.trans hsent) (hevent'.trans hevent) h

/-- What a call **wishes** to be replayed, if it is accepted as a replay. -/
def CommandCall.wish? (call : CommandCall) : Option (Option String) :=
  call.command?.bind Command.wish?

/-- What the first replay of a turn **wishes** for, if anything is replayed in it. -/
def TurnScript.wish? (script : TurnScript) : Option (Option String) :=
  (accepted script.commands).findSome? Command.wish?

/-- The **outcome** of the first call that is accepted as a replay. -/
def firstReplay? (calls : List CommandCall) (outcomes : List CommandOutcome) :
    Option CommandOutcome :=
  ((calls.zip outcomes).find? fun reply => reply.1.wish?.isSome).map Prod.snd

/-- **The first replay** has the value of a replay, whatever is called before it and after it. -/
theorem firstReplay?_answerAll (settings : ArbiterSettings) {desk : Desk}
    (hsent : desk.tracker.repromptSent = false) {calls : List CommandCall} {wish : Option String}
    (h : (accepted calls).findSome? Command.wish? = some wish) :
    firstReplay? calls (Session.answerAll settings desk calls).1 =
      some ⟨"send_reprompt", .ok, desk.tracker.replayed wish⟩ := by
  induction calls generalizing desk with
  | nil => cases h
  | cons call rest ih =>
    rw [answerAll_cons]
    dsimp only
    rw [firstReplay?, List.zip_cons_cons, List.find?_cons]
    cases hcall : call.command? with
    | none =>
      obtain ⟨refusal, hrefused⟩ := Desk.answer_of_rejected settings hcall
      rw [accepted, List.filterMap_cons_none hcall] at h
      rw [hrefused, CommandCall.wish?, hcall]
      exact ih hsent h
    | some command =>
      rw [accepted, List.filterMap_cons_some hcall, List.findSome?_cons] at h
      rw [Desk.answer_of_accepted settings _ hcall, CommandCall.wish?, hcall, Option.bind_some]
      cases hwish : command.wish? with
      | some first =>
        rw [hwish, Option.some_inj] at h
        subst h
        cases command with
        | sendReprompt other =>
          cases hwish
          have hvalue := (desk.tracker.replay_eq first).1
          rw [hsent, if_neg Bool.false_ne_true] at hvalue
          simp [Desk.reply, CommandOutcome.of, Command.name, hvalue]
        | _ => cases hwish
      | none =>
        rw [hwish] at h
        obtain ⟨hsent', -, hprompt⟩ :=
          Command.onTracker_of_wish?_eq_none hwish desk.tracker
        have hsame : (desk.obey settings command).tracker.replayed wish =
            desk.tracker.replayed wish := Tracker.replayed_congr hprompt wish
        rw [← hsame]
        exact ih (hsent'.trans hsent) h

/-! ### What is spoken -/

namespace Markup

/-- What is **among the values** that are said stands in what is put together. -/
theorem stands_foldl_appendSpoken {value : String} {values : List String} (h : value ∈ values)
    (text : String) : Stands value (values.foldl Session.appendSpoken text) := by
  have hlonger (text value : String) : text.toList <+: (Session.appendSpoken text value).toList ∧
      value.toList <:+ (Session.appendSpoken text value).toList := by
    rw [Session.appendSpoken]
    split
    · rw [String.toList_append, String.toList_append]
      exact ⟨(List.prefix_append _ _).trans (List.prefix_append _ _), List.suffix_append _ _⟩
    · rw [String.toList_append]
      exact ⟨List.prefix_append _ _, List.suffix_append _ _⟩
  induction values using List.reverseRecOn with
  | nil => cases h
  | append_singleton values other ih =>
    rw [List.foldl_append, List.foldl_cons, List.foldl_nil, Stands]
    rcases List.mem_append.mp h with hmem | hmem
    · exact (ih hmem).trans (hlonger _ other).1.isInfix
    · rw [List.mem_singleton.mp hmem]
      exact (hlonger _ other).2.isInfix

end Markup

/-- A report **speaks** a text: the text stands in what has been put together, behind a directive or
none. Where the markup is restored, restore directives may have lost their slot in the whole. -/
def Report.Speaks (r : Report) (script : TurnScript) (text : String) : Prop :=
  ∃ directive whole, Markup.Stands text whole ∧
    (r.response = some (directive ++ whole) ∨
      script.Restores ∧ ∃ slot : Slot, r.response = some (directive ++
        Text.replaceAll (Markup.restore slot) (Markup.restore none) whole))

/-- A report is of a turn that **replays** a text: it is the value of the first replay, and it is
spoken unless the turn is aborted. -/
structure Report.Replays (r : Report) (script : TurnScript) (text : String) : Prop where
  outcome : firstReplay? script.commands r.commands = some ⟨"send_reprompt", .ok, text⟩
  speaks : script.abort = false → r.Speaks script text

namespace Session

/-- The event by which a prompt is **asked for** that is not at hand. -/
def askingEvent : Input :=
  (Input.event "eb-reprompt").withVariable "$eb_reprompt_source" "repromptModule"

variable (setup : Setup) (s : Session) {script : TurnScript} {wish : Option String}

theorem replays_of_wish? (h : script.wish? = some wish) : script.Replays := by
  obtain ⟨command, hcommand, hwish⟩ := List.exists_of_findSome?_eq_some h
  exact ⟨command, hcommand, by rw [hwish]; rfl⟩

/-- Nothing **stands in** where anything is replayed. -/
theorem standIn?_of_replays (h : script.Replays) : s.standIn? setup script = none :=
  if_neg fun hstands => hstands.2.1 h

/-- What is replayed is **said**. -/
theorem replayed_mem_spoken (h : script.wish? = some wish) :
    s.tracker.replayed wish ∈ s.spoken setup script := by
  rw [spoken_eq, Tracker.mem_values_iff]
  exact Or.inr ⟨rfl, wish, h, rfl⟩

theorem stands_composed (h : script.wish? = some wish) :
    Markup.Stands (s.tracker.replayed wish) (s.composed setup script) := by
  rw [← assembled_eq_composed, assembled]
  exact Markup.stands_foldl_appendSpoken (s.replayed_mem_spoken setup h) _

/-- So there is **an output** in the end. -/
theorem exists_output_of_replays (h : script.wish? = some wish) :
    ∃ output, (s.answeredTurn setup script).output = some output := by
  refine Option.ne_none_iff_exists'.mp fun hnone => ?_
  have hsilent := (s.output_answeredTurn setup script).2 hnone
  exact List.ne_nil_of_mem (s.replayed_mem_spoken setup h) hsilent

/-- The marks of a replay are **set** when the commands of a turn have been answered. -/
theorem hasReplayed_answeredDesk (h : script.wish? = some wish) :
    (s.answeredDesk setup script).tracker.HasReplayed (s.tracker.replayable? wish).isNone := by
  rw [tracker_answeredDesk]
  exact Tracker.hasReplayed_foldl rfl rfl h

/-! ### A turn -/

variable (script wish) in
/-- A turn is **steady** in replaying to a wish. -/
structure Steady : Prop where
  /-- A prompt that is at hand is replayed, and nothing more is to come. -/
  replays : ∀ prompt, s.tracker.AtHand wish prompt →
    firstReplay? script.commands (s.runTurn setup script).1.commands =
        some ⟨"send_reprompt", .ok, prompt.text⟩ ∧
      (s.runTurn setup script).2.takeEvent.1 = none
  /-- A prompt that is not is asked for, unless the turn is aborted, and until it comes a curious
  look stands for it. -/
  asks : (∀ prompt, ¬ s.tracker.AtHand wish prompt) →
    firstReplay? script.commands (s.runTurn setup script).1.commands =
        some ⟨"send_reprompt", .ok, StockLine.curiousAnimation.text⟩ ∧
      (s.runTurn setup script).2.takeEvent.1 = if script.abort then none else some askingEvent
  /-- It is asked for once. -/
  once : (s.runTurn setup script).2.takeEvent.2.takeEvent.1 = none
  /-- The last prompt stands. -/
  prompt : (s.runTurn setup script).2.tracker.lastPrompt = s.tracker.lastPrompt
  /-- The queue is cleared in a base topic, and else nothing is recorded in it or dropped. -/
  queue : (s.runTurn setup script).2.tracker.queue =
    if script.abort = false ∧
        setup.settings.tracker.isBase (s.runTurn setup script).2.tracker.storedTopic then {}
    else s.tracker.queue
  /-- No reprompt takes the place of the response. -/
  override : s.reprompted? setup script = none
  /-- What has been put together is said, behind the directive of the turn. -/
  response : script.abort = false → (s.runTurn setup script).1.response = some (
    if s.ComesBack setup script then
      Markup.save none ++ Text.replaceAll (Markup.restore s.tracker.slot) (Markup.restore none)
        (s.composed setup script)
    else if s.Leaves setup script then
      Markup.save s.tracker.slot.toggled ++ s.composed setup script
    else s.composed setup script)

/-- The tracker **after a turn** with a replay. -/
theorem tracker_runTurn_of_replays (hremote : script.remote = false)
    (hwish : script.wish? = some wish) :
    let later := (s.runTurn setup script).2.tracker
    later.lastPrompt = s.tracker.lastPrompt ∧
      later.eventPending = ((s.tracker.replayable? wish).isNone && !script.abort) ∧
      later.queue =
        if script.abort = false ∧ setup.settings.tracker.isBase later.storedTopic then {}
        else s.tracker.queue := by
  intro later
  have hreplayed := s.hasReplayed_answeredDesk setup hwish
  obtain ⟨hqueue, hprompt⟩ := s.remembered_answeredDesk setup script
  cases habort : script.abort with
  | true =>
    have hlater : later = (s.answeredDesk setup script).tracker.abort :=
      (s.tracker_runTurn setup script).trans (if_pos habort)
    rw [hlater, if_neg fun h => Bool.noConfusion h.1]
    exact ⟨hprompt, (Bool.and_false _).symm, hqueue⟩
  | false =>
    obtain ⟨output, houtput⟩ := s.exists_output_of_replays setup hwish
    obtain ⟨storedTopic, slot, prevModule, hfinish⟩ :=
      hreplayed.finish setup.settings.tracker houtput
    have hlater : later = _ := (tracker_of_finish script habort hremote).trans hfinish
    rw [hlater]
    refine ⟨hprompt, ?_, ?_⟩
    · simp [hreplayed.event]
    · simp [hqueue]

/-- The value of the **first replay** of a turn. -/
theorem firstReplay?_runTurn (hwish : script.wish? = some wish) :
    firstReplay? script.commands (s.runTurn setup script).1.commands =
      some ⟨"send_reprompt", .ok, s.tracker.replayed wish⟩ := by
  have hopened := s.tracker_openedDesk setup script
  have hsent : (s.openedDesk setup script).tracker.repromptSent = false := by
    rw [hopened]
    rfl
  have hprompt : (s.openedDesk setup script).tracker.lastPrompt = s.tracker.lastPrompt := by
    rw [hopened]
    rfl
  rw [← Tracker.replayed_congr hprompt wish]
  exact firstReplay?_answerAll setup.settings.arbiter hsent hwish

/-- Which event **can be taken** is told by the tracker. -/
theorem takeEvent_eq (s : Session) :
    s.takeEvent.1 = (if s.tracker.eventPending then some askingEvent else none) ∧
      s.takeEvent.2.takeEvent.1 = none := by
  rw [takeEvent, Tracker.takeEvent]
  cases h : s.tracker.eventPending with
  | true => exact ⟨rfl, rfl⟩
  | false =>
    refine ⟨rfl, ?_⟩
    rw [takeEvent, Tracker.takeEvent]
    simp [h]

theorem reprompted?_of_replays (hremote : script.remote = false)
    (hwish : script.wish? = some wish) : s.reprompted? setup script = none := by
  obtain ⟨output, houtput⟩ := s.exists_output_of_replays setup hwish
  rw [reprompted?, hremote, if_neg Bool.false_ne_true, houtput, Option.bind_some,
    reprompt?_answeredDesk houtput, s.standIn?_of_replays setup (replays_of_wish? hwish)]

/-- **What is said** where anything is replayed. -/
theorem response_of_replays (habort : script.abort = false) (hremote : script.remote = false)
    (hwish : script.wish? = some wish) :
    (s.runTurn setup script).1.response = some (
      if s.ComesBack setup script then
        Markup.save none ++ Text.replaceAll (Markup.restore s.tracker.slot) (Markup.restore none)
          (s.composed setup script)
      else if s.Leaves setup script then
        Markup.save s.tracker.slot.toggled ++ s.composed setup script
      else s.composed setup script) := by
  obtain ⟨output, houtput⟩ := s.exists_output_of_replays setup hwish
  rw [response_of_output habort houtput, wording,
    s.standIn?_of_replays setup (replays_of_wish? hwish), hremote, if_neg Bool.false_ne_true]

/-- **A turn that replays** is steady. -/
theorem steady_of_wish? (hremote : script.remote = false) (hwish : script.wish? = some wish) :
    s.Steady setup script wish := by
  obtain ⟨hprompt, hevent, hqueue⟩ := s.tracker_runTurn_of_replays setup hremote hwish
  obtain ⟨htaken, honce⟩ := takeEvent_eq (s.runTurn setup script).2
  rw [hevent] at htaken
  exact {
    replays prompt hhand := by
      have hreplayable := Tracker.replayable?_eq_some_iff.mpr hhand
      rw [s.firstReplay?_runTurn setup hwish, htaken, Tracker.replayed, hreplayable]
      exact ⟨rfl, rfl⟩
    asks hnone := by
      have hreplayable := Tracker.replayable?_eq_none_iff.mpr hnone
      rw [s.firstReplay?_runTurn setup hwish, htaken, Tracker.replayed, hreplayable]
      refine ⟨rfl, ?_⟩
      cases script.abort <;> rfl
    once := honce
    prompt := hprompt
    queue := hqueue
    override := s.reprompted?_of_replays setup hremote hwish
    response habort := s.response_of_replays setup habort hremote hwish }

/-! ### Turns that replay one after the other -/

/-- What is replayed is **spoken** in a turn that is not aborted. -/
theorem speaks_of_wish? (habort : script.abort = false) (hremote : script.remote = false)
    (hwish : script.wish? = some wish) :
    (s.runTurn setup script).1.Speaks script (s.tracker.replayed wish) := by
  have hstands := s.stands_composed setup hwish
  have hresponse := s.response_of_replays setup habort hremote hwish
  by_cases hback : s.ComesBack setup script
  · rw [if_pos hback] at hresponse
    exact ⟨Markup.save none, _, hstands, Or.inr ⟨hback.1, s.tracker.slot, hresponse⟩⟩
  · rw [if_neg hback] at hresponse
    by_cases hleaves : s.Leaves setup script
    · rw [if_pos hleaves] at hresponse
      exact ⟨_, _, hstands, Or.inl hresponse⟩
    · rw [if_neg hleaves, ← String.empty_append (s := s.composed setup script)] at hresponse
      exact ⟨"", _, hstands, Or.inl hresponse⟩

/-- **Replaying is steady**, in every session, whether it can be reached or not. In a turn that is
not answered by the remote engine, the first replay says the last prompt if it is at hand, and else
asks for it, and the turn keeps everything that a later replay depends on. So any number of such
turns, one after the other and all to the same wish, replay one and the same text. -/
theorem replays_steadily :
    (∀ (script : TurnScript) (wish : Option String), script.remote = false →
      script.wish? = some wish → s.Steady setup script wish) ∧
    ∀ (scripts : List TurnScript) (wish : Option String),
      (∀ script ∈ scripts, script.remote = false ∧ script.wish? = some wish) →
      List.Forall₂ (fun script (r : Report) => r.Replays script (s.tracker.replayed wish))
        scripts (s.runTurns setup scripts).1 := by
  refine ⟨fun script wish hremote hwish => s.steady_of_wish? setup hremote hwish, ?_⟩
  intro scripts wish hscripts
  induction scripts generalizing s with
  | nil => exact .nil
  | cons script rest ih =>
    obtain ⟨hremote, hwish⟩ := hscripts script List.mem_cons_self
    -- the last prompt stands, so the others replay the same
    have hsame := Tracker.replayed_congr (s.steady_of_wish? setup hremote hwish).prompt wish
    rw [runTurns_cons]
    refine .cons ⟨s.firstReplay?_runTurn setup hwish, fun habort =>
      s.speaks_of_wish? setup habort hremote hwish⟩ ?_
    rw [← hsame]
    exact ih _ fun other hother => hscripts other (List.mem_cons_of_mem _ hother)

/-- The prompt is replayed in a turn that does everything to be rid of it: the input cuts it off, a
reprompt is to stand in, and the output leads into another module. -/
def pressing : TurnScript :=
  ((telling (.event "eb-mpu-picked-up-interrupt") "Yes?" "side" "~side_game").withCommand
    (Command.sendReprompt none).call).withCommand Command.overrideWithReprompt.call

/-- The remote engine is to be heard again. -/
def demanding : TurnScript :=
  (TurnScript.ofInput (.speech "what?")).withCommand (Command.sendReprompt (some " Remote ")).call

/-- The question is asked again and again, by the turn that presses on as by the one behind it. It
is not at hand for a wish for the remote engine, which is asked for it. -/
theorem replays_steadily_asked :
    let reports := (asked.runTurns {} [pressing, again]).1
    List.Forall₂ (fun script (r : Report) => r.Replays script "What color?") [pressing, again]
        reports ∧
      (asked.runTurn {} pressing).2.tracker.queue = {} ∧
      (asked.runTurn {} demanding).2.takeEvent.1 = some askingEvent := by
  intro reports
  have hwish : ∀ script ∈ [pressing, again], script.remote = false ∧ script.wish? = some none := by
    decide
  have hdemand : demanding.wish? = some (some "Remote") := by decide
  have hlocal : asked.tracker.replayable? (some "Remote") = none := by decide +kernel
  have htext : asked.tracker.replayed none = "What color?" := by decide +kernel
  obtain ⟨hsteady, hrun⟩ := asked.replays_steadily {}
  have hspoken := hrun [pressing, again] none hwish
  rw [htext] at hspoken
  refine ⟨hspoken, ?_, ?_⟩
  · rw [(hsteady pressing none rfl (by decide)).queue]
    decide +kernel
  · exact ((hsteady demanding _ rfl hdemand).asks (Tracker.replayable?_eq_none_iff.mp hlocal)).2

end Session

end Colloquy

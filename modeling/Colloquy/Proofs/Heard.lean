import Colloquy.Proofs.Interruption
import Colloquy.Proofs.Spoken
import Colloquy.Proofs.Tags

/-!
# What is said again

The tracker remembers texts in two places, as the last prompt and as reprompts, and both may be said
again in a later turn. A text that is remembered has been a response, without the directive that was
put in front of it, or is made of such texts where an answer came in a stream. So it can carry
directives that were in the response already.

A remembered text is **heard** (`Markup.Heard`): it ends outside of a tag, so that what follows it
is read as it stands, and no save directive is in it. As long as the scripts have no opening bracket
in their texts, this is so after any conversation (`Past.clean`), and the way to it goes along the
turn: what is scripted is plain, the lines of the engine are quiet, the values of commands are heard,
and so is what is put together from all of these (`heard_assembled`), or said in its place
(`Clean.body`).
-/

namespace Colloquy

/-! ### Texts that are kept -/

namespace Markup

/-- A text that may be said **again**: it ends outside of a tag, and saves nothing. -/
structure Heard (s : String) : Prop where
  closed : Closed s
  save : ∀ slot, (save slot).toList ∉ tags s

/-- A text that ends outside of a tag and moves nothing. -/
structure Quiet (s : String) : Prop extends Heard s where
  restore : ∀ slot, (restore slot).toList ∉ tags s

theorem save_ne_restore (slot other : Option Slot) : (save slot).toList ≠ (restore other).toList :=
  fun h => by
    have hletter := congrArg commandLetter h
    rw [commandLetter_save, commandLetter_restore] at hletter
    exact absurd hletter (by decide)

theorem quiet_of_not_mem {s : String} (h : '<' ∉ s.toList) : Quiet s := by
  obtain ⟨htags, hclosed⟩ := tags_of_not_mem h
  exact ⟨⟨hclosed, by simp [htags]⟩, by simp [htags]⟩

/-- A tag that commands something else than saving or restoring is quiet. -/
theorem quiet_of_commandLetter {s : String} (h : IsTag s.toList)
    (hletter : commandLetter s.toList = some 'a') : Quiet s := by
  obtain ⟨htags, hclosed⟩ := tags_of_isTag h
  refine ⟨⟨hclosed, fun slot hmem => ?_⟩, fun slot hmem => ?_⟩
  · rw [htags, List.mem_singleton] at hmem
    rw [← hmem, commandLetter_save] at hletter
    exact absurd hletter (by decide)
  · rw [htags, List.mem_singleton] at hmem
    rw [← hmem, commandLetter_restore] at hletter
    exact absurd hletter (by decide)

theorem quiet_stock (stock : StockLine) : Quiet stock.text := by
  cases stock with
  | idleAnimation => exact quiet_of_commandLetter isTag_idleAnimation commandLetter_idleAnimation
  | curiousAnimation =>
    exact quiet_of_commandLetter isTag_curiousAnimation commandLetter_curiousAnimation
  | fallbackRepeat => exact quiet_of_not_mem (by simp [StockLine.text])

theorem heard_restore (slot : Option Slot) : Heard (restore slot) := by
  obtain ⟨htags, hclosed⟩ := tags_of_isTag (isTag_restore slot)
  refine ⟨hclosed, fun other hmem => ?_⟩
  rw [htags, List.mem_singleton] at hmem
  exact save_ne_restore other slot hmem

/-! ### Joining texts -/

theorem Heard.append {s s' : String} (h : Heard s) (h' : Heard s') : Heard (s ++ s') := by
  refine ⟨h.closed.append h'.closed, fun slot hmem => ?_⟩
  rw [tags_append h.closed, List.mem_append] at hmem
  rcases hmem with hmem | hmem
  · exact h.save slot hmem
  · exact h'.save slot hmem

theorem tags_space_append (s : String) : tags (" " ++ s) = tags s ∧ (Closed s → Closed (" " ++ s)) := by
  obtain ⟨htags, hclosed⟩ := tags_of_not_mem (s := " ") (by simp)
  rw [tags_append hclosed, htags]
  exact ⟨rfl, hclosed.append⟩

/-- Whether or not a space is put between two texts, their tags are the tags of both. -/
theorem tags_append_spaced {s s' : String} (h : Closed s) :
    tags (s ++ " " ++ s') = tags s ++ tags s' ∧ (Closed s' → Closed (s ++ " " ++ s')) := by
  obtain ⟨htags, hclosed⟩ := tags_space_append s'
  rw [String.append_assoc, tags_append h, htags]
  exact ⟨rfl, fun h' => h.append (hclosed h')⟩

theorem tags_joinSpeech {s s' : String} (h : Closed s) (h' : Closed s') :
    tags (Engine.joinSpeech s s') = tags s ++ tags s' ∧ Closed (Engine.joinSpeech s s') := by
  rw [Engine.joinSpeech]
  split
  · rename_i hempty
    subst hempty
    exact ⟨rfl, h'⟩
  · exact ⟨(tags_append_spaced h).1, (tags_append_spaced h).2 h'⟩

theorem tags_appendSpoken {s s' : String} (h : Closed s) (h' : Closed s') :
    tags (Session.appendSpoken s s') = tags s ++ tags s' ∧ Closed (Session.appendSpoken s s') := by
  rw [Session.appendSpoken]
  split
  · exact ⟨(tags_append_spaced h).1, (tags_append_spaced h).2 h'⟩
  · exact ⟨tags_append h s', h.append h'⟩

/-- A text that is put together from pieces has the tags of the pieces. -/
theorem tags_foldl {join : String → String → String}
    (hjoin : ∀ s s', Closed s → Closed s' → tags (join s s') = tags s ++ tags s' ∧ Closed (join s s'))
    {s : String} (h : Closed s) {pieces : List String} (hpieces : ∀ piece ∈ pieces, Closed piece) :
    tags (pieces.foldl join s) = tags s ++ pieces.flatMap tags ∧ Closed (pieces.foldl join s) := by
  induction pieces generalizing s with
  | nil => exact ⟨by simp, h⟩
  | cons piece rest ih =>
    obtain ⟨htags, hclosed⟩ := hjoin s piece h (hpieces piece List.mem_cons_self)
    obtain ⟨htags', hclosed'⟩ := ih hclosed fun p hp => hpieces p (List.mem_cons_of_mem _ hp)
    rw [List.foldl_cons, htags', htags]
    exact ⟨by simp, hclosed'⟩

/-! ### What a turn says of its body -/

section Course

variable (course : Tracker.Course) (slot : Slot) {body : String}

/-- The **prompt** of a turn is its body, in which the own restore directive of a visit that was none
names no slot any more. -/
theorem mem_tags_prompt (other : Slot) :
    (restore other).toList ∈ tags (course.prompt slot body) ↔
      (restore other).toList ∈ tags body ∧ ¬ (course = .collapsed ∧ other = slot.toggled) := by
  cases course with
  | collapsed =>
    rw [Tracker.Course.prompt,
      (tags_replaceAll (isTag_restore (some slot.toggled)) (isTag_restore none) body).1, List.mem_map]
    constructor
    · rintro ⟨tag, htag, heq⟩
      split at heq
      · exact absurd (toList_restore_inj.mp heq) (by simp)
      · rename_i hne
        subst heq
        exact ⟨htag, fun h => hne (by rw [h.2])⟩
    · rintro ⟨htag, hne⟩
      refine ⟨_, htag, if_neg fun heq => hne ⟨rfl, ?_⟩⟩
      exact Option.some_inj.mp (toList_restore_inj.mp heq)
  | plain | saved => simp [Tracker.Course.prompt]

theorem heard_prompt (h : Heard body) : Heard (course.prompt slot body) := by
  cases course with
  | collapsed =>
    obtain ⟨htags, hclosed⟩ :=
      tags_replaceAll (isTag_restore (some slot.toggled)) (isTag_restore none) body
    refine ⟨hclosed h.closed, fun other hmem => ?_⟩
    rw [Tracker.Course.prompt, htags, List.mem_map] at hmem
    obtain ⟨tag, htag, heq⟩ := hmem
    split at heq
    · exact save_ne_restore other none heq.symm
    · exact h.save other (heq ▸ htag)
  | plain | saved => exact h

/-- **What is said** is the prompt behind the directive of the course. -/
theorem mem_tags_said (tag : List Char) :
    tag ∈ tags (course.said slot body) ↔
      (course = .saved ∧ tag = (save slot.toggled).toList) ∨
      (course = .collapsed ∧ tag = (save none).toList) ∨ tag ∈ tags (course.prompt slot body) := by
  cases course with
  | plain => simp [Tracker.Course.said, Tracker.Course.prompt]
  | collapsed =>
    obtain ⟨htags, hclosed⟩ := tags_of_isTag (isTag_save none)
    rw [Tracker.Course.said, tags_append hclosed, htags]
    simp
  | saved =>
    obtain ⟨htags, hclosed⟩ := tags_of_isTag (isTag_save (some slot.toggled))
    rw [Tracker.Course.said, tags_append hclosed, htags]
    simp [Tracker.Course.prompt]

end Course

end Markup

/-! ### Scripts without opening brackets -/

/-- A script is **plain** if no text in it has an opening bracket: what comes in, what is answered,
the rules of the engine, and the arguments of commands. -/
structure TurnScript.Plain (script : TurnScript) : Prop where
  input : '<' ∉ script.input.text.toList
  response : ∀ output ∈ script.output, '<' ∉ output.response.toList
  rules : ∀ rule text, script.engine.rules.get? rule = some text → '<' ∉ text.toList
  arguments : ∀ call ∈ script.commands, ∀ argument ∈ call.argument, '<' ∉ argument.toList

/-- A script in which something is told is plain if what comes in and what is told are. -/
theorem TurnScript.plain_telling {input : Input} {response module topic : String}
    (hinput : '<' ∉ input.text.toList) (hresponse : '<' ∉ response.toList) :
    (Session.telling input response module topic).Plain where
  input := hinput
  response output houtput := by
    cases houtput
    exact hresponse
  rules rule text htext := by
    have hempty : (Dict.empty : Dict String).get? rule = some text := htext
    rw [Dict.get?_empty] at hempty
    cases hempty
  arguments := nofun

theorem TurnScript.Plain.withCommand {script : TurnScript} (h : script.Plain) {call : CommandCall}
    (hcall : call.argument = none) : (script.withCommand call).Plain where
  input := h.input
  response := h.response
  rules := h.rules
  arguments other hother argument hargument := by
    rcases List.mem_append.mp hother with hother | hother
    · exact h.arguments other hother argument hargument
    · rw [List.mem_singleton.mp hother, hcall] at hargument
      cases hargument

/-- Markup is **restored** in a turn of this script. -/
def TurnScript.Restores (script : TurnScript) : Prop := .restoreMarkup ∈ accepted script.commands

instance (script : TurnScript) : Decidable script.Restores :=
  inferInstanceAs (Decidable (_ ∈ _))

theorem Text.mem_of_mem_trimChars {c : Char} {s : List Char} (h : c ∈ trimChars s) : c ∈ s := by
  rw [trimChars, List.mem_reverse] at h
  exact (List.dropWhile_sublist _).subset (List.mem_reverse.mp ((List.dropWhile_sublist _).subset h))

namespace Command

/-- Whatever command has been read, it has no other **argument** than this. -/
def Carries (argument : Option String) (read : Except Refusal Command) : Prop :=
  ∀ command, read = .ok command → ∀ text ∈ command.argument?, text ∈ argument

theorem carries_ite {argument : Option String} {p : Prop} [Decidable p]
    {read other : Except Refusal Command} (h : Carries argument read)
    (h' : Carries argument other) : Carries argument (if p then read else other) := by
  split
  · exact h
  · exact h'

theorem carries_error (argument : Option String) (refusal : Refusal) :
    Carries argument (.error refusal) := by
  rintro command ⟨⟩

theorem carries_ok {argument : Option String} {command : Command}
    (h : ∀ text ∈ command.argument?, text ∈ argument) : Carries argument (.ok command) := by
  rintro _ ⟨⟩
  exact h

theorem carries_of (name : String) (argument : Option String) :
    Carries (argumentOf argument) (of name argument) := by
  rw [of]
  repeat' apply carries_ite
  -- two commands have an argument at all
  rotate_left 6
  · cases argumentOf argument with
    | none => exact carries_error _ _
    | some given => exact carries_ok fun text htext => htext
  rotate_left 1
  · exact carries_ok fun text htext => htext
  all_goals
    first
    | exact carries_error _ _
    | exact carries_ok nofun

/-- The argument of a command that is **accepted** is one of a call, without the blanks around it. -/
theorem argument_accepted {calls : List CommandCall} {command : Command}
    (h : command ∈ accepted calls) {text : String} (htext : text ∈ command.argument?) :
    ∃ call ∈ calls, ∃ given ∈ call.argument, text = Text.trim given := by
  obtain ⟨call, hcall, haccepted⟩ := List.mem_filterMap.mp h
  have hof : of call.name call.argument = .ok command := by
    rw [CommandCall.command?] at haccepted
    cases hread : of call.name call.argument with
    | error refusal => rw [hread] at haccepted; cases haccepted
    | ok other => rw [hread] at haccepted; exact congrArg _ (Option.some_inj.mp haccepted)
  have hmem := carries_of call.name call.argument command hof text htext
  rw [argumentOf] at hmem
  obtain ⟨given, hgiven, rfl⟩ := Option.map_eq_some_iff.mp (Option.filter_eq_some_iff.mp hmem).1
  exact ⟨call, hcall, given, hgiven, rfl⟩

/-- What is said before a reprompt is what some command of the turn has set. -/
theorem lead_foldl (t : Tracker) (commands : List Command) :
    (commands.foldl onTracker t).lead = t.lead ∨
      .prependReprompt (commands.foldl onTracker t).lead ∈ commands := by
  rw [(foldl_onTracker_asked t commands).2.2]
  cases hlast : (commands.filterMap lead?).getLast? with
  | none => exact Or.inl rfl
  | some text =>
    obtain ⟨command, hmem, htext⟩ := List.mem_filterMap.mp (List.mem_of_getLast? hlast)
    cases command with
    | prependReprompt given =>
      cases htext
      exact Or.inr hmem
    | _ => cases htext

end Command

namespace Session

variable (setup : Setup) (s : Session) (script : TurnScript)

theorem lead_answeredDesk (h : script.Plain) :
    '<' ∉ (s.answeredDesk setup script).tracker.lead.toList := by
  rw [tracker_answeredDesk]
  rcases Command.lead_foldl s.tracker.start (accepted script.commands) with hsame | hmem
  · rw [hsame]
    simp [Tracker.start]
  · obtain ⟨call, hcall, given, hgiven, htext⟩ := Command.argument_accepted hmem rfl
    rw [htext, Text.toList_trim]
    exact fun h' => h.arguments call hcall given hgiven (Text.mem_of_mem_trimChars h')

/-! ### What is put together -/

/-- The **values** that the commands of a turn say are told from the tracker before it. -/
theorem spoken_eq :
    s.spoken setup script = s.tracker.start.values (accepted script.commands) := by
  rw [spoken, answerAll_spoken, tracker_openedDesk]

theorem speaks_answeredDesk :
    (s.answeredDesk setup script).engine.Speaks script.engine.rules := by
  have hfresh : ({ script := script.engine } : Engine).Speaks script.engine.rules :=
    ⟨rfl, fun line hline => by cases hline⟩
  rw [answeredDesk_eq]
  exact Command.speaks_foldl hfresh _

/-- The text of a turn that has been **put together** when its commands have been answered. -/
def assembled : String :=
  (s.spoken setup script).foldl appendSpoken
    ((s.answeredDesk setup script).engine.lines.foldl Engine.joinSpeech
      (script.output.elim "" Output.response))

/-- An output says what has been put together, and without one nothing has been said. -/
theorem output_answeredTurn :
    (∀ output ∈ (s.answeredTurn setup script).output, output.response = s.assembled setup script) ∧
      ((s.answeredTurn setup script).output = none → s.spoken setup script = []) := by
  have hengine : ∀ output ∈ (s.answeredDesk setup script).engine.applyTo script.output,
      output.response = (s.answeredDesk setup script).engine.lines.foldl Engine.joinSpeech
        (script.output.elim "" Output.response) := by
    intro output houtput
    rw [Engine.applyTo] at houtput
    split at houtput
    · cases houtput
    · cases houtput
      cases script.output <;> rfl
  have hnone : (s.answeredDesk setup script).engine.applyTo script.output = none →
      (s.answeredDesk setup script).engine.lines = [] ∧ script.output = none := by
    intro h
    rw [Engine.applyTo] at h
    split at h
    · rename_i hnothing
      exact ⟨hnothing.2.1, Option.isNone_iff_eq_none.mp hnothing.1⟩
    · cases h
  rw [answeredTurn, withSpoken, assembled]
  dsimp only
  split
  · rename_i hspoken
    rw [hspoken]
    exact ⟨hengine, fun _ => rfl⟩
  · -- what is said makes an output where there was none
    refine ⟨fun output houtput => ?_, fun hnone => absurd hnone (Option.some_ne_none _)⟩
    cases houtput
    cases hout : (s.answeredDesk setup script).engine.applyTo script.output with
    | some output =>
      dsimp only [Option.getD_some]
      rw [hengine output hout]
    | none =>
      obtain ⟨hlines, hscript⟩ := hnone hout
      rw [hlines, hscript]
      rfl

end Session

/-! ### The tracker -/

namespace Tracker

/-- A tracker is **clean** if all texts are heard that it may have said again. -/
structure Clean (t : Tracker) : Prop where
  prompt : ∀ prompt ∈ t.lastPrompt, Markup.Heard prompt.text
  queue : ∀ entry ∈ t.queue.entries, Markup.Heard entry.text

variable {settings : TrackerSettings} {t : Tracker} {turn : Turn} {output : Output}

/-- What is said before a reprompt changes nothing about its tags. -/
theorem tags_repromptText (h : '<' ∉ t.lead.toList) (entry : Reprompt) :
    Markup.tags (t.repromptText entry) = Markup.tags entry.text ∧
      (Markup.Closed entry.text → Markup.Closed (t.repromptText entry)) := by
  obtain ⟨htags, hclosed⟩ := Markup.tags_of_not_mem h
  rw [repromptText]
  split
  · exact ⟨rfl, id⟩
  · rw [(Markup.tags_append_spaced hclosed).1, htags]
    exact ⟨rfl, (Markup.tags_append_spaced hclosed).2⟩

namespace Clean

/-- Whatever is in the queue when an interruption has been settled is heard. -/
theorem settled (h : t.Clean) {entry : Reprompt}
    (hentry : entry ∈ (t.settleInterruption settings turn.input).queue.entries) :
    Markup.Heard entry.text := by
  rcases mem_queue_settleInterruption settings turn hentry with hmem | ⟨-, prompt, hprompt, -, heq⟩
  · exact h.queue entry hmem
  · rw [heq]
    exact h.prompt prompt hprompt

/-- The **body** of what is said is heard, whether or not a reprompt takes its place. -/
theorem body (h : t.Clean) (hlead : '<' ∉ t.lead.toList)
    (hresponse : Markup.Heard output.response) :
    Markup.Heard (t.body settings turn output) := by
  rw [Tracker.body]
  cases hentry : t.reprompt? settings turn output with
  | none => exact hresponse
  | some entry =>
    have hheard := h.settled (mem_of_reprompt? hentry)
    obtain ⟨htags, hclosed⟩ := tags_repromptText hlead entry
    refine ⟨hclosed hheard.closed, fun slot hmem => hheard.save slot ?_⟩
    rw [← htags]
    exact hmem

theorem finish (h : t.Clean) (hlead : '<' ∉ t.lead.toList)
    (hresponse : ∀ output ∈ turn.output, Markup.Heard output.response) :
    (t.finish settings turn).1.Clean where
  prompt prompt hprompt := by
    cases houtput : turn.output with
    | none =>
      obtain ⟨_, _, hsettle⟩ := t.settleInterruption_frame settings turn.input
      rw [t.finish_of_none settings houtput, hsettle] at hprompt
      exact h.prompt prompt hprompt
    | some output =>
      rcases t.lastPrompt_finish settings houtput hprompt with hkept | htext
      · exact h.prompt prompt hkept
      · rw [htext]
        exact Markup.heard_prompt _ _ (h.body hlead (hresponse output houtput))
  queue entry hentry := h.settled ((t.entries_finish_sublist settings).subset hentry)

theorem finishRemote (h : t.Clean) (hresponse : ∀ output ∈ turn.output, Markup.Heard output.response) :
    (t.finishRemote settings turn).Clean where
  prompt prompt hprompt := by
    have hempty : Markup.Heard "" := (Markup.quiet_of_not_mem (by simp)).toHeard
    have hsaid : Markup.Heard (turn.response?.getD "") := by
      rw [Turn.response?]
      cases houtput : turn.output with
      | none => exact hempty
      | some output => exact hresponse output houtput
    have hbefore : Markup.Heard (t.lastPrompt.elim "" Prompt.text) := by
      cases hlast : t.lastPrompt with
      | none => exact hempty
      | some last => exact h.prompt last hlast
    obtain ⟨lastPrompt, hremote, hcases⟩ := t.finishRemote_frame settings turn
    rw [hremote] at hprompt
    rcases hcases prompt hprompt with hkept | htext | htext
    · exact h.prompt prompt hkept
    · rw [htext]
      exact hsaid
    · -- the answer is one more piece of a stream
      rw [htext]
      exact hbefore.append hsaid
  queue entry hentry := by
    rw [queue_finishRemote] at hentry
    exact h.queue entry hentry

end Clean

end Tracker

/-! ### A turn of a session -/

namespace Session

variable {setup : Setup} {s : Session} {script : TurnScript}

/-- The **prompt** that is replayed in a turn, if there is one to be replayed to the first wish. -/
def replayed? (s : Session) (script : TurnScript) : Option Prompt :=
  ((accepted script.commands).findSome? Command.wish?).bind s.tracker.replayable?

/-- A value that is said is the restore directive of the slot, or a prompt that is replayed, or a
curious look in its place. -/
theorem mem_spoken {value : String} :
    value ∈ s.spoken setup script ↔
      (script.Restores ∧ value = Markup.restore s.tracker.slot) ∨
      (∃ prompt ∈ s.replayed? script, value = prompt.text) ∨
      ((accepted script.commands).findSome? Command.wish? ≠ none ∧ s.replayed? script = none ∧
        value = StockLine.curiousAnimation.text) := by
  have hreplayed (wish : Option String) : s.tracker.start.replayed wish =
      (s.tracker.replayable? wish).elim StockLine.curiousAnimation.text Prompt.text := rfl
  rw [spoken_eq, Tracker.mem_values_iff, replayed?]
  refine or_congr ⟨fun h => h.2, fun h => ⟨rfl, h⟩⟩ ?_
  cases (accepted script.commands).findSome? Command.wish? with
  | none => simp
  | some wish =>
    simp only [Option.mem_some_iff, exists_eq_left', hreplayed, Option.bind_some]
    cases s.tracker.replayable? wish <;> simp [Tracker.start]

/-- The prompt that is replayed is **heard**, if all texts are that may be said again. -/
theorem heard_replayed (h : s.tracker.Clean) :
    ∀ prompt ∈ s.replayed? script, Markup.Heard prompt.text := by
  intro prompt hprompt
  obtain ⟨wish, -, hwish⟩ := Option.bind_eq_some_iff.mp hprompt
  exact h.prompt prompt (Option.filter_eq_some_iff.mp hwish).1

/-- And so are all **values** that are said. -/
theorem heard_spoken (h : s.tracker.Clean) : ∀ value ∈ s.spoken setup script, Markup.Heard value := by
  intro value hvalue
  rcases mem_spoken.mp hvalue with ⟨-, rfl⟩ | ⟨prompt, hprompt, rfl⟩ | ⟨-, -, rfl⟩
  · exact Markup.heard_restore _
  · exact heard_replayed h prompt hprompt
  · exact (Markup.quiet_stock .curiousAnimation).toHeard

/-- What is **put together** in a turn is heard, and the slots that it restores are the own one of
the turn and those that are in the prompt that is replayed. -/
theorem heard_assembled (hplain : script.Plain) (h : s.tracker.Clean) :
    Markup.Heard (s.assembled setup script) ∧
      ∀ slot : Slot, (Markup.restore slot).toList ∈ Markup.tags (s.assembled setup script) ↔
        (script.Restores ∧ slot = s.tracker.slot) ∨
        ∃ prompt ∈ s.replayed? script, (Markup.restore slot).toList ∈ Markup.tags prompt.text := by
  have hscripted : Markup.Quiet (script.output.elim "" Output.response) := by
    cases houtput : script.output with
    | none => exact Markup.quiet_of_not_mem (by simp)
    | some output => exact Markup.quiet_of_not_mem (hplain.response output houtput)
  have hlines : ∀ line ∈ (s.answeredDesk setup script).engine.lines, Markup.Quiet line := by
    intro line hline
    rcases (s.speaks_answeredDesk setup script).lines line hline with ⟨stock, rfl⟩ | ⟨rule, hrule⟩
    · exact Markup.quiet_stock stock
    · exact Markup.quiet_of_not_mem (hplain.rules rule line hrule)
  have hcurious := Markup.quiet_stock .curiousAnimation
  have hspoken : ∀ value ∈ s.spoken setup script, Markup.Heard value := heard_spoken h
  -- the tags of the whole are those of what was scripted, of the lines, and of the values
  obtain ⟨htags, hclosed⟩ := Markup.tags_foldl (fun _ _ => Markup.tags_joinSpeech) hscripted.closed
    fun line hline => (hlines line hline).closed
  obtain ⟨htags', hclosed'⟩ := Markup.tags_foldl (fun _ _ => Markup.tags_appendSpoken) hclosed
    fun value hvalue => (hspoken value hvalue).closed
  rw [← assembled] at htags' hclosed'
  rw [htags] at htags'
  refine ⟨⟨hclosed', fun slot hmem => ?_⟩, fun slot => ?_⟩
  · rw [htags', List.mem_append, List.mem_append, List.mem_flatMap, List.mem_flatMap] at hmem
    rcases hmem with (hmem | ⟨line, hline, hmem⟩) | ⟨value, hvalue, hmem⟩
    · exact hscripted.save slot hmem
    · exact (hlines line hline).save slot hmem
    · exact (hspoken value hvalue).save slot hmem
  · rw [htags', List.mem_append, List.mem_append, List.mem_flatMap, List.mem_flatMap]
    constructor
    · rintro ((hmem | ⟨line, hline, hmem⟩) | ⟨value, hvalue, hmem⟩)
      · exact absurd hmem (hscripted.restore slot)
      · exact absurd hmem ((hlines line hline).restore slot)
      · rcases mem_spoken.mp hvalue with ⟨hrestores, rfl⟩ | ⟨prompt, hprompt, rfl⟩ | ⟨-, -, rfl⟩
        · rw [(Markup.tags_of_isTag (Markup.isTag_restore _)).1, List.mem_singleton,
            Markup.toList_restore_inj, Option.some_inj] at hmem
          exact Or.inl ⟨hrestores, hmem⟩
        · exact Or.inr ⟨prompt, hprompt, hmem⟩
        · exact absurd hmem (hcurious.restore slot)
    · rintro (⟨hrestores, rfl⟩ | ⟨prompt, hprompt, hmem⟩)
      · refine Or.inr ⟨_, mem_spoken.mpr (Or.inl ⟨hrestores, rfl⟩), ?_⟩
        rw [(Markup.tags_of_isTag (Markup.isTag_restore _)).1]
        exact List.mem_singleton_self _
      · exact Or.inr ⟨_, mem_spoken.mpr (Or.inr (Or.inl ⟨prompt, hprompt, rfl⟩)), hmem⟩

/-- The tracker is clean when the commands of a turn have been answered, if it was before. -/
theorem clean_answeredDesk (h : s.tracker.Clean) :
    (s.answeredDesk setup script).tracker.Clean := by
  obtain ⟨hqueue, hprompt⟩ := s.remembered_answeredDesk setup script
  exact ⟨by rw [hprompt]; exact h.prompt, by rw [hqueue]; exact h.queue⟩

/-- **A turn of a plain script** leaves the tracker clean. -/
theorem clean_runTurn (hplain : script.Plain) (h : s.tracker.Clean) :
    (s.runTurn setup script).2.tracker.Clean := by
  have hanswered : (s.answeredDesk setup script).tracker.Clean := clean_answeredDesk h
  have hresponse : ∀ output ∈ (s.answeredTurn setup script).output,
      Markup.Heard output.response := by
    intro output houtput
    rw [(s.output_answeredTurn setup script).1 output houtput]
    exact (heard_assembled hplain h).1
  rw [tracker_runTurn]
  split
  · exact ⟨hanswered.prompt, hanswered.queue⟩
  · split
    · exact hanswered.finishRemote hresponse
    · exact hanswered.finish (s.lead_answeredDesk setup script hplain) hresponse

/-- **Over a whole conversation** of plain scripts the tracker is clean: no text that may be said
again has a save directive in it. -/
theorem Past.clean {past : List PastTurn} (h : Past setup past s)
    (hplain : ∀ turn ∈ past, turn.script.Plain) : s.tracker.Clean := by
  induction h with
  | new => exact ⟨nofun, nofun⟩
  | turn script _ ih =>
    have hbefore := ih fun turn hturn => hplain turn (List.mem_append_left _ hturn)
    exact clean_runTurn (hplain ⟨_, script⟩ (List.mem_append_right _ List.mem_cons_self)) hbefore
  | conversation _ _ ih => exact ih hplain
  | @event _ s _ ih =>
    obtain ⟨hqueue, hprompt⟩ := s.tracker.takeEvent_frame
    exact ⟨hprompt ▸ (ih hplain).prompt, hqueue ▸ (ih hplain).queue⟩

end Session

end Colloquy

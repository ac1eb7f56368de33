import Colloquy.Proofs.Directives
import Colloquy.Proofs.Prompts
import Colloquy.Proofs.Replay

/-!
# An answer that comes in pieces

The remote engine may give its answer in a stream. The first piece is an answer like any other, and
each later one comes with an event. Between the pieces turns may be aborted. What the tracker is to
remember is the whole of it: each piece once, in the order in which they came.

There is no list of pieces. With each piece the last prompt is made anew from the one before, so
what carries the induction is what the last prompt is after some of them: the text so far, from the
remote engine, in the topic of the moment (`Tracker.Tells`).

* A first piece with speech makes it the last prompt, whatever it was (`Round.Begins.tells`).
* A later piece is added at its end, whether or not it carries speech by itself; an aborted turn
  adds nothing, whatever was called in it (`Round.GoesOn.tells`).

An answer that is accepted changes nothing else that outlasts the turn but the slot, and so the
topic stays the same from the first piece to the last (`Round.remembered_of_accepted`).
-/

namespace Colloquy

namespace Tracker

/-- A tracker **tells** a text if this is the last prompt, from the remote engine and in the topic
of the moment. -/
def Tells (t : Tracker) (text : String) : Prop :=
  t.lastPrompt = some { text, topic := t.storedTopic, source := .remoteEngine }

instance (t : Tracker) (text : String) : Decidable (t.Tells text) :=
  inferInstanceAs (Decidable (_ = _))

/-- What is for one turn only is not part of what is told. -/
theorem Tells.congr {t t' : Tracker} {text : String} (h : t.Tells text)
    (hstart : t'.start = t.start) : t'.Tells text := by
  have hprompt : t'.lastPrompt = t.lastPrompt :=
    show t'.start.lastPrompt = t.start.lastPrompt by rw [hstart]
  have htopic : t'.storedTopic = t.storedTopic :=
    show t'.start.storedTopic = t.start.storedTopic by rw [hstart]
  rw [Tells, hprompt, htopic]
  exact h

variable {settings : TrackerSettings} {t : Tracker} {text : String}

namespace Round

/-- The **piece** that a round brings: the answer that is accepted in it, if there is one. -/
def piece (round : Round) : String :=
  match round.ending with
  | .accepted turn => turn.response?.getD ""
  | _ => ""

/-- A round **begins** an answer if a piece with speech is accepted in it and continues nothing. -/
structure Begins (settings : TrackerSettings) (round : Round) : Prop where
  accepted : ∃ turn, round.ending = .accepted turn ∧
    turn.input.isEventNamed settings.streamEvent = false
  speech : Markup.isSpeechless round.piece = false

/-- A round **goes on** with an answer if it is aborted or what is accepted in it is streamed. -/
inductive GoesOn (settings : TrackerSettings) (round : Round) : Prop where
  | aborted (hending : round.ending = .aborted)
  | streamed {turn : Turn} (hending : round.ending = .accepted turn)
      (hstream : turn.input.isEventNamed settings.streamEvent = true)

variable {round : Round}

/-! ### One round -/

/-- **An answer that is accepted** leaves the queue, the module and the topic. -/
theorem remembered_of_accepted {turn : Turn} (hending : round.ending = .accepted turn) :
    (round.run settings t).queue = t.queue ∧ (round.run settings t).prevModule = t.prevModule ∧
      (round.run settings t).storedTopic = t.storedTopic := by
  obtain ⟨hqueue, -, hmodule, htopic, -⟩ := Command.foldl_onTracker_frame t.start round.commands
  obtain ⟨_, hremote, -⟩ := (round.asked t).finishRemote_frame settings turn
  rw [run, hending]
  dsimp only
  rw [hremote]
  exact ⟨hqueue, hmodule, htopic⟩

theorem lastPrompt_asked (t : Tracker) (round : Round) :
    (round.asked t).lastPrompt = t.lastPrompt :=
  (Command.foldl_onTracker_frame t.start round.commands).2.1

/-- **The first piece** is the last prompt, whatever that was before. -/
theorem Begins.tells (h : round.Begins settings) : (round.run settings t).Tells round.piece := by
  obtain ⟨⟨turn, hending, hstream⟩, hspeech⟩ := h
  rw [piece, hending] at hspeech ⊢
  rw [run, hending]
  dsimp only at hspeech ⊢
  rw [finishRemote, if_neg (by simp [hstream]), cachePrompt, if_pos (by simp [hspeech])]
  rfl

/-- **A later piece** is added at the end of what is told, and where there is none nothing is. -/
theorem GoesOn.tells (h : round.GoesOn settings) (htells : t.Tells text) :
    (round.run settings t).Tells (text ++ round.piece) := by
  cases h with
  | aborted hending =>
    have hback : (round.run settings t).start = t.start := by
      rw [run, hending]
      exact Command.start_abort_foldl t round.commands
    rw [piece, hending, String.append_empty]
    exact htells.congr hback
  | streamed hending hstream =>
    rw [piece, run, hending]
    dsimp only
    rw [finishRemote, if_pos hstream, lastPrompt_asked, htells]
    rfl

end Round

/-! ### From the first piece to the last -/

/-- However many pieces there are, they are told **one after the other**. -/
theorem Tells.after (htells : t.Tells text) {rounds : List Round}
    (hrounds : ∀ round ∈ rounds, round.GoesOn settings) :
    (t.after settings rounds).Tells (text ++ String.join (rounds.map Round.piece)) := by
  induction rounds generalizing t text with
  | nil =>
    rw [List.map_nil, String.join_nil, String.append_empty]
    exact htells
  | cons round rest ih =>
    have hround := (hrounds round List.mem_cons_self).tells htells
    have hrest := ih hround fun other hother => hrounds other (List.mem_cons_of_mem _ hother)
    rw [List.map_cons, String.join_cons, ← String.append_assoc]
    exact hrest

theorem Round.Begins.after {first : Round} (hfirst : first.Begins settings) {later : List Round}
    (hlater : ∀ round ∈ later, round.GoesOn settings) :
    (t.after settings (first :: later)).Tells (String.join ((first :: later).map Round.piece)) := by
  have htells : (first.run settings t).Tells first.piece := hfirst.tells
  rw [List.map_cons, String.join_cons]
  exact htells.after hlater

end Tracker

/-! ### In a conversation -/

namespace Session

variable (setup : Setup)

namespace PastTurn

/-- The **piece** that a turn brings: what is said in it, if anything is. -/
def piece (turn : PastTurn) : String := (turn.report setup).response.getD ""

/-- A turn **begins** an answer of the remote engine if a piece with speech is accepted in it and
continues nothing. -/
structure Begins (turn : PastTurn) : Prop where
  finished : turn.script.abort = false
  remote : turn.script.remote = true
  fresh : turn.script.input.isEventNamed setup.settings.tracker.streamEvent = false
  speech : Markup.isSpeechless (turn.piece setup) = false

/-- A turn **goes on** with an answer if it is aborted or what is accepted in it is streamed. -/
def GoesOn (turn : PastTurn) : Prop :=
  turn.script.abort = true ∨ turn.script.remote = true ∧
    turn.script.input.isEventNamed setup.settings.tracker.streamEvent = true

instance (turn : PastTurn) : Decidable (turn.GoesOn setup) :=
  inferInstanceAs (Decidable (_ ∨ _ ∧ _))

end PastTurn

variable {setup} {s : Session} {script : TurnScript}

theorem ending_round_of_accepted (habort : script.abort = false) (hremote : script.remote = true) :
    (s.round setup script).ending = .accepted (s.answeredTurn setup script) := by
  rw [round, habort, hremote]
  rfl

theorem ending_round_of_abort (habort : script.abort = true) :
    (s.round setup script).ending = .aborted := by
  rw [round, habort]
  rfl

/-- What is said in a turn that the remote engine answers is what it was **answered**. -/
theorem response_of_accepted (habort : script.abort = false) (hremote : script.remote = true) :
    (s.runTurn setup script).1.response = (s.answeredTurn setup script).response? := by
  rw [response_report habort, if_pos hremote]

namespace PastTurn

variable {turn : PastTurn}

theorem piece_of_abort (habort : turn.script.abort = true) : turn.piece setup = "" := by
  rw [piece, report, response_report_of_abort _ _ _ habort]
  rfl

theorem piece_round_of_accepted (habort : turn.script.abort = false)
    (hremote : turn.script.remote = true) : (turn.round setup).piece = turn.piece setup := by
  rw [Tracker.Round.piece, round, ending_round_of_accepted habort hremote, piece, report,
    response_of_accepted habort hremote]

theorem Begins.round (h : turn.Begins setup) :
    (turn.round setup).Begins setup.settings.tracker ∧
      (turn.round setup).piece = turn.piece setup := by
  obtain ⟨habort, hremote, hfresh, hspeech⟩ := h
  have hpiece : (turn.round setup).piece = turn.piece setup :=
    piece_round_of_accepted habort hremote
  refine ⟨⟨⟨_, ending_round_of_accepted habort hremote, ?_⟩, ?_⟩, hpiece⟩
  · rw [isEventNamed_answeredTurn]
    exact hfresh
  · rw [hpiece]
    exact hspeech

theorem GoesOn.round (h : turn.GoesOn setup) :
    (turn.round setup).GoesOn setup.settings.tracker ∧
      (turn.round setup).piece = turn.piece setup := by
  cases habort : turn.script.abort with
  | true =>
    have hending : (turn.round setup).ending = .aborted := ending_round_of_abort habort
    refine ⟨.aborted hending, ?_⟩
    rw [piece_of_abort habort, Tracker.Round.piece, hending]
  | false =>
    obtain ⟨hremote, hstream⟩ := h.resolve_left (by simp [habort])
    refine ⟨.streamed (ending_round_of_accepted habort hremote) ?_,
      piece_round_of_accepted habort hremote⟩
    rw [isEventNamed_answeredTurn]
    exact hstream

end PastTurn

/-- The turns of a run add to the past that they begin after. -/
theorem Past.turnsOf {past : List PastTurn} (h : Past setup past s) (scripts : List TurnScript) :
    Past setup (past ++ s.turnsOf setup scripts) (s.runTurns setup scripts).2 := by
  induction scripts generalizing past s with
  | nil =>
    rw [Session.turnsOf, List.append_nil]
    exact h
  | cons script rest ih =>
    have hrest := ih (h.turn script)
    rw [List.append_assoc] at hrest
    exact hrest

/-- **What is streamed is remembered in full.** Whatever a tracker has gone through, after a first
piece with speech and any later ones, between which turns may be aborted, the last prompt is these
pieces one after the other, from the remote engine and in the topic of the moment; and in a
conversation they are what the reports of these turns say. No answer that is accepted changes the
queue, the module, the topic or what is said. -/
theorem streamed_in_full (setup : Setup) :
    (∀ (t : Tracker) (first : Tracker.Round) (later : List Tracker.Round),
      first.Begins setup.settings.tracker →
      (∀ round ∈ later, round.GoesOn setup.settings.tracker) →
      (t.after setup.settings.tracker (first :: later)).Tells
        (String.join ((first :: later).map Tracker.Round.piece))) ∧
      (∀ (before : List PastTurn) (first : PastTurn) (later : List PastTurn) (s : Session),
        Past setup (before ++ first :: later) s → first.Begins setup →
        (∀ turn ∈ later, turn.GoesOn setup) →
        s.tracker.Tells (String.join ((first :: later).map (PastTurn.piece setup)))) ∧
      (∀ (t : Tracker) (round : Tracker.Round) (turn : Turn), round.ending = .accepted turn →
        (round.run setup.settings.tracker t).queue = t.queue ∧
          (round.run setup.settings.tracker t).prevModule = t.prevModule ∧
          (round.run setup.settings.tracker t).storedTopic = t.storedTopic) ∧
      ∀ (s : Session) (script : TurnScript), script.abort = false → script.remote = true →
        (s.runTurn setup script).1.response = (s.answeredTurn setup script).response? := by
  refine ⟨fun t first later hfirst hlater => hfirst.after hlater, ?_,
    fun t round turn hending => Tracker.Round.remembered_of_accepted hending,
    fun s script habort hremote => response_of_accepted habort hremote⟩
  intro before first later s h hfirst hlater
  obtain ⟨hbegins, hpiece⟩ := hfirst.round
  have hrounds : ∀ round ∈ later.map (PastTurn.round setup),
      round.GoesOn setup.settings.tracker := by
    rintro round hround
    obtain ⟨turn, hturn, rfl⟩ := List.mem_map.mp hround
    exact (hlater turn hturn).round.1
  have hpieces : (first :: later).map (PastTurn.piece setup) =
      ((first :: later).map (PastTurn.round setup)).map Tracker.Round.piece := by
    rw [List.map_map]
    refine List.map_congr_left fun turn hturn => ?_
    rcases List.mem_cons.mp hturn with rfl | hturn
    · exact hpiece.symm
    · exact (hlater turn hturn).round.2.symm
  have hstart := h.start_tracker
  rw [List.map_append, Tracker.after, List.foldl_append] at hstart
  rw [hpieces]
  exact (hbegins.after hrounds).congr hstart

/-- The remote engine begins a story. -/
def storyBegun : TurnScript where
  input := .speech "a story"
  output := some { response := "Once upon" }
  remote := true

/-- A turn in which everything is asked for and nothing comes of it. -/
def cutShort : TurnScript where
  input := .speech "hm"
  commands := [(Command.sendReprompt none).call, Command.restoreMarkup.call]
  output := some { response := "Hm?" }
  abort := true

/-- The rest of the story, in three pieces, of which one is empty and one is a tag. -/
def storyContinued : List TurnScript := [
  streaming (some { response := " a time" }), cutShort, streaming none, cutShort,
  streaming (some { response := "<mark name=\"bell\"/>" })]

/-- A conversation that has begun in a module, before the story. -/
def welcomed : Session :=
  (new.runTurn {} (telling (.speech "hi") "Hello!" "root" "~root_intro")).2

/-- A story that was told in pieces is the last prompt as a whole, in the topic of the conversation.
The turn in which it began has said what it was answered, and has left the module. -/
theorem streamed_in_full_story :
    let begun := (welcomed.runTurn {} storyBegun).2
    let told := (begun.runTurns {} storyContinued).2
    told.tracker.lastPrompt = some {
        text := "Once upon a time<mark name=\"bell\"/>"
        topic := "root_intro"
        source := .remoteEngine } ∧
      (welcomed.runTurn {} storyBegun).1.response = some "Once upon" ∧
      begun.tracker.prevModule = "root" := by
  intro begun told
  obtain ⟨-, hwhole, hframe, hresponse⟩ := streamed_in_full {}
  have hpast : Past {} ([⟨new, _⟩] ++ ⟨welcomed, storyBegun⟩ :: begun.turnsOf {} storyContinued)
      told := ((Past.new.turn _).turn storyBegun).turnsOf storyContinued
  have hbegins : PastTurn.Begins {} ⟨welcomed, storyBegun⟩ :=
    ⟨rfl, rfl, by decide, by decide +kernel⟩
  have htells := hwhole _ _ _ told hpast hbegins (by decide +kernel)
  have hpieces : String.join ((⟨welcomed, storyBegun⟩ :: begun.turnsOf {} storyContinued).map
      (PastTurn.piece {})) = "Once upon a time<mark name=\"bell\"/>" := by decide +kernel
  have htopic : told.tracker.storedTopic = "root_intro" := by decide +kernel
  rw [hpieces, Tracker.Tells, htopic] at htells
  refine ⟨htells, (hresponse welcomed storyBegun rfl rfl).trans (by decide +kernel), ?_⟩
  have hending : (welcomed.round {} storyBegun).ending = .accepted _ :=
    ending_round_of_accepted rfl rfl
  have hroot : welcomed.tracker.prevModule = "root" := by decide +kernel
  have hmodule := (hframe welcomed.tracker _ _ hending).2.1
  rw [tracker_runTurn_eq_run, hmodule, hroot]

end Session

end Colloquy

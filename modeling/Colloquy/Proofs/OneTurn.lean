import Colloquy.Proofs.Counter

/-!
# One turn comes to the same as two

A topic may ask that a fallback be resolved in a single turn, without the remote engine. Then both
halves of the resolution are run there, one right after the other, and this file shows that nothing
is lost by it: the counter, the stage and the waiting utterance are the same in the end as after an
utterance and the event that resumes it, and the engine is made to say the same lines
(`Escalation.OnPar.turn`).

There is one exception to it. Where both halves are run in one turn, the local rule of the topic is
reused only as long as nothing has been counted; where they are run in two, it always is. So the two
are compared with a rule if the counter is zero, and without one (`EngineScript.withoutRule`) if not.

In the second half an engine is asked for the call to be ended, for a rule, for functions and for
signals. Two engines that answer these alike **agree** (`Engine.Agree`), whatever they have been
asked before, and whatever other variables they have.
-/

namespace Colloquy

/-! ### Engines that agree -/

namespace Engine

/-- Two engines **agree** if they answer alike what is asked in a second turn, and have been made to
say the same. -/
structure Agree (a b : Engine) : Prop where
  functions : a.script.functions = b.script.functions
  rules : a.script.rules = b.script.rules
  signals : a.script.signals = b.script.signals
  ending : a.value? endSignal = b.value? endSignal
  lines : a.lines = b.lines

namespace Agree

variable {a b : Engine} (h : Agree a b)
include h

/-- What the two have on record does not matter. -/
theorem recorded (asked asked' : EngineCall) : Agree (a.recorded asked) (b.recorded asked') :=
  ⟨h.functions, h.rules, h.signals, h.ending, h.lines⟩

theorem recorded_left (asked : EngineCall) : Agree (a.recorded asked) b :=
  ⟨h.functions, h.rules, h.signals, h.ending, h.lines⟩

theorem resolve (r r' : Resolution) : Agree (a.resolve r) (b.resolve r') :=
  ⟨h.functions, h.rules, h.signals, h.ending, h.lines⟩

theorem say (line : StockLine) : Agree (a.say line) (b.say line) :=
  ⟨h.functions, h.rules, h.signals, h.ending, congrArg (· ++ [line.text]) h.lines⟩

theorem setKind (kind : OutputKind) : Agree (a.setKind kind) (b.setKind kind) :=
  ⟨h.functions, h.rules, h.signals, h.ending, h.lines⟩

theorem setVariable (name value : String) :
    Agree (a.setVariable name value) (b.setVariable name value) where
  functions := h.functions
  rules := h.rules
  signals := h.signals
  ending := by rw [value?_setVariable, value?_setVariable, h.ending]
  lines := h.lines

/-- Reusing a rule works with both or with neither. -/
theorem reuse (rule : String) :
    (a.reuse rule).1 = (b.reuse rule).1 ∧ Agree (a.reuse rule).2 (b.reuse rule).2 := by
  have hasked := h.recorded (.reuseRule rule) (.reuseRule rule)
  rw [Engine.reuse, Engine.reuse, h.rules]
  cases b.script.rules.get? rule with
  | none => exact ⟨rfl, hasked⟩
  | some text =>
    exact ⟨rfl, hasked.functions, hasked.rules, hasked.signals, hasked.ending,
      congrArg (· ++ [text]) hasked.lines⟩

end Agree

end Engine

namespace Escalation

variable {a b : Engine} {e f : Escalation}

/-! ### The second half -/

/-- At the same count, the climb takes the same step with both. -/
theorem agree_climb (h : a.Agree b) (counter : UInt32) :
    (climb counter a).1 = (climb counter b).1 ∧ (climb counter a).2.1 = (climb counter b).2.1 ∧
      (climb counter a).2.2.Agree (climb counter b).2.2 := by
  simp only [climb, Engine.call_eq, Engine.send_eq, Engine.script_recorded, h.functions, h.signals]
  split
  · exact ⟨rfl, rfl, h.resolve _ _⟩
  split
  · -- another topic
    split
    · exact ⟨rfl, rfl, (h.recorded _ _).resolve _ _⟩
    · exact ⟨rfl, rfl, h.recorded _ _⟩
  split
  · -- the question whether to keep chatting
    split
    · exact ⟨rfl, rfl, (h.recorded _ _).resolve _ _⟩
    · exact ⟨rfl, rfl, h.recorded _ _⟩
  split
  · exact ⟨rfl, rfl, (h.recorded _ _).resolve _ _⟩
  split
  · -- the prompt is there again, and is said once more if it can be
    split
    · exact ⟨rfl, rfl, (((h.recorded _ _).recorded _ _).recorded _ _).resolve _ _⟩
    · exact ⟨rfl, rfl, ((h.recorded _ _).recorded _ _).recorded _ _⟩
  · exact ⟨rfl, rfl, (h.recorded _ _).recorded _ _⟩

/-- The rule that is **tried** in a second half: none if the topic wants a single turn and something
has been counted already. -/
def ruleTried (e : Escalation) : String :=
  if ¬ e.oneTurn ∨ e.counter = 0 then e.localRule else ""

/-- Whether a rule has been reused, and the engine after it. An empty name is no rule. -/
def tryRule (rule : String) (engine : Engine) : Bool × Engine :=
  if rule = "" then (false, engine) else engine.reuse rule

/-- The second half in terms of the rule that is tried. -/
theorem secondTurn_eq (e : Escalation) (engine : Engine) :
    e.secondTurn engine =
      if (idling engine).value? Engine.endSignal = some "true" then (true, e, idling engine)
      else
        let tried := tryRule e.ruleTried (idling engine)
        if tried.1 then (true, e, tried.2.resolve .localRule)
        else
          ((climb e.counter tried.2).1,
            { e with movedOn := e.movedOn || (climb e.counter tried.2).2.1 },
            (climb e.counter tried.2).2.2) := by
  have htried : tryRule e.ruleTried (idling engine) =
      if ¬ e.oneTurn ∨ e.counter = 0 then e.reuseRule (idling engine)
      else (false, idling engine) := by
    rw [ruleTried]
    split <;> rfl
  rw [htried]
  rfl

theorem agree_tryRule (h : a.Agree b) (rule : String) :
    (tryRule rule a).1 = (tryRule rule b).1 ∧ (tryRule rule a).2.Agree (tryRule rule b).2 := by
  rw [tryRule, tryRule]
  split
  · exact ⟨rfl, h⟩
  · exact h.reuse rule

/-- **The second half** goes the same way with engines that agree, if the count and the rule are the
same. It does not matter whether the first half was in the same turn. -/
theorem agree_secondTurn (h : a.Agree b) (hcounter : e.counter = f.counter)
    (hrule : e.ruleTried = f.ruleTried) (hmoved : e.movedOn = f.movedOn) :
    (e.secondTurn a).1 = (f.secondTurn b).1 ∧
      (e.secondTurn a).2.1.movedOn = (f.secondTurn b).2.1.movedOn ∧
      (e.secondTurn a).2.2.Agree (f.secondTurn b).2.2 := by
  have hidling : (idling a).Agree (idling b) := (h.resolve _ _).say _
  obtain ⟨hdone, htried⟩ := agree_tryRule hidling f.ruleTried
  obtain ⟨hclimbed, hmoves, hagree⟩ := agree_climb htried f.counter
  rw [secondTurn_eq, secondTurn_eq, hidling.ending, hcounter, hrule]
  dsimp only
  rw [hdone]
  split
  · exact ⟨rfl, hmoved, hidling⟩
  split
  · exact ⟨rfl, hmoved, htried.resolve _ _⟩
  · refine ⟨hclimbed, ?_, hagree⟩
    dsimp only
    rw [hmoved, hmoves]

/-- What has been said when a fallback has been handled: what was tried, and the generic line if that
failed. -/
theorem lines_handle (e : Escalation) (engine : Engine) :
    (e.handle engine).2.lines =
      (e.attempt (prepared engine)).2.2.lines ++
        if (e.attempt (prepared engine)).1 then [] else [StockLine.fallbackRepeat.text] := by
  rw [handle_tried]
  dsimp only
  split
  · rw [List.append_nil]
    split <;> rfl
  · rfl

/-- The escalation **between the two halves** of a single turn. -/
def halfway (e : Escalation) (engine : Engine) : Escalation :=
  { e.firstTurn engine with kept := false, stage := .second }

theorem ruleTried_halfway (h : e.oneTurn = true) (engine : Engine) :
    (e.halfway engine).ruleTried =
      if e.counter = 0 then (engine.value? Engine.fallbackRule).getD "" else "" := by
  have hone : (e.halfway engine).oneTurn = true := h
  rw [ruleTried, hone]
  simp only [not_true, false_or]
  rfl

theorem ruleTried_of_twoTurns (h : e.oneTurn = false) : e.ruleTried = e.localRule := by
  rw [ruleTried, h]
  exact if_pos (Or.inl Bool.false_ne_true)

theorem attempt_of_oneTurn (h : e.oneTurn = true) (engine : Engine) :
    e.attempt engine =
      (e.halfway engine).secondTurn ((engine.run Engine.keepRejoinder).run Engine.keepCounter) :=
  if_pos h

theorem attempt_of_second (hturn : e.oneTurn = false) (hstage : e.stage = .second)
    (engine : Engine) : e.attempt engine = e.secondTurn engine := by
  simp [attempt, hturn, hstage]

end Escalation

/-! ### Turns with a fallback -/

/-- A **fallback** that is left to the escalation: what the topic says about it, what has come in,
how the engine answers, and the output that the turn is finished with. -/
structure Fallback where
  treatment : Treatment
  input : Input
  script : EngineScript
  output : Output

namespace Escalation

variable (settings : ArbiterSettings) (catalog : Catalog) (place : Place) (e : Escalation)
  (fallback : Fallback)

/-- A **turn** in which a fallback is handled once: it is claimed and started, handled by an engine
that has not been asked anything yet, and finished. -/
def turn : Escalation × Engine :=
  let (e, turn) := (e.claim fallback.treatment).start settings catalog place
    { input := fallback.input }
  let (e, engine) := e.handle { script := fallback.script }
  (e.finish { turn with output := some fallback.output }, engine)

/-- The escalation when the fallback has been handled, and the engine then. -/
def handled : Escalation × Engine :=
  (e.takenUp settings fallback.treatment fallback.input).handle { script := fallback.script }

/-- What is left of a turn when its fallback has been handled is to finish it. -/
theorem exists_turn :
    ∃ turn : Turn, turn.output = some fallback.output ∧ turn.input.text = fallback.input.text ∧
      e.turn settings catalog place fallback =
        ((e.handled settings fallback).1.finish turn, (e.handled settings fallback).2) := by
  refine ⟨{ ((e.claim fallback.treatment).start settings catalog place
      { input := fallback.input }).2 with output := some fallback.output }, rfl,
    (start_turn settings _ catalog place { input := fallback.input }).1, ?_⟩
  rw [handled, ← start_claim settings e catalog place fallback.treatment
    { input := fallback.input }]
  rfl

/-- Finishing a turn asks nothing of the engine. -/
theorem turn_snd : (e.turn settings catalog place fallback).2 = (e.handled settings fallback).2 := by
  obtain ⟨turn, -, -, hturn⟩ := e.exists_turn settings catalog place fallback
  rw [hturn]

/-- Of a turn, finishing looks at the output and at the text of what has come in. -/
theorem finish_congr {turn turn' : Turn} (houtput : turn.output = turn'.output)
    (htext : turn.input.text = turn'.input.text) : e.finish turn = e.finish turn' := by
  rw [finish, finish, houtput, htext]

/-- From the first stage, or by the event that resumes the resolution, a turn is taken up as it
stands. -/
theorem takenUp_of_current
    (h : e.stage = .initial ∨ fallback.input.isEventNamed settings.resumeEvent) :
    e.takenUp settings fallback.treatment fallback.input = (e.claim fallback.treatment).opened :=
  if_pos h

variable {settings e fallback}

/-- **The first of two turns** leaves the counter, remembers the rule that the engine names, and
waits. -/
theorem turn_of_first (hstage : e.stage = .initial) (htreatment : fallback.treatment ≠ .noRemote) :
    (e.turn settings catalog place fallback).1.stage = .second ∧
      (e.turn settings catalog place fallback).1.counter = e.counter ∧
      (e.turn settings catalog place fallback).1.localRule =
        (fallback.script.vars.get? Engine.fallbackRule).getD "" := by
  obtain ⟨turn, houtput, -, hturn⟩ := e.exists_turn settings catalog place fallback
  have hopened := e.takenUp_of_current settings fallback (Or.inl hstage)
  have hone : (e.claim fallback.treatment).opened.oneTurn = false := decide_eq_false htreatment
  have hinitial : (e.claim fallback.treatment).opened.stage = .initial := hstage
  have hafter : (e.handled settings fallback).1.stage = .afterInitial := by
    rw [handled, stage_handle, hopened]
    simp [stageHandled, hone, hinitial]
  have hkind : turn.outputKind? = some fallback.output.kind := by
    rw [Turn.outputKind?, houtput]
    rfl
  rw [hturn, finish_of_afterInitial hafter hkind]
  refine ⟨rfl, ?_, ?_⟩
  · dsimp only
    rw [handled, counter_handle, hopened]
    rfl
  · dsimp only
    rw [handled, localRule_handle, hopened, ruleHandled, if_pos (Or.inr hinitial)]
    rfl

/-- **The last turn** of a resolution withdraws everything, and counts unless it has moved on. -/
theorem turn_of_last (hstage : (e.handled settings fallback).1.stage = .second)
    (hkind : fallback.output.kind = .fallback) :
    (e.turn settings catalog place fallback).1.stage = .initial ∧
      (e.turn settings catalog place fallback).1.lastSpeech = "" ∧
      (e.turn settings catalog place fallback).1.counter =
        if (e.handled settings fallback).1.movedOn = false then e.counter + 1 else e.counter := by
  obtain ⟨turn, houtput, -, hturn⟩ := e.exists_turn settings catalog place fallback
  have houtputKind : turn.outputKind? = some .fallback := by
    rw [Turn.outputKind?, houtput, ← hkind]
    rfl
  obtain ⟨hinitial, hsilent⟩ := finish_of_second hstage houtputKind
  have hcounter : (e.handled settings fallback).1.counter = e.counter := by
    rw [handled, counter_handle]
    exact (e.takenUp_frame settings _ _).2.1
  rw [hturn]
  refine ⟨hinitial, hsilent, ?_⟩
  rw [counter_finish_of_second hstage houtputKind, hcounter]
  simp

/-- A fallback that is to be resolved in a single turn, and one whose second turn is to come, are **on
a par**: the count is the same, the rule of the one is tried again by the other, and the engines
agree. -/
structure OnPar (settings : ArbiterSettings) (e f : Escalation) (single second : Fallback) :
    Prop where
  initial : e.stage = .initial
  oneTurn : single.treatment = .noRemote
  waits : f.stage = .second
  resumes : second.input.isEventNamed settings.resumeEvent
  twoTurns : second.treatment ≠ .noRemote
  counter : e.counter = f.counter
  rule : f.localRule =
    if e.counter = 0 then (single.script.vars.get? Engine.fallbackRule).getD "" else ""
  agree : Engine.Agree { script := single.script } { script := second.script }

namespace OnPar

variable {single second : Fallback} {f : Escalation} (h : OnPar settings e f single second)
include h

/-- **Both halves in one turn** go the way of the second half in a turn of its own. -/
theorem handled :
    (e.handled settings single).1.stage = .second ∧
      (f.handled settings second).1.stage = .second ∧
      (e.handled settings single).1.movedOn = (f.handled settings second).1.movedOn ∧
      (e.handled settings single).2.lines = (f.handled settings second).2.lines := by
  have hone : (e.claim single.treatment).opened.oneTurn = true := decide_eq_true h.oneTurn
  have htwo : (f.claim second.treatment).opened.oneTurn = false := decide_eq_false h.twoTurns
  have hhalf : (f.claim second.treatment).opened.stage = .second := h.waits
  have hprepared : (prepared { script := single.script }).Agree
      (prepared { script := second.script }) := (h.agree.setKind _).setVariable _ _
  -- the count is the same, and so is the rule that is tried
  have htried : ((e.claim single.treatment).opened.halfway
        (prepared { script := single.script })).ruleTried =
      (f.claim second.treatment).opened.ruleTried := by
    rw [ruleTried_halfway hone, ruleTried_of_twoTurns htwo, fallbackRule_prepared]
    exact h.rule.symm
  have hcount : ((e.claim single.treatment).opened.halfway
        (prepared { script := single.script })).counter =
      (f.claim second.treatment).opened.counter := h.counter
  obtain ⟨hdone, hmoved, hlines⟩ := agree_secondTurn
    ((hprepared.recorded_left (.function Engine.keepRejoinder [])).recorded_left
      (.function Engine.keepCounter [])) hcount htried rfl
  rw [Escalation.handled, Escalation.handled,
    e.takenUp_of_current settings single (Or.inl h.initial),
    f.takenUp_of_current settings second (Or.inr h.resumes)]
  have hattempt := attempt_of_oneTurn hone (prepared { script := single.script })
  have hattempt' := attempt_of_second htwo hhalf (prepared { script := second.script })
  rw [Engine.run_eq, Engine.run_eq] at hattempt
  refine ⟨?_, ?_, ?_, ?_⟩
  · rw [stage_handle, stageHandled, if_pos hone]
  · rw [stage_handle]
    simp [stageHandled, htwo, hhalf]
  · rw [(handle_eq_attempt _ _).1, (handle_eq_attempt _ _).1, hattempt, hattempt']
    exact hmoved
  · rw [lines_handle, lines_handle, hattempt, hattempt', hdone, hlines.lines]

/-- So the two leave the same behind, and the engine has said the same. -/
theorem turn (hkind : single.output.kind = .fallback) (hkind' : second.output.kind = .fallback) :
    (e.turn settings catalog place single).1.counter =
        (f.turn settings catalog place second).1.counter ∧
      ((e.turn settings catalog place single).1.stage = .initial ∧
        (f.turn settings catalog place second).1.stage = .initial) ∧
      ((e.turn settings catalog place single).1.lastSpeech = "" ∧
        (f.turn settings catalog place second).1.lastSpeech = "") ∧
      (e.turn settings catalog place single).2.lines =
        (f.turn settings catalog place second).2.lines := by
  obtain ⟨hends, hends', hmoved, hlines⟩ := h.handled
  obtain ⟨hinitial, hsilent, hcount⟩ := turn_of_last catalog place hends hkind
  obtain ⟨hinitial', hsilent', hcount'⟩ := turn_of_last catalog place hends' hkind'
  refine ⟨?_, ⟨hinitial, hinitial'⟩, ⟨hsilent, hsilent'⟩, ?_⟩
  · rw [hcount, hcount', hmoved, h.counter]
  · rw [turn_snd, turn_snd, hlines]

end OnPar

end Escalation

/-- In a session, a turn of the escalation in which the fallback is handled once and nothing else is
done is such a turn. -/
theorem Session.exists_turn_of_lone {setup : Setup} {s : Session} {script : TurnScript}
    (hen : setup.settings.arbiter.enabled = true)
    (howner : (s.openedDesk setup script).arbiter.owner? = some .default)
    (hcommands : accepted script.commands = [.handleFallback]) (habort : script.abort = false) :
    ∃ output : Output, output.kind = .fallback ∧
      (s.runTurn setup script).2.arbiter.escalation =
        ((s.heard script).turn setup.settings.arbiter setup.catalog s.arbiter.place
          ⟨s.treatment setup, script.input, script.engine, output⟩).1 := by
  have hhandles : Handles script := by simp [Handles, hcommands]
  obtain ⟨output, houtput, hkind⟩ :=
    Option.map_eq_some_iff.mp (outputKind?_of_handles hen howner hhandles)
  obtain ⟨turn, hsaid, htext, hturn⟩ := (s.heard script).exists_turn setup.settings.arbiter
    setup.catalog s.arbiter.place ⟨s.treatment setup, script.input, script.engine, output⟩
  refine ⟨output, hkind, ?_⟩
  rw [escalation_of_finish hen howner habort, hturn, escalated, hcommands]
  refine Escalation.finish_congr _ (houtput.trans hsaid.symm) ?_
  exact (s.text_answeredTurn setup script).trans htext.symm

/-! ### A rule that is not named -/

/-- The dictionary without what it has at a name. -/
def Dict.erase {α : Type} (d : Dict α) (name : String) : Dict α :=
  ⟨d.entries.filter (·.1 ≠ name), d.sorted.filter _⟩

theorem Dict.get?_erase {α : Type} (d : Dict α) (name other : String) :
    (d.erase name).get? other = if other = name then none else d.get? other := by
  rw [get?, get?, erase, List.find?_filter]
  split
  · -- nothing is left that has the name
    rename_i heq
    rw [Option.map_eq_none_iff, List.find?_eq_none, heq]
    intro entry _ hentry
    simp at hentry
  · rename_i hne
    congr 2
    funext entry
    by_cases hother : entry.1 = other
    · simp [hother, hne]
    · simp [hother]

/-- The answers of an engine that names **no rule** for fallbacks. -/
def EngineScript.withoutRule (script : EngineScript) : EngineScript :=
  { script with vars := script.vars.erase Engine.fallbackRule }

/-- Nothing else is answered differently. -/
theorem Engine.agree_withoutRule (script : EngineScript) :
    Agree { script := script } { script := script.withoutRule } where
  functions := rfl
  rules := rfl
  signals := rfl
  ending := by
    have hne : endSignal ≠ fallbackRule := by decide
    exact ((script.vars.get?_erase fallbackRule endSignal).trans (if_neg hne)).symm
  lines := rfl

/-- The answers with which two turns are **compared** with a single one: after the first count, the
engine names no rule in them, since none is reused in the single turn. -/
def EngineScript.compared (script : EngineScript) (counter : UInt32) : EngineScript :=
  if counter = 0 then script else script.withoutRule

namespace EngineScript

variable (script : EngineScript) (counter : UInt32)

theorem agree_compared :
    Engine.Agree { script := script } { script := script.compared counter } := by
  rw [compared]
  split
  · exact ⟨rfl, rfl, rfl, rfl, rfl⟩
  · exact Engine.agree_withoutRule script

theorem fallbackRule_compared :
    ((script.compared counter).vars.get? Engine.fallbackRule).getD "" =
      if counter = 0 then (script.vars.get? Engine.fallbackRule).getD "" else "" := by
  rw [compared]
  split
  · rfl
  · rw [withoutRule, Dict.get?_erase, if_pos rfl]
    rfl

end EngineScript

namespace Escalation

variable (settings : ArbiterSettings) (catalog : Catalog) (place : Place) (e : Escalation)
  (text : String) (script : EngineScript)

/-- An utterance is resolved **in one turn**. -/
def inOneTurn (output : Output) : Escalation × Engine :=
  e.turn settings catalog place ⟨.noRemote, .speech text, script, output⟩

/-- An utterance is resolved **in two turns**: what is left after both, and the engine of the second
one. -/
def inTwoTurns (first last : Output) : Escalation × Engine :=
  (e.turn settings catalog place ⟨.ordinary, .speech text, script, first⟩).1.turn settings catalog
    place ⟨.ordinary, .event settings.resumeEvent, script, last⟩

/-- **One turn comes to the same as two.** From the first stage, at any count, an utterance that is
resolved in one turn leaves the counter, the stage and the waiting utterance as one that is resolved
in two, and the engine has said the same as in the second of them. -/
theorem oneTurn_eq_twoTurns (output first last : Output) (hstage : e.stage = .initial)
    (houtput : output.kind = .fallback) (hlast : last.kind = .fallback) :
    (e.inOneTurn settings catalog place text script output).1.counter =
        (e.inTwoTurns settings catalog place text (script.compared e.counter) first last).1.counter ∧
      ((e.inOneTurn settings catalog place text script output).1.stage = .initial ∧
        (e.inTwoTurns settings catalog place text (script.compared e.counter) first last).1.stage =
          .initial) ∧
      ((e.inOneTurn settings catalog place text script output).1.lastSpeech = "" ∧
        (e.inTwoTurns settings catalog place text (script.compared e.counter) first
          last).1.lastSpeech = "") ∧
      (e.inOneTurn settings catalog place text script output).2.lines =
        (e.inTwoTurns settings catalog place text (script.compared e.counter) first last).2.lines := by
  have hordinary : Treatment.ordinary ≠ .noRemote := by decide
  obtain ⟨hwaits, hcounter, hrule⟩ := turn_of_first catalog place hstage
    (show (⟨.ordinary, .speech text, script.compared e.counter, first⟩ : Fallback).treatment ≠ _
      from hordinary)
  have hresumes : (Input.event settings.resumeEvent).isEventNamed settings.resumeEvent = true :=
    (Input.isEventNamed_event _ _).trans (decide_eq_true rfl)
  rw [inOneTurn, inTwoTurns]
  refine OnPar.turn catalog place ?_ houtput hlast
  exact ⟨hstage, rfl, hwaits, hresumes, hordinary, hcounter.symm,
    hrule.trans (script.fallbackRule_compared e.counter), script.agree_compared e.counter⟩

/-- An escalation that has counted two fallbacks, with something left over from them. -/
def counted : Escalation := { counter := 2, localRule := "~root.weather", lastSpeech := "blorp" }

/-- The answers of an engine that has a rule for fallbacks, and nothing else. -/
def ruled : EngineScript where
  vars := Dict.empty.insert Engine.fallbackRule "~root.color"
  rules := Dict.empty.insert "~root.color" "Do you like red?"

/-- A fallback as it is answered with nothing but the lines of the engine. -/
def unresolved : Output := { response := "", kind := .fallback }

theorem oneTurn_eq_twoTurns_counted :
    counted.stage = .initial ∧ unresolved.kind = .fallback ∧
      (counted.inOneTurn {} {} {} "blorp" ruled unresolved).1.counter =
        (counted.inTwoTurns {} {} {} "blorp" (ruled.compared counted.counter) unresolved
          unresolved).1.counter ∧
      (counted.inOneTurn {} {} {} "blorp" ruled unresolved).2.lines =
        (counted.inTwoTurns {} {} {} "blorp" (ruled.compared counted.counter) unresolved
          unresolved).2.lines := by
  obtain ⟨hcounter, -, -, hlines⟩ :=
    oneTurn_eq_twoTurns {} {} {} counted "blorp" ruled unresolved unresolved unresolved rfl rfl rfl
  exact ⟨rfl, rfl, hcounter, hlines⟩

end Escalation

end Colloquy

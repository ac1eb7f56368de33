import Colloquy.Escalation

/-!
# What the steps of the escalation change

The escalation has nine fields, and each step of it changes a few of them. This file says once which
ones, so that no later proof has to open a step:

| step | what it changes | theorem |
|---|---|---|
| start of a turn | stage and waiting utterance, if stale; the marks for one turn | `start_claim` |
| handling a fallback | stage, rule, and two of the marks for one turn | `exists_handle` |
| finish | stage, counter and waiting utterance, by stage and output | `finish` itself |

The mark `movedOn` says in the escalation what the engine has on record as well: that it was asked
to move on, and did (`Engine.movedOn`). The two agree after every fallback that is handled
(`movedOn_handle`), so what is proved about the counter can be read off the calls of the engine.
-/

namespace Colloquy

namespace Engine

variable (engine : Engine)

/-! ### What a question leaves as it was

A question is answered from the script, and puts a call on record; nothing else comes of it. -/

@[simp] theorem call_eq (name : String) (args : List String) :
    engine.call name args =
      (engine.script.functions.getD name false, engine.recorded (.function name args)) := by
  rw [call]

@[simp] theorem run_eq (name : String) :
    engine.run name = engine.recorded (.function name []) := by
  rw [run, call]

@[simp] theorem send_eq (signal : String) :
    engine.send signal =
      (engine.script.signals.getD signal false, engine.recorded (.signal signal)) := by
  rw [send]

@[simp] theorem script_recorded (call : EngineCall) :
    (engine.recorded call).script = engine.script := rfl

@[simp] theorem kind?_recorded (call : EngineCall) :
    (engine.recorded call).kind? = engine.kind? := rfl

@[simp] theorem script_resolve (r : Resolution) : (engine.resolve r).script = engine.script := rfl

@[simp] theorem kind?_resolve (r : Resolution) : (engine.resolve r).kind? = engine.kind? := rfl

@[simp] theorem script_say (line : StockLine) : (engine.say line).script = engine.script := rfl

@[simp] theorem kind?_say (line : StockLine) : (engine.say line).kind? = engine.kind? := rfl

@[simp] theorem script_setKind (kind : OutputKind) :
    (engine.setKind kind).script = engine.script := rfl

@[simp] theorem kind?_setKind (kind : OutputKind) : (engine.setKind kind).kind? = some kind := rfl

@[simp] theorem kind?_setVariable (name value : String) :
    (engine.setVariable name value).kind? = engine.kind? := rfl

@[simp] theorem script_reuse (rule : String) : (engine.reuse rule).2.script = engine.script := by
  cases h : engine.script.rules.get? rule <;> simp [reuse, h]

@[simp] theorem kind?_reuse (rule : String) : (engine.reuse rule).2.kind? = engine.kind? := by
  cases h : engine.script.rules.get? rule <;> simp [reuse, h]

@[simp] theorem resolution?_recorded (call : EngineCall) :
    (engine.recorded call).resolution? = engine.resolution? := rfl

@[simp] theorem resolution?_resolve (r : Resolution) :
    (engine.resolve r).resolution? = some r := rfl

@[simp] theorem resolution?_reuse (rule : String) :
    (engine.reuse rule).2.resolution? = engine.resolution? := by
  cases h : engine.script.rules.get? rule <;> simp [reuse, recorded, h]

theorem value?_setVariable (name value other : String) :
    (engine.setVariable name value).value? other =
      if other = name then some value else engine.value? other := by
  simp [value?, setVariable]

/-! ### Moving on -/

/-- Whether the engine was asked to **move on** to another topic, and did. -/
def movedOn : Bool := engine.called moveOn && engine.script.functions.getD moveOn false

/-- A call puts on record that the engine moved on exactly if it is to the function by which the
engine does, and that answers. -/
theorem movedOn_recorded_function (name : String) (args : List String) :
    (engine.recorded (.function name args)).movedOn =
      (engine.movedOn || (name = moveOn && engine.script.functions.getD moveOn false)) := by
  simp only [movedOn, called, recorded, List.any_append, List.any_cons, List.any_nil, Bool.or_false]
  rw [Bool.and_or_distrib_right]

@[simp] theorem movedOn_recorded_signal (signal : String) :
    (engine.recorded (.signal signal)).movedOn = engine.movedOn := by
  simp [movedOn, called, recorded]

@[simp] theorem movedOn_setVariable (name value : String) :
    (engine.setVariable name value).movedOn = engine.movedOn := by
  simp [movedOn, called, setVariable, recorded]

@[simp] theorem movedOn_reuse (rule : String) :
    (engine.reuse rule).2.movedOn = engine.movedOn := by
  cases h : engine.script.rules.get? rule <;> simp [movedOn, called, reuse, recorded, h]

@[simp] theorem movedOn_setKind (kind : OutputKind) :
    (engine.setKind kind).movedOn = engine.movedOn := rfl

@[simp] theorem movedOn_resolve (r : Resolution) :
    (engine.resolve r).movedOn = engine.movedOn := rfl

@[simp] theorem movedOn_say (line : StockLine) : (engine.say line).movedOn = engine.movedOn := rfl

end Engine

namespace Escalation

variable (settings : ArbiterSettings) (e : Escalation) (engine : Engine)

/-! ### The start of a turn -/

/-- Whether this input **resumes** a resolution that is waiting for its second turn. -/
def Resumes (input : Input) : Prop := e.stage = .second ∧ input.isEventNamed settings.resumeEvent

instance (input : Input) : Decidable (e.Resumes settings input) :=
  inferInstanceAs (Decidable (_ ∧ _))

/-- The escalation when a turn has been **taken up**: what is for one turn only is cleared, and a
resolution that waits for another input than this one is withdrawn. -/
def takenUp (treatment : Treatment) (input : Input) : Escalation :=
  if e.stage = .initial ∨ input.isEventNamed settings.resumeEvent then (e.claim treatment).opened
  else (e.claim treatment).opened.withdrawn

theorem start_claim (catalog : Catalog) (place : Place) (treatment : Treatment) (turn : Turn) :
    ((e.claim treatment).start settings catalog place turn).1 =
      e.takenUp settings treatment turn.input := by
  rcases hr : turn.input.isEventNamed settings.resumeEvent <;> cases hs : e.stage <;>
    simp [start, takenUp, opened, claim, withdrawn, hs, hr, apply_ite Prod.fst]

/-- Starting a turn leaves its output and the text of its input as they were. -/
theorem start_turn (catalog : Catalog) (place : Place) (turn : Turn) :
    (e.start settings catalog place turn).2.input.text = turn.input.text ∧
      (e.start settings catalog place turn).2.output = turn.output := by
  rcases hr : turn.input.isEventNamed settings.resumeEvent <;> cases hs : e.stage <;>
    cases ho : e.oneTurn <;> simp [start, opened, withdrawn, Input.promote, hs, hr, ho]

/-! ### Handling a fallback -/

/-- A climb moves on exactly when the engine does. -/
theorem movedOn_climb (counter : UInt32) :
    (climb counter engine).2.2.movedOn = (engine.movedOn || (climb counter engine).2.1) := by
  have hgambit : Engine.gambitTangent ≠ Engine.moveOn := by decide
  have hrestore : Engine.markupRestore ≠ Engine.moveOn := by decide
  have hreprompt : Engine.reprompt ≠ Engine.moveOn := by decide
  simp only [climb, Engine.call_eq, Engine.send_eq]
  split
  · simp
  split
  · -- the one step that moves on
    split <;> rename_i h <;> simp [Engine.movedOn_recorded_function, h]
  split
  · split <;> simp [Engine.movedOn_recorded_function, hgambit]
  split
  · simp
  split
  · split <;> simp [Engine.movedOn_recorded_function, hrestore, hreprompt]
  · simp [Engine.movedOn_recorded_function, hrestore]

/-- Nothing but moving on is reported as that. -/
theorem resolution?_climb (counter : UInt32) (h : engine.resolution? ≠ some .moveOn) :
    (climb counter engine).1 = true ∧ (climb counter engine).2.2.resolution? = some .moveOn ↔
      (climb counter engine).2.1 = true := by
  simp only [climb, Engine.call_eq, Engine.send_eq]
  repeat' split
  all_goals simp_all

theorem climb_frame (counter : UInt32) :
    (climb counter engine).2.2.script = engine.script ∧
      (climb counter engine).2.2.kind? = engine.kind? := by
  simp only [climb, Engine.call_eq, Engine.send_eq]
  repeat' split
  all_goals simp

theorem reuseRule_frame :
    (e.reuseRule engine).2.script = engine.script ∧ (e.reuseRule engine).2.kind? = engine.kind? ∧
      (e.reuseRule engine).2.movedOn = engine.movedOn ∧
      (e.reuseRule engine).2.resolution? = engine.resolution? := by
  rw [reuseRule]
  split <;> simp

/-- The engine when the **second turn** begins: nothing is decided, and the time is bridged. -/
def idling : Engine := (engine.resolve .unknown).say .idleAnimation

/-- **The second turn** ends before it climbs, or it climbs. What it has asked the engine by then is
neither to move on nor to count the output as something. -/
theorem secondTurn_cases :
    ∃ asked : Engine, (asked.script = engine.script ∧ asked.kind? = engine.kind? ∧
        asked.movedOn = engine.movedOn ∧ asked.resolution? ≠ some .moveOn) ∧
      (e.secondTurn engine = (true, e, asked) ∨
        e.secondTurn engine =
          ((climb e.counter asked).1,
            { e with movedOn := e.movedOn || (climb e.counter asked).2.1 },
            (climb e.counter asked).2.2)) := by
  by_cases hend : (idling engine).value? Engine.endSignal = some "true"
  · -- the call is to end
    exact ⟨idling engine, ⟨rfl, rfl, rfl, by simp [idling, Engine.say]⟩, Or.inl (if_pos hend)⟩
  let reuse :=
    if ¬ e.oneTurn ∨ e.counter = 0 then e.reuseRule (idling engine) else (false, idling engine)
  have hreuse : reuse.2.script = engine.script ∧ reuse.2.kind? = engine.kind? ∧
      reuse.2.movedOn = engine.movedOn ∧ reuse.2.resolution? = some .unknown := by
    simp only [reuse]
    split
    · exact e.reuseRule_frame (idling engine)
    · exact ⟨rfl, rfl, rfl, rfl⟩
  obtain ⟨hscript, hkind, hmoved, hresolution⟩ := hreuse
  by_cases hdone : reuse.1 = true
  · -- the remembered rule has a text
    exact ⟨reuse.2.resolve .localRule, ⟨hscript, hkind, hmoved, by simp⟩,
      Or.inl ((if_neg hend).trans (if_pos hdone))⟩
  · exact ⟨reuse.2, ⟨hscript, hkind, hmoved, by simp [hresolution]⟩,
      Or.inr ((if_neg hend).trans (if_neg hdone))⟩

theorem secondTurn_frame :
    (e.secondTurn engine).2.2.script = engine.script ∧
      (e.secondTurn engine).2.2.kind? = engine.kind? := by
  obtain ⟨asked, ⟨hscript, hkind, -, -⟩, h | h⟩ := e.secondTurn_cases engine
  · rw [h]
    exact ⟨hscript, hkind⟩
  · obtain ⟨hscript', hkind'⟩ := climb_frame asked e.counter
    rw [h]
    exact ⟨hscript'.trans hscript, hkind'.trans hkind⟩

/-- The second turn marks at most that it moved on, and does so exactly when the engine has. -/
theorem exists_secondTurn :
    ∃ movedOn, (e.secondTurn engine).2.1 = { e with movedOn } ∧
      (e.movedOn = engine.movedOn → movedOn = (e.secondTurn engine).2.2.movedOn) := by
  obtain ⟨asked, ⟨-, -, hmoved, -⟩, h | h⟩ := e.secondTurn_cases engine
  · exact ⟨e.movedOn, by rw [h], fun he => by rw [h, hmoved, he]⟩
  · exact ⟨_, by rw [h], fun he => by rw [h, movedOn_climb, hmoved, he]⟩

/-- The second turn of an engine that has not moved on before is reported as moving on exactly when
it does. -/
theorem resolution?_secondTurn (h : engine.movedOn = false) :
    (e.secondTurn engine).1 = true ∧ (e.secondTurn engine).2.2.resolution? = some .moveOn ↔
      (e.secondTurn engine).2.2.movedOn = true := by
  obtain ⟨asked, ⟨-, -, hmoved, hresolution⟩, heq | heq⟩ := e.secondTurn_cases engine
  · rw [heq]
    simp [hmoved, h, hresolution]
  · rw [heq]
    dsimp only
    rw [resolution?_climb asked e.counter hresolution, movedOn_climb, hmoved, h, Bool.false_or]

/-- What is **tried** when a fallback is handled, before the generic line is said. -/
def attempt : Bool × Escalation × Engine :=
  if e.oneTurn then e.bothTurns engine
  else match e.stage with
    | .initial => (false, e.firstTurn engine, engine)
    | .second => e.secondTurn engine
    | .afterInitial => (false, e, engine)

/-- The engine when a fallback begins to be handled. -/
def prepared : Engine := (engine.setKind .fallback).setVariable Engine.noPrelude "true"

/-- The rule that the engine names for fallbacks is not touched by this. -/
theorem fallbackRule_prepared :
    (prepared engine).value? Engine.fallbackRule = engine.value? Engine.fallbackRule := by
  have hne : Engine.fallbackRule ≠ Engine.noPrelude := by decide
  rw [prepared, Engine.value?_setVariable, if_neg hne]
  rfl

/-- Handling a fallback **tries** to answer it, and has the generic line said where that failed. -/
theorem handle_tried :
    e.handle engine =
      let tried := e.attempt (prepared engine)
      if tried.1 then
        (tried.2.1, if tried.2.1.oneTurn then tried.2.2.resolve .noRemote else tried.2.2)
      else
        (tried.2.1, ((tried.2.2.resolve
            (if tried.2.1.oneTurn then .noRemote else .localFallback)).say .fallbackRepeat).run
          Engine.keepCounter) := rfl

/-- What is said in the end, the generic line or nothing more, changes nothing but what the engine
has on record. -/
theorem handle_eq_attempt :
    (e.handle engine).1 = (e.attempt (prepared engine)).2.1 ∧
      (e.handle engine).2.script = (e.attempt (prepared engine)).2.2.script ∧
      (e.handle engine).2.kind? = (e.attempt (prepared engine)).2.2.kind? ∧
      (e.handle engine).2.movedOn = (e.attempt (prepared engine)).2.2.movedOn := by
  have hline : Engine.keepCounter ≠ Engine.moveOn := by decide
  rw [handle_tried]
  dsimp only
  split
  · split <;> exact ⟨rfl, rfl, rfl, rfl⟩
  · exact ⟨rfl, rfl, rfl, by simp [Engine.movedOn_recorded_function, hline]⟩

/-- The stage in which a resolution stands when a fallback has been handled. -/
def stageHandled : Stage :=
  if e.oneTurn then .second else if e.stage = .initial then .afterInitial else e.stage

/-- The rule that is remembered when a fallback has been handled: the one that the engine names, if
this was a first turn, by itself or together with the second one. -/
def ruleHandled : String :=
  if e.oneTurn ∨ e.stage = .initial then (engine.value? Engine.fallbackRule).getD ""
  else e.localRule

theorem exists_attempt :
    ∃ kept movedOn,
      (e.attempt engine).2.1 =
          { e with stage := e.stageHandled, localRule := e.ruleHandled engine, kept, movedOn } ∧
        (e.movedOn = engine.movedOn → movedOn = (e.attempt engine).2.2.movedOn) := by
  obtain ⟨stage, startStage, counter, kept, resetAsked, movedOn, oneTurn, localRule, lastSpeech⟩ :=
    e
  cases oneTurn with
  | false =>
    -- the stage says which of the two turns it is
    cases stage with
    | initial => exact ⟨true, movedOn, rfl, fun he => he⟩
    | afterInitial => exact ⟨kept, movedOn, rfl, fun he => he⟩
    | second =>
      obtain ⟨moved, heq, hmoved⟩ := exists_secondTurn
        ⟨.second, startStage, counter, kept, resetAsked, movedOn, false, localRule, lastSpeech⟩
        engine
      exact ⟨kept, moved, heq, hmoved⟩
  | true =>
    -- what is asked between the two turns is not to move on, so that the marks still agree
    have hjoin : Engine.keepRejoinder ≠ Engine.moveOn := by decide
    have hkeep : Engine.keepCounter ≠ Engine.moveOn := by decide
    obtain ⟨moved, heq, hmoved⟩ := exists_secondTurn
      ⟨.second, startStage, counter, false, resetAsked, movedOn, true,
        (engine.value? Engine.fallbackRule).getD "", lastSpeech⟩
      ((engine.run Engine.keepRejoinder).run Engine.keepCounter)
    refine ⟨false, moved, heq, fun he => hmoved (he.trans ?_)⟩
    simp [Engine.movedOn_recorded_function, hjoin, hkeep]

theorem attempt_frame :
    (e.attempt engine).2.2.script = engine.script ∧
      (e.attempt engine).2.2.kind? = engine.kind? := by
  rw [attempt]
  split
  · obtain ⟨hscript, hkind⟩ := secondTurn_frame
      { e.firstTurn engine with kept := false, stage := .second }
      ((engine.run Engine.keepRejoinder).run Engine.keepCounter)
    exact ⟨hscript.trans (by simp), hkind.trans (by simp)⟩
  · split
    · exact ⟨rfl, rfl⟩
    · exact e.secondTurn_frame engine
    · exact ⟨rfl, rfl⟩

/-- **Handling a fallback** changes the stage and the rule, and two of the marks for one turn. That
it moved on is marked exactly when the engine has. -/
theorem exists_handle :
    ∃ kept movedOn,
      (e.handle engine).1 =
          { e with stage := e.stageHandled, localRule := e.ruleHandled engine, kept, movedOn } ∧
        (e.movedOn = engine.movedOn → movedOn = (e.handle engine).2.movedOn) := by
  obtain ⟨hfst, -, -, hmoved⟩ := e.handle_eq_attempt engine
  obtain ⟨kept, movedOn, heq, hmark⟩ := e.exists_attempt (prepared engine)
  have hrule : e.ruleHandled (prepared engine) = e.ruleHandled engine := by
    rw [ruleHandled, ruleHandled, fallbackRule_prepared]
  refine ⟨kept, movedOn, by rw [hfst, heq, hrule], fun he => ?_⟩
  rw [hmoved]
  exact hmark (he.trans (by simp [prepared]))

@[simp] theorem kind?_handle : (e.handle engine).2.kind? = some .fallback := by
  obtain ⟨-, -, hkind, -⟩ := e.handle_eq_attempt engine
  rw [hkind, (e.attempt_frame (prepared engine)).2]
  rfl

@[simp] theorem fallbackRule_handle :
    (e.handle engine).2.value? Engine.fallbackRule = engine.value? Engine.fallbackRule := by
  obtain ⟨-, hscript, -, -⟩ := e.handle_eq_attempt engine
  rw [Engine.value?, hscript, (e.attempt_frame (prepared engine)).1, ← Engine.value?,
    fallbackRule_prepared]

@[simp] theorem stage_handle : (e.handle engine).1.stage = e.stageHandled := by
  obtain ⟨_, _, h, -⟩ := e.exists_handle engine
  rw [h]

@[simp] theorem startStage_handle : (e.handle engine).1.startStage = e.startStage := by
  obtain ⟨_, _, h, -⟩ := e.exists_handle engine
  rw [h]

@[simp] theorem counter_handle : (e.handle engine).1.counter = e.counter := by
  obtain ⟨_, _, h, -⟩ := e.exists_handle engine
  rw [h]

@[simp] theorem resetAsked_handle : (e.handle engine).1.resetAsked = e.resetAsked := by
  obtain ⟨_, _, h, -⟩ := e.exists_handle engine
  rw [h]

@[simp] theorem oneTurn_handle : (e.handle engine).1.oneTurn = e.oneTurn := by
  obtain ⟨_, _, h, -⟩ := e.exists_handle engine
  rw [h]

@[simp] theorem localRule_handle : (e.handle engine).1.localRule = e.ruleHandled engine := by
  obtain ⟨_, _, h, -⟩ := e.exists_handle engine
  rw [h]

@[simp] theorem lastSpeech_handle : (e.handle engine).1.lastSpeech = e.lastSpeech := by
  obtain ⟨_, _, h, -⟩ := e.exists_handle engine
  rw [h]

/-- Handling it once more leaves the stage and the rule where the first time has put them. -/
theorem stageHandled_handle : (e.handle engine).1.stageHandled = e.stageHandled := by
  rw [stageHandled, oneTurn_handle, stage_handle]
  rcases ho : e.oneTurn with _ | _ <;> cases hs : e.stage <;> simp [stageHandled, ho, hs]

theorem ruleHandled_handle :
    (e.handle engine).1.ruleHandled (e.handle engine).2 = e.ruleHandled engine := by
  rw [ruleHandled, oneTurn_handle, stage_handle, localRule_handle, fallbackRule_handle]
  rcases ho : e.oneTurn with _ | _ <;> cases hs : e.stage <;>
    simp [stageHandled, ruleHandled, ho, hs]

theorem movedOn_handle (h : e.movedOn = engine.movedOn) :
    (e.handle engine).1.movedOn = (e.handle engine).2.movedOn := by
  obtain ⟨_, _, heq, hmoved⟩ := e.exists_handle engine
  rw [heq]
  exact hmoved h

/-- In the first stage it does not matter which rule is remembered: handling a fallback remembers
another one before it looks. -/
theorem handle_of_initial (h : e.stage = .initial) (rule : String) :
    { e with localRule := rule }.handle engine = e.handle engine := by
  obtain ⟨stage, startStage, counter, kept, resetAsked, movedOn, oneTurn, localRule, lastSpeech⟩ :=
    e
  subst h
  cases oneTurn <;> rfl

/-! ### Which way the second turn goes -/

variable {e engine}

/-- Handling a fallback in the second stage is the second turn, or the generic line after it. -/
theorem resolution?_handle_of_second (hstage : e.stage = .second) (hturn : e.oneTurn = false) :
    (e.handle engine).2.resolution? =
      if (e.secondTurn (prepared engine)).1 then (e.secondTurn (prepared engine)).2.2.resolution?
      else some .localFallback := by
  have hattempt : e.attempt (prepared engine) = e.secondTurn (prepared engine) := by
    simp [attempt, hturn, hstage]
  have hturn' : (e.secondTurn (prepared engine)).2.1.oneTurn = false := by
    obtain ⟨moved, heq, -⟩ := e.exists_secondTurn (prepared engine)
    rw [heq]
    exact hturn
  rw [handle_tried, hattempt]
  dsimp only
  rw [hturn']
  split <;> rfl

/-- A fallback that is handled in the second stage is reported as moving on exactly when the engine
does. -/
theorem resolution?_handle_eq_moveOn_iff (hstage : e.stage = .second) (hturn : e.oneTurn = false)
    (h : engine.movedOn = false) :
    (e.handle engine).2.resolution? = some .moveOn ↔ (e.handle engine).2.movedOn = true := by
  have hattempt : e.attempt (prepared engine) = e.secondTurn (prepared engine) := by
    simp [attempt, hturn, hstage]
  have hprepared : (prepared engine).movedOn = false := by simpa [prepared] using h
  obtain ⟨-, -, -, hmoved⟩ := e.handle_eq_attempt engine
  rw [hmoved, hattempt, ← e.resolution?_secondTurn (prepared engine) hprepared,
    resolution?_handle_of_second hstage hturn]
  split
  next hdone => simp [hdone]
  next hdone => simp [hdone]

/-- An engine that has no function and handles no signal lets nobody climb. -/
theorem climb_of_silent (hfunctions : engine.script.functions = ∅)
    (hsignals : engine.script.signals = ∅) (counter : UInt32) :
    (climb counter engine).1 = false := by
  have hfunction (name : String) : (∅ : Dict Bool).getD name false = false := rfl
  simp only [climb, Engine.call_eq, Engine.send_eq, Engine.script_recorded, hfunctions, hsignals,
    hfunction, Bool.false_eq_true, if_false]
  repeat' split
  all_goals rfl

section SecondTurn

variable (hend : engine.value? Engine.endSignal ≠ some "true") (hturn : e.oneTurn = false)
include hend hturn

/-- While the call goes on, the second turn **reuses** the rule that is remembered. -/
theorem secondTurn_of_reused (h : (e.reuseRule (idling engine)).1 = true) :
    e.secondTurn engine = (true, e, (e.reuseRule (idling engine)).2.resolve .localRule) := by
  rw [secondTurn, hturn]
  exact (if_neg hend).trans (if_pos h)

/-- If there is nothing to be reused, it climbs. -/
theorem secondTurn_of_not_reused (h : (e.reuseRule (idling engine)).1 = false) :
    (e.secondTurn engine).1 = (climb e.counter (e.reuseRule (idling engine)).2).1 := by
  have hnot : ¬ (e.reuseRule (idling engine)).1 = true := by
    rw [h]
    decide
  rw [secondTurn, hturn]
  exact congrArg Prod.fst ((if_neg hend).trans (if_neg hnot))

end SecondTurn

end Escalation

end Colloquy

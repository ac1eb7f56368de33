import Colloquy.Proofs.OneTurn
import Colloquy.Arbiter

/-!
# The ladder

In the second half of a resolution the escalation climbs a **ladder**: it ends at once if the call
is to end, it says the text of the rule that is tried if there is one, and otherwise it does what
its counter tells it to do, another topic at every third count, the question whether to keep
chatting at every second one, and a clarification or else a reprompt at the others. Whatever is
tried may fail, and then the generic line is said.

How high it gets (`Ladder.rung`), what it asks the engine on its way (`Ladder.made`) and what it has
the engine say (`Ladder.spoken`) depend on nothing but the script of the engine, the rule that is
tried and the count. Here these are written down as tables, and a fallback that is handled is shown
to do just what the tables say, in two turns and in one (`Escalation.handle_ladder`).
-/

namespace Colloquy

namespace Engine

/-- The engine with **more** calls on record and more lines said. -/
def grown (engine : Engine) (calls : List EngineCall) (lines : List String) : Engine :=
  { engine with calls := engine.calls ++ calls, lines := engine.lines ++ lines }

variable (engine : Engine)

@[simp] theorem grown_nil : engine.grown [] [] = engine := by
  simp [grown]

@[simp] theorem grown_grown (calls calls' : List EngineCall) (lines lines' : List String) :
    (engine.grown calls lines).grown calls' lines' =
      engine.grown (calls ++ calls') (lines ++ lines') := by
  simp [grown]

theorem recorded_eq_grown (call : EngineCall) : engine.recorded call = engine.grown [call] [] := by
  simp [recorded, grown]

end Engine

/-- What a **ladder** depends on: the answers of the engine, the rule it tries, and the count. -/
structure Ladder where
  script : EngineScript
  rule : String
  counter : UInt32

namespace Ladder

variable (l : Ladder)

/-! ### The tables -/

/-- The call is **to end**. -/
def Ends : Prop := l.script.vars.get? Engine.endSignal = some "true"

instance : Decidable l.Ends := inferInstanceAs (Decidable (_ = _))

/-- The **text** of the rule that is tried. An empty name is no rule. -/
def text? : Option String := if l.rule = "" then none else l.script.rules.get? l.rule

/-- Whether a function produces a result. -/
def produces (name : String) : Bool := l.script.functions.getD name false

/-- Whether the signal that asks for a clarification is handled. -/
def clarifies : Bool := l.script.signals.getD Engine.clarificationSignal false

/-- What comes of the step that the **count** tells. -/
def step : Resolution :=
  if l.counter = 0 then .localFallback
  else if 3 ∣ l.counter.toNat then
    if l.produces Engine.moveOn then .moveOn else .localFallback
  else if 2 ∣ l.counter.toNat then
    if l.produces Engine.gambitTangent then .confirmation else .localFallback
  else if l.clarifies then .clarification
  else if l.produces Engine.markupRestore ∧ l.produces Engine.reprompt then .reprompt
  else .localFallback

/-- The calls of that step. -/
def stepCalls : List EngineCall :=
  if l.counter = 0 then []
  else if 3 ∣ l.counter.toNat then [.function Engine.moveOn []]
  else if 2 ∣ l.counter.toNat then [.function Engine.gambitTangent [Engine.confirmationTopic]]
  else if l.clarifies then [.signal Engine.clarificationSignal]
  else if l.produces Engine.markupRestore then
    [.signal Engine.clarificationSignal, .function Engine.markupRestore [],
      .function Engine.reprompt []]
  else [.signal Engine.clarificationSignal, .function Engine.markupRestore []]

/-- The **rung** that is reached, as it is reported. -/
def rung : Resolution :=
  if l.Ends then .unknown
  else if l.text?.isSome then .localRule
  else l.step

/-- The calls on the **way** to that rung. -/
def way : List EngineCall :=
  if l.Ends then []
  else (if l.rule = "" then [] else [.reuseRule l.rule]) ++
    if l.text?.isSome then [] else l.stepCalls

/-- All calls that are **made**: those on the way, and one more if nothing has worked. -/
def made : List EngineCall :=
  l.way ++ if l.rung = .localFallback then [.function Engine.keepCounter []] else []

/-- What is **spoken**: the time is bridged first, and then comes the text of the rule, or the
generic line, or nothing more. -/
def spoken : List String :=
  StockLine.idleAnimation.text ::
    match l.rung with
    | .localRule => l.text?.toList
    | .localFallback => [StockLine.fallbackRepeat.text]
    | _ => []

/-! ### What the tables have in common -/

theorem step_ne_localRule : l.step ≠ .localRule := by
  rw [step]
  repeat' split
  all_goals decide

theorem rung_eq_localRule_iff : l.rung = .localRule ↔ ¬ l.Ends ∧ l.text?.isSome := by
  rw [rung]
  by_cases hends : l.Ends
  · simp [hends]
  by_cases htext : l.text?.isSome
  · simp [hends, htext]
  · simp [hends, htext, l.step_ne_localRule]

theorem keepCounter_not_mem_way : EngineCall.function Engine.keepCounter [] ∉ l.way := by
  have hstep : EngineCall.function Engine.keepCounter [] ∉ l.stepCalls := by
    rw [stepCalls]
    repeat' split
    all_goals decide
  rw [way]
  split
  · exact List.not_mem_nil
  rw [List.mem_append, not_or]
  constructor
  · split
    · exact List.not_mem_nil
    · simp
  · split
    · exact List.not_mem_nil
    · exact hstep

/-- The engine is told to keep its counter **just if nothing has worked**. -/
theorem keepCounter_mem_made_iff :
    EngineCall.function Engine.keepCounter [] ∈ l.made ↔ l.rung = .localFallback := by
  rw [made, List.mem_append]
  by_cases h : l.rung = .localFallback
  · simp [h]
  · simp [h, l.keepCounter_not_mem_way]

/-- The generic line comes **last** if nothing has worked, and otherwise only if it is the text of
the rule. -/
theorem getLast_spoken_iff :
    l.spoken.getLast? = some StockLine.fallbackRepeat.text ↔
      l.rung = .localFallback ∨
        l.rung = .localRule ∧ l.text? = some StockLine.fallbackRepeat.text := by
  have hidle : StockLine.idleAnimation.text ≠ StockLine.fallbackRepeat.text := by decide
  cases hrung : l.rung with
  | localRule =>
    obtain ⟨text, htext⟩ := Option.isSome_iff_exists.mp (l.rung_eq_localRule_iff.mp hrung).2
    simp [spoken, hrung, htext]
  | localFallback => simp [spoken, hrung]
  | _ => simp [spoken, hrung, hidle]

/-! ### Climbing -/

/-- An engine **answers by** a ladder if it has the functions, the signals and the rules of the
ladder, and ends the call when that does. -/
structure AnswersBy (l : Ladder) (engine : Engine) : Prop where
  functions : engine.script.functions = l.script.functions
  signals : engine.script.signals = l.script.signals
  rules : engine.script.rules = l.script.rules
  ending : engine.value? Engine.endSignal = l.script.vars.get? Engine.endSignal

/-- What an engine answers depends on its **script**. -/
theorem AnswersBy.congr {l : Ladder} {a b : Engine} (h : l.AnswersBy a)
    (hscript : b.script = a.script) : l.AnswersBy b where
  functions := by rw [hscript, h.functions]
  signals := by rw [hscript, h.signals]
  rules := by rw [hscript, h.rules]
  ending := by rw [Engine.value?, hscript, ← Engine.value?, h.ending]

end Ladder

namespace Escalation

variable {l : Ladder} {e : Escalation} {engine : Engine}

theorem mod_moveOnThreshold_iff (counter : UInt32) :
    counter % moveOnThreshold = 0 ↔ 3 ∣ counter.toNat := by
  rw [← UInt32.toNat_inj, UInt32.toNat_mod, Nat.dvd_iff_mod_eq_zero]
  rfl

theorem mod_chatThreshold_iff (counter : UInt32) :
    counter % chatThreshold = 0 ↔ 2 ∣ counter.toNat := by
  rw [← UInt32.toNat_inj, UInt32.toNat_mod, Nat.dvd_iff_mod_eq_zero]
  rfl

/-- **The step that the count tells** is taken as the tables say. -/
theorem exists_climb (h : l.AnswersBy engine) :
    ∃ r, climb l.counter engine =
        (decide (l.step ≠ .localFallback), decide (l.step = .moveOn),
          { engine.grown l.stepCalls [] with resolution? := r }) ∧
      (l.step ≠ .localFallback → r = some l.step) := by
  have hproduces (name : String) : engine.script.functions.getD name false = l.produces name := by
    rw [h.functions]
    rfl
  have hclarifies : engine.script.signals.getD Engine.clarificationSignal false = l.clarifies := by
    rw [h.signals]
    rfl
  simp only [climb, Engine.call_eq, Engine.send_eq, Engine.script_recorded, hproduces, hclarifies,
    mod_moveOnThreshold_iff, mod_chatThreshold_iff, Ladder.step, Ladder.stepCalls]
  split
  · -- nothing has been counted
    exact ⟨some .localFallback, by simp [Engine.resolve], by simp⟩
  split
  · -- another topic
    cases l.produces Engine.moveOn with
    | true => exact ⟨some .moveOn, by simp [Engine.recorded_eq_grown, Engine.resolve], by simp⟩
    | false =>
      exact ⟨engine.resolution?, by simp [Engine.recorded_eq_grown, Engine.grown], by simp⟩
  split
  · -- the question whether to keep chatting
    cases l.produces Engine.gambitTangent with
    | true =>
      exact ⟨some .confirmation, by simp [Engine.recorded_eq_grown, Engine.resolve], by simp⟩
    | false =>
      exact ⟨engine.resolution?, by simp [Engine.recorded_eq_grown, Engine.grown], by simp⟩
  cases l.clarifies with
  | true =>
    exact ⟨some .clarification, by simp [Engine.recorded_eq_grown, Engine.resolve], by simp⟩
  | false =>
    -- a reprompt, if the prompt can be restored
    cases l.produces Engine.markupRestore with
    | false =>
      exact ⟨engine.resolution?, by simp [Engine.recorded_eq_grown, Engine.grown], by simp⟩
    | true =>
      cases l.produces Engine.reprompt with
      | true =>
        exact ⟨some .reprompt, by simp [Engine.recorded_eq_grown, Engine.resolve], by simp⟩
      | false =>
        exact ⟨engine.resolution?, by simp [Engine.recorded_eq_grown, Engine.grown], by simp⟩

/-- **The rule that is tried** is reused if it has a text. -/
theorem tryRule_eq (h : l.AnswersBy engine) :
    tryRule l.rule engine =
      (l.text?.isSome,
        engine.grown (if l.rule = "" then [] else [.reuseRule l.rule]) l.text?.toList) := by
  rw [tryRule, Ladder.text?]
  by_cases hrule : l.rule = ""
  · simp [hrule]
  · rw [if_neg hrule, if_neg hrule, if_neg hrule, Engine.reuse, h.rules]
    cases l.script.rules.get? l.rule with
    | none => simp [Engine.recorded_eq_grown]
    | some text => simp [Engine.recorded_eq_grown, Engine.grown]

/-- **The second half** climbs the ladder. -/
theorem exists_secondTurn_ladder (h : l.AnswersBy engine) (hrule : e.ruleTried = l.rule)
    (hcounter : l.counter = e.counter) :
    ∃ r, e.secondTurn engine =
        (decide (l.rung ≠ .localFallback),
          { e with movedOn := e.movedOn || decide (l.rung = .moveOn) },
          { engine.grown l.way (StockLine.idleAnimation.text ::
              if l.rung = .localRule then l.text?.toList else []) with resolution? := r }) ∧
      (l.rung ≠ .localFallback → r = some l.rung) := by
  have hidling : l.AnswersBy (idling engine) := h.congr rfl
  have hends : (idling engine).value? Engine.endSignal = some "true" ↔ l.Ends := by
    rw [hidling.ending]
    rfl
  rw [secondTurn_eq, hrule, tryRule_eq hidling]
  simp only [hends]
  by_cases hend : l.Ends
  · refine ⟨some .unknown, ?_, ?_⟩
    · simp [Ladder.rung, Ladder.way, hend, idling, Engine.say, Engine.grown, Engine.resolve]
    · simp [Ladder.rung, hend]
  rw [if_neg hend]
  cases htext : l.text? with
  | some text =>
    refine ⟨some .localRule, ?_, ?_⟩
    · simp [Ladder.rung, Ladder.way, hend, htext, idling, Engine.say, Engine.grown, Engine.resolve]
    · simp [Ladder.rung, hend, htext]
  | none =>
    have hrung : l.rung = l.step := by
      simp [Ladder.rung, hend, htext]
    have hway : l.way = (if l.rule = "" then [] else [.reuseRule l.rule]) ++ l.stepCalls := by
      simp [Ladder.way, hend, htext]
    have hasked : l.AnswersBy
        ((idling engine).grown (if l.rule = "" then [] else [.reuseRule l.rule]) []) :=
      hidling.congr rfl
    obtain ⟨r, hclimb, hr⟩ := exists_climb hasked
    rw [hcounter] at hclimb
    refine ⟨r, ?_, ?_⟩
    · simp only [Option.isSome_none, Option.toList_none, Bool.false_eq_true, if_false, hclimb]
      simp [hrung, hway, l.step_ne_localRule, idling, Engine.say, Engine.grown, Engine.resolve]
    · rwa [hrung]

/-- What has been tried is **answered** as it is, or the generic line is said. -/
theorem handle_of_attempt {e' : Escalation} {asked : Engine} {r : Option Resolution}
    (hattempt : e.attempt (prepared engine) =
      (decide (l.rung ≠ .localFallback), e',
        { asked.grown l.way (StockLine.idleAnimation.text ::
            if l.rung = .localRule then l.text?.toList else []) with resolution? := r }))
    (hr : l.rung ≠ .localFallback → r = some l.rung) :
    e.handle engine =
      (e', { asked.grown l.made l.spoken with
        resolution? := some (if e'.oneTurn then .noRemote else l.rung) }) := by
  rw [handle_tried, hattempt]
  by_cases hrung : l.rung = .localFallback
  · -- nothing has worked
    simp [hrung, Ladder.made, Ladder.spoken, Engine.recorded, Engine.say, Engine.grown,
      Engine.resolve]
  · have hspoken : l.spoken = StockLine.idleAnimation.text ::
        if l.rung = .localRule then l.text?.toList else [] := by
      rw [Ladder.spoken]
      cases h : l.rung with
      | localFallback => exact absurd h hrung
      | _ => rfl
    cases hone : e'.oneTurn <;>
      simp [hrung, hr hrung, hone, hspoken, Ladder.made, Engine.grown, Engine.resolve]

variable (e engine)

/-- The ladder of a **second turn**: the rule that is remembered is tried. -/
def ladder : Ladder := ⟨engine.script, e.localRule, e.counter⟩

/-- The ladder of a **single turn**: the rule that the engine names is tried as long as nothing has
been counted. -/
def singleLadder : Ladder :=
  ⟨engine.script, if e.counter = 0 then (engine.value? Engine.fallbackRule).getD "" else "",
    e.counter⟩

/-- The script of an engine that is not to begin with an opening phrase. -/
def muted (script : EngineScript) : EngineScript :=
  { script with vars := script.vars.insert Engine.noPrelude "true" }

variable {engine} in
theorem answersBy_prepared (hscript : l.script = engine.script) :
    l.AnswersBy (prepared engine) where
  functions := by rw [hscript]; rfl
  signals := by rw [hscript]; rfl
  rules := by rw [hscript]; rfl
  ending := by
    have hne : Engine.endSignal ≠ Engine.noPrelude := by decide
    rw [hscript, prepared, Engine.value?_setVariable, if_neg hne]
    rfl

/-- **A fallback climbs the ladder.** In the second stage, and in any stage if both halves are run
in one turn, the escalation always answers; it makes just the calls of the ladder, in this order,
has just the lines of the ladder said, behind what has been said before, and reports the rung that
it has reached, or that it has done without the remote engine. Just if no step has worked it tells
the engine to keep its counter and has the generic line said, which ends what is said in no other
case, unless a rule has that very text. -/
theorem handle_ladder :
    (e.stage = .second → e.oneTurn = false →
      Owner.default.handle e engine =
        (true, { e with movedOn := e.movedOn || decide ((e.ladder engine).rung = .moveOn) },
          { script := muted engine.script
            calls := engine.calls ++
              .setVariable Engine.noPrelude "true" :: (e.ladder engine).made
            lines := engine.lines ++ (e.ladder engine).spoken
            kind? := some .fallback
            resolution? := some (e.ladder engine).rung })) ∧
    (e.oneTurn = true →
      Owner.default.handle e engine =
        (true,
          { e with
            stage := .second
            kept := false
            localRule := (engine.value? Engine.fallbackRule).getD ""
            movedOn := e.movedOn || decide ((e.singleLadder engine).rung = .moveOn) },
          { script := muted engine.script
            calls := engine.calls ++ .setVariable Engine.noPrelude "true" ::
              .function Engine.keepRejoinder [] :: .function Engine.keepCounter [] ::
                (e.singleLadder engine).made
            lines := engine.lines ++ (e.singleLadder engine).spoken
            kind? := some .fallback
            resolution? := some .noRemote })) ∧
    ∀ l : Ladder,
      (.function Engine.keepCounter [] ∈ l.made ↔ l.rung = .localFallback) ∧
      (l.spoken.getLast? = some StockLine.fallbackRepeat.text ↔
        l.rung = .localFallback ∨
          l.rung = .localRule ∧ l.text? = some StockLine.fallbackRepeat.text) := by
  refine ⟨fun hstage hturn => ?_, fun hone => ?_,
    fun l => ⟨l.keepCounter_mem_made_iff, l.getLast_spoken_iff⟩⟩
  · have hanswers : (e.ladder engine).AnswersBy (prepared engine) := answersBy_prepared rfl
    obtain ⟨r, hsecond, hr⟩ :=
      exists_secondTurn_ladder hanswers (ruleTried_of_twoTurns hturn) rfl
    have hattempt := attempt_of_second hturn hstage (prepared engine)
    have hhandle := handle_of_attempt (hattempt.trans hsecond) hr
    change (true, e.handle engine) = _
    rw [hhandle]
    simp [hturn, prepared, muted, Engine.grown, Engine.setVariable, Engine.recorded,
      Engine.setKind]
  · have hasked : (e.singleLadder engine).AnswersBy
        (((prepared engine).run Engine.keepRejoinder).run Engine.keepCounter) := by
      rw [Engine.run_eq, Engine.run_eq]
      exact (answersBy_prepared rfl).congr rfl
    have hrule : (e.halfway (prepared engine)).ruleTried = (e.singleLadder engine).rule := by
      rw [ruleTried_halfway hone, fallbackRule_prepared]
      rfl
    obtain ⟨r, hsecond, hr⟩ := exists_secondTurn_ladder hasked hrule rfl
    have hattempt := attempt_of_oneTurn hone (prepared engine)
    have hhandle := handle_of_attempt (hattempt.trans hsecond) hr
    change (true, e.handle engine) = _
    rw [hhandle, halfway, firstTurn, fallbackRule_prepared]
    simp [hone, prepared, muted, Engine.grown, Engine.setVariable, Engine.recorded,
      Engine.setKind]

/-- An escalation that has counted four fallbacks and remembers a rule. -/
def fourth : Escalation := { stage := .second, counter := 4, localRule := "~root.weather" }

/-- One that has counted three, in a topic that wants a single turn. -/
def third : Escalation := { counter := 3, oneTurn := true }

/-- An engine that can move on to another topic. -/
def movable : Engine := { script := { functions := Dict.empty.insert Engine.moveOn true } }

/-- At four an engine that answers nothing is asked for the rule and for the question whether to
keep chatting, and the generic line is said. At three one that can move on does so, in a single
turn. -/
theorem handle_ladder_fourth :
    (Owner.default.handle fourth {}).2.2.calls =
        [.setVariable Engine.noPrelude "true", .reuseRule "~root.weather",
          .function Engine.gambitTangent [Engine.confirmationTopic],
          .function Engine.keepCounter []] ∧
      (Owner.default.handle fourth {}).2.2.resolution? = some .localFallback ∧
      (Owner.default.handle third movable).2.1.movedOn = true ∧
      (Owner.default.handle third movable).2.2.lines = [StockLine.idleAnimation.text] ∧
      (fourth.ladder {}).spoken.getLast? = some StockLine.fallbackRepeat.text := by
  obtain ⟨hsecond, -, htables⟩ := handle_ladder fourth {}
  obtain ⟨-, hsingle, -⟩ := handle_ladder third movable
  rw [hsecond rfl rfl, hsingle rfl]
  exact ⟨by decide, by decide, by decide, by decide,
    (htables (fourth.ladder {})).2.mpr (.inl (by decide))⟩

end Escalation

end Colloquy

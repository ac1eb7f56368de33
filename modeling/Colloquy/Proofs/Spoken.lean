import Colloquy.Proofs.Run

/-!
# What is put together in the course of a turn

Before a turn is finished its output has been put together from three sources, one after the other
(`Session.answeredTurn`):

1. what was scripted;
2. the **lines** of the engine, each of which is in stock or is the text of a rule of the script
   (`Engine.Speaks`), whoever owns the turn and whatever is asked;
3. the **values** of commands, and they are few. Only the first replay of a turn and the first
   restoring say anything (`Tracker.mem_values_iff`), and what they say can be told from the tracker
   as the turn found it.
-/

namespace Colloquy

/-! ### The lines of the engine -/

namespace Engine

/-- The engine has been made to **say** nothing but what is in stock and the texts of these
rules. -/
structure Speaks (rules : Dict String) (engine : Engine) : Prop where
  rules_eq : engine.script.rules = rules
  lines : ∀ line ∈ engine.lines,
    (∃ stock : StockLine, line = stock.text) ∨ ∃ rule, rules.get? rule = some line

namespace Speaks

variable {rules : Dict String} {engine : Engine}

theorem recorded (h : engine.Speaks rules) (call : EngineCall) :
    (engine.recorded call).Speaks rules := ⟨h.rules_eq, h.lines⟩

theorem setVariable (h : engine.Speaks rules) (name value : String) :
    (engine.setVariable name value).Speaks rules := ⟨h.rules_eq, h.lines⟩

theorem setKind (h : engine.Speaks rules) (kind : OutputKind) :
    (engine.setKind kind).Speaks rules := ⟨h.rules_eq, h.lines⟩

theorem resolve (h : engine.Speaks rules) (r : Resolution) : (engine.resolve r).Speaks rules :=
  ⟨h.rules_eq, h.lines⟩

theorem run (h : engine.Speaks rules) (name : String) : (engine.run name).Speaks rules := by
  rw [run_eq]
  exact h.recorded _

theorem say (h : engine.Speaks rules) (stock : StockLine) : (engine.say stock).Speaks rules where
  rules_eq := h.rules_eq
  lines line hline := by
    rcases List.mem_append.mp hline with hline | hline
    · exact h.lines line hline
    · exact Or.inl ⟨stock, List.mem_singleton.mp hline⟩

theorem reuse (h : engine.Speaks rules) (rule : String) : (engine.reuse rule).2.Speaks rules := by
  rw [Engine.reuse]
  cases htext : engine.script.rules.get? rule with
  | none => exact h.recorded _
  | some text =>
    refine ⟨h.rules_eq, fun line hline => ?_⟩
    rcases List.mem_append.mp hline with hline | hline
    · exact h.lines line hline
    · rw [h.rules_eq] at htext
      exact Or.inr ⟨rule, by rw [htext, List.mem_singleton.mp hline]⟩

end Speaks

end Engine

/-! ### Handling a fallback -/

namespace Escalation

variable {rules : Dict String} {engine : Engine} (e : Escalation)

theorem speaks_climb (h : engine.Speaks rules) (counter : UInt32) :
    (climb counter engine).2.2.Speaks rules := by
  simp only [climb, Engine.call_eq, Engine.send_eq]
  repeat' split
  all_goals
    first
    | exact h.resolve _
    | exact h.recorded _
    | exact (h.recorded _).resolve _
    | exact (h.recorded _).recorded _
    | exact ((h.recorded _).recorded _).recorded _
    | exact (((h.recorded _).recorded _).recorded _).resolve _

theorem speaks_reuseRule (h : engine.Speaks rules) : (e.reuseRule engine).2.Speaks rules := by
  rw [reuseRule]
  split
  · exact h
  · exact h.reuse _

theorem speaks_secondTurn (h : engine.Speaks rules) : (e.secondTurn engine).2.2.Speaks rules := by
  have hidling : (idling engine).Speaks rules := (h.resolve _).say _
  rw [secondTurn]
  dsimp only
  split
  · exact hidling
  · split
    · have hreuse := e.speaks_reuseRule hidling
      split
      · exact hreuse.resolve _
      · exact speaks_climb hreuse _
    · exact speaks_climb hidling _

theorem speaks_handle (h : engine.Speaks rules) : (e.handle engine).2.Speaks rules := by
  have hprepared : (prepared engine).Speaks rules := (h.setKind _).setVariable _ _
  have hattempt : (e.attempt (prepared engine)).2.2.Speaks rules := by
    rw [attempt]
    split
    · exact speaks_secondTurn _ ((hprepared.run _).run _)
    · split
      · exact hprepared
      · exact e.speaks_secondTurn hprepared
      · exact hprepared
  rw [handle_tried]
  dsimp only
  split
  · split
    · exact hattempt.resolve _
    · exact hattempt
  · exact ((hattempt.resolve _).say _).run _

end Escalation

theorem Owner.speaks_handle {rules : Dict String} {engine : Engine} (h : engine.Speaks rules)
    (owner : Owner) (e : Escalation) : (owner.handle e engine).2.2.Speaks rules := by
  cases owner with
  | event => exact (h.run _).run _
  | silent => exact ((((h.setVariable _ _).run _).run _).setKind _).run _
  | conversation => exact ((h.setKind _).resolve _).say _
  | social =>
    simp only [handle, reuseAuthored]
    split
    · exact h
    · exact h.reuse _
  | default => exact e.speaks_handle h

namespace Command

variable {settings : ArbiterSettings} {rules : Dict String}

theorem speaks_onArbiter {half : Arbiter × Engine} (h : half.2.Speaks rules) (command : Command) :
    (command.onArbiter settings half).2.Speaks rules := by
  cases command with
  | handleFallback =>
    rw [onArbiter, Arbiter.handle]
    cases settings.enabled with
    | false => exact h
    | true =>
      cases half.1.owner? with
      | none => exact h
      | some owner =>
        have howner := owner.speaks_handle h half.1.escalation
        change (if (owner.handle half.1.escalation half.2).1 then
          (owner.handle half.1.escalation half.2).2.2 else _).Speaks rules
        split
        · exact howner
        · exact ((howner.setKind _).say _).run _
  | _ => exact h

/-- **Whatever is asked** of the engine in a turn, it says only what is in stock and the texts of its
rules. -/
theorem speaks_foldl {half : Arbiter × Engine} (h : half.2.Speaks rules) (commands : List Command) :
    (commands.foldl (onArbiter settings) half).2.Speaks rules := by
  induction commands generalizing half with
  | nil => exact h
  | cons command rest ih => exact ih (speaks_onArbiter h command)

/-! ### The values of commands -/

/-- The **value** of a command that is said in the turn. -/
def value (t : Tracker) : Command → String
  | .sendReprompt wish => (t.replay wish).1
  | .restoreMarkup => t.restore.1
  | _ => ""

/-- Which prompt a replay **wishes** for. -/
def wish? : Command → Option (Option String)
  | .sendReprompt wish => some wish
  | _ => none

end Command

namespace Tracker

/-- The **values** that commands say in a turn, one after the other. -/
def values (t : Tracker) : List Command → List String
  | [] => []
  | command :: rest =>
    (if command.value t = "" then [] else [command.value t]) ++ values (command.onTracker t) rest

/-- What the first **replay** of a turn says: the last prompt if there is one to be replayed, and
else a curious look. -/
def replayed (t : Tracker) (wish : Option String) : String :=
  (t.replayable? wish).elim StockLine.curiousAnimation.text Prompt.text

theorem replay_eq (t : Tracker) (wish : Option String) :
    (t.replay wish).1 = (if t.repromptSent then "" else t.replayed wish) ∧
      (t.replay wish).2.repromptSent = true ∧ (t.replay wish).2.restoreAsked = t.restoreAsked ∧
      (t.replay wish).2.slot = t.slot := by
  have hsame : ({ t with repromptSent := true, promptKept := true, interruptionSettled := true }
      : Tracker).replayable? wish = t.replayable? wish := rfl
  rw [replay, replayed]
  cases hsent : t.repromptSent with
  | true => exact ⟨rfl, hsent, rfl, rfl⟩
  | false =>
    dsimp only
    rw [if_neg (by decide), if_neg (by decide), hsame]
    cases t.replayable? wish <;> exact ⟨rfl, rfl, rfl, rfl⟩

theorem restore_eq (t : Tracker) :
    t.restore.1 = (if t.restoreAsked then "" else Markup.restore t.slot) ∧
      t.restore.2.restoreAsked = true ∧ t.restore.2.repromptSent = t.repromptSent ∧
      t.restore.2.lastPrompt = t.lastPrompt := by
  rw [restore]
  cases hasked : t.restoreAsked with
  | true => exact ⟨rfl, hasked, rfl, rfl⟩
  | false => exact ⟨rfl, rfl, rfl, rfl⟩

theorem replayed_ne_empty (t : Tracker) (wish : Option String) : t.replayed wish ≠ "" := by
  rw [replayed]
  cases h : t.replayable? wish with
  | none => decide
  | some prompt =>
    have hspeech := (Option.filter_eq_some_iff.mp h).2
    simp only [Bool.and_eq_true, decide_eq_true_eq] at hspeech
    exact hspeech.1

/-- What a replay says depends on the last prompt alone. -/
theorem replayed_congr {t t' : Tracker} (h : t'.lastPrompt = t.lastPrompt) (wish : Option String) :
    t'.replayed wish = t.replayed wish := by
  rw [replayed, replayed, replayable?, replayable?, h]

/-- **What commands say**: the first restoring says the directive of the slot, the first replay
replays, and nothing else is said. -/
theorem mem_values_iff (t : Tracker) (commands : List Command) (value : String) :
    value ∈ t.values commands ↔
      (t.restoreAsked = false ∧ .restoreMarkup ∈ commands ∧ value = Markup.restore t.slot) ∨
      (t.repromptSent = false ∧
        ∃ wish ∈ commands.findSome? Command.wish?, value = t.replayed wish) := by
  induction commands generalizing t with
  | nil => simp [values]
  | cons command rest ih =>
    rw [values, List.mem_append, ih]
    cases command with
    | sendReprompt wish =>
      -- this is the first replay if none has been sent, and from here on one has been
      obtain ⟨hsaid, hsent, hasked, hslot⟩ := t.replay_eq wish
      have hsome : (Command.sendReprompt wish :: rest).findSome? Command.wish? = some wish := rfl
      simp only [Command.value, Command.onTracker, hsaid, hsent, hasked, hslot, hsome]
      cases t.repromptSent <;> simp [t.replayed_ne_empty wish, or_comm]
    | restoreMarkup =>
      -- the slot moves here, but no later restoring says anything
      obtain ⟨hsaid, hasked, hsent, hprompt⟩ := t.restore_eq
      have hne : Markup.restore t.slot ≠ "" := fun h => by
        have hempty := congrArg String.toList h
        unfold Markup.restore at hempty
        simp at hempty
      have hnone : (Command.restoreMarkup :: rest).findSome? Command.wish? =
          rest.findSome? Command.wish? := rfl
      simp only [Command.value, Command.onTracker, hsaid, hsent, hasked, hnone,
        replayed_congr hprompt]
      cases t.restoreAsked <;> simp [hne]
    | _ =>
      -- the others say nothing, and touch nothing that a value depends on
      simp [Command.value, Command.onTracker, Command.wish?, List.findSome?_cons, setLead,
        askOverride, askSave, replayed, replayable?]

end Tracker

/-- The **values** that calls say are those of the commands they are accepted as. -/
theorem answerAll_spoken (settings : ArbiterSettings) (desk : Desk) (calls : List CommandCall) :
    (Session.answerAll settings desk calls).2.1 = desk.tracker.values (accepted calls) := by
  induction calls generalizing desk with
  | nil => rfl
  | cons call rest ih =>
    rw [answerAll_cons, accepted]
    cases h : call.command? with
    | none =>
      obtain ⟨refusal, hanswer⟩ := Desk.answer_of_rejected settings h
      rw [hanswer, List.filterMap_cons_none h]
      exact ih desk
    | some command =>
      rw [desk.answer_of_accepted settings h, List.filterMap_cons_some h]
      dsimp only
      rw [ih, Tracker.values]
      congr 1
      cases command with
      | sendReprompt wish =>
        by_cases hempty : (desk.tracker.replay wish).1 = "" <;>
          simp [Command.isSpoken, Desk.reply, CommandOutcome.of, Command.value, hempty]
      | restoreMarkup =>
        by_cases hempty : desk.tracker.restore.1 = "" <;>
          simp [Command.isSpoken, Desk.reply, CommandOutcome.of, Command.value, hempty]
      | _ => rfl

end Colloquy

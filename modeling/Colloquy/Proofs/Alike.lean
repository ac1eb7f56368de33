import Colloquy.Proofs.TwoTurns

/-!
# Sessions that cannot be told apart

Much of what a session holds between turns is dead: the marks for one turn, the owner of the last
one, the rule of a resolution that has not begun. Two sessions that agree on the rest are **alike**
(`Session.Alike`), and no turn can tell them apart: its reports are the same but for their numbers
(`Session.Alike.runTurn_fst`), and the sessions after it are alike again
(`Session.Alike.runTurn_snd`).

The proof follows two sessions side by side through the parts of a turn. While commands are being
answered the two desks agree in everything (`Desk.Alike`), except that the escalations may remember
different rules as long as no resolution has begun (`Escalation.Twin`).
-/

namespace Colloquy

namespace Escalation

/-! ### Between turns -/

/-- Escalations that agree **between turns** in all that matters from now on. -/
structure Alike (e e' : Escalation) : Prop where
  stage : e'.stage = e.stage
  counter : e'.counter = e.counter
  lastSpeech : e'.lastSpeech = e.lastSpeech
  localRule : e.stage = .initial ∨ e'.localRule = e.localRule

theorem Alike.resetCounter {e e' : Escalation} (h : e.Alike e') :
    e.resetCounter.Alike e'.resetCounter :=
  ⟨h.stage, rfl, h.lastSpeech, h.localRule⟩

/-! ### During a turn -/

/-- Escalations that agree **during a turn**: in everything, or in everything but the rule while no
resolution has begun. -/
def Twin (e e' : Escalation) : Prop :=
  e' = e ∨ e.stage = .initial ∧ e.startStage = .initial ∧ ∃ rule, e' = { e with localRule := rule }

theorem Alike.takenUp {e e' : Escalation} (h : e.Alike e') (settings : ArbiterSettings)
    (treatment : Treatment) (input : Input) :
    (e.takenUp settings treatment input).Twin (e'.takenUp settings treatment input) := by
  have hsame : e'.takenUp settings treatment input =
      { e.takenUp settings treatment input with localRule := e'.localRule } := by
    obtain ⟨hstage, hcounter, hspeech, -⟩ := h
    rw [Escalation.takenUp, Escalation.takenUp, hstage]
    split <;> simp [opened, claim, withdrawn, hstage, hcounter, hspeech]
  rcases h.localRule with hinitial | hrule
  · refine Or.inr ⟨?_, ?_, e'.localRule, hsame⟩
    · rw [Escalation.takenUp, if_pos (Or.inl hinitial)]
      exact hinitial
    · rw [(e.takenUp_frame settings treatment input).1]
      exact hinitial
  · refine Or.inl (hsame.trans ?_)
    rw [hrule, ← (e.takenUp_frame settings treatment input).2.2.1]

namespace Twin

variable {e e' : Escalation} (h : e.Twin e')
include h

/-- A command asks the same of the engine for both, and leaves them twins. -/
theorem onEscalation (engine : Engine) (command : Command) :
    (command.onEscalation (e', engine)).2 = (command.onEscalation (e, engine)).2 ∧
      (command.onEscalation (e, engine)).1.Twin (command.onEscalation (e', engine)).1 := by
  rcases h with rfl | ⟨hinitial, hstart, rule, rfl⟩
  · exact ⟨rfl, Or.inl rfl⟩
  cases command with
  | handleFallback =>
    -- the rule is looked up anew, so that nothing is left of the difference
    simp only [Command.onEscalation, e.handle_of_initial engine hinitial]
    exact ⟨trivial, Or.inl rfl⟩
  | _ => exact ⟨rfl, Or.inr ⟨hinitial, hstart, rule, rfl⟩⟩

theorem lastSpeech : e'.lastSpeech = e.lastSpeech := by
  rcases h with rfl | ⟨-, -, rule, rfl⟩ <;> rfl

theorem abort : e.abort.Alike e'.abort := by
  rcases h with rfl | ⟨-, hstart, rule, rfl⟩
  · exact ⟨rfl, rfl, rfl, Or.inr rfl⟩
  · exact ⟨rfl, rfl, rfl, Or.inl hstart⟩

theorem finish (turn : Turn) : (e.finish turn).Alike (e'.finish turn) := by
  rcases h with rfl | ⟨hinitial, -, rule, rfl⟩
  · exact ⟨rfl, rfl, rfl, Or.inr rfl⟩
  · rw [finish_of_initial turn hinitial, finish_of_initial (e := { e with localRule := rule }) turn
      hinitial]
    exact ⟨rfl, rfl, rfl, Or.inl hinitial⟩

end Twin

end Escalation

/-! ### The start of a turn -/

/-- The turn that the escalation makes of what came in does not depend on what is waiting. -/
theorem Escalation.Alike.start_turn {e e' : Escalation} (h : e.Alike e')
    (settings : ArbiterSettings) (catalog : Catalog) (place : Place) (treatment : Treatment)
    (turn : Turn) :
    ((e'.claim treatment).start settings catalog place turn).2 =
      ((e.claim treatment).start settings catalog place turn).2 := by
  have hstage : e'.stage = e.stage := h.stage
  rcases hr : turn.input.isEventNamed settings.resumeEvent <;> cases hs : e.stage <;>
    simp [Escalation.start, Escalation.opened, Escalation.claim, Escalation.withdrawn, hr, hs,
      hstage, apply_ite Prod.snd]

/-- Arbiters that agree **during a turn**: in the owner and the place, and in the escalation as far
as the owner can see it. Only one that is switched on has given the turn to the escalation. -/
structure Arbiter.Alike (settings : ArbiterSettings) (arbiter arbiter' : Arbiter) : Prop where
  owner : arbiter'.owner? = arbiter.owner?
  place : arbiter'.place = arbiter.place
  enabled : arbiter.owner? = some .default → settings.enabled = true
  own : arbiter.owner? = some .default → arbiter.escalation.Twin arbiter'.escalation
  other : arbiter.owner? ≠ some .default → arbiter.escalation.Alike arbiter'.escalation

/-- Two arbiters that agree between turns **start** the same turn in the same way. -/
theorem Arbiter.start_alike {settings : ArbiterSettings} {arbiter arbiter' : Arbiter}
    (hplace : arbiter'.place = arbiter.place)
    (howner : settings.enabled = false → arbiter.owner? = none ∧ arbiter'.owner? = none)
    (hescalation : arbiter.escalation.Alike arbiter'.escalation) (catalog : Catalog)
    (conversation : Conversation) (turn : Turn) :
    (arbiter'.start settings catalog conversation turn).2 =
        (arbiter.start settings catalog conversation turn).2 ∧
      (arbiter.start settings catalog conversation turn).1.Alike settings
        (arbiter'.start settings catalog conversation turn).1 := by
  cases hen : settings.enabled with
  | false =>
    obtain ⟨hnone, hnone'⟩ := howner hen
    have hnot : arbiter.owner? ≠ some .default := by
      rw [hnone]
      decide
    rw [start_of_disabled _ _ _ _ _ hen, start_of_disabled _ _ _ _ _ hen]
    exact ⟨rfl, hnone'.trans hnone.symm, hplace, fun h => absurd h hnot, fun h => absurd h hnot,
      fun _ => hescalation⟩
  | true =>
    -- the policies look at the same things, and so find the same owner
    have hclaim : arbiter'.claimOf catalog conversation turn =
        arbiter.claimOf catalog conversation turn := by
      rw [claimOf, claimOf, hplace]
    constructor
    · simp only [start, hen, if_true, hclaim, hplace]
      cases Owner.first settings (arbiter.claimOf catalog conversation turn) with
      | default => exact hescalation.start_turn settings catalog arbiter.place _ turn
      | _ => rfl
    · rw [start_of_enabled _ _ _ _ _ hen, start_of_enabled _ _ _ _ _ hen, hclaim]
      refine ⟨rfl, hplace, fun _ => hen, fun h => ?_, fun h => ?_⟩
      · dsimp only at h ⊢
        rw [Option.some_inj] at h
        rw [if_pos h, if_pos h]
        exact hescalation.takenUp settings _ turn.input
      · dsimp only at h ⊢
        rw [ne_eq, Option.some_inj] at h
        rw [if_neg h, if_neg h]
        exact hescalation

/-! ### Commands -/

/-- A policy other than the escalation **handles** a fallback without looking at the escalation. -/
theorem Owner.handle_of_other {owner : Owner} (h : owner ≠ .default) (e e' : Escalation)
    (engine : Engine) :
    owner.handle e' engine = ((owner.handle e engine).1, e', (owner.handle e engine).2.2) := by
  cases owner with
  | default => exact absurd rfl h
  | _ => rfl

/-- In a turn that the escalation does not own, what a command asks of the engine does not depend on
the escalation. -/
theorem Command.engine_onArbiter_of_other (settings : ArbiterSettings) {arbiter arbiter' : Arbiter}
    (hsame : arbiter'.owner? = arbiter.owner?) (howner : arbiter.owner? ≠ some .default)
    (engine : Engine) (command : Command) :
    (command.onArbiter settings (arbiter', engine)).2 =
      (command.onArbiter settings (arbiter, engine)).2 := by
  obtain ⟨owner, place, e⟩ := arbiter
  obtain ⟨owner', place', e'⟩ := arbiter'
  obtain rfl : owner' = owner := hsame
  cases command with
  | handleFallback =>
    cases hen : settings.enabled with
    | false => simp [onArbiter, Arbiter.handle, hen]
    | true =>
      cases owner' with
      | none => simp [onArbiter, Arbiter.handle, hen]
      | some owner =>
        have hother : owner ≠ .default := fun heq => howner (congrArg some heq)
        simp [onArbiter, Arbiter.handle, hen, Owner.handle_of_other hother e e']
  | _ => rfl

namespace Arbiter.Alike

variable {settings : ArbiterSettings} {arbiter arbiter' : Arbiter}
  (h : arbiter.Alike settings arbiter')
include h

/-- The waiting utterance is **told** alike. -/
theorem lastSpeech : arbiter'.lastSpeech = arbiter.lastSpeech := by
  obtain ⟨owner, place, e⟩ := arbiter
  obtain ⟨owner', place', e'⟩ := arbiter'
  obtain rfl : owner' = owner := h.owner
  cases owner' with
  | none => rfl
  | some owner =>
    cases owner with
    | default => exact congrArg Except.ok (h.own rfl).lastSpeech
    | _ => rfl

/-- A command asks the same of the engine for both, and leaves them alike. -/
theorem onArbiter (engine : Engine) (command : Command) :
    (command.onArbiter settings (arbiter', engine)).2 =
        (command.onArbiter settings (arbiter, engine)).2 ∧
      (command.onArbiter settings (arbiter, engine)).1.Alike settings
        (command.onArbiter settings (arbiter', engine)).1 := by
  obtain ⟨hframe, hframe_place⟩ := Command.onArbiter_frame settings (arbiter, engine) command
  obtain ⟨hframe', hframe_place'⟩ := Command.onArbiter_frame settings (arbiter', engine) command
  have howners := hframe'.trans (h.owner.trans hframe.symm)
  have hplaces := hframe_place'.trans (h.place.trans hframe_place.symm)
  by_cases howner : arbiter.owner? = some .default
  · have howner' : arbiter'.owner? = some .default := h.owner.trans howner
    obtain ⟨hengine, htwin⟩ := (h.own howner).onEscalation engine command
    have hwork := @Command.onArbiter_of_default settings (h.enabled howner) (arbiter, engine) howner
    have hwork' := @Command.onArbiter_of_default settings (h.enabled howner) (arbiter', engine)
      howner'
    refine ⟨?_, howners, hplaces, fun _ => h.enabled howner, fun _ => ?_, fun hother => ?_⟩
    · rw [hwork, hwork']
      exact hengine
    · rw [hwork, hwork']
      exact htwin
    · exact absurd (hframe.trans howner) hother
  · have howner' : arbiter'.owner? ≠ some .default := by rwa [h.owner]
    refine ⟨Command.engine_onArbiter_of_other settings h.owner howner engine command, howners,
      hplaces, fun heq => absurd (hframe.symm.trans heq) howner,
      fun heq => absurd (hframe.symm.trans heq) howner, fun _ => ?_⟩
    rw [Command.onArbiter_of_other settings howner, Command.onArbiter_of_other settings howner']
    dsimp only
    rw [h.owner]
    split
    · exact (h.other howner).resetCounter
    · exact h.other howner

end Arbiter.Alike

/-- Desks that agree **during a turn**. -/
structure Desk.Alike (settings : ArbiterSettings) (desk desk' : Desk) : Prop where
  arbiter : desk.arbiter.Alike settings desk'.arbiter
  tracker : desk'.tracker = desk.tracker
  engine : desk'.engine = desk.engine

namespace Desk.Alike

variable {settings : ArbiterSettings} {desk desk' : Desk} (h : desk.Alike settings desk')
include h

/-- A command is **replied** to alike. -/
theorem reply (command : Command) :
    desk'.reply settings command = desk.reply settings command := by
  cases command <;>
    simp only [Desk.reply, h.arbiter.owner, h.tracker, h.arbiter.lastSpeech]

/-- A command leaves the desks alike. -/
theorem obey (command : Command) :
    (desk.obey settings command).Alike settings (desk'.obey settings command) := by
  obtain ⟨hengine, harbiter⟩ := h.arbiter.onArbiter desk.engine command
  rw [Desk.obey, Desk.obey, h.tracker, h.engine]
  exact ⟨harbiter, rfl, hengine⟩

/-- **A call** is answered alike, and leaves the desks alike. -/
theorem answer (call : CommandCall) :
    (desk'.answer settings call).1 = (desk.answer settings call).1 ∧
      (desk'.answer settings call).2.1 = (desk.answer settings call).2.1 ∧
      (desk.answer settings call).2.2.Alike settings (desk'.answer settings call).2.2 := by
  cases hcall : call.command? with
  | none =>
    obtain ⟨refusal, hrefused⟩ := Desk.answer_of_rejected settings hcall
    rw [hrefused, hrefused]
    exact ⟨rfl, rfl, h⟩
  | some command =>
    rw [desk.answer_of_accepted settings hcall, desk'.answer_of_accepted settings hcall,
      h.reply command]
    exact ⟨rfl, rfl, h.obey command⟩

end Desk.Alike

/-- **All calls** of a turn are answered alike, and leave the desks alike. -/
theorem Desk.Alike.answerAll {settings : ArbiterSettings} {desk desk' : Desk}
    (h : desk.Alike settings desk') (calls : List CommandCall) :
    (Session.answerAll settings desk' calls).1 = (Session.answerAll settings desk calls).1 ∧
      (Session.answerAll settings desk' calls).2.1 = (Session.answerAll settings desk calls).2.1 ∧
      (Session.answerAll settings desk calls).2.2.Alike settings
        (Session.answerAll settings desk' calls).2.2 := by
  induction calls generalizing desk desk' with
  | nil => exact ⟨rfl, rfl, h⟩
  | cons call rest ih =>
    obtain ⟨houtcome, hsaid, hdesk⟩ := h.answer call
    obtain ⟨houtcomes, hspoken, hrest⟩ := ih hdesk
    rw [answerAll_cons, answerAll_cons]
    dsimp only
    rw [houtcome, houtcomes, hsaid, hspoken]
    exact ⟨rfl, rfl, hrest⟩

/-! ### The end of a turn -/

namespace Arbiter.Alike

variable {settings : ArbiterSettings} {arbiter arbiter' : Arbiter}
  (h : arbiter.Alike settings arbiter')
include h

theorem abort : arbiter.abort.escalation.Alike arbiter'.abort.escalation := by
  rw [abort_eq, abort_eq, h.owner]
  split
  next howner => exact (h.own howner).abort
  next howner => exact h.other howner

theorem finish (turn : Turn) :
    (arbiter.finish turn).escalation.Alike (arbiter'.finish turn).escalation := by
  rw [finish_eq, finish_eq, h.owner]
  dsimp only
  split
  next howner => exact (h.own howner).finish turn
  next howner => exact h.other howner

end Arbiter.Alike

/-- A report without the **number** of its turn. -/
def Report.unnumbered (r : Report) : Report := { r with turn := 0 }

namespace Session

/-- Sessions that agree **between turns** in all that matters from now on. -/
structure Alike (setup : Setup) (s s' : Session) : Prop where
  tracker : s'.tracker.start = s.tracker.start
  conversation : s'.conversation = s.conversation
  place : s'.arbiter.place = s.arbiter.place
  owner : setup.settings.arbiter.enabled = false →
    s.arbiter.owner? = none ∧ s'.arbiter.owner? = none
  escalation : s.arbiter.escalation.Alike s'.arbiter.escalation

namespace Alike

variable {setup : Setup} {s s' : Session} (h : s.Alike setup s')
include h

theorem heard (script : TurnScript) : (s.heard script).Alike (s'.heard script) := by
  have hwakes : s'.Wakes script ↔ s.Wakes script := by
    simp only [Wakes, h.conversation]
  simp only [Session.heard, hwakes]
  split
  · exact h.escalation.resetCounter
  · exact h.escalation

/-- The same turn is **opened**, on desks that are alike. -/
theorem openTurn (script : TurnScript) :
    (s'.openTurn setup script).2 = (s.openTurn setup script).2 ∧
      (s.openedDesk setup script).Alike setup.settings.arbiter (s'.openedDesk setup script) := by
  have hopen := s.openTurn_start setup script
  have hopen' := s'.openTurn_start setup script
  rw [h.conversation] at hopen'
  obtain ⟨hturn, harbiter⟩ := @Arbiter.start_alike setup.settings.arbiter
    { s.arbiter with escalation := s.heard script }
    { s'.arbiter with escalation := s'.heard script } h.place h.owner (h.heard script)
    setup.catalog (script.conversation.getD s.conversation) (bareTurn script)
  rw [← hopen, ← hopen'] at hturn harbiter
  refine ⟨hturn, harbiter, ?_, rfl⟩
  rw [tracker_openedDesk, tracker_openedDesk, h.tracker]

/-- The calls of a turn are **answered** alike, and the same output comes of it. -/
theorem answered (script : TurnScript) :
    (answerAll setup.settings.arbiter (s'.openedDesk setup script) script.commands).1 =
        (answerAll setup.settings.arbiter (s.openedDesk setup script) script.commands).1 ∧
      s'.answeredTurn setup script = s.answeredTurn setup script ∧
      (s.answeredDesk setup script).Alike setup.settings.arbiter
        (s'.answeredDesk setup script) := by
  obtain ⟨hturn, hopened⟩ := h.openTurn script
  obtain ⟨houtcomes, hspoken, hanswered⟩ := hopened.answerAll script.commands
  have hspoken : s'.spoken setup script = s.spoken setup script := hspoken
  have hanswered : (s.answeredDesk setup script).Alike setup.settings.arbiter
      (s'.answeredDesk setup script) := hanswered
  refine ⟨houtcomes, ?_, hanswered⟩
  rw [answeredTurn, answeredTurn, hturn, hspoken, hanswered.engine]

/-- The sessions **after a turn** are alike, and their trackers the same. -/
theorem runTurn_snd (script : TurnScript) :
    (s'.runTurn setup script).2.tracker = (s.runTurn setup script).2.tracker ∧
      (s.runTurn setup script).2.Alike setup (s'.runTurn setup script).2 := by
  obtain ⟨-, hturn, hdesk⟩ := h.answered script
  have htracker : (s'.runTurn setup script).2.tracker = (s.runTurn setup script).2.tracker := by
    rw [tracker_runTurn, tracker_runTurn, hdesk.tracker, hturn]
  refine ⟨htracker, congrArg Tracker.start htracker, ?_, ?_, fun hen => ?_, ?_⟩
  · rw [Session.runTurn_snd, Session.runTurn_snd, h.conversation]
  · rw [place_runTurn, place_runTurn, h.place, hturn]
  · rw [owner?_runTurn, owner?_runTurn, owner?_openedDesk_of_disabled _ _ _ hen,
      owner?_openedDesk_of_disabled _ _ _ hen]
    exact h.owner hen
  · rw [arbiter_runTurn, arbiter_runTurn, hturn]
    split
    · exact hdesk.arbiter.abort
    · exact hdesk.arbiter.finish _

/-- What is **reported** of a turn is the same but for its number. -/
theorem runTurn_fst (script : TurnScript) :
    (s'.runTurn setup script).1.unnumbered = (s.runTurn setup script).1.unnumbered := by
  obtain ⟨houtcomes, hturn, hdesk⟩ := h.answered script
  obtain ⟨htracker, hafter⟩ := h.runTurn_snd script
  obtain ⟨-, hopened⟩ := h.openTurn script
  -- the turn as it is closed
  have hclosed : ((s'.answered setup script).closeTurn setup script
        (s'.answeredTurn setup script)).2 =
      ((s.answered setup script).closeTurn setup script (s.answeredTurn setup script)).2 := by
    simp only [closeTurn, Session.answered, hturn, hdesk.tracker, apply_ite Prod.snd]
  have howner : (s'.runTurn setup script).2.arbiter.owner? =
      (s.runTurn setup script).2.arbiter.owner? := by
    rw [owner?_runTurn, owner?_runTurn, hopened.arbiter.owner]
  rw [Session.runTurn_fst, Session.runTurn_fst, hclosed, houtcomes, hdesk.engine]
  simp only [Report.unnumbered, report, howner, htracker, hafter.escalation.counter,
    hafter.escalation.stage]

end Alike

variable {setup : Setup} {s s' : Session}

/-- **No run** tells sessions apart that are alike: the reports are the same but for the numbers of
the turns. -/
theorem Alike.runTurns (h : s.Alike setup s') (scripts : List TurnScript) :
    (s'.runTurns setup scripts).1.map Report.unnumbered =
      (s.runTurns setup scripts).1.map Report.unnumbered := by
  induction scripts generalizing s s' with
  | nil => rfl
  | cons script rest ih =>
    rw [runTurns_cons, runTurns_cons, List.map_cons, List.map_cons, h.runTurn_fst script,
      ih (h.runTurn_snd script).2]

end Session

end Colloquy

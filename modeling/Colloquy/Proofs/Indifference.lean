import Mathlib.Data.List.Forall2
import Colloquy.Proofs.Interruption
import Colloquy.Proofs.Order
import Colloquy.Proofs.Ownership

/-!
# What has no influence

Not everything that a session is given reaches what comes of it.

* **The engine** is asked when a fallback is handled, and by nothing else. In a turn without the
  command for it, it does not matter what the engine would have answered
  (`Session.runTurn_withEngine`).
* **An arbiter that is switched off** owns no turn. It is still told where the conversation is and
  of its surroundings, and it still answers commands; but whatever it is told, it is `Arbiter.Idle`,
  and an idle one is changed by no command, and answers each of them as any other idle one would. So
  what the arbiter alone looks at does not matter (`Session.Beside.runTurns`): the catalog, the
  surroundings, whether social chat is on, and the engine in every turn.
-/

namespace Colloquy

/-! ### The engine -/

/-- A command that does not handle the fallback **asks nothing of the engine**. -/
theorem Command.onArbiter_of_ne (settings : ArbiterSettings) {command : Command}
    (h : command ≠ .handleFallback) (arbiter : Arbiter) (engine engine' : Engine) :
    command.onArbiter settings (arbiter, engine') =
      ((command.onArbiter settings (arbiter, engine)).1, engine') := by
  cases command with
  | handleFallback => exact absurd rfl h
  | _ => rfl

/-- Desks that differ in what stands for **the engine**, and there in this way. -/
def Desk.Engines (engine engine' : Engine) (desk desk' : Desk) : Prop :=
  ∃ arbiter tracker, desk = ⟨arbiter, tracker, engine⟩ ∧ desk' = ⟨arbiter, tracker, engine'⟩

/-- Such desks differ in the same way when calls have been answered that do not handle the fallback,
and the answers are the same. -/
theorem Desk.Engines.answerAll {engine engine' : Engine} {desk desk' : Desk}
    (h : Desk.Engines engine engine' desk desk') (settings : ArbiterSettings)
    {calls : List CommandCall} (hcalls : .handleFallback ∉ accepted calls) :
    (Session.answerAll settings desk' calls).1 = (Session.answerAll settings desk calls).1 ∧
      (Session.answerAll settings desk' calls).2.1 = (Session.answerAll settings desk calls).2.1 ∧
      Desk.Engines engine engine' (Session.answerAll settings desk calls).2.2
        (Session.answerAll settings desk' calls).2.2 := by
  refine answerAll_congr settings (Desk.Engines engine engine') calls ?_ h
  rintro command hmem _ _ ⟨arbiter, tracker, rfl, rfl⟩
  have hother : command ≠ .handleFallback := fun he => hcalls (he ▸ hmem)
  have hsame := Command.onArbiter_of_ne settings hother arbiter engine
  refine ⟨by cases command <;> rfl, (command.onArbiter settings (arbiter, engine)).1,
    command.onTracker tracker, ?_, ?_⟩
  · rw [Desk.obey, hsame engine]
  · rw [Desk.obey, hsame engine']

/-- **In a turn that does not handle a fallback** it does not matter what the engine would answer.
-/
theorem Session.runTurn_withEngine (setup : Setup) (s : Session) {script : TurnScript}
    (h : .handleFallback ∉ accepted script.commands) (engine : EngineScript) :
    s.runTurn setup (script.withEngine engine) = s.runTurn setup script := by
  have hopened : Desk.Engines { script := script.engine } { script := engine }
      (s.openedDesk setup script) (s.openedDesk setup (script.withEngine engine)) :=
    ⟨_, _, rfl, rfl⟩
  obtain ⟨houtcomes, hspoken, arbiter, tracker, hdesk, hdesk'⟩ :=
    hopened.answerAll setup.settings.arbiter h
  replace hdesk : s.answeredDesk setup script = _ := hdesk
  replace hdesk' : s.answeredDesk setup (script.withEngine engine) = _ := hdesk'
  replace hspoken : s.spoken setup (script.withEngine engine) = s.spoken setup script := hspoken
  have hturn : s.answeredTurn setup (script.withEngine engine) = s.answeredTurn setup script := by
    rw [answeredTurn, answeredTurn, hspoken, hdesk, hdesk']
    rfl
  have hanswered : s.answered setup (script.withEngine engine) = s.answered setup script := by
    rw [answered, answered, hdesk, hdesk']
    rfl
  rw [runTurn_eq, runTurn_eq, hturn, hanswered, hdesk, hdesk']
  exact congrArg (fun outcomes => (Session.report _ script _ _ outcomes, _)) houtcomes

/-- Scripts of which nothing may differ but **the engine**, and not where a fallback is handled. -/
structure TurnScript.Spares (script script' : TurnScript) : Prop where
  same : script' = script.withEngine script'.engine
  handled : .handleFallback ∈ accepted script.commands → script'.engine = script.engine

theorem Session.runTurn_of_spares (setup : Setup) (s : Session) {script script' : TurnScript}
    (h : script.Spares script') : s.runTurn setup script' = s.runTurn setup script := by
  by_cases hhandles : .handleFallback ∈ accepted script.commands
  · rw [h.same, h.handled hhandles]
    rfl
  · rw [h.same, s.runTurn_withEngine setup hhandles]

theorem Session.runTurns_of_spares (setup : Setup) (s : Session)
    {scripts scripts' : List TurnScript} (h : List.Forall₂ TurnScript.Spares scripts scripts') :
    s.runTurns setup scripts' = s.runTurns setup scripts := by
  induction h generalizing s with
  | nil => rfl
  | cons hscript _ ih => rw [runTurns_cons, runTurns_cons, s.runTurn_of_spares setup hscript, ih]

/-! ### An arbiter that owns no turn -/

/-- An arbiter is **idle** if it owns no turn, has counted nothing and has resolved nothing. -/
structure Arbiter.Idle (arbiter : Arbiter) : Prop where
  owner : arbiter.owner? = none
  counter : arbiter.escalation.counter = 0
  stage : arbiter.escalation.stage = .initial

namespace Arbiter.Idle

variable {arbiter : Arbiter} (h : arbiter.Idle)
include h

theorem resetAllCounters : arbiter.resetAllCounters.Idle := ⟨h.owner, rfl, h.stage⟩

theorem abort : arbiter.abort.Idle := by
  rw [Arbiter.abort_eq, if_neg (by rw [h.owner]; decide)]
  exact h

/-- It is told **where the conversation is**, and nothing else. -/
theorem finish (turn : Turn) : (arbiter.finish turn).Idle := by
  rw [Arbiter.finish_eq, if_neg (by rw [h.owner]; decide)]
  exact ⟨h.owner, h.counter, h.stage⟩

end Arbiter.Idle

/-- **No command changes** an arbiter that owns no turn, or asks anything of the engine for it. -/
theorem Command.onArbiter_of_unowned (settings : ArbiterSettings) {arbiter : Arbiter}
    (h : arbiter.owner? = none) (engine : Engine) (command : Command) :
    command.onArbiter settings (arbiter, engine) = (arbiter, engine) := by
  cases command with
  | handleFallback =>
    cases hen : settings.enabled <;> simp [onArbiter, Arbiter.handle, hen, h]
  | keepCounter | resetCounter | restoreCounter => simp [onArbiter, Arbiter.adjust, h]
  | resetAllCounters => simp [onArbiter, h]
  | _ => rfl

/-- **Every arbiter** that owns no turn answers a command as any other does. -/
theorem Desk.reply_of_unowned (settings : ArbiterSettings) {arbiter arbiter' : Arbiter}
    (h : arbiter.owner? = none) (h' : arbiter'.owner? = none) (engine engine' : Engine)
    (tracker : Tracker) (command : Command) :
    Desk.reply settings ⟨arbiter', tracker, engine'⟩ command =
      Desk.reply settings ⟨arbiter, tracker, engine⟩ command := by
  cases command with
  | handleFallback | keepCounter | resetCounter | resetAllCounters | restoreCounter =>
    simp only [reply, h, h']
  | speechInput =>
    simp only [reply, Arbiter.lastSpeech, Arbiter.ownerOrRefusal, h, h']
    rfl
  | _ => rfl

/-- Calls are **answered** by any arbiter that owns no turn as by any other, and leave it and the
engine as they are. -/
theorem answerAll_of_unowned (settings : ArbiterSettings) {arbiter arbiter' : Arbiter}
    (h : arbiter.owner? = none) (h' : arbiter'.owner? = none) (engine engine' : Engine)
    (tracker : Tracker) (calls : List CommandCall) :
    (Session.answerAll settings ⟨arbiter', tracker, engine'⟩ calls).1 =
        (Session.answerAll settings ⟨arbiter, tracker, engine⟩ calls).1 ∧
      (Session.answerAll settings ⟨arbiter', tracker, engine'⟩ calls).2.1 =
        (Session.answerAll settings ⟨arbiter, tracker, engine⟩ calls).2.1 ∧
      ∃ after,
        (Session.answerAll settings ⟨arbiter, tracker, engine⟩ calls).2.2 =
          ⟨arbiter, after, engine⟩ ∧
        (Session.answerAll settings ⟨arbiter', tracker, engine'⟩ calls).2.2 =
          ⟨arbiter', after, engine'⟩ := by
  refine answerAll_congr settings (fun desk desk' =>
    ∃ tracker, desk = ⟨arbiter, tracker, engine⟩ ∧ desk' = ⟨arbiter', tracker, engine'⟩) calls ?_
    ⟨tracker, rfl, rfl⟩
  rintro command - _ _ ⟨tracker, rfl, rfl⟩
  refine ⟨Desk.reply_of_unowned settings h h' engine engine' tracker command,
    command.onTracker tracker, ?_, ?_⟩
  · rw [Desk.obey, Command.onArbiter_of_unowned settings h]
  · rw [Desk.obey, Command.onArbiter_of_unowned settings h']

/-! ### A session whose arbiter is switched off -/

/-- Scripts of which nothing may differ but the engine, the surroundings, and whether social chat is
on. -/
structure TurnScript.Beside (script script' : TurnScript) : Prop where
  input : script'.input = script.input
  commands : script'.commands = script.commands
  output : script'.output = script.output
  abort : script'.abort = script.abort
  remote : script'.remote = script.remote

/-- The turn with social chat **on or off**. -/
def Turn.withSocialChat (turn : Turn) (socialChat : Bool) : Turn := { turn with socialChat }

theorem Tracker.finish_withSocialChat (settings : TrackerSettings) (t : Tracker) (turn : Turn)
    (socialChat : Bool) :
    t.finish settings (turn.withSocialChat socialChat) =
      ((t.finish settings turn).1, (t.finish settings turn).2.withSocialChat socialChat) := by
  obtain ⟨input, output, request, social⟩ := turn
  cases output <;> rfl

namespace Session

/-- Sessions of which nothing but what an **idle** arbiter remembers, and the surroundings, may
differ. -/
structure Beside (s s' : Session) : Prop where
  tracker : s'.tracker = s.tracker
  turns : s'.turns = s.turns
  idle : s.arbiter.Idle
  idle' : s'.arbiter.Idle

variable {setup : Setup} (hen : setup.settings.arbiter.enabled = false)
include hen

/-- **Opening** a turn of an idle arbiter leaves it idle, and the turn as it comes in. -/
theorem openTurn_of_idle {s : Session} (h : s.arbiter.Idle) (script : TurnScript) :
    (s.openedDesk setup script).arbiter.Idle ∧
      (s.openTurn setup script).2 = bareTurn script := by
  have hopen := s.openTurn_start setup script
  rw [Arbiter.start_of_disabled _ _ _ _ _ hen] at hopen
  refine ⟨?_, congrArg Prod.snd hopen⟩
  rw [openedDesk_arbiter, Arbiter.start_of_disabled _ _ _ _ _ hen, heard]
  split
  · exact h.resetAllCounters
  · exact h

/-- An idle arbiter **stays idle**. -/
theorem idle_runTurn {s : Session} (h : s.arbiter.Idle) (script : TurnScript) :
    (s.runTurn setup script).2.arbiter.Idle := by
  obtain ⟨hidle, -⟩ := openTurn_of_idle hen h script
  have hanswered : (s.answeredDesk setup script).arbiter.Idle := by
    obtain ⟨-, -, after, hdesk, -⟩ := answerAll_of_unowned setup.settings.arbiter hidle.owner
      hidle.owner (s.openedDesk setup script).engine (s.openedDesk setup script).engine
      (s.openedDesk setup script).tracker script.commands
    replace hdesk : s.answeredDesk setup script = _ := hdesk
    rw [hdesk]
    exact hidle
  rw [arbiter_runTurn]
  split
  · exact hanswered.abort
  · exact hanswered.finish _

theorem Reachable.idle {s : Session} (h : Reachable setup s) : s.arbiter.Idle := by
  induction h with
  | new => exact ⟨rfl, rfl, rfl⟩
  | turn script _ ih => exact idle_runTurn hen ih script
  | conversation conversation _ ih =>
    rw [setConversation, Arbiter.phaseChanged]
    split
    · exact ih.resetAllCounters
    · exact ih
  | event _ ih => exact ih

omit hen in
theorem openedDesk_eq (s : Session) (script : TurnScript) :
    s.openedDesk setup script =
      ⟨(s.openedDesk setup script).arbiter, s.tracker.start, { script := script.engine }⟩ := by
  rw [← s.tracker_openedDesk setup script]
  rfl

section Step

variable {s s' : Session} (h : s.Beside s') {setup' : Setup}
  (hsetup : setup'.settings = setup.settings) {script script' : TurnScript}
  (hscript : script.Beside script')
include h hsetup hscript

/-- The calls of a turn are **answered** in the same way, and the same output comes of it. -/
theorem Beside.answered :
    (answerAll setup'.settings.arbiter (s'.openedDesk setup' script') script'.commands).1 =
        (answerAll setup.settings.arbiter (s.openedDesk setup script) script.commands).1 ∧
      (s'.answeredDesk setup' script').tracker = (s.answeredDesk setup script).tracker ∧
      (s.answeredDesk setup script).engine = { script := script.engine } ∧
      (s'.answeredDesk setup' script').engine = { script := script'.engine } ∧
      s'.answeredTurn setup' script' =
        (s.answeredTurn setup script).withSocialChat script'.socialChat := by
  obtain ⟨hidle, hturn⟩ := openTurn_of_idle hen h.idle script
  obtain ⟨hidle', hturn'⟩ := openTurn_of_idle (hsetup ▸ hen) h.idle' script'
  obtain ⟨houtcomes, hspoken, after, hdesk, hdesk'⟩ := answerAll_of_unowned setup.settings.arbiter
    hidle.owner hidle'.owner { script := script.engine } { script := script'.engine }
    s.tracker.start script.commands
  -- in the words of the turn
  have hopen' : s'.openedDesk setup' script' = _ := openedDesk_eq s' script'
  rw [h.tracker] at hopen'
  rw [← openedDesk_eq] at houtcomes hspoken hdesk
  rw [← hopen', ← hsetup, ← hscript.commands] at houtcomes hspoken hdesk'
  rw [hsetup, hscript.commands] at houtcomes hspoken
  replace hspoken : s'.spoken setup' script' = s.spoken setup script := by
    rw [spoken, spoken, hsetup, hscript.commands, hspoken]
  replace hdesk : s.answeredDesk setup script = _ := hdesk
  replace hdesk' : s'.answeredDesk setup' script' = _ := hdesk'
  refine ⟨by rw [hsetup, hscript.commands, houtcomes], by rw [hdesk, hdesk'], by rw [hdesk],
    by rw [hdesk'], ?_⟩
  rw [answeredTurn, answeredTurn, hturn, hturn', hspoken, hdesk, hdesk', hscript.output, bareTurn,
    bareTurn, hscript.input]
  rfl

theorem Beside.closedTurn :
    s'.closedTurn setup' script' =
      (s.closedTurn setup script).withSocialChat script'.socialChat := by
  obtain ⟨-, htracker, -, -, hturn⟩ := h.answered hen hsetup hscript
  rw [Session.closedTurn, Session.closedTurn, closeTurn, closeTurn, hturn, hscript.abort,
    hscript.remote]
  split
  · rfl
  · split
    · rfl
    · dsimp only [Session.answered]
      rw [htracker, hsetup, Tracker.finish_withSocialChat]

/-- The **sessions after a turn** are beside each other again. -/
theorem Beside.runTurn_snd :
    (s.runTurn setup script).2.Beside (s'.runTurn setup' script').2 := by
  obtain ⟨-, htracker, -, -, hturn⟩ := h.answered hen hsetup hscript
  refine ⟨?_, ?_, idle_runTurn hen h.idle script, idle_runTurn (hsetup ▸ hen) h.idle' script'⟩
  · rw [tracker_runTurn, tracker_runTurn, htracker, hturn, hsetup, hscript.abort, hscript.remote,
      Tracker.finish_withSocialChat]
    rfl
  · rw [Session.runTurn_snd, Session.runTurn_snd, h.turns]

/-- **What is reported** of a turn is the same. -/
theorem Beside.runTurn_fst :
    (s'.runTurn setup' script').1 = (s.runTurn setup script).1 := by
  obtain ⟨houtcomes, -, hengine, hengine', -⟩ := h.answered hen hsetup hscript
  have hafter := h.runTurn_snd hen hsetup hscript
  have hclosed := h.closedTurn hen hsetup hscript
  rw [Session.closedTurn, Session.closedTurn] at hclosed
  rw [Session.runTurn_fst, Session.runTurn_fst, hclosed, houtcomes, hengine, hengine']
  simp only [report, hafter.tracker, hafter.turns, hafter.idle.owner, hafter.idle.counter,
    hafter.idle.stage, hafter.idle'.owner, hafter.idle'.counter, hafter.idle'.stage, hscript.abort]
  rfl

end Step

/-- A report **shows nothing** of an arbiter that is switched off. -/
theorem report_of_idle {s : Session} (h : s.arbiter.Idle) (script : TurnScript) :
    (s.runTurn setup script).1.owner = none ∧ (s.runTurn setup script).1.resolution = none ∧
      (s.runTurn setup script).1.counter = 0 ∧ (s.runTurn setup script).1.stage = .initial := by
  have hsame : s.Beside s := ⟨rfl, rfl, h, h⟩
  have hscript : script.Beside script := ⟨rfl, rfl, rfl, rfl, rfl⟩
  obtain ⟨-, -, hengine, -⟩ := hsame.answered hen (rfl : setup.settings = setup.settings) hscript
  have hidle := idle_runTurn hen h script
  rw [resolution_report, hengine]
  exact ⟨hidle.owner, rfl, hidle.counter, hidle.stage⟩

end Session

namespace Session

/-- **No run** tells sessions beside each other apart. -/
theorem Beside.runTurns {setup setup' : Setup} (hen : setup.settings.arbiter.enabled = false)
    (hsetup : setup'.settings = setup.settings) {s s' : Session} (h : s.Beside s')
    {scripts scripts' : List TurnScript}
    (hscripts : List.Forall₂ TurnScript.Beside scripts scripts') :
    (s'.runTurns setup' scripts').1 = (s.runTurns setup scripts).1 ∧
      ∀ r ∈ (s.runTurns setup scripts).1,
        r.owner = none ∧ r.resolution = none ∧ r.counter = 0 ∧ r.stage = .initial := by
  induction hscripts generalizing s s' with
  | nil => exact ⟨rfl, fun _ hr => absurd hr List.not_mem_nil⟩
  | @cons script script' _ _ hscript _ ih =>
    obtain ⟨hreports, hshow⟩ := ih (h.runTurn_snd hen hsetup hscript)
    rw [runTurns_cons, runTurns_cons]
    refine ⟨congrArg₂ List.cons (h.runTurn_fst hen hsetup hscript) hreports, fun r hr => ?_⟩
    rcases List.mem_cons.mp hr with rfl | hr
    · exact report_of_idle hen h.idle script
    · exact hshow r hr

/-- **What has no influence.** Engines that are not asked to handle a fallback may be replaced by
any others in every run, and everything stays as it is. In a session whose arbiter is switched off,
so may the catalog, all engines, all surroundings that turns bring along, and whether social chat is
on: the reports stay as they are, and show no owner, no resolution, nothing counted and the initial
stage. -/
theorem runTurns_indifferent (setup : Setup) :
    (∀ (s : Session) {scripts scripts' : List TurnScript},
      List.Forall₂ TurnScript.Spares scripts scripts' →
        s.runTurns setup scripts' = s.runTurns setup scripts) ∧
      (setup.settings.arbiter.enabled = false → ∀ s, Reachable setup s →
        ∀ (catalog : Catalog) {scripts scripts' : List TurnScript},
          List.Forall₂ TurnScript.Beside scripts scripts' →
            (s.runTurns { setup with catalog } scripts').1 = (s.runTurns setup scripts).1 ∧
              ∀ r ∈ (s.runTurns setup scripts).1,
                r.owner = none ∧ r.resolution = none ∧ r.counter = 0 ∧ r.stage = .initial) := by
  refine ⟨fun s _ _ h => s.runTurns_of_spares setup h, fun hen s hs catalog _ _ h => ?_⟩
  have hidle := hs.idle hen
  have hsettings : ({ setup with catalog } : Setup).settings = setup.settings := rfl
  exact Beside.runTurns hen hsettings ⟨rfl, rfl, hidle, hidle⟩ h

/-- A question, and an answer to it that is not understood. -/
def misheard : List TurnScript :=
  [telling (.speech "hi") "What color?" "root" "~root_ask", .handling (.speech "blorp")]

/-- The same turns in other surroundings, with social chat on, and with an engine that ends every
call. -/
def misheardElsewhere : List TurnScript :=
  misheard.map fun script =>
    { script with
      engine := { vars := Dict.insert ∅ Engine.endSignal "true" }
      conversation := some { phase := .sleep, interruptible := true }
      socialChat := true }

/-- An arbiter that is switched off reports the same turns, wherever they are and whatever is
authored. And the engine may be another one in the turn that it is not asked in. -/
theorem runTurns_indifferent_misheard :
    let off : Setup := { settings := { arbiter := { enabled := false } } }
    let silent : Catalog := Catalog.withTopic {} "root" "root_ask" { treatment := .silent }
    (new.runTurns { off with catalog := silent } misheardElsewhere).1 =
        (new.runTurns off misheard).1 ∧
      (∀ r ∈ (new.runTurns off misheard).1,
        r.owner = none ∧ r.resolution = none ∧ r.counter = 0 ∧ r.stage = .initial) ∧
      new.runTurns {} (misheard.modifyHead (·.withEngine { vars := Dict.insert ∅ "x" "y" })) =
        new.runTurns {} misheard := by
  intro off silent
  have hscripts : List.Forall₂ TurnScript.Beside misheard misheardElsewhere :=
    .cons ⟨rfl, rfl, rfl, rfl, rfl⟩ (.cons ⟨rfl, rfl, rfl, rfl, rfl⟩ .nil)
  obtain ⟨hreports, hshow⟩ := (runTurns_indifferent off).2 rfl new .new silent hscripts
  refine ⟨hreports, hshow, (runTurns_indifferent {}).1 new ?_⟩
  exact .cons ⟨rfl, fun h => absurd h (by decide)⟩ (.cons ⟨rfl, fun _ => rfl⟩ .nil)

end Session

end Colloquy

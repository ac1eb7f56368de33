import Colloquy.Proofs.Indifference
import Colloquy.Proofs.Ladder
import Colloquy.Proofs.Unresolved

/-!
# Counting without bounds

The counter has thirty-two bits, and it would start anew if it were ever full. It is not, in any
conversation that anybody could have: after `n` turns it is `n + 3` at most, whatever commands have
come in them, so that counting one more always fits as long as there are fewer than `2 ^ 32 - 4` of
them (`Session.toNat_counter_add_one_lt`).

So it might as well be a natural number. A **tally** (`Tally`) is a conversation in which it is one.
All that is ever asked of the counter is which step of the ladder it tells, and that is the same for
a small counter on the same **rung** (`Tally.standIn`): the steps repeat every six counts. With that
one in place the conversation goes on as it would (`Session.runTurn_withCounter`), and what is
counted is written down in the tally, where nothing can overflow. Such a conversation and the real
one never part (`Session.counting_is_exact`).
-/

namespace Colloquy

/-! ### Another counter in the same place -/

/-- The escalation with another **counter**. -/
def Escalation.withCounter (e : Escalation) (counter : UInt32) : Escalation := { e with counter }

/-- The arbiter with another counter. -/
def Arbiter.withCounter (arbiter : Arbiter) (counter : UInt32) : Arbiter :=
  { arbiter with escalation := arbiter.escalation.withCounter counter }

/-- The desk with another counter. -/
def Desk.withCounter (desk : Desk) (counter : UInt32) : Desk :=
  { desk with arbiter := desk.arbiter.withCounter counter }

/-- The session with another counter. -/
def Session.withCounter (s : Session) (counter : UInt32) : Session :=
  { s with arbiter := s.arbiter.withCounter counter }

namespace Escalation

/-- A counter **on the same rung**: it tells the same step of the ladder. -/
structure SameRung (counter other : UInt32) : Prop where
  zero : other = 0 ↔ counter = 0
  moveOn : other % moveOnThreshold = 0 ↔ counter % moveOnThreshold = 0
  chat : other % chatThreshold = 0 ↔ counter % chatThreshold = 0

theorem SameRung.refl (counter : UInt32) : SameRung counter counter :=
  ⟨Iff.rfl, Iff.rfl, Iff.rfl⟩

variable {e : Escalation} {counter other : UInt32}

theorem climb_of_sameRung (h : SameRung counter other) (engine : Engine) :
    climb other engine = climb counter engine := by
  simp only [climb, h.zero, h.moveOn, h.chat]

/-- On the same rung **the second turn** goes the same way. -/
theorem secondTurn_withCounter (h : SameRung e.counter other) (engine : Engine) :
    (e.withCounter other).secondTurn engine =
      ((e.secondTurn engine).1, (e.secondTurn engine).2.1.withCounter other,
        (e.secondTurn engine).2.2) := by
  have hrule : (e.withCounter other).ruleTried = e.ruleTried := by
    simp only [ruleTried, withCounter, h.zero]
  have hclimb (engine : Engine) :
      climb (e.withCounter other).counter engine = climb e.counter engine :=
    climb_of_sameRung h engine
  rw [secondTurn_eq, secondTurn_eq, hrule]
  simp only [hclimb]
  split
  · rfl
  · split <;> rfl

theorem attempt_withCounter (h : SameRung e.counter other) (engine : Engine) :
    (e.withCounter other).attempt engine =
      ((e.attempt engine).1, (e.attempt engine).2.1.withCounter other, (e.attempt engine).2.2) := by
  obtain ⟨stage, startStage, counter, kept, resetAsked, movedOn, oneTurn, localRule, lastSpeech⟩ :=
    e
  cases oneTurn with
  | false =>
    cases stage with
    | second => exact secondTurn_withCounter h engine
    | initial | afterInitial => rfl
  | true =>
    -- the count is asked in the second half only
    exact secondTurn_withCounter (e := ⟨.second, startStage, counter, false, resetAsked, movedOn,
      true, (engine.value? Engine.fallbackRule).getD "", lastSpeech⟩) h _

/-- And so does **handling** a fallback. -/
theorem handle_withCounter (h : SameRung e.counter other) (engine : Engine) :
    (e.withCounter other).handle engine =
      ((e.handle engine).1.withCounter other, (e.handle engine).2) := by
  rw [handle_tried, handle_tried, attempt_withCounter h]
  dsimp only
  split <;> rfl

theorem start_withCounter (settings : ArbiterSettings) (catalog : Catalog) (place : Place)
    (e : Escalation) (other : UInt32) (turn : Turn) :
    (e.withCounter other).start settings catalog place turn =
      ((e.start settings catalog place turn).1.withCounter other,
        (e.start settings catalog place turn).2) ∧
      (e.start settings catalog place turn).1.counter = e.counter := by
  obtain ⟨stage, startStage, counter, kept, resetAsked, movedOn, oneTurn, localRule, lastSpeech⟩ :=
    e
  cases hresumes : turn.input.isEventNamed settings.resumeEvent <;> cases stage <;>
    cases oneTurn <;> simp [start, opened, withdrawn, withCounter, hresumes]

/-- **Finishing** a turn does something to the counter, but does not ask for it. -/
theorem finish_withCounter (e : Escalation) (other : UInt32) (turn : Turn) :
    ∃ after, (e.withCounter other).finish turn = (e.finish turn).withCounter after := by
  have hstage : (e.withCounter other).stage = e.stage := rfl
  have hresets (output : Output) : (e.withCounter other).resets output = e.resets output := rfl
  rw [finish, finish]
  cases turn.output with
  | none => exact ⟨other, rfl⟩
  | some output =>
    dsimp only
    rw [hstage, hresets]
    cases e.stage with
    | initial =>
      dsimp only
      split
      · exact ⟨0, rfl⟩
      · exact ⟨other, rfl⟩
    | afterInitial => exact ⟨other, rfl⟩
    | second => exact ⟨_, rfl⟩

end Escalation

open Escalation (SameRung)

namespace Arbiter

theorem start_withCounter (settings : ArbiterSettings) (catalog : Catalog)
    (conversation : Conversation) (arbiter : Arbiter) (other : UInt32) (turn : Turn) :
    (arbiter.withCounter other).start settings catalog conversation turn =
      ((arbiter.start settings catalog conversation turn).1.withCounter other,
        (arbiter.start settings catalog conversation turn).2) ∧
      (arbiter.start settings catalog conversation turn).1.escalation.counter =
        arbiter.escalation.counter := by
  have hclaim : (arbiter.withCounter other).claimOf catalog conversation turn =
      arbiter.claimOf catalog conversation turn := rfl
  cases hen : settings.enabled with
  | false =>
    rw [start_of_disabled _ _ _ _ _ hen, start_of_disabled _ _ _ _ _ hen]
    exact ⟨rfl, rfl⟩
  | true =>
    simp only [start, hen, if_true, hclaim]
    cases Owner.first settings (arbiter.claimOf catalog conversation turn) with
    | default =>
      obtain ⟨hstart, hcounter⟩ := Escalation.start_withCounter settings catalog arbiter.place
        (arbiter.escalation.claim (arbiter.claimOf catalog conversation turn).treatment) other turn
      exact ⟨congrArg (fun half : Escalation × Turn =>
        (({ arbiter with owner? := some .default, escalation := half.1 } : Arbiter), half.2)) hstart,
        hcounter⟩
    | _ => exact ⟨rfl, rfl⟩

theorem finish_withCounter (arbiter : Arbiter) (other : UInt32) (turn : Turn) :
    ∃ after, (arbiter.withCounter other).finish turn = (arbiter.finish turn).withCounter after := by
  have howner : (arbiter.withCounter other).owner? = arbiter.owner? := rfl
  rw [finish_eq, finish_eq, howner]
  by_cases hdefault : arbiter.owner? = some .default
  · obtain ⟨after, hfinish⟩ := arbiter.escalation.finish_withCounter other turn
    rw [if_pos hdefault, if_pos hdefault]
    exact ⟨after, congrArg (Arbiter.mk _ _) hfinish⟩
  · rw [if_neg hdefault, if_neg hdefault]
    exact ⟨other, rfl⟩

theorem abort_withCounter (arbiter : Arbiter) (other : UInt32) :
    (arbiter.withCounter other).abort = arbiter.abort.withCounter other := by
  have howner : (arbiter.withCounter other).owner? = arbiter.owner? := rfl
  rw [abort_eq, abort_eq, howner]
  split <;> rfl

end Arbiter

/-! ### The commands of a turn -/

/-- Desks that differ in the counter, and there are on the **same rung**. -/
def Desk.Beside (desk desk' : Desk) : Prop :=
  ∃ other, SameRung desk.arbiter.escalation.counter other ∧ desk' = desk.withCounter other

/-- **No command** takes a counter off the rung, and on the same rung it does the same. -/
theorem Command.onArbiter_withCounter (settings : ArbiterSettings) {arbiter : Arbiter}
    {other : UInt32} (h : SameRung arbiter.escalation.counter other) (engine : Engine)
    (command : Command) :
    ∃ after,
      SameRung (command.onArbiter settings (arbiter, engine)).1.escalation.counter after ∧
      command.onArbiter settings (arbiter.withCounter other, engine) =
        ((command.onArbiter settings (arbiter, engine)).1.withCounter after,
          (command.onArbiter settings (arbiter, engine)).2) := by
  obtain ⟨owner, place, escalation⟩ := arbiter
  cases command with
  | handleFallback =>
    refine ⟨other, ?_⟩
    cases hen : settings.enabled with
    | false => simpa [onArbiter, Arbiter.handle, hen] using h
    | true =>
      -- only the escalation asks its counter when it handles a fallback
      have hhandle := Escalation.handle_withCounter h engine
      rcases owner with _ | (_ | _ | _ | _ | _) <;>
        simpa [onArbiter, Arbiter.handle, hen, Owner.handle, Arbiter.withCounter, hhandle] using h
  | keepCounter | resetCounter | restoreCounter =>
    -- they reach the counter if the escalation owns the turn
    rcases owner with _ | (_ | _ | _ | _ | _) <;>
      first
      | exact ⟨other, h, rfl⟩
      | exact ⟨_, .refl _, rfl⟩
  | resetAllCounters =>
    cases owner with
    | none => exact ⟨other, h, rfl⟩
    | some owner => exact ⟨0, .refl 0, rfl⟩
  | _ => exact ⟨other, h, rfl⟩

theorem Desk.Beside.obey {desk desk' : Desk} (h : desk.Beside desk') (settings : ArbiterSettings)
    (command : Command) :
    desk'.reply settings command = desk.reply settings command ∧
      (desk.obey settings command).Beside (desk'.obey settings command) := by
  obtain ⟨other, hrung, rfl⟩ := h
  obtain ⟨after, hafter, hhalf⟩ :=
    Command.onArbiter_withCounter settings hrung desk.engine command
  refine ⟨by cases command <;> rfl, after, hafter, ?_⟩
  rw [Desk.obey, Desk.withCounter, hhalf]
  rfl

/-! ### A turn with another counter -/

namespace Session

variable {s : Session} {other : UInt32}

theorem eq_withCounter {t : Session} (harbiter : t.arbiter = s.arbiter.withCounter other)
    (htracker : t.tracker = s.tracker) (hconversation : t.conversation = s.conversation)
    (hturns : t.turns = s.turns) : t = s.withCounter other := by
  obtain ⟨arbiter, tracker, conversation, turns⟩ := t
  dsimp only at harbiter htracker hconversation hturns
  rw [harbiter, htracker, hconversation, hturns]
  rfl

theorem heard_withCounter (s : Session) (script : TurnScript) (other : UInt32) :
    (s.withCounter other).heard script =
      (s.heard script).withCounter (if s.Wakes script then 0 else other) := by
  have hwakes : (s.withCounter other).Wakes script ↔ s.Wakes script := Iff.rfl
  rw [heard, heard, if_congr hwakes rfl rfl]
  split <;> rfl

variable (setup : Setup) (script : TurnScript)

/-- **Opening** a turn looks at the counter nowhere, and leaves it on the same rung. -/
theorem openTurn_withCounter (h : SameRung s.arbiter.escalation.counter other) :
    (s.openedDesk setup script).Beside ((s.withCounter other).openedDesk setup script) ∧
      ((s.withCounter other).openTurn setup script).2 = (s.openTurn setup script).2 := by
  obtain ⟨hstart, hcounter⟩ := Arbiter.start_withCounter setup.settings.arbiter setup.catalog
    (script.conversation.getD s.conversation) { s.arbiter with escalation := s.heard script }
    (if s.Wakes script then 0 else other) (bareTurn script)
  have hopen := (s.withCounter other).openTurn_start setup script
  rw [heard_withCounter] at hopen
  replace hopen := hopen.trans hstart
  rw [← openTurn_start] at hopen hcounter
  obtain ⟨harbiter, hturn⟩ := Prod.mk.inj hopen
  refine ⟨⟨if s.Wakes script then 0 else other, ?_, ?_⟩, hturn⟩
  · have hsame : (s.openedDesk setup script).arbiter.escalation.counter = s.startCounter script :=
      hcounter.trans (s.counter_heard script)
    rw [hsame, startCounter]
    split
    · exact .refl 0
    · exact h
  · replace harbiter : ((s.withCounter other).openedDesk setup script).arbiter = _ := harbiter
    rw [openedDesk_eq, harbiter, openedDesk_eq s]
    rfl

/-- **Answering** the calls of a turn does not tell counters on the same rung apart. -/
theorem answered_withCounter (h : SameRung s.arbiter.escalation.counter other) :
    (s.answeredDesk setup script).Beside ((s.withCounter other).answeredDesk setup script) ∧
      (s.withCounter other).answeredTurn setup script = s.answeredTurn setup script := by
  obtain ⟨hopened, hturn⟩ := openTurn_withCounter setup script h
  obtain ⟨-, hspoken, hdesk⟩ := answerAll_congr setup.settings.arbiter Desk.Beside script.commands
    (fun command _ desk desk' hdesks => hdesks.obey setup.settings.arbiter command) hopened
  replace hspoken : (s.withCounter other).spoken setup script = s.spoken setup script := hspoken
  refine ⟨hdesk, ?_⟩
  obtain ⟨after, -, hafter⟩ := hdesk
  replace hafter : (s.withCounter other).answeredDesk setup script = _ := hafter
  rw [answeredTurn, answeredTurn, hturn, hspoken, hafter]
  rfl

/-- **A turn** with another counter on the same rung is the same turn, and only the counter is
another one after it. -/
theorem runTurn_withCounter (h : SameRung s.arbiter.escalation.counter other) :
    ∃ after, ((s.withCounter other).runTurn setup script).2 =
      (s.runTurn setup script).2.withCounter after := by
  obtain ⟨⟨called, -, hdesk⟩, hturn⟩ := answered_withCounter setup script h
  have harbiter : ∃ after, ((s.withCounter other).runTurn setup script).2.arbiter =
      (s.runTurn setup script).2.arbiter.withCounter after := by
    rw [arbiter_runTurn, arbiter_runTurn, hdesk, hturn]
    split
    · exact ⟨called, Arbiter.abort_withCounter _ _⟩
    · exact Arbiter.finish_withCounter _ _ _
  obtain ⟨after, harbiter⟩ := harbiter
  refine ⟨after, eq_withCounter harbiter ?_ ?_ ?_⟩
  · rw [tracker_runTurn, tracker_runTurn, hdesk, hturn]
    rfl
  · rw [runTurn_snd, runTurn_snd]
    rfl
  · rw [runTurn_snd, runTurn_snd]
    rfl

end Session

/-! ### What is counted -/

/-- What a command makes of a **count**. -/
def Command.onCount (count : Nat) : Command → Nat
  | .resetCounter | .resetAllCounters => 0
  | .restoreCounter => Escalation.moveOnThreshold.toNat
  | _ => count

theorem Command.toNat_foldl_onCounter (commands : List Command) (counter : UInt32) :
    (commands.foldl onCounter counter).toNat =
      commands.foldl onCount counter.toNat := by
  induction commands generalizing counter with
  | nil => rfl
  | cons command rest ih =>
    rw [List.foldl_cons, List.foldl_cons, ih]
    congr 1
    cases command <;> rfl

/-- What finishing a turn makes of a **count**. -/
def Escalation.tallied (e : Escalation) (turn : Turn) (count : Nat) : Nat :=
  match turn.output with
  | none => count
  | some output =>
    match e.stage with
    | .initial => if e.resets output then 0 else count
    | .afterInitial => count
    | .second => if e.counts output then count + 1 else count

/-- Finishing a turn **counts as it tallies**, if one more fits. -/
theorem Escalation.toNat_counter_finish {e : Escalation} (h : e.counter.toNat + 1 < UInt32.size)
    (turn : Turn) :
    (e.finish turn).counter.toNat = e.tallied turn e.counter.toNat := by
  have hone : (e.counter + 1).toNat = e.counter.toNat + 1 := by
    rw [UInt32.toNat_add]
    exact Nat.mod_eq_of_lt h
  rw [finish, tallied]
  cases turn.output with
  | none => rfl
  | some output =>
    cases e.stage with
    | initial =>
      dsimp only
      split <;> rfl
    | afterInitial => rfl
    | second =>
      dsimp only
      rw [apply_ite UInt32.toNat, hone]

namespace Session

variable (setup : Setup) (s : Session) (script : TurnScript)

/-- What a turn makes of a **count**: it is zero if the conversation wakes up; in a turn that the
escalation owns, the counter commands set it, and finishing the turn may; in every other turn of an
owner, it is zero if all counters are reset. -/
def tallied (count : Nat) : Nat :=
  let started := if s.Wakes script then 0 else count
  if (s.openedDesk setup script).arbiter.owner? = some .default then
    let called := (accepted script.commands).foldl Command.onCount started
    if script.abort then called
    else (s.answeredDesk setup script).arbiter.escalation.tallied (s.answeredTurn setup script) called
  else if .resetAllCounters ∈ accepted script.commands ∧
      (s.openedDesk setup script).arbiter.owner?.isSome then 0
  else started

variable {setup s script}

/-- It does not depend on the counter, as long as it is on the same rung. -/
theorem tallied_withCounter {other : UInt32} (h : SameRung s.arbiter.escalation.counter other)
    (count : Nat) :
    (s.withCounter other).tallied setup script count = s.tallied setup script count := by
  obtain ⟨⟨opened, -, hopened⟩, -⟩ := openTurn_withCounter setup script h
  obtain ⟨⟨called, -, hdesk⟩, hturn⟩ := answered_withCounter setup script h
  rw [tallied, tallied, hopened, hdesk, hturn]
  rfl

theorem toNat_calledCounter :
    (s.calledCounter script).toNat =
      (accepted script.commands).foldl Command.onCount
        (if s.Wakes script then 0 else s.arbiter.escalation.counter.toNat) := by
  rw [calledCounter, Command.toNat_foldl_onCounter, startCounter, apply_ite UInt32.toNat]
  rfl

/-- **A turn** counts as it tallies, if one more fits when its commands have been answered. -/
theorem toNat_counter_runTurn (h : Reachable setup s)
    (hfits : (s.answeredDesk setup script).arbiter.escalation.counter.toNat + 1 < UInt32.size) :
    (s.runTurn setup script).2.arbiter.escalation.counter.toNat =
      s.tallied setup script s.arbiter.escalation.counter.toNat := by
  rw [tallied]
  by_cases howner : (s.openedDesk setup script).arbiter.owner? = some .default
  · have hen := h.enabled_of_default script howner
    have hcalled : (s.answeredDesk setup script).arbiter.escalation.counter =
        s.calledCounter script := by
      rw [(s.answeredDesk_of_default setup script hen howner).1, counter_escalated]
    rw [if_pos howner, ← toNat_calledCounter, escalation_runTurn_of_default _ _ _ howner, ← hcalled]
    split
    · rfl
    · exact Escalation.toNat_counter_finish hfits _
  · rw [if_neg howner, counter_of_other howner]
    split
    · rfl
    · rw [startCounter, apply_ite UInt32.toNat]
      rfl

/-! ### The counter does not overflow -/

/-- The commands of a turn call the counter to three at most, if not to what it was, whoever owns the
turn. -/
theorem toNat_counter_answeredDesk_le (h : Reachable setup s) :
    (s.answeredDesk setup script).arbiter.escalation.counter.toNat ≤
      max s.arbiter.escalation.counter.toNat 3 := by
  by_cases howner : (s.openedDesk setup script).arbiter.owner? = some .default
  · have hen := h.enabled_of_default script howner
    rw [(s.answeredDesk_of_default setup script hen howner).1, counter_escalated]
    exact toNat_calledCounter_le s script
  · rw [escalation_answeredDesk_of_other _ _ _ howner]
    split
    · exact Nat.zero_le _
    · rw [counter_heard]
      exact (toNat_startCounter_le s script).trans (Nat.le_max_left _ _)

/-- **Counting one more fits** in the next turn of a conversation that is not too long. -/
theorem toNat_counter_add_one_lt {past : List PastTurn} (h : Past setup past s)
    (hlength : past.length < UInt32.size - 4) (script : TurnScript) :
    (s.answeredDesk setup script).arbiter.escalation.counter.toNat + 1 < UInt32.size := by
  have hbound := counter_le_of_past h
  have hcalled : (s.answeredDesk setup script).arbiter.escalation.counter.toNat ≤ _ :=
    toNat_counter_answeredDesk_le h.reachable
  omega

end Session

/-- A **tally**: a conversation, and what has been counted in it. The counter of the session is not
looked at. -/
structure Tally where
  session : Session
  count : Nat

namespace Tally

/-- What **stands for a count** on the ladder: a counter on the same rung, of the first six. -/
def standIn (count : Nat) : UInt32 := if count = 0 then 0 else .ofNat ((count - 1) % 6 + 1)

theorem toNat_standIn (count : Nat) :
    (standIn count).toNat = if count = 0 then 0 else (count - 1) % 6 + 1 := by
  rw [standIn, apply_ite UInt32.toNat]
  split
  · rfl
  · rw [UInt32.toNat_ofNat', Nat.mod_eq_of_lt (by omega)]

/-- It tells the step of the **ladder** that the count would tell. -/
theorem standIn_rung (count : Nat) :
    (standIn count = 0 ↔ count = 0) ∧
      (standIn count % Escalation.moveOnThreshold = 0 ↔ 3 ∣ count) ∧
      (standIn count % Escalation.chatThreshold = 0 ↔ 2 ∣ count) := by
  have hstandIn := toNat_standIn count
  refine ⟨?_, ?_, ?_⟩
  · rw [← UInt32.toNat_inj, hstandIn, UInt32.toNat_zero]
    split <;> omega
  · rw [Escalation.mod_moveOnThreshold_iff, hstandIn]
    split <;> omega
  · rw [Escalation.mod_chatThreshold_iff, hstandIn]
    split <;> omega

theorem sameRung_standIn (counter : UInt32) : SameRung counter (standIn counter.toNat) := by
  obtain ⟨hzero, hmoveOn, hchat⟩ := standIn_rung counter.toNat
  exact ⟨hzero.trans (UInt32.toNat_inj (b := 0)),
    hmoveOn.trans (Escalation.mod_moveOnThreshold_iff counter).symm,
    hchat.trans (Escalation.mod_chatThreshold_iff counter).symm⟩

section Turn

variable (setup : Setup) (t : Tally)

/-- The session with what stands for the count. -/
def standing : Session := t.session.withCounter (standIn t.count)

/-- A **turn** of a tally. -/
def turn (script : TurnScript) : Tally where
  session := (t.standing.runTurn setup script).2
  count := t.standing.tallied setup script t.count

/-- The tally **after** turns. -/
def after (scripts : List TurnScript) : Tally := scripts.foldl (turn setup) t

end Turn

/-- A tally **follows** a session: it has counted the same, and is in the same state otherwise. -/
structure Follows (t : Tally) (s : Session) : Prop where
  count : s.arbiter.escalation.counter.toNat = t.count
  session : ∃ counter, t.session = s.withCounter counter

variable {setup : Setup} {t : Tally} {s : Session} {past : List Session.PastTurn}

/-- A tally that follows a session **still follows** it after a turn. -/
theorem Follows.turn (ht : t.Follows s) (h : Session.Past setup past s)
    (hlength : past.length < UInt32.size - 4) (script : TurnScript) :
    (t.turn setup script).Follows (s.runTurn setup script).2 := by
  obtain ⟨hcount, counter, hsession⟩ := ht
  have hstanding : t.standing = s.withCounter (standIn s.arbiter.escalation.counter.toNat) := by
    rw [standing, hsession, hcount]
    rfl
  have hrung := sameRung_standIn s.arbiter.escalation.counter
  have hfits := Session.toNat_counter_add_one_lt h hlength script
  refine ⟨?_, ?_⟩
  · rw [Session.toNat_counter_runTurn h.reachable hfits, Tally.turn, hstanding,
      Session.tallied_withCounter hrung, hcount]
  · rw [Tally.turn, hstanding]
    exact Session.runTurn_withCounter setup script hrung

/-- And after any number of turns, if there are not too many. -/
theorem Follows.after (ht : t.Follows s) (h : Session.Past setup past s) {scripts : List TurnScript}
    (hlength : past.length + scripts.length < UInt32.size - 4) :
    (t.after setup scripts).Follows (s.runTurns setup scripts).2 := by
  induction scripts generalizing t s past with
  | nil => exact ht
  | cons script rest ih =>
    rw [List.length_cons] at hlength
    have hturn := ht.turn h (by omega) script
    refine ih hturn (h.turn script) ?_
    rw [List.length_append, List.length_singleton]
    omega

end Tally

namespace Session

variable {setup : Setup} {s : Session} {past : List PastTurn}

/-- Each turn of a past began after fewer turns than there are. -/
theorem Past.exists_before (h : Past setup past s) :
    ∀ turn ∈ past, ∃ before, Past setup before turn.session ∧ before.length < past.length := by
  induction h with
  | new => exact fun _ hturn => absurd hturn List.not_mem_nil
  | @turn past s script h ih =>
    intro turn hturn
    rw [List.length_append, List.length_singleton]
    rcases List.mem_append.mp hturn with hturn | hturn
    · obtain ⟨before, hbefore, hshort⟩ := ih turn hturn
      exact ⟨before, hbefore, by omega⟩
    · rw [List.mem_singleton.mp hturn]
      exact ⟨past, h, Nat.lt_succ_self _⟩
  | conversation _ _ ih => exact ih
  | event _ ih => exact ih

/-- **Counting is exact.** After a conversation of `n` turns the counter is `n + 3` at most, whatever
the turns were. So as long as there are fewer than `2 ^ 32 - 4` of them, counting one more fits in
each of them; and from wherever the conversation has come to, it goes on as if the counter were a
natural number. -/
theorem counting_is_exact (h : Past setup past s) :
    s.arbiter.escalation.counter.toNat ≤ past.length + 3 ∧
      (past.length < UInt32.size - 4 → ∀ turn ∈ past,
        (turn.session.answeredDesk setup turn.script).arbiter.escalation.counter.toNat + 1 <
          UInt32.size) ∧
      ∀ scripts : List TurnScript, past.length + scripts.length < UInt32.size - 4 →
        (Tally.after setup ⟨s, s.arbiter.escalation.counter.toNat⟩ scripts).Follows
          (s.runTurns setup scripts).2 := by
  have hself : Tally.Follows ⟨s, s.arbiter.escalation.counter.toNat⟩ s :=
    ⟨rfl, s.arbiter.escalation.counter, rfl⟩
  refine ⟨counter_le_of_past h, fun hlength turn hturn => ?_,
    fun scripts hlength => hself.after h hlength⟩
  obtain ⟨before, hbefore, hshort⟩ := h.exists_before turn hturn
  exact toNat_counter_add_one_lt hbefore (by omega) turn.script

/-- The waiting resolution is resumed, the counter is set to three in the same turn, and the fallback
is left unresolved: that makes four, with as many bits as there are and without bounds. -/
theorem counting_is_exact_pending :
    let script := ((TurnScript.ofInput (.event "eb-remote-act-speak")).withCommand
      Command.restoreCounter.call).withCommand Command.handleFallback.call
    (Tally.after {} ⟨pending, 0⟩ [script]).count = 4 ∧
      (pending.runTurns {} [script]).2.arbiter.escalation.counter.toNat = 4 := by
  intro script
  have hpast : Past {} [⟨Session.new, .handling (.speech "blorp")⟩] pending := Past.new.turn _
  have hzero : pending.arbiter.escalation.counter.toNat = 0 := by decide +kernel
  have hcount : (Tally.after {} ⟨pending, 0⟩ [script]).count = 4 := by decide +kernel
  have hfollows := (counting_is_exact hpast).2.2 [script] (by decide)
  rw [hzero] at hfollows
  exact ⟨hcount, hfollows.count.trans hcount⟩

end Session

end Colloquy

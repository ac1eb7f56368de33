import Colloquy.Proofs.Run

/-!
# In which order commands come

The commands of a turn are answered one after the other, and each of them finds the desk as the ones
before have left it. But the desk has two halves, and a command neither changes the half that it is
not for nor looks at it: one to the arbiter leaves the tracker, says nothing in the turn, and is
replied to whatever the tracker holds; one to the tracker leaves the arbiter and the engine, and is
replied to whatever they hold. A call that names no command is answered like one to the arbiter that
does nothing.

So two calls that stand next to each other, of which just one is **to the tracker**, may change
places (`Session.runTurn_exchange`). The turn says the same and leaves the same session, although
both of them may have put something into its response: what the engine was made to say comes before
the values of commands in any case.
-/

namespace Colloquy

/-! ### Which half a command is for -/

/-- Whether a command is **to the tracker**. -/
def Command.isToTracker : Command → Bool
  | .prependReprompt _ | .overrideWithReprompt | .sendReprompt _ => true
  | .saveMarkup | .restoreMarkup => true
  | _ => false

/-- A call is accepted as a command **to the tracker**. -/
def CommandCall.ToTracker (call : CommandCall) : Prop :=
  ∃ command ∈ call.command?, command.isToTracker = true

/-- A call is accepted as a command **to the arbiter**, or not at all. -/
def CommandCall.ToArbiter (call : CommandCall) : Prop :=
  ∀ command ∈ call.command?, command.isToTracker = false

instance (call : CommandCall) : Decidable call.ToTracker :=
  inferInstanceAs (Decidable (∃ _ ∈ call.command?, _))

instance (call : CommandCall) : Decidable call.ToArbiter :=
  inferInstanceAs (Decidable (∀ _ ∈ call.command?, _))

namespace Desk

variable (settings : ArbiterSettings) {call : CommandCall}

/-- **A call to the arbiter** leaves the tracker and says nothing, and its outcome does not depend
on the tracker. -/
theorem answer_toArbiter (h : call.ToArbiter) (desk : Desk) (tracker : Tracker) :
    (desk.answer settings call).2.1 = none ∧
      { desk with tracker }.answer settings call =
        ((desk.answer settings call).1, none,
          { (desk.answer settings call).2.2 with tracker }) := by
  cases hcall : call.command? with
  | none =>
    obtain ⟨refusal, hrefused⟩ := answer_of_rejected settings hcall
    rw [hrefused, hrefused]
    exact ⟨rfl, rfl⟩
  | some command =>
    have harbiter := h command hcall
    rw [answer_of_accepted settings _ hcall, answer_of_accepted settings _ hcall]
    cases command with
    | prependReprompt | overrideWithReprompt | sendReprompt | saveMarkup | restoreMarkup =>
      cases harbiter
    | _ => exact ⟨rfl, rfl⟩

/-- **A call to the tracker** leaves the arbiter and the engine, and neither its outcome nor what of
it is said depends on them. -/
theorem answer_toTracker (h : call.ToTracker) (desk : Desk) (arbiter : Arbiter) (engine : Engine) :
    { desk with arbiter, engine }.answer settings call =
      ((desk.answer settings call).1, (desk.answer settings call).2.1,
        { (desk.answer settings call).2.2 with arbiter, engine }) := by
  obtain ⟨command, hcall, htracker⟩ := h
  rw [answer_of_accepted settings _ hcall, answer_of_accepted settings _ hcall]
  cases command with
  | prependReprompt | overrideWithReprompt | sendReprompt | saveMarkup | restoreMarkup => rfl
  | _ => cases htracker

/-- Two calls of which one is to each half are answered **alike in either order**, and leave the
same desk. -/
theorem answer_exchange {a b : CommandCall} (ha : a.ToArbiter) (hb : b.ToTracker) (desk : Desk) :
    (desk.answer settings a).2.1 = none ∧ ∃ after,
      (desk.answer settings a).2.2.answer settings b =
          ((desk.answer settings b).1, (desk.answer settings b).2.1, after) ∧
        (desk.answer settings b).2.2.answer settings a =
          ((desk.answer settings a).1, none, after) := by
  have hone : desk.answer settings a = _ := (answer_toArbiter settings ha desk desk.tracker).2
  have hother : desk.answer settings b = _ :=
    answer_toTracker settings hb desk desk.arbiter desk.engine
  have htracker : (desk.answer settings a).2.2.tracker = desk.tracker :=
    congrArg (·.2.2.tracker) hone
  have harbiter : (desk.answer settings b).2.2.arbiter = desk.arbiter :=
    congrArg (·.2.2.arbiter) hother
  have hengine : (desk.answer settings b).2.2.engine = desk.engine :=
    congrArg (·.2.2.engine) hother
  refine ⟨(answer_toArbiter settings ha desk desk.tracker).1,
    { (desk.answer settings a).2.2 with tracker := (desk.answer settings b).2.2.tracker }, ?_, ?_⟩
  · -- after the first call only the other half of the desk has changed
    have hdesk : (desk.answer settings a).2.2 =
        { desk with
          arbiter := (desk.answer settings a).2.2.arbiter
          engine := (desk.answer settings a).2.2.engine } := by
      rw [← htracker]
    rw [hdesk, answer_toTracker settings hb]
  · have hdesk : (desk.answer settings b).2.2 =
        { desk with tracker := (desk.answer settings b).2.2.tracker } := by
      rw [← harbiter, ← hengine]
    rw [hdesk, (answer_toArbiter settings ha desk _).2]

end Desk

/-! ### All calls of a turn -/

variable (settings : ArbiterSettings)

/-- Calls are answered **in parts**: first some, and then the others from the desk that these leave.
-/
theorem answerAll_append (desk : Desk) (calls others : List CommandCall) :
    Session.answerAll settings desk (calls ++ others) =
      let first := Session.answerAll settings desk calls
      let second := Session.answerAll settings first.2.2 others
      (first.1 ++ second.1, first.2.1 ++ second.2.1, second.2.2) := by
  induction calls generalizing desk with
  | nil => rfl
  | cons call rest ih =>
    rw [List.cons_append, answerAll_cons, answerAll_cons]
    dsimp only
    rw [ih, List.append_assoc]
    rfl

/-- Every call has an outcome. -/
theorem length_answerAll (desk : Desk) (calls : List CommandCall) :
    (Session.answerAll settings desk calls).1.length = calls.length := by
  induction calls generalizing desk with
  | nil => rfl
  | cons call rest ih => rw [answerAll_cons, List.length_cons, List.length_cons, ih]

/-- Desks between which **no command tells a difference** are told no difference by calls. -/
theorem answerAll_congr (Same : Desk → Desk → Prop) (calls : List CommandCall)
    (hstep : ∀ command ∈ accepted calls, ∀ desk desk', Same desk desk' →
      desk'.reply settings command = desk.reply settings command ∧
        Same (desk.obey settings command) (desk'.obey settings command))
    {desk desk' : Desk} (h : Same desk desk') :
    (Session.answerAll settings desk' calls).1 = (Session.answerAll settings desk calls).1 ∧
      (Session.answerAll settings desk' calls).2.1 = (Session.answerAll settings desk calls).2.1 ∧
      Same (Session.answerAll settings desk calls).2.2
        (Session.answerAll settings desk' calls).2.2 := by
  induction calls generalizing desk desk' with
  | nil => exact ⟨rfl, rfl, h⟩
  | cons call rest ih =>
    rw [answerAll_cons, answerAll_cons]
    cases hcall : call.command? with
    | none =>
      obtain ⟨refusal, hrefused⟩ := Desk.answer_of_rejected settings hcall
      rw [accepted, List.filterMap_cons_none hcall] at hstep
      obtain ⟨houtcomes, hspoken, hdesk⟩ := ih hstep h
      simp only [hrefused, houtcomes, hspoken]
      exact ⟨trivial, trivial, hdesk⟩
    | some command =>
      rw [accepted, List.filterMap_cons_some hcall] at hstep
      obtain ⟨hreply, hobey⟩ := hstep command List.mem_cons_self desk desk' h
      obtain ⟨houtcomes, hspoken, hdesk⟩ :=
        ih (fun other hother => hstep other (List.mem_cons_of_mem _ hother)) hobey
      simp only [Desk.answer_of_accepted settings _ hcall, hreply, houtcomes, hspoken]
      exact ⟨trivial, trivial, hdesk⟩

theorem answerAll_exchange {a b : CommandCall} (ha : a.ToArbiter) (hb : b.ToTracker) (desk : Desk)
    (rest : List CommandCall) :
    ∃ x y others said after,
      Session.answerAll settings desk (a :: b :: rest) = (x :: y :: others, said, after) ∧
        Session.answerAll settings desk (b :: a :: rest) = (y :: x :: others, said, after) := by
  obtain ⟨hsilent, after, hfirst, hsecond⟩ := desk.answer_exchange settings ha hb
  refine ⟨(desk.answer settings a).1, (desk.answer settings b).1,
    (Session.answerAll settings after rest).1,
    (desk.answer settings b).2.1.toList ++ (Session.answerAll settings after rest).2.1,
    (Session.answerAll settings after rest).2.2, ?_, ?_⟩
  · simp only [answerAll_cons, hfirst, hsilent, Option.toList_none, List.nil_append]
  · simp only [answerAll_cons, hsecond, Option.toList_none, List.nil_append]

/-! ### A turn -/

/-- The script with **other calls**. -/
def TurnScript.calling (script : TurnScript) (calls : List CommandCall) : TurnScript :=
  { script with commands := calls }

/-- The report with **other outcomes**. -/
def Report.withOutcomes (r : Report) (outcomes : List CommandOutcome) : Report :=
  { r with commands := outcomes }

@[simp] theorem Report.response_withOutcomes (r : Report) (outcomes : List CommandOutcome) :
    (r.withOutcomes outcomes).response = r.response := rfl

namespace Session

variable (setup : Setup) (s : Session) (script : TurnScript)

theorem answeredTurn_calling {calls others : List CommandCall}
    (hengine : (s.answeredDesk setup (script.calling others)).engine =
      (s.answeredDesk setup (script.calling calls)).engine)
    (hspoken : s.spoken setup (script.calling others) = s.spoken setup (script.calling calls)) :
    s.answeredTurn setup (script.calling others) = s.answeredTurn setup (script.calling calls) := by
  rw [answeredTurn, answeredTurn, hengine, hspoken]
  rfl

/-- **Other calls** that say the same and leave the same desk make the same turn, but for their
outcomes. -/
theorem runTurn_calling {calls others : List CommandCall}
    (h : (answerAll setup.settings.arbiter (s.openedDesk setup script) others).2 =
      (answerAll setup.settings.arbiter (s.openedDesk setup script) calls).2) :
    (s.runTurn setup (script.calling others)).2 = (s.runTurn setup (script.calling calls)).2 ∧
      (s.runTurn setup (script.calling others)).1 =
        (s.runTurn setup (script.calling calls)).1.withOutcomes
          (answerAll setup.settings.arbiter (s.openedDesk setup script) others).1 := by
  have hdesk : s.answeredDesk setup (script.calling others) =
      s.answeredDesk setup (script.calling calls) := congrArg Prod.snd h
  have hspoken : s.spoken setup (script.calling others) = s.spoken setup (script.calling calls) :=
    congrArg Prod.fst h
  have hturn : s.answeredTurn setup (script.calling others) =
      s.answeredTurn setup (script.calling calls) :=
    answeredTurn_calling setup s script (congrArg Desk.engine hdesk) hspoken
  have hanswered : s.answered setup (script.calling others) =
      s.answered setup (script.calling calls) := by
    rw [answered, answered, hdesk]
    rfl
  rw [runTurn_eq, runTurn_eq, hanswered, hturn, hdesk]
  exact ⟨rfl, rfl⟩

/-- **Calls to the arbiter and calls to the tracker do not mind each other.** Where one of each
stands next to the other, they may change places: the session after the turn is the same, and so is
the event that is waiting, and so is the report, in which the two outcomes have changed places. -/
theorem runTurn_exchange {a b : CommandCall} (ha : a.ToArbiter) (hb : b.ToTracker)
    (before rest : List CommandCall) :
    let one := s.runTurn setup (script.calling (before ++ a :: b :: rest))
    let other := s.runTurn setup (script.calling (before ++ b :: a :: rest))
    other.2 = one.2 ∧ other.2.takeEvent.1 = one.2.takeEvent.1 ∧
      ∃ first x y others, first.length = before.length ∧
        one.1.commands = first ++ x :: y :: others ∧
        other.1 = one.1.withOutcomes (first ++ y :: x :: others) := by
  intro one other
  obtain ⟨x, y, others, said, after, hone, hother⟩ := answerAll_exchange setup.settings.arbiter
    ha hb (answerAll setup.settings.arbiter (s.openedDesk setup script) before).2.2 rest
  have hcalls : answerAll setup.settings.arbiter (s.openedDesk setup script)
        (before ++ a :: b :: rest) =
      ((answerAll setup.settings.arbiter (s.openedDesk setup script) before).1 ++ x :: y :: others,
        (answerAll setup.settings.arbiter (s.openedDesk setup script) before).2.1 ++ said,
        after) := by
    simp only [answerAll_append, hone]
  have hexchanged : answerAll setup.settings.arbiter (s.openedDesk setup script)
        (before ++ b :: a :: rest) =
      ((answerAll setup.settings.arbiter (s.openedDesk setup script) before).1 ++ y :: x :: others,
        (answerAll setup.settings.arbiter (s.openedDesk setup script) before).2.1 ++ said,
        after) := by
    simp only [answerAll_append, hother]
  have hsame : (answerAll setup.settings.arbiter (s.openedDesk setup script)
        (before ++ b :: a :: rest)).2 =
      (answerAll setup.settings.arbiter (s.openedDesk setup script)
        (before ++ a :: b :: rest)).2 := by
    rw [hcalls, hexchanged]
  obtain ⟨hsession, hreport⟩ := s.runTurn_calling setup script hsame
  refine ⟨hsession, congrArg (·.takeEvent.1) hsession, _, x, y, others,
    length_answerAll setup.settings.arbiter (s.openedDesk setup script) before, ?_, ?_⟩
  · exact congrArg Prod.fst hcalls
  · rw [hreport, hexchanged]

/-- The turn that resumes a resolution, with these calls. -/
def resumedWith (calls : List CommandCall) : Report × Session :=
  pending.runTurn {} ((TurnScript.ofInput (.event "eb-remote-act-speak")).calling calls)

/-- The fallback is handled and the markup is restored. Whichever of the two is called first, the
line comes before the directive. -/
theorem runTurn_exchange_resuming :
    let one := resumedWith [Command.handleFallback.call, Command.restoreMarkup.call]
    let other := resumedWith [Command.restoreMarkup.call, Command.handleFallback.call]
    other.2 = one.2 ∧ other.1 = one.1.withOutcomes one.1.commands.reverse ∧
      other.1.response = some (Markup.save none ++ StockLine.idleAnimation.text ++ " " ++
        StockLine.fallbackRepeat.text ++ Markup.restore none) := by
  intro one other
  obtain ⟨hsession, -, first, x, y, others, hlength, hone, hother⟩ :=
    pending.runTurn_exchange {} (TurnScript.ofInput (.event "eb-remote-act-speak"))
      (a := Command.handleFallback.call) (b := Command.restoreMarkup.call) (by decide) (by decide)
      [] []
  have hcommands : one.1.commands = first ++ x :: y :: others := hone
  have hfirst : first = [] := List.length_eq_zero_iff.mp hlength
  have hothers : others = [] := by
    have htwo : one.1.commands.length = 2 := by decide +kernel
    rw [hcommands, hfirst] at htwo
    simpa using htwo
  refine ⟨hsession, ?_, by decide +kernel⟩
  rw [hcommands, hfirst, hothers]
  rw [hfirst, hothers] at hother
  exact hother

end Session

end Colloquy

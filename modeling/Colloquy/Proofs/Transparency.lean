import Mathlib.Data.Fintype.EquivFin
import Colloquy.Proofs.Abort
import Colloquy.Proofs.Alike

/-!
# Which aborted turns are seen later

An aborted turn without counter commands leaves the session the same at a glance
(`Session.NoTrace`), but not always the same. What is not at a glance are the utterance that waits
for its second turn and the rule that is remembered for it, and the escalation does not take these
back when a turn is aborted:

* a turn that does not resume the resolution **drops the utterance** when it is taken up;
* a fallback that is handled **remembers another rule**, if that turn does not resume the resolution
  or its topic wants a single turn.

As long as no resolution is waiting, nobody asks for either. While one is, this is the whole
difference (`Session.Disturbs`), and both can be seen by going elsewhere and resuming the resolution
there: one command tells the utterance, and the rule is reused if the engine knows it. So the runs
that begin with an aborted turn go on as if it had not been there exactly if it has not disturbed
what was waiting.
-/

namespace Colloquy

/-! ### What can be seen of a resolution that waits -/

namespace Escalation

variable {e : Escalation} {engine : Engine}

/-- With an engine that knows one rule and nothing else, the second turn **tells** whether this is
the rule that is remembered. -/
theorem resolution?_handle_of_rule (hstage : e.stage = .second) (hturn : e.oneTurn = false)
    {rule : String} (hrule : rule ≠ "")
    (hengine : engine = { script := { rules := Dict.empty.insert rule "" } }) :
    (e.handle engine).2.resolution? =
      some (if e.localRule = rule then .localRule else .localFallback) := by
  have hunset : (prepared engine).value? Engine.endSignal = none := by
    rw [hengine]
    exact (by decide :
      (Dict.empty.insert Engine.noPrelude "true").get? Engine.endSignal = none)
  have hend : (prepared engine).value? Engine.endSignal ≠ some "true" := by
    rw [hunset]
    decide
  have hknown : (idling (prepared engine)).script.rules.get? e.localRule =
      if e.localRule = rule then some "" else none := by
    rw [hengine]
    exact Dict.get?_insert Dict.empty rule "" e.localRule
  rw [resolution?_handle_of_second hstage hturn]
  by_cases hsame : e.localRule = rule
  · -- the rule is known, and reused
    have hne : e.localRule ≠ "" := by rwa [hsame]
    have hreuse : (e.reuseRule (idling (prepared engine))).1 = true := by
      rw [reuseRule, if_neg hne, Engine.reuse, hknown, if_pos hsame]
    rw [secondTurn_of_reused hend hturn hreuse, if_pos hsame]
    rfl
  · -- it is not, and no step of the ladder holds
    have hreuse : (e.reuseRule (idling (prepared engine))).1 = false := by
      rw [reuseRule, Engine.reuse, hknown, if_neg hsame]
      split <;> rfl
    have hscript : (e.reuseRule (idling (prepared engine))).2.script =
        (idling (prepared engine)).script := (e.reuseRule_frame _).1
    have hclimb : (e.secondTurn (prepared engine)).1 = false := by
      rw [secondTurn_of_not_reused hend hturn hreuse]
      exact climb_of_silent (by rw [hscript, hengine]; rfl) (by rw [hscript, hengine]; rfl) _
    rw [hclimb, if_neg hsame]
    rfl

end Escalation

namespace Session

/-- The script of a turn that goes **elsewhere**: an event that resumes nothing, with an output in
this module. -/
def leaving (settings : ArbiterSettings) (module : String) : TurnScript where
  input := .event (settings.resumeEvent ++ "!")
  output := some { response := "", module }

/-- The script of a turn that resumes a resolution and **asks** what is waiting and which rule is
remembered. -/
def resuming (settings : ArbiterSettings) (rule : String) : TurnScript where
  input := .event settings.resumeEvent
  commands := [Command.speechInput.call, Command.handleFallback.call]
  engine := { rules := Dict.empty.insert rule "" }

/-- There is always a module that is not the open one and in which nothing is authored. -/
theorem exists_elsewhere (setup : Setup) :
    ∃ module, module ≠ setup.settings.arbiter.openModule ∧
      ∀ topic, (setup.catalog.topicEntry module topic).treatment = .ordinary := by
  obtain ⟨module, hmodule⟩ := Infinite.exists_notMem_finset
    (setup.settings.arbiter.openModule :: setup.catalog.modules.entries.map Prod.fst).toFinset
  rw [List.mem_toFinset, List.mem_cons, not_or] at hmodule
  obtain ⟨hopen, hlisted⟩ := hmodule
  refine ⟨module, hopen, fun topic => ?_⟩
  have hnone : setup.catalog.modules.get? module = none := by
    rw [Dict.get?, Option.map_eq_none_iff, List.find?_eq_none]
    intro entry hentry heq
    exact hlisted (List.mem_map.mpr ⟨entry, hentry, of_decide_eq_true heq⟩)
  have hentry : setup.catalog.entry module = {} := by
    rw [Catalog.entry, Dict.getD, hnone]
    rfl
  rw [Catalog.topicEntry, hentry]
  rfl

section Seen

variable {setup : Setup} {s : Session} (hen : setup.settings.arbiter.enabled = true)
include hen

/-- **Going elsewhere** changes nothing about what is waiting. -/
theorem runTurn_leaving (module : String) :
    let after := (s.runTurn setup (leaving setup.settings.arbiter module)).2
    after.arbiter.escalation.stage = s.arbiter.escalation.stage ∧
      after.arbiter.escalation.lastSpeech = s.arbiter.escalation.lastSpeech ∧
      after.arbiter.escalation.localRule = s.arbiter.escalation.localRule ∧
      after.arbiter.place.module = module ∧ after.conversation = s.conversation := by
  have hname : setup.settings.arbiter.resumeEvent ++ "!" ≠ setup.settings.arbiter.resumeEvent := by
    intro heq
    have hlength := congrArg String.length heq
    simp at hlength
  have howner : (s.openedDesk setup (leaving setup.settings.arbiter module)).arbiter.owner? =
      some .event := by
    rw [owner?_openedDesk_of_enabled _ _ _ hen, Owner.first_of_event rfl]
    exact decide_eq_false hname
  have hother : (s.openedDesk setup (leaving setup.settings.arbiter module)).arbiter.owner? ≠
      some .default := by
    rw [howner]
    decide
  obtain ⟨hstage, hspeech, hrule⟩ := escalation_of_other hother
  refine ⟨hstage, hspeech, hrule, ?_, ?_⟩
  · rw [place_runTurn]
    rfl
  · rw [runTurn_snd]
    rfl

/-- **Resuming** a resolution elsewhere shows what is waiting: the first command tells the
utterance, and the second one reuses the rule if it is the one in question. -/
theorem runTurn_resuming (hstage : s.arbiter.escalation.stage = .second)
    (hinterruptible : s.conversation.interruptible = false)
    (hmodule : s.arbiter.place.module ≠ setup.settings.arbiter.openModule)
    (htreatment : s.treatment setup = .ordinary) {rule : String} (hrule : rule ≠ "") :
    let report := (s.runTurn setup (resuming setup.settings.arbiter rule)).1
    report.commands.head? =
        some (.of Command.speechInput.name (.ok s.arbiter.escalation.lastSpeech)) ∧
      report.resolution = some
        (if s.arbiter.escalation.localRule = rule then .localRule else .localFallback) := by
  have hresumes : (Input.event setup.settings.arbiter.resumeEvent).isEventNamed
      setup.settings.arbiter.resumeEvent = true := by simp
  have howner : (s.openedDesk setup (resuming setup.settings.arbiter rule)).arbiter.owner? =
      some .default := by
    rw [owner?_openedDesk_of_enabled _ _ _ hen]
    exact congrArg some
      (Owner.first_of_resumes hresumes hinterruptible htreatment hmodule rfl)
  have htaken : (s.heard (resuming setup.settings.arbiter rule)).takenUp setup.settings.arbiter
        (s.treatment setup) (.event setup.settings.arbiter.resumeEvent) =
      (s.arbiter.escalation.claim .ordinary).opened := by
    have hheard : s.heard (resuming setup.settings.arbiter rule) = s.arbiter.escalation :=
      if_neg (not_wakes s rfl)
    rw [hheard, htreatment]
    exact if_pos (Or.inr hresumes)
  have hspeech : Command.speechInput.call.command? = some .speechInput := by decide
  have hfallback : accepted [Command.speechInput.call, Command.handleFallback.call] =
      [.speechInput, .handleFallback] := by
    decide
  constructor
  · have hopened : (s.openedDesk setup (resuming setup.settings.arbiter rule)).arbiter.escalation =
        (s.arbiter.escalation.claim .ordinary).opened :=
      (s.escalation_openedDesk_of_default setup _ hen howner).trans htaken
    have hreply : (s.openedDesk setup (resuming setup.settings.arbiter rule)).reply
        setup.settings.arbiter .speechInput = .ok s.arbiter.escalation.lastSpeech := by
      rw [Desk.reply, Arbiter.lastSpeech, Arbiter.ownerOrRefusal, howner, hopened]
      rfl
    rw [runTurn_fst]
    dsimp only [report, resuming]
    rw [answerAll_cons, Desk.answer_of_accepted _ _ hspeech]
    exact congrArg (fun reply => some (CommandOutcome.of Command.speechInput.name reply)) hreply
  · obtain ⟨-, hengine⟩ := s.answeredDesk_of_default setup
      (resuming setup.settings.arbiter rule) hen howner
    have hescalated : (s.escalated setup (resuming setup.settings.arbiter rule)).2 =
        ((s.arbiter.escalation.claim .ordinary).opened.handle
          { script := { rules := Dict.empty.insert rule "" } }).2 := by
      rw [escalated, ← htaken]
      dsimp only [resuming]
      rw [hfallback]
      rfl
    rw [runTurn_fst]
    dsimp only [report]
    rw [hengine, hescalated]
    exact @Escalation.resolution?_handle_of_rule (s.arbiter.escalation.claim .ordinary).opened _
      hstage rfl rule hrule rfl

/-- Going elsewhere and resuming there shows what was waiting **before**. -/
theorem runTurn_leaving_resuming (hstage : s.arbiter.escalation.stage = .second)
    (hinterruptible : s.conversation.interruptible = false) {module : String}
    (hmodule : module ≠ setup.settings.arbiter.openModule)
    (hordinary : ∀ topic, (setup.catalog.topicEntry module topic).treatment = .ordinary)
    {rule : String} (hrule : rule ≠ "") :
    let elsewhere := (s.runTurn setup (leaving setup.settings.arbiter module)).2
    let report := (elsewhere.runTurn setup (resuming setup.settings.arbiter rule)).1
    report.commands.head? =
        some (.of Command.speechInput.name (.ok s.arbiter.escalation.lastSpeech)) ∧
      report.resolution = some
        (if s.arbiter.escalation.localRule = rule then .localRule else .localFallback) := by
  dsimp only
  obtain ⟨hstage', hspeech, hlocal, hplace, hconversation⟩ := runTurn_leaving (s := s) hen module
  rw [← hspeech, ← hlocal]
  refine runTurn_resuming hen (hstage'.trans hstage) ?_ ?_ ?_ hrule
  · rw [hconversation, hinterruptible]
  · rw [hplace]
    exact hmodule
  · rw [treatment, hplace]
    exact hordinary _

/-- **Only what waits is the same** in two sessions that no run tells apart: the utterance and the
rule of a resolution that stands before its second turn. -/
theorem waiting_of_reports {s' : Session} (hstage : s.arbiter.escalation.stage = .second)
    (hstage' : s'.arbiter.escalation.stage = .second)
    (hinterruptible : s.conversation.interruptible = false)
    (hinterruptible' : s'.conversation.interruptible = false)
    (hsame : ∀ scripts, (s'.runTurns setup scripts).1.map Report.unnumbered =
      (s.runTurns setup scripts).1.map Report.unnumbered) :
    s'.arbiter.escalation.lastSpeech = s.arbiter.escalation.lastSpeech ∧
      s'.arbiter.escalation.localRule = s.arbiter.escalation.localRule := by
  obtain ⟨module, hmodule, hordinary⟩ := exists_elsewhere setup
  have hseen (rule : String) (hrule : rule ≠ "") :
      s'.arbiter.escalation.lastSpeech = s.arbiter.escalation.lastSpeech ∧
        (s'.arbiter.escalation.localRule = rule ↔ s.arbiter.escalation.localRule = rule) := by
    obtain ⟨htold, hreused⟩ := runTurn_leaving_resuming (s := s) hen hstage hinterruptible hmodule
      hordinary hrule
    obtain ⟨htold', hreused'⟩ := runTurn_leaving_resuming (s := s') hen hstage' hinterruptible'
      hmodule hordinary hrule
    -- the second of the two reports
    have hreports := hsame [leaving setup.settings.arbiter module,
      resuming setup.settings.arbiter rule]
    simp only [runTurns_cons, List.map_cons, List.cons.injEq] at hreports
    obtain ⟨-, hreport, -⟩ := hreports
    have hcommands := congrArg Report.commands hreport
    have hresolution := congrArg Report.resolution hreport
    dsimp only [Report.unnumbered] at hcommands hresolution
    rw [hcommands, htold] at htold'
    rw [hresolution, hreused] at hreused'
    constructor
    · injection htold' with houtcome
      injection houtcome with _ _ hvalue
      exact hvalue.symm
    · by_cases hs : s.arbiter.escalation.localRule = rule <;>
        by_cases hs' : s'.arbiter.escalation.localRule = rule <;> simp_all
  refine ⟨(hseen "rule" (by decide)).1, ?_⟩
  -- a rule that is remembered in one of them is the one to be asked for
  by_cases hempty : s.arbiter.escalation.localRule = ""
  · by_cases hempty' : s'.arbiter.escalation.localRule = ""
    · rw [hempty, hempty']
    · exact absurd ((hseen _ hempty').2.mp rfl) fun heq => hempty' (heq ▸ hempty)
  · exact (hseen _ hempty).2.mpr rfl

end Seen

/-! ### What an aborted turn leaves of it -/

/-- The rule that the engine **names** for fallbacks in a turn. -/
def namedRule (script : TurnScript) : String :=
  (script.engine.vars.get? Engine.fallbackRule).getD ""

/-- A turn of the escalation **disturbs** a resolution that waits for its second turn: it does not
resume it, and drops the utterance; or a fallback is handled in it, and remembers another rule. -/
def Disturbs (setup : Setup) (s : Session) (script : TurnScript) : Prop :=
  s.arbiter.escalation.stage = .second ∧ (s.runTurn setup script).1.owner = some .default ∧
    (¬ s.arbiter.escalation.Resumes setup.settings.arbiter script.input ∧
        s.arbiter.escalation.lastSpeech ≠ "" ∨
      Handles script ∧ (s.treatment setup = .noRemote ∨
          ¬ s.arbiter.escalation.Resumes setup.settings.arbiter script.input) ∧
        namedRule script ≠ s.arbiter.escalation.localRule)

instance (setup : Setup) (s : Session) (script : TurnScript) :
    Decidable (s.Disturbs setup script) :=
  inferInstanceAs (Decidable (_ ∧ _))

variable {setup : Setup} {s : Session} {script : TurnScript}

/-- The **rule** when the commands have been answered. -/
theorem localRule_escalated (hrest : s.arbiter.escalation.Resting) :
    (s.escalated setup script).1.localRule =
      if Handles script ∧ (s.treatment setup = .noRemote ∨
          ¬ s.arbiter.escalation.Resumes setup.settings.arbiter script.input) then
        namedRule script
      else s.arbiter.escalation.localRule := by
  have hstage := (s.resting_heard script hrest).stage_takenUp setup.settings.arbiter
    (s.treatment setup) script.input
  obtain ⟨-, -, hrule, hturn⟩ := (s.heard script).takenUp_frame setup.settings.arbiter
    (s.treatment setup) script.input
  rw [escalated, Command.localRule_foldl, Escalation.ruleHandled, hstage, hrule, hturn,
    (s.heard_frame script).2.2]
  simp only [resumes_heard]
  by_cases hhandles : .handleFallback ∈ accepted script.commands
  · rw [if_pos hhandles]
    by_cases hresumes : s.arbiter.escalation.Resumes setup.settings.arbiter script.input <;>
      by_cases htopic : s.treatment setup = .noRemote <;>
      simp [Handles, hhandles, hresumes, htopic, namedRule, Engine.value?]
  · rw [if_neg hhandles, if_neg fun h => hhandles h.1]

theorem localRule_of_abort (hen : setup.settings.arbiter.enabled = true)
    (howner : (s.openedDesk setup script).arbiter.owner? = some .default)
    (hrest : s.arbiter.escalation.Resting) (habort : script.abort = true) :
    (s.runTurn setup script).2.arbiter.escalation.localRule =
      if Handles script ∧ (s.treatment setup = .noRemote ∨
          ¬ s.arbiter.escalation.Resumes setup.settings.arbiter script.input) then
        namedRule script
      else s.arbiter.escalation.localRule := by
  rw [escalation_of_abort hen howner habort]
  exact localRule_escalated hrest

/-- An aborted turn that has not disturbed what was waiting leaves a session that **cannot be told
apart** from the one before it. -/
theorem alike_of_abort (h : Reachable setup s) (habort : script.abort = true)
    (hcounter : ∀ command ∈ accepted script.commands, command.setsCounter = false)
    (hconversation : script.conversation = none) (hdisturbs : ¬ s.Disturbs setup script) :
    s.Alike setup (s.runTurn setup script).2 where
  tracker := by
    rw [tracker_of_abort habort]
    exact Command.start_abort_foldl s.tracker _
  conversation := by
    rw [runTurn_snd, hconversation]
    rfl
  place := by rw [place_runTurn, if_pos habort]
  owner hen := ⟨h.owner?_of_disabled hen, (h.turn script).owner?_of_disabled hen⟩
  escalation := by
    have hwakes : ¬ s.Wakes script := not_wakes s hconversation
    have hstage := h.stage_of_abort habort
    have hcount := h.counter_of_abort habort hcounter hwakes
    by_cases howner : (s.openedDesk setup script).arbiter.owner? = some .default
    · have hen := h.enabled_of_default script howner
      have hreport := (s.owner_report setup script).trans howner
      refine ⟨hstage, hcount, ?_, ?_⟩
      · rw [lastSpeech_of_abort hen howner h.resting habort]
        split
        next => rfl
        next hresumes =>
          -- if anything was waiting, it has been dropped
          rcases h.resting.stage with hs | hs
          · exact (h.resting.silent hs).symm
          · exact Decidable.byContradiction fun hne =>
              hdisturbs ⟨hs, hreport, Or.inl ⟨hresumes, Ne.symm hne⟩⟩
      · rw [localRule_of_abort hen howner h.resting habort]
        rcases h.resting.stage with hs | hs
        · exact Or.inl hs
        right
        split
        next hremembered =>
          exact Decidable.byContradiction fun hne =>
            hdisturbs ⟨hs, hreport, Or.inr ⟨hremembered.1, hremembered.2, hne⟩⟩
        next => rfl
    · obtain ⟨-, hspeech, hrule⟩ := escalation_of_other howner
      exact ⟨hstage, hcount, hspeech, Or.inr hrule⟩

/-- An aborted turn is **not seen later**, whatever is run after it, exactly if it has not disturbed
a resolution that was waiting for its second turn. -/
theorem reports_of_abort_iff (h : Reachable setup s) (habort : script.abort = true)
    (hcounter : ∀ command ∈ accepted script.commands, command.setsCounter = false)
    (hconversation : script.conversation = none) :
    (∀ scripts, (s.runTurns setup (script :: scripts)).1.tail.map Report.unnumbered =
        (s.runTurns setup scripts).1.map Report.unnumbered) ↔
      ¬ s.Disturbs setup script := by
  constructor
  · rintro hsame ⟨hstage, howner, hdisturbed⟩
    rw [owner_report] at howner
    have hen := h.enabled_of_default script howner
    have hinterruptible : s.conversation.interruptible = false := by
      rw [owner?_openedDesk_of_enabled _ _ _ hen, Option.some_inj] at howner
      have hclaim := Owner.interruptible_of_first howner
      rwa [claim, hconversation] at hclaim
    have hinterruptible' : (s.runTurn setup script).2.conversation.interruptible = false := by
      rw [runTurn_snd, hconversation]
      exact hinterruptible
    obtain ⟨hspeech, hrule⟩ := waiting_of_reports hen hstage
      ((h.stage_of_abort habort).trans hstage) hinterruptible hinterruptible' hsame
    rw [lastSpeech_of_abort hen howner h.resting habort] at hspeech
    rw [localRule_of_abort hen howner h.resting habort] at hrule
    rcases hdisturbed with ⟨hresumes, hwaiting⟩ | ⟨hhandles, hremembered, hother⟩
    · rw [if_neg hresumes] at hspeech
      exact hwaiting hspeech.symm
    · rw [if_pos ⟨hhandles, hremembered⟩] at hrule
      exact hother hrule
  · intro hdisturbs scripts
    exact (alike_of_abort h habort hcounter hconversation hdisturbs).runTurns scripts

/-- The second turn may be aborted, and then asked for again, as often as one likes. -/
theorem reports_of_abort_pending :
    let script := (TurnScript.handling (.event "eb-remote-act-speak")).aborted
    Reachable {} pending ∧ script.abort = true ∧
      (∀ command ∈ accepted script.commands, command.setsCounter = false) ∧
      script.conversation = none ∧
      ∀ scripts, (pending.runTurns {} (script :: scripts)).1.tail.map Report.unnumbered =
        (pending.runTurns {} scripts).1.map Report.unnumbered :=
  ⟨reachable_pending, rfl, by decide, rfl,
    (reports_of_abort_iff reachable_pending rfl (by decide) rfl).mpr (by decide +kernel)⟩

/-- Not every aborted turn is without consequences: an utterance that is aborted while another one
waits for its second turn drops that one. -/
theorem not_forall_reports_of_abort :
    ¬ ∀ (setup : Setup) (s : Session) (script : TurnScript), Reachable setup s →
      script.abort = true →
      (∀ command ∈ accepted script.commands, command.setsCounter = false) →
      script.conversation = none →
      ∀ scripts, (s.runTurns setup (script :: scripts)).1.tail.map Report.unnumbered =
        (s.runTurns setup scripts).1.map Report.unnumbered := by
  intro htransparent
  have hsame := htransparent {} pending (TurnScript.ofInput (.speech "wait")).aborted
    reachable_pending rfl (by decide) rfl
    [(TurnScript.ofInput (.event "eb-remote-act-speak")).withCommand Command.speechInput.call]
  revert hsame
  decide +kernel

end Session

end Colloquy

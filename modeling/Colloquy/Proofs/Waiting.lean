import Colloquy.Proofs.TwoTurns

/-!
# Whose utterance is waiting

A fallback whose second turn is to come keeps what was said in its first, so that the second can
answer it. The text comes from the turn that **started** the fallback (`PastTurn.Starts`): the last
one before now that did so, and none of the turns since then has ended it. A turn that starts
nothing leaves the text as it is or drops it (`lastSpeech_of_not_starts`), so the induction over the
past has one case in which something new is waiting.

What was said is an utterance, with one exception. The resume event is the only event that the
escalation owns, and where there is nothing to be resumed it may start a fallback like anything
else. Then it is the name of the event that is waiting.
-/

namespace Colloquy

namespace Session

namespace PastTurn

variable (setup : Setup) (turn : PastTurn)

/-- A turn that **starts** a fallback: the escalation owns it and resumes nothing in it, the
fallback is handled, in a topic that does not want it resolved at once, and the turn is finished. -/
structure Starts : Prop where
  owner : (turn.report setup).owner = some .default
  begins : ¬ turn.session.arbiter.escalation.Resumes setup.settings.arbiter turn.script.input
  handles : Handles turn.script
  topic : turn.session.treatment setup ≠ .noRemote
  finished : turn.script.abort = false

/-- A turn after which the second turn of a fallback is **awaited**. -/
def Awaits : Prop := (turn.after setup).arbiter.escalation.stage = .second

end PastTurn

variable {setup : Setup} {s : Session} {script : TurnScript}

/-! ### One turn -/

/-- **A turn that starts** a fallback leaves what came in to wait for the second turn. -/
theorem waiting_of_starts (h : Reachable setup s) (hstarts : PastTurn.Starts setup ⟨s, script⟩) :
    PastTurn.Awaits setup ⟨s, script⟩ ∧
      (s.runTurn setup script).2.arbiter.escalation.lastSpeech = script.input.text :=
  (twoTurns_of_reachable h h.resting).first hstarts.owner hstarts.finished hstarts.handles
    hstarts.topic hstarts.begins

/-- **A turn that starts nothing** leaves the text that is waiting, or drops it. -/
theorem lastSpeech_of_not_starts (h : Reachable setup s)
    (hstarts : ¬ PastTurn.Starts setup ⟨s, script⟩) :
    (s.runTurn setup script).2.arbiter.escalation.lastSpeech =
        s.arbiter.escalation.lastSpeech ∨
      (s.runTurn setup script).2.arbiter.escalation.lastSpeech = "" := by
  have hstep : s.TwoTurns setup script := twoTurns_of_reachable h h.resting
  by_cases howner : (s.runTurn setup script).1.owner = some .default
  · cases habort : script.abort with
    | true =>
      have hopened := (s.owner_report setup script).symm.trans howner
      rw [lastSpeech_of_abort (h.enabled_of_default script hopened) hopened h.resting habort]
      split
      · exact Or.inl rfl
      · exact Or.inr rfl
    | false =>
      by_cases hwaiting : s.arbiter.escalation.Resumes setup.settings.arbiter script.input ∧
          (s.runTurn setup script).1.outputKind = none
      · exact Or.inl (hstep.waiting hwaiting.1 hwaiting.2).2
      · exact Or.inr (hstep.ended howner habort
          (fun hfirst => hstarts ⟨howner, hfirst.2.2, hfirst.1, hfirst.2.1, habort⟩) hwaiting).2
  · exact Or.inl (hstep.other howner).2

/-- Where something is waiting after a turn, the second turn is awaited. -/
theorem awaits_of_lastSpeech (h : Reachable setup s)
    (hspeech : (s.runTurn setup script).2.arbiter.escalation.lastSpeech ≠ "") :
    PastTurn.Awaits setup ⟨s, script⟩ := by
  have hrest : (s.runTurn setup script).2.arbiter.escalation.Resting := resting_runTurn h h.resting
  exact hrest.stage.resolve_left fun hinitial => hspeech (hrest.silent hinitial)

/-- **What starts a fallback** is an utterance, or the resume event. -/
theorem kind_of_starts (h : Reachable setup s) (hstarts : PastTurn.Starts setup ⟨s, script⟩) :
    script.input.kind = .speech ↔
      script.input.isEventNamed setup.settings.arbiter.resumeEvent = false := by
  have hopened := (s.owner_report setup script).symm.trans hstarts.owner
  have hfirst := hopened
  rw [owner?_openedDesk_of_enabled _ _ _ (h.enabled_of_default script hopened),
    Option.some_inj] at hfirst
  constructor
  · intro hkind
    simp [Input.isEventNamed, Input.isEvent, hkind]
  · intro hresumes
    cases hkind : script.input.kind with
    | speech => rfl
    | event =>
      -- any other event owns its turn itself
      have hevent : script.input.isEvent = true := by simp [Input.isEvent, hkind]
      have hother : Owner.first setup.settings.arbiter (s.claim setup script) = .event :=
        Owner.first_of_event hevent hresumes
      exact absurd (hother.symm.trans hfirst) (by decide)

/-! ### Over a whole conversation -/

/-- A turn of the past that **started what is waiting**: the last one that started a fallback. The
second turn of this fallback has been awaited ever since, and the text has stayed. -/
structure PastTurn.StartedWaiting (setup : Setup) (past : List PastTurn) (s : Session)
    (turn : PastTurn) : Prop where
  starts : turn.Starts setup
  last : ∃ earlier since, past = earlier ++ turn :: since ∧
    (∀ later ∈ since, ¬ later.Starts setup) ∧ ∀ later ∈ turn :: since, later.Awaits setup
  text : turn.script.input.text = s.arbiter.escalation.lastSpeech

/-- What is waiting has been started by a turn of the past. -/
theorem exists_startedWaiting {past : List PastTurn} (h : Past setup past s)
    (hspeech : s.arbiter.escalation.lastSpeech ≠ "") :
    ∃ turn : PastTurn, turn.StartedWaiting setup past s := by
  induction h with
  | new => exact absurd rfl hspeech
  | @turn past s script h ih =>
    by_cases hstarts : PastTurn.Starts setup ⟨s, script⟩
    · obtain ⟨hawaits, htext⟩ := waiting_of_starts h.reachable hstarts
      exact ⟨⟨s, script⟩, hstarts, ⟨past, [], rfl, by simp, by simpa using hawaits⟩, htext.symm⟩
    · -- what is waiting now was waiting before this turn
      rcases lastSpeech_of_not_starts h.reachable hstarts with hsame | hdropped
      · have hawaits := awaits_of_lastSpeech h.reachable hspeech
        rw [hsame] at hspeech
        obtain ⟨turn, hturn, ⟨earlier, since, rfl, hsince, hawaited⟩, htext⟩ := ih hspeech
        refine ⟨turn, hturn, ⟨earlier, since ++ [⟨s, script⟩], by simp, ?_, ?_⟩,
          htext.trans hsame.symm⟩
        · simpa [or_imp, forall_and] using ⟨hsince, hstarts⟩
        · simpa [or_imp, forall_and, and_assoc] using
            ⟨hawaited turn List.mem_cons_self,
              fun later hlater => hawaited later (List.mem_cons_of_mem _ hlater), hawaits⟩
      · exact absurd hdropped hspeech
  | @conversation past s conversation _ ih =>
    have hsame : (s.setConversation conversation).arbiter.escalation.lastSpeech =
        s.arbiter.escalation.lastSpeech := by
      rw [setConversation, Arbiter.phaseChanged]
      split <;> rfl
    rw [hsame] at hspeech
    obtain ⟨turn, hturn, hlast, htext⟩ := ih hspeech
    exact ⟨turn, hturn, hlast, htext.trans hsame.symm⟩
  | event _ ih =>
    obtain ⟨turn, hturn, hlast, htext⟩ := ih hspeech
    exact ⟨turn, hturn, hlast, htext⟩

/-- **Whose utterance is waiting.** Every turn that starts a fallback leaves what came in waiting,
and whenever anything is waiting after a past, it is what came in with the last turn of the past
that started a fallback. It is an utterance, unless it is the resume event. -/
theorem waiting_of_past {past : List PastTurn} (h : Past setup past s) :
    (∀ turn ∈ past, turn.Starts setup →
        (turn.after setup).arbiter.escalation.lastSpeech = turn.script.input.text) ∧
      (s.arbiter.escalation.lastSpeech ≠ "" →
        ∃ turn : PastTurn, turn.StartedWaiting setup past s ∧
          (turn.script.input.kind = .speech ↔
            turn.script.input.isEventNamed setup.settings.arbiter.resumeEvent = false)) := by
  refine ⟨fun turn hturn hstarts => ?_, fun hspeech => ?_⟩
  · exact (waiting_of_starts (h.reachable_of_mem turn hturn) hstarts).2
  · obtain ⟨turn, hturn⟩ := exists_startedWaiting h hspeech
    obtain ⟨earlier, since, hpast, -⟩ := hturn.last
    have hmem : turn ∈ past := by simp [hpast]
    exact ⟨turn, hturn, kind_of_starts (h.reachable_of_mem turn hmem) hturn.starts⟩

/-- An event that is none of its business comes between the two turns of a fallback: what was said
in the first one is still waiting. -/
theorem waiting_of_past_pending :
    let tap := TurnScript.ofInput (.event "eb-tap")
    let past : List PastTurn := [⟨new, .handling (.speech "blorp")⟩, ⟨pending, tap⟩]
    let s := (pending.runTurn {} tap).2
    s.arbiter.escalation.lastSpeech = "blorp" ∧
      ∃ turn ∈ past, turn.StartedWaiting {} past s ∧ turn.script.input.text = "blorp" := by
  intro tap past s
  have htext : s.arbiter.escalation.lastSpeech = "blorp" := by decide +kernel
  have hpast : Past {} past s := (Past.new.turn _).turn _
  obtain ⟨turn, hturn, -⟩ := (waiting_of_past hpast).2 (by rw [htext]; decide)
  obtain ⟨earlier, since, hsplit, -⟩ := hturn.last
  exact ⟨htext, turn, by simp [hsplit], hturn, hturn.text.trans htext⟩

/-- When the resume event comes in and there is nothing to be resumed, its name is waiting. -/
theorem not_forall_waiting_speech :
    ¬ ∀ (setup : Setup) (past : List PastTurn) (s : Session), Past setup past s →
      s.arbiter.escalation.lastSpeech = "" ∨
        ∃ turn ∈ past, turn.script.input.kind = .speech ∧
          turn.script.input.text = s.arbiter.escalation.lastSpeech := by
  intro h
  rcases h {} _ _ (Past.new.turn (.handling (.event "eb-remote-act-speak"))) with hnone | hspeech
  · exact absurd hnone (by decide +kernel)
  · obtain ⟨turn, hturn, hkind, -⟩ := hspeech
    rw [List.nil_append, List.mem_singleton] at hturn
    rw [hturn] at hkind
    exact absurd hkind (by decide)

end Session

end Colloquy

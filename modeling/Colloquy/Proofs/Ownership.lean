import Colloquy.Proofs.Run

/-!
# Who owns a turn

The owner of a turn is found when the turn begins, by looking at what came in, at the surroundings,
and at what is authored for the topic in which the conversation stands. The first two are given with
the turn. The third is not: where the conversation stands depends on every turn before, on the
outputs of those that were finished, and on which of the topics they went through could be resolved.

That dependence is a fold over the past. A turn that was aborted, or had no output, leaves the
conversation where it was; every other one, whoever owned it and whoever answered it, leads to the
place that its output names (`Session.PastTurn.leads`). Commands, changes of the surroundings and
the taking of events play no part in it (`Session.place_of_past`), and so the owner of any turn can
be read off the past and the turn itself.
-/

namespace Colloquy

/-- The policies, **spelled out**: what each of them looks at before it claims a turn. -/
theorem Owner.first_eq_of_claim (settings : ArbiterSettings) (claim : Claim) :
    Owner.first settings claim =
      if claim.turn.input.isEvent ∧ claim.turn.input.text ≠ settings.resumeEvent then .event
      else if claim.conversation.interruptible ∨ claim.treatment = .silent then .silent
      else if claim.priorModule = settings.openModule ∨ claim.treatment = .conversation then
        .conversation
      else if claim.turn.socialChat ∨ claim.treatment = .localOnly then .social
      else .default := by
  have hevent : Owner.event.claims settings claim = true ↔
      claim.turn.input.isEvent ∧ claim.turn.input.text ≠ settings.resumeEvent := by
    simp only [Owner.claims, Input.isEventNamed]
    cases claim.turn.input.isEvent <;> simp
  have hsilent : Owner.silent.claims settings claim = true ↔
      claim.conversation.interruptible ∨ claim.treatment = .silent := by
    simp [Owner.claims]
  have hconversation : Owner.conversation.claims settings claim = true ↔
      claim.priorModule = settings.openModule ∨ claim.treatment = .conversation := by
    simp [Owner.claims]
  have hsocial : Owner.social.claims settings claim = true ↔
      claim.turn.socialChat ∨ claim.treatment = .localOnly := by
    simp [Owner.claims]
  rw [Owner.first_eq]
  simp only [hevent, hsilent, hconversation, hsocial]

/-- Finishing a turn may change what is said, but not where the turn ends. -/
theorem Tracker.placeAfter_finish (settings : TrackerSettings) (t : Tracker) (turn : Turn)
    (place : Place) :
    (t.finish settings turn).2.output.elim place (Arbiter.placeAfter place) =
      turn.output.elim place (Arbiter.placeAfter place) := by
  obtain ⟨input, output, request, social⟩ := turn
  cases output <;> rfl

namespace Session

/-- The turn as it was **closed**, which is the one that is reported. -/
def closedTurn (setup : Setup) (s : Session) (script : TurnScript) : Turn :=
  ((s.answered setup script).closeTurn setup script (s.answeredTurn setup script)).2

/-- The **output** with which a turn of the past ended. One that was aborted has none. -/
def PastTurn.output? (setup : Setup) (turn : PastTurn) : Option Output :=
  (turn.session.closedTurn setup turn.script).output

/-- Where a turn of the past has **led** the conversation: to what its output names. Without an
output it stays where it was, and without a module it is in no topic. If none of the topics that the
turn went through is of its module, the topic stays, under the new module. -/
def PastTurn.leads (setup : Setup) (place : Place) (turn : PastTurn) : Place :=
  match turn.output? setup with
  | none => place
  | some output =>
    { module := output.module
      contentId := output.contentId
      topic :=
        if output.module = "" then ""
        else match Topic.resolve output.module output.topics with
          | some topic => topic
          | none => place.topic }

variable {setup : Setup} {past : List PastTurn} {s : Session}

/-- **One turn** leads the conversation to where the arbiter looks next. -/
theorem leads_eq_place_runTurn (script : TurnScript) :
    PastTurn.leads setup s.arbiter.place ⟨s, script⟩ = (s.runTurn setup script).2.arbiter.place := by
  have hleads : PastTurn.leads setup s.arbiter.place ⟨s, script⟩ =
      (s.closedTurn setup script).output.elim s.arbiter.place
        (Arbiter.placeAfter s.arbiter.place) := by
    rw [PastTurn.leads, PastTurn.output?]
    cases (s.closedTurn setup script).output with
    | none => rfl
    | some output =>
      dsimp only [Option.elim_some, Arbiter.placeAfter]
      cases Topic.resolve output.module output.topics <;> rfl
  rw [hleads, place_runTurn]
  cases habort : script.abort with
  | true => simp [closedTurn, closeTurn, habort]
  | false =>
    cases hremote : script.remote with
    | true => simp [closedTurn, closeTurn, habort, hremote]
    | false =>
      -- only here may the output still change, in what is said
      have hclosed : s.closedTurn setup script =
          ((s.answeredDesk setup script).tracker.finish setup.settings.tracker
            (s.answeredTurn setup script)).2 := by
        simp [closedTurn, closeTurn, habort, hremote, answered]
      rw [hclosed, Tracker.placeAfter_finish]
      rfl

/-- **Where the conversation stands** is decided by the turns of the past alone. -/
theorem place_of_past (h : Past setup past s) :
    s.arbiter.place = past.foldl (PastTurn.leads setup) {} := by
  induction h with
  | new => rfl
  | turn script _ ih =>
    rw [List.foldl_append, ← ih]
    exact (leads_eq_place_runTurn script).symm
  | @conversation past s conversation _ ih =>
    rw [← ih, setConversation, Arbiter.phaseChanged]
    split <;> rfl
  | event _ ih => exact ih

/-- **The owner of a turn**, where the arbiter is switched on: there always is one, and it is decided
by the past, by the surroundings that hold from this turn on, and by the turn itself. -/
theorem owner_of_past (hen : setup.settings.arbiter.enabled = true) (h : Past setup past s)
    (script : TurnScript) :
    let place := past.foldl (PastTurn.leads setup) {}
    let conversation := script.conversation.getD s.conversation
    let treatment := (setup.catalog.topicEntry place.module place.topic).treatment
    (s.runTurn setup script).1.owner = some (
      if script.input.isEvent ∧ script.input.text ≠ setup.settings.arbiter.resumeEvent then .event
      else if conversation.interruptible ∨ treatment = .silent then .silent
      else if place.module = setup.settings.arbiter.openModule ∨ treatment = .conversation then
        .conversation
      else if script.socialChat ∨ treatment = .localOnly then .social
      else .default) := by
  intro place conversation treatment
  have hplace : s.arbiter.place = place := place_of_past h
  have htreatment : (s.claim setup script).treatment = treatment := by
    rw [claim, Arbiter.claimOf, hplace]
  have hmodule : (s.claim setup script).priorModule = place.module := by
    rw [claim, Arbiter.claimOf, hplace]
  rw [owner_report, owner?_openedDesk_of_enabled _ _ _ hen, Owner.first_eq_of_claim, htreatment,
    hmodule]
  rfl

/-- A setup in which one topic asks for silence. -/
def hushed : Setup where
  catalog := Catalog.withTopic {} "root" "root_quiet" { treatment := .silent }

/-- The conversation has come into the topic that asks for silence. -/
def led : TurnScript :=
  (TurnScript.ofInput (.speech "hi")).withOutput
    (Output.inModule { response := "Hush." } "root" ["~root_quiet.start"])

/-- It is about to go elsewhere. -/
def away : TurnScript :=
  (TurnScript.ofInput (.speech "go")).withOutput
    (Output.inModule { response := "There." } "side" ["~side_game"])

/-- Where the conversation was silent it still is when it was about to go elsewhere and the turn was
aborted. -/
theorem owner_of_past_hushed :
    let s := ((new.runTurn hushed led).2.runTurn hushed away.aborted).2
    hushed.settings.arbiter.enabled = true ∧ (∃ past, Past hushed past s) ∧
      (s.runTurn hushed (.ofInput (.speech "hello"))).1.owner = some .silent := by
  intro s
  have hpast : Past hushed _ s := (Past.new.turn led).turn away.aborted
  exact ⟨rfl, ⟨_, hpast⟩, (owner_of_past rfl hpast (.ofInput (.speech "hello"))).trans
    (by decide +kernel)⟩

end Session

end Colloquy

import Colloquy.Proofs.TwoTurns

/-!
# What the start of a turn touches

When a turn starts, its owner may prepare it, and what it prepares is what leaves for the remote
engine. Of the five owners two touch the turn at all. The one for open conversations asks for more
than one answer. The escalation either takes up a resolution that waits for this turn, and then it
promotes the input, or it begins a new one, and then it makes the request to the remote engine,
unless the topic wants to do without.

The request is made in a context: the one it has, or the narrowest that is authored for the place
where the last turn ended (`RemoteRequest.contextAt`). Looking for it fails only if there is none,
and then the request goes out without a context, as it has none (`RemoteRequest.placed_eq`).

`Session.start_touches` has all of this for the turns of a session. That the session came about by
turns is needed: between these no resolution stands halfway through its first turn.
-/

namespace Colloquy

/-! ### The context of a request -/

theorem RemoteContext.isEmpty_iff {context : RemoteContext} : context.isEmpty ↔ context = {} := by
  obtain ⟨id, text⟩ := context
  simp [isEmpty]

/-- **Nothing is authored** for a place: the contexts of the topic, of the content and of the module
are empty, and so is the one for everything else. -/
def Place.Bare (catalog : Catalog) (place : Place) : Prop :=
  (catalog.topicEntry place.module place.topic).context.isEmpty ∧
    (catalog.contentContext place.module place.contentId).isEmpty ∧
    (catalog.moduleContext place.module).isEmpty ∧ catalog.defaultContext.isEmpty

namespace RemoteRequest

variable (request : RemoteRequest) (catalog : Catalog) (place : Place)

/-- The **context** that a request has at a place: its own, or else the narrowest one that says
something. -/
def contextAt : RemoteContext :=
  if request.context.isEmpty = false then request.context
  else if (catalog.topicEntry place.module place.topic).context.isEmpty = false then
    (catalog.topicEntry place.module place.topic).context
  else if (catalog.contentContext place.module place.contentId).isEmpty = false then
    catalog.contentContext place.module place.contentId
  else if (catalog.moduleContext place.module).isEmpty = false then
    catalog.moduleContext place.module
  else catalog.defaultContext

theorem isEmpty_contextAt_iff :
    (request.contextAt catalog place).isEmpty ↔
      request.context.isEmpty ∧ place.Bare catalog := by
  rw [contextAt, Place.Bare]
  repeat' split
  all_goals simp_all

/-- The contexts that come into question are **gone through** from the narrowest to the widest. -/
theorem find?_contexts (h : request.context.isEmpty) :
    (place.contexts catalog).find? (! ·.isEmpty) =
      if (request.contextAt catalog place).isEmpty then none
      else some (request.contextAt catalog place) := by
  simp only [Place.contexts, contextAt, h, List.find?_cons, List.find?_nil, Bool.true_eq_false,
    if_false]
  cases htopic : (catalog.topicEntry place.module place.topic).context.isEmpty with
  | false => simp [htopic]
  | true =>
    cases hcontent : (catalog.contentContext place.module place.contentId).isEmpty with
    | false => simp [hcontent]
    | true =>
      cases hmodule : (catalog.moduleContext place.module).isEmpty with
      | false => simp [hmodule]
      | true => cases hdefault : catalog.defaultContext.isEmpty <;> simp [hdefault]

/-- **Looking for a context** is refused if there is none at all, and otherwise sets nothing but the
context. -/
theorem placed_eq :
    request.placed catalog place =
      if (request.contextAt catalog place).isEmpty then
        .error (.missingContext place.module place.topic)
      else .ok { request with context := request.contextAt catalog place } := by
  rw [placed]
  cases hown : request.context.isEmpty with
  | false => simp [contextAt, hown]
  | true =>
    rw [find?_contexts request catalog place hown, if_pos rfl]
    by_cases hempty : (request.contextAt catalog place).isEmpty
    · rw [if_pos hempty, if_pos hempty]
    · rw [if_neg hempty, if_neg hempty]

/-- It is **refused** just if the request has no context and none is authored for the place. -/
theorem exists_refusal_iff :
    (∃ refusal, request.placed catalog place = .error refusal) ↔
      request.context.isEmpty ∧ place.Bare catalog := by
  rw [placed_eq, ← isEmpty_contextAt_iff]
  split <;> simp [*]

variable {request catalog place}

theorem placed_of_error {refusal : Refusal} (h : request.placed catalog place = .error refusal) :
    refusal = .missingContext place.module place.topic ∧
      request.contextAt catalog place = request.context := by
  obtain ⟨hown, -⟩ := (request.exists_refusal_iff catalog place).mp ⟨refusal, h⟩
  rw [placed_eq] at h
  split at h
  next hempty =>
    cases h
    rw [RemoteContext.isEmpty_iff.mp hempty, RemoteContext.isEmpty_iff.mp hown]
    exact ⟨rfl, rfl⟩
  next => cases h

theorem placed_of_ok {placed : RemoteRequest} (h : request.placed catalog place = .ok placed) :
    placed = { request with context := request.contextAt catalog place } ∧
      ¬ placed.context.isEmpty := by
  rw [placed_eq] at h
  split at h
  next => cases h
  next hsome =>
    cases h
    exact ⟨rfl, hsome⟩

/-- A context that is there **stays**. -/
theorem placed_of_context (h : ¬ request.context.isEmpty) :
    request.placed catalog place = .ok request := by
  rw [placed, if_neg h]

end RemoteRequest

namespace Escalation

variable (settings : ArbiterSettings) (catalog : Catalog) (place : Place)

/-- What is **asked**: for more than one answer, of the model of the settings and without its asking
back, in the context of the place. -/
theorem asking_eq (request : RemoteRequest) :
    asking settings catalog place request =
      { context := request.contextAt catalog place
        allowMultiple := true
        settings := (request.settings.insert noBiasSetting "true").insert modelSetting
          settings.remoteModel } := by
  rw [asking, RemoteRequest.placed_eq]
  by_cases hempty : (request.contextAt catalog place).isEmpty
  · -- without any context, the request keeps the empty one it has
    have hown := ((request.isEmpty_contextAt_iff catalog place).mp hempty).1
    have hcontext : request.contextAt catalog place = request.context := by
      rw [RemoteContext.isEmpty_iff.mp hempty, RemoteContext.isEmpty_iff.mp hown]
    rw [if_pos hempty, hcontext]
  · rw [if_neg hempty]

variable {settings} {e : Escalation} {turn : Turn}

/-- From rest, a turn **resumes** a resolution, and its input is promoted, or it begins a new one,
and the remote engine is asked unless the topic wants to do without. -/
theorem start_claim_snd (h : e.Resting) (treatment : Treatment) :
    ((e.claim treatment).start settings catalog place turn).2 =
      { turn with
        input := { turn.input with
          promoted := turn.input.promoted || decide (e.Resumes settings turn.input) }
        remoteRequest :=
          if treatment ≠ .noRemote ∧ (e.takenUp settings treatment turn.input).stage = .initial then
            asking settings catalog place turn.remoteRequest
          else turn.remoteRequest } := by
  rw [h.stage_takenUp]
  rcases h.stage with hs | hs <;> rcases hr : turn.input.isEventNamed settings.resumeEvent <;>
    by_cases ht : treatment = .noRemote <;>
      simp [start, opened, withdrawn, claim, Resumes, Input.promote, hs, hr, ht]

end Escalation

namespace Arbiter

variable {settings : ArbiterSettings} (catalog : Catalog) (conversation : Conversation)
  (arbiter : Arbiter) (turn : Turn)

/-- What the owner of a turn **makes of it** when it starts. -/
theorem start_snd (h : settings.enabled = true) :
    (arbiter.start settings catalog conversation turn).2 =
      match (arbiter.start settings catalog conversation turn).1.owner? with
      | some .conversation =>
        { turn with remoteRequest := { turn.remoteRequest with allowMultiple := true } }
      | some .default =>
        ((arbiter.escalation.claim
            (arbiter.claimOf catalog conversation turn).treatment).start settings catalog
          arbiter.place turn).2
      | _ => turn := by
  rw [start_of_enabled _ _ _ _ _ h]
  simp only [start, h, if_true]
  cases Owner.first settings (arbiter.claimOf catalog conversation turn) <;> rfl

/-- From rest, the **escalation** promotes the input of a turn it owns, or asks the remote engine. -/
theorem start_snd_of_default (hen : settings.enabled = true) (hrest : arbiter.escalation.Resting)
    (howner : (arbiter.start settings catalog conversation turn).1.owner? = some .default) :
    (arbiter.start settings catalog conversation turn).2 =
      { turn with
        input := { turn.input with
          promoted := turn.input.promoted ||
            decide (arbiter.escalation.Resumes settings turn.input) }
        remoteRequest :=
          if (arbiter.claimOf catalog conversation turn).treatment ≠ .noRemote ∧
              (arbiter.start settings catalog conversation turn).1.escalation.stage = .initial then
            Escalation.asking settings catalog arbiter.place turn.remoteRequest
          else turn.remoteRequest } := by
  have hstarted := arbiter.start_of_enabled settings catalog conversation turn hen
  have hfirst := howner
  rw [hstarted, Option.some.injEq] at hfirst
  have htaken : (arbiter.start settings catalog conversation turn).1.escalation =
      arbiter.escalation.takenUp settings (arbiter.claimOf catalog conversation turn).treatment
        turn.input := by
    rw [hstarted]
    exact if_pos hfirst
  rw [start_snd catalog conversation arbiter turn hen, howner, htaken]
  exact Escalation.start_claim_snd catalog arbiter.place hrest _

end Arbiter

namespace Session

variable {setup : Setup} {s : Session}

/-- **The start of a turn** touches what its owner may touch and nothing else. The input is promoted
just if the escalation owns the turn and was waiting for this event. The request to the remote
engine is made just if the escalation owns the turn, the topic does not want to do without, and no
resolution goes on; it is allowed more than one answer if the conversation is open; and otherwise it
is left alone. As for the context of a request, looking for it fails just if there is none at all;
then the request is what it was. It never takes the place of a context that is there, and nothing
else of the request is changed by it. -/
theorem start_touches (h : Reachable setup s) (catalog : Catalog) (conversation : Conversation)
    (turn : Turn) :
    let settings := setup.settings.arbiter
    let started := s.arbiter.start settings catalog conversation turn
    let owned := started.1.owner? = some .default
    let resumes := s.arbiter.escalation.Resumes settings turn.input
    let asks :=
      (catalog.topicEntry s.arbiter.place.module s.arbiter.place.topic).treatment ≠ .noRemote ∧
        started.1.escalation.stage = .initial
    let request : RemoteRequest :=
      if owned ∧ asks then
        { context := turn.remoteRequest.contextAt catalog s.arbiter.place
          allowMultiple := true
          settings := (turn.remoteRequest.settings.insert Escalation.noBiasSetting "true").insert
            Escalation.modelSetting settings.remoteModel }
      else if started.1.owner? = some .conversation then
        { turn.remoteRequest with allowMultiple := true }
      else turn.remoteRequest
    started.2 =
        { input := { turn.input with
            promoted := turn.input.promoted || decide (owned ∧ resumes) }
          output := turn.output
          remoteRequest := request
          socialChat := turn.socialChat } ∧
      (∀ name, name ≠ Escalation.noBiasSetting → name ≠ Escalation.modelSetting →
        request.settings.get? name = turn.remoteRequest.settings.get? name) ∧
      ∀ (request : RemoteRequest) (place : Place),
        ((∃ refusal, request.placed catalog place = .error refusal) ↔
          request.context.isEmpty ∧ place.Bare catalog) ∧
        (∀ refusal, request.placed catalog place = .error refusal →
          refusal = .missingContext place.module place.topic ∧
            request.contextAt catalog place = request.context) ∧
        (¬ request.context.isEmpty → request.placed catalog place = .ok request) ∧
        ∀ placed, request.placed catalog place = .ok placed →
          placed = { request with context := request.contextAt catalog place } ∧
            ¬ placed.context.isEmpty := by
  refine ⟨?_, fun name hbias hmodel => ?_, fun request place =>
    ⟨request.exists_refusal_iff catalog place, fun _ => RemoteRequest.placed_of_error,
      RemoteRequest.placed_of_context, fun _ => RemoteRequest.placed_of_ok⟩⟩
  rotate_left
  · -- two settings are set, and no others
    split
    · rw [Dict.get?_insert, if_neg hmodel, Dict.get?_insert, if_neg hbias]
    · split <;> rfl
  dsimp only
  cases hen : setup.settings.arbiter.enabled with
  | false =>
    -- nobody owns a turn of an arbiter that is switched off
    rw [Arbiter.start_of_disabled _ _ _ _ _ hen, h.owner?_of_disabled hen]
    simp
  | true =>
    cases howner : (s.arbiter.start setup.settings.arbiter catalog conversation turn).1.owner? with
    | none =>
      rw [Arbiter.start_snd catalog conversation s.arbiter turn hen, howner]
      simp
    | some owner =>
      cases owner with
      | default =>
        rw [Arbiter.start_snd_of_default catalog conversation s.arbiter turn hen h.resting howner,
          Escalation.asking_eq]
        simp only [true_and]
        rfl
      | _ =>
        rw [Arbiter.start_snd catalog conversation s.arbiter turn hen, howner]
        simp

/-- A catalog in which a context is authored for the module without a name. -/
def homely : Catalog := ({} : Catalog).withModuleContext "" { text := "at home" }

/-- A turn with a setting of its own. -/
def greeted : Turn where
  input := .speech "hi"
  remoteRequest := { settings := Dict.empty.insert "voice" "low" }

/-- In a new session the remote engine is asked in the context that is authored, with the setting
that the turn has. Where there is no context, looking for one is refused. -/
theorem start_touches_new :
    Reachable {} new ∧
      (new.arbiter.start ({} : Setup).settings.arbiter homely {} greeted).2 =
        { greeted with
          remoteRequest :=
            { context := { text := "at home" }
              allowMultiple := true
              settings := (greeted.remoteRequest.settings.insert Escalation.noBiasSetting
                "true").insert Escalation.modelSetting "gpt-3.5-turbo" } } ∧
      "voice" ≠ Escalation.noBiasSetting ∧ "voice" ≠ Escalation.modelSetting ∧
      ∃ refusal, greeted.remoteRequest.placed {} { topic := "~root" } = .error refusal := by
  have hnew : Reachable {} new := .new
  obtain ⟨hturn, -, -⟩ := start_touches hnew homely {} greeted
  obtain ⟨-, -, hplaced⟩ := start_touches hnew {} {} greeted
  refine ⟨hnew, ?_, by decide, by decide,
    (hplaced greeted.remoteRequest { topic := "~root" }).1.mpr ?_⟩
  · rw [hturn]
    decide
  · exact ⟨by decide, by decide, by decide, by decide, by decide⟩

end Session

end Colloquy

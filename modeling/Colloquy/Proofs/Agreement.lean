import Mathlib
import Colloquy.Proofs.Ownership
import Colloquy.Proofs.Replay
import Colloquy.Proofs.Visit

/-!
# The arbiter and the tracker agree on the topic

Two parts of a session keep the topic that the conversation is in, and each finds it for itself. The
arbiter looks up the module as the output writes it and keeps the topic as it is written; the tracker
looks up the **key** of the module and keeps the topic in small letters. Neither asks the other, so
whether they agree comes down to whether a key is looked up like the name it is the key of.

It is, where taking the key of a key changes nothing (`Topic.moduleKey_moduleKey`), and for that
nothing may be left on the bare name to be taken off it once more: no second tilde, and no blank
behind the first one (`Topic.IsNamed`). Small letters stay as they are in any case. So an output of a
named module is looked up alike by both (`Topic.resolve_moduleKey`), and whatever was found before,
they agree after it (`topics_agree`), and go on agreeing for as long as all outputs are of this kind
(`topic_of_past`).
-/

namespace Colloquy

namespace Topic

open Text

variable {module : String}

/-- A module is **named** if its bare name begins with a character that is neither a tilde nor
blank. -/
def IsNamed (module : String) : Prop :=
  ∃ c ∈ (bare module).toList.head?, c ≠ '~' ∧ isBlank c = false

instance (module : String) : Decidable (IsNamed module) :=
  decidable_of_iff ((bare module).toList.head?.any (fun c => c ≠ '~' && !isBlank c) = true)
    (by simp [IsNamed, Option.any_eq_true])

theorem dropTilde_suffix (s : List Char) : dropTilde s <:+ s := by
  cases s with
  | nil => exact List.suffix_refl _
  | cons c rest =>
    by_cases hc : c = '~'
    · subst hc
      exact List.suffix_cons _ _
    · rw [dropTilde_of_ne hc]

/-- **The bare name of a module that is named** is bare. -/
theorem bare_bare (h : IsNamed module) : bare (bare module) = bare module := by
  obtain ⟨c, hhead, htilde, hblank⟩ := h
  obtain ⟨rest, hname⟩ := List.head?_eq_some_iff.mp hhead
  have hbegin : (c :: rest).dropWhile isBlank = c :: rest :=
    List.dropWhile_cons_of_neg (by simp [hblank])
  -- the end of the name is that of the name with its tilde, which has been trimmed
  have hend : (c :: rest).rdropWhile isBlank = c :: rest := by
    refine List.rdropWhile_eq_self_iff.mpr fun hne => ?_
    have hsuffix := dropTilde_suffix (trimChars module.toList)
    rw [← toList_bare, hname] at hsuffix
    rw [hsuffix.getLast hne]
    exact List.rdropWhile_eq_self_iff.mp (List.rdropWhile_idempotent isBlank _) _
  rw [← String.toList_inj, toList_bare, hname, trimChars_eq, hbegin, hend, dropTilde_of_ne htilde]

/-- **The key of a key** is the key. -/
theorem moduleKey_moduleKey (h : IsNamed module) :
    moduleKey (moduleKey module) = moduleKey module := by
  rw [moduleKey, moduleKey, ← lower_bare, lower_lower, bare_bare h]

/-- A name of which something is left when it is made bare is not all blanks. -/
theorem allBlank_eq_false_of_bare (h : bare module ≠ "") : allBlank module = false := by
  refine Bool.eq_false_iff.mpr fun hblank => h ?_
  have hnil : trimChars module.toList = [] :=
    trimChars_eq_nil_iff.mpr (List.all_eq_true.mp hblank)
  rw [← String.toList_inj, toList_bare, hnil]
  rfl

theorem IsNamed.bare_ne (h : IsNamed module) : bare module ≠ "" := by
  intro hempty
  obtain ⟨c, hhead, -⟩ := h
  rw [hempty] at hhead
  cases hhead

theorem IsNamed.ne_empty (h : IsNamed module) : module ≠ "" := by
  rintro rfl
  exact h.bare_ne rfl

theorem IsNamed.moduleKey_ne (h : IsNamed module) : moduleKey module ≠ "" := by
  obtain ⟨c, hhead, -⟩ := h
  obtain ⟨rest, hname⟩ := List.head?_eq_some_iff.mp hhead
  intro hempty
  rw [moduleKey, ← String.toList_inj, toList_lower, hname, lowerAfter_cons] at hempty
  exact smallIn_ne_nil _ _ _ (List.append_eq_nil_iff.mp hempty).1

/-- **A key is looked up like the name** it is the key of. -/
theorem resolve_moduleKey (h : IsNamed module) (topics : List String) :
    resolve (moduleKey module) topics = resolve module topics := by
  have hkey : bare (moduleKey module) ≠ "" := by
    rw [moduleKey, ← lower_bare, bare_bare h]
    exact h.moduleKey_ne
  rw [resolve, resolve, allBlank_eq_false_of_bare h.bare_ne, allBlank_eq_false_of_bare hkey,
    moduleKey_moduleKey h]

end Topic

/-- The topic the conversation is in after a finished turn is the one that its output leads to. -/
theorem Tracker.storedTopic_finish (settings : TrackerSettings) (t : Tracker) {turn : Turn}
    {output : Output} (h : turn.output = some output) :
    (t.finish settings turn).1.storedTopic =
      t.topicAfter (t.modulesOf settings output).1 output.topics := by
  rw [(t.queue_finish_of_some settings h).1, storedTopic_located]

namespace Session

/-! ### What each of them finds -/

/-- The topic that the **arbiter** finds for an output. -/
def arbiterTopic? (output : Output) : Option String := Topic.resolve output.module output.topics

/-- The topic that the **tracker** finds for the output of a turn, once its commands have been
answered. -/
def trackerTopic? (setup : Setup) (s : Session) (script : TurnScript) (output : Output) :
    Option String :=
  Topic.resolve
    ((s.answeredDesk setup script).tracker.modulesOf setup.settings.tracker output).1 output.topics

theorem frame_answeredDesk (setup : Setup) (s : Session) (script : TurnScript) :
    (s.answeredDesk setup script).tracker.storedTopic = s.tracker.storedTopic ∧
      (s.answeredDesk setup script).tracker.prevModule = s.tracker.prevModule := by
  obtain ⟨-, -, hmodule, htopic, -⟩ :=
    Command.foldl_onTracker_frame s.tracker.start (accepted script.commands)
  rw [tracker_answeredDesk]
  exact ⟨htopic, hmodule⟩

variable {setup : Setup} {s : Session} {script : TurnScript} {output : Output}

theorem saveAsked_answeredDesk :
    (s.answeredDesk setup script).tracker.saveAsked =
      decide (.saveMarkup ∈ accepted script.commands) := by
  rw [tracker_answeredDesk, (Command.foldl_onTracker_asked _ _).1]
  rfl

theorem trackerTopic?_of_named (hsave : .saveMarkup ∉ accepted script.commands)
    (hnamed : Topic.IsNamed output.module) :
    s.trackerTopic? setup script output = arbiterTopic? output := by
  have hasked : (s.answeredDesk setup script).tracker.saveAsked = false := by
    rw [saveAsked_answeredDesk]
    exact decide_eq_false hsave
  rw [trackerTopic?, Tracker.modulesOf, hasked, if_neg Bool.false_ne_true]
  exact Topic.resolve_moduleKey hnamed output.topics

/-! ### What each of them keeps -/

/-- The place after a turn with an output is in the topic that the arbiter has found, or else in the
one it was in, as long as the output names a module at all. -/
theorem topic_place_runTurn (houtput : PastTurn.output? setup ⟨s, script⟩ = some output)
    (hmodule : output.module ≠ "") :
    (s.runTurn setup script).2.arbiter.place.topic =
      (arbiterTopic? output).getD s.arbiter.place.topic := by
  rw [← leads_eq_place_runTurn, PastTurn.leads, houtput, arbiterTopic?]
  dsimp only
  rw [if_neg hmodule]
  cases Topic.resolve output.module output.topics <;> rfl

/-- The output with which a turn ends that is finished here is the one that has been put together,
apart from what is said. -/
theorem exists_answered_of_output? (hremote : script.remote = false)
    (houtput : PastTurn.output? setup ⟨s, script⟩ = some output) :
    script.abort = false ∧ ∃ response, (s.answeredTurn setup script).output =
      some { output with response } := by
  rw [PastTurn.output?, closedTurn, closeTurn] at houtput
  cases habort : script.abort with
  | true =>
    rw [habort] at houtput
    cases houtput
  | false =>
    refine ⟨rfl, ?_⟩
    rw [habort, hremote] at houtput
    cases hanswered : (s.answeredTurn setup script).output with
    | none =>
      have hnone := Tracker.finish_of_none setup.settings.tracker
        (s.answeredDesk setup script).tracker hanswered
      exact absurd (houtput.symm.trans ((congrArg (·.2.output) hnone).trans hanswered)) (by simp)
    | some answered =>
      have hsome := Tracker.finish_of_some setup.settings.tracker
        (s.answeredDesk setup script).tracker hanswered
      have hsaid := houtput.symm.trans (congrArg (·.2.output) hsome)
      exact ⟨answered.response, by rw [Option.some_inj.mp hsaid]⟩

/-- A turn without an output, or one that the remote engine answers, leaves the tracker in the topic
and the module that it was in. -/
theorem stays_runTurn (h : script.remote = true ∨ PastTurn.output? setup ⟨s, script⟩ = none) :
    (s.runTurn setup script).2.tracker.storedTopic = s.tracker.storedTopic ∧
      (s.runTurn setup script).2.tracker.prevModule = s.tracker.prevModule := by
  have hkept := frame_answeredDesk setup s script
  rw [tracker_runTurn]
  split
  · exact hkept
  · rename_i habort
    split
    · obtain ⟨_, hremote, -⟩ := (s.answeredDesk setup script).tracker.finishRemote_frame
        setup.settings.tracker (s.answeredTurn setup script)
      rw [hremote]
      exact hkept
    · rename_i hremote
      have hnone := h.resolve_left hremote
      rw [PastTurn.output?, closedTurn, closeTurn, if_neg habort, if_neg hremote] at hnone
      cases hanswered : (s.answeredTurn setup script).output with
      | none =>
        obtain ⟨_, _, hsettle⟩ := (s.answeredDesk setup script).tracker.settleInterruption_frame
          setup.settings.tracker (s.answeredTurn setup script).input
        rw [Tracker.finish_of_none _ _ hanswered, hsettle]
        exact hkept
      | some output =>
        have hsome := Tracker.finish_of_some setup.settings.tracker
          (s.answeredDesk setup script).tracker hanswered
        exact absurd ((congrArg (·.2.output) hsome).symm.trans hnone) (by simp)

/-- The tracker is in the topic that it has found, in small letters, or else in the one it was in. -/
theorem storedTopic_runTurn (hremote : script.remote = false)
    (hsave : .saveMarkup ∉ accepted script.commands)
    (houtput : PastTurn.output? setup ⟨s, script⟩ = some output) :
    (s.runTurn setup script).2.tracker.storedTopic =
      (s.trackerTopic? setup script output).elim s.tracker.storedTopic Text.lower := by
  obtain ⟨habort, response, hanswered⟩ := exists_answered_of_output? hremote houtput
  rw [tracker_of_finish script habort hremote, Tracker.storedTopic_finish _ _ hanswered,
    Tracker.topicAfter, saveAsked_answeredDesk, decide_eq_false hsave,
    (frame_answeredDesk setup s script).1]
  rfl

/-! ### Together -/

/-- **Both agree on the topic** of an output whose module is named, in a turn that is finished here
and does not save the markup: either both find the same topic and keep it, the arbiter as it is
written and the tracker in small letters, or neither finds one and both keep what they had. -/
theorem topics_agree (hremote : script.remote = false)
    (hsave : .saveMarkup ∉ accepted script.commands)
    (houtput : PastTurn.output? setup ⟨s, script⟩ = some output)
    (hnamed : Topic.IsNamed output.module) :
    let later := (s.runTurn setup script).2
    (∃ topic, arbiterTopic? output = some topic ∧ s.trackerTopic? setup script output = some topic ∧
        later.arbiter.place.topic = topic ∧
        later.tracker.storedTopic = Text.lower later.arbiter.place.topic) ∨
      (arbiterTopic? output = none ∧ s.trackerTopic? setup script output = none ∧
        later.arbiter.place.topic = s.arbiter.place.topic ∧
        later.tracker.storedTopic = s.tracker.storedTopic) := by
  intro later
  have hplace := topic_place_runTurn houtput hnamed.ne_empty
  have hstored := storedTopic_runTurn hremote hsave houtput
  rw [trackerTopic?_of_named hsave hnamed] at hstored ⊢
  cases hfound : arbiterTopic? output with
  | none =>
    rw [hfound] at hplace hstored
    exact Or.inr ⟨rfl, rfl, hplace, hstored⟩
  | some topic =>
    rw [hfound] at hplace hstored
    refine Or.inl ⟨topic, rfl, rfl, hplace, ?_⟩
    rw [hplace]
    exact hstored

/-- An output by way of a topic that is written in capitals, with a sigma at the end of it. -/
def shout : Output := Output.inModule { response := "That way." } " ~Root" ["~ROOT_ΟΔΟΣ.walk"]

/-- The script of a turn that is answered with it. -/
def shouting : TurnScript := (TurnScript.ofInput (.speech "where to?")).withOutput shout

/-- The arbiter keeps the capitals, and the tracker puts the sigma into its final form. -/
theorem topics_agree_shouting :
    PastTurn.output? {} ⟨new, shouting⟩ = some shout ∧ Topic.IsNamed shout.module ∧
      (new.runTurn {} shouting).2.arbiter.place.topic = "ROOT_ΟΔΟΣ" ∧
      (new.runTurn {} shouting).2.tracker.storedTopic =
        Text.lower (new.runTurn {} shouting).2.arbiter.place.topic ∧
      (new.runTurn {} shouting).2.tracker.storedTopic = "root_οδος" := by
  have houtput : PastTurn.output? {} ⟨new, shouting⟩ = some shout := by decide +kernel
  have hnamed : Topic.IsNamed shout.module := by decide +kernel
  have hplace : (new.runTurn {} shouting).2.arbiter.place.topic = "ROOT_ΟΔΟΣ" := by decide +kernel
  have hremote : shouting.remote = false := rfl
  have hsave : .saveMarkup ∉ accepted shouting.commands := List.not_mem_nil
  rcases topics_agree hremote hsave houtput hnamed with ⟨topic, -, -, -, hstored⟩ | ⟨hnone, -⟩
  · refine ⟨houtput, hnamed, hplace, hstored, ?_⟩
    rw [hstored, hplace]
    decide +kernel
  · exact absurd hnone (by decide +kernel)

/-! ### Over a whole conversation -/

/-- A turn that tells both **the same**: it has no output, or it is finished here with an output
whose module is named, and does not save the markup. -/
inductive PastTurn.TellsBoth (setup : Setup) (turn : PastTurn) : Prop where
  | nothing (h : turn.output? setup = none)
  | named {output : Output} (hremote : turn.script.remote = false)
      (hsave : .saveMarkup ∉ accepted turn.script.commands)
      (houtput : turn.output? setup = some output) (hnamed : Topic.IsNamed output.module)

theorem topic_runTurn (h : PastTurn.TellsBoth setup ⟨s, script⟩)
    (hs : s.tracker.storedTopic = Text.lower s.arbiter.place.topic) :
    (s.runTurn setup script).2.tracker.storedTopic =
      Text.lower (s.runTurn setup script).2.arbiter.place.topic := by
  cases h with
  | nothing h =>
    rw [(stays_runTurn (Or.inr h)).1, ← leads_eq_place_runTurn, PastTurn.leads, h]
    exact hs
  | @named output hremote hsave houtput hnamed =>
    rw [storedTopic_runTurn hremote hsave houtput, topic_place_runTurn houtput hnamed.ne_empty,
      trackerTopic?_of_named hsave hnamed]
    cases arbiterTopic? output with
    | none => exact hs
    | some topic => rfl

/-- **They go on agreeing** over a whole conversation in which every turn tells both the same. -/
theorem topic_of_past {past : List PastTurn} (h : Past setup past s)
    (hturns : ∀ turn ∈ past, turn.TellsBoth setup) :
    s.tracker.storedTopic = Text.lower s.arbiter.place.topic := by
  induction h with
  | new => rfl
  | @turn past s script _ ih =>
    exact topic_runTurn (hturns ⟨s, script⟩ (by simp))
      (ih fun turn hturn => hturns turn (List.mem_append_left _ hturn))
  | @conversation past s conversation _ ih =>
    rw [setConversation, Arbiter.phaseChanged]
    split <;> exact ih hturns
  | @event past s _ ih =>
    have hkept : s.takeEvent.2.tracker.storedTopic = s.tracker.storedTopic := by
      change s.tracker.takeEvent.2.storedTopic = _
      rw [Tracker.takeEvent]
      split <;> rfl
    exact hkept.trans (ih hturns)

end Session

end Colloquy

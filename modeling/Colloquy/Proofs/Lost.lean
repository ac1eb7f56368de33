import Colloquy.Proofs.Agreement
import Colloquy.Proofs.Directives

/-!
# Where the module is lost

The first turn of a conversation leaves no module, so nothing is saved in it, and the tracker knows
it by being in no module yet. But it is in no module either when an output has named none: a line
that the engine says for itself, a command whose value is said, or an output that is written without
a module. The key of such an output is empty and becomes the module the conversation is in, as any
other would (`PastTurn.enters`). So the module is **lost** (`PastTurn.Loses`), and with it goes what
tells the first turn from the others:

* the turn that loses the module is itself a change of module, and saves the markup;
* the next turn counts as the first of the conversation, and saves nothing, whichever module it
  names (`moves_iff_of_not_restores`).

There is nothing else by which the module goes. As long as no turn loses it, the conversation is in
a module after every turn (`prevModule_ne_of_past`).
-/

namespace Colloquy

namespace Session

namespace PastTurn

variable (setup : Setup) (turn : PastTurn)

/-- A turn of the past is **finished here** with this output. -/
structure FinishedHere (output : Output) : Prop where
  here : turn.script.remote = false
  output : turn.output? setup = some output

/-- The module that a turn of the past **enters** from another one. Only a turn that is finished here
with an output enters any: that of the state change if the markup is saved, the one it comes from if
the other is only visited, and else the one that the output names. -/
def enters (module : String) : String :=
  if turn.script.remote then module
  else match turn.output? setup with
    | none => module
    | some output =>
      if .saveMarkup ∈ accepted turn.script.commands then Tracker.stateChangeModule
      else if setup.settings.tracker.isTangent (Topic.moduleKey output.module) ∧ module ≠ "" ∧
          module ≠ Tracker.stateChangeModule then module
      else Topic.moduleKey output.module

variable {setup turn} in
theorem enters_of_finishedHere {output : Output} (h : turn.FinishedHere setup output)
    (module : String) :
    turn.enters setup module =
      if .saveMarkup ∈ accepted turn.script.commands then Tracker.stateChangeModule
      else if setup.settings.tracker.isTangent (Topic.moduleKey output.module) ∧ module ≠ "" ∧
          module ≠ Tracker.stateChangeModule then module
      else Topic.moduleKey output.module := by
  rw [enters, h.here, h.output]
  rfl

/-- A turn **names** a module. -/
def Names : Prop := ∃ output, turn.FinishedHere setup output ∧ Topic.moduleKey output.module ≠ ""

/-- A turn **loses** the module: it does not name any, does not save the markup, and no module is not
one that is only visited. -/
def Loses : Prop :=
  ∃ output, turn.FinishedHere setup output ∧ Topic.moduleKey output.module = "" ∧
    .saveMarkup ∉ accepted turn.script.commands ∧
    (setup.settings.tracker.isTangent "" = false ∨
      turn.session.tracker.prevModule = Tracker.stateChangeModule)

end PastTurn

variable {setup : Setup} {s : Session} {script : TurnScript} {output : Output}

/-! ### One turn -/

/-- **One turn** enters the module that the tracker keeps. -/
theorem enters_eq_prevModule :
    PastTurn.enters setup ⟨s, script⟩ s.tracker.prevModule =
      (s.runTurn setup script).2.tracker.prevModule := by
  rw [PastTurn.enters]
  cases hremote : script.remote with
  | true => exact (stays_runTurn (Or.inl hremote)).2.symm
  | false =>
    cases houtput : PastTurn.output? setup ⟨s, script⟩ with
    | none => exact (stays_runTurn (Or.inr houtput)).2.symm
    | some output =>
      obtain ⟨habort, response, hanswered⟩ := exists_answered_of_output? hremote houtput
      rw [tracker_of_finish script habort hremote, Tracker.prevModule_finish _ _ hanswered,
        Tracker.modulesOf, saveAsked_answeredDesk, (frame_answeredDesk setup s script).2]
      by_cases hsave : .saveMarkup ∈ accepted script.commands
      · simp [hsave]
      · simp [hsave, and_assoc]

/-- A turn that names a module leaves the conversation in one. -/
theorem prevModule_ne_of_names (h : PastTurn.Names setup ⟨s, script⟩) :
    (s.runTurn setup script).2.tracker.prevModule ≠ "" := by
  obtain ⟨output, hfinished, hkey⟩ := h
  rw [← enters_eq_prevModule, PastTurn.enters_of_finishedHere hfinished]
  split
  · decide
  · split
    · rename_i hvisit
      exact hvisit.2.1
    · exact hkey

/-- A turn that **loses** the module leaves the conversation in none. -/
theorem prevModule_of_loses {turn : PastTurn} (h : turn.Loses setup) :
    (turn.after setup).tracker.prevModule = "" := by
  obtain ⟨output, hfinished, hkey, hsave, hleaves⟩ := h
  rw [PastTurn.after]
  rw [← enters_eq_prevModule, PastTurn.enters_of_finishedHere hfinished, if_neg hsave, hkey]
  refine if_neg fun hvisit => ?_
  rcases hleaves with htangent | hstate
  · exact absurd hvisit.1 (by simp [htangent])
  · exact hvisit.2.2 hstate

/-- **No other turn** takes a conversation out of the module it is in. -/
theorem prevModule_ne_of_not_loses (hprev : s.tracker.prevModule ≠ "")
    (h : ¬ PastTurn.Loses setup ⟨s, script⟩) :
    (s.runTurn setup script).2.tracker.prevModule ≠ "" := by
  by_cases hsilent : script.remote = true ∨ PastTurn.output? setup ⟨s, script⟩ = none
  · rw [(stays_runTurn hsilent).2]
    exact hprev
  · rw [not_or, Bool.not_eq_true] at hsilent
    obtain ⟨output, houtput⟩ := Option.ne_none_iff_exists'.mp hsilent.2
    have hfinished : PastTurn.FinishedHere setup ⟨s, script⟩ output := ⟨hsilent.1, houtput⟩
    intro hlost
    rw [← enters_eq_prevModule, PastTurn.enters_of_finishedHere hfinished] at hlost
    split at hlost
    · exact absurd hlost (by decide)
    · rename_i hsave
      split at hlost
      · exact hprev hlost
      · -- the output names no module, and no module is not one that is visited
        rename_i hvisit
        rw [hlost] at hvisit
        refine h ⟨output, hfinished, hlost, hsave, ?_⟩
        by_contra hstays
        rw [not_or, Bool.not_eq_false] at hstays
        exact hvisit ⟨hstays.1, hprev, hstays.2⟩

/-- **What counts as a change of module**, in a turn that is finished here with an output and restores
nothing: the slot moves if the conversation was in a module that is not the state change, and is in
another one now that is not only visited. -/
theorem moves_iff_of_not_restores (hfinished : PastTurn.FinishedHere setup ⟨s, script⟩ output)
    (hrestores : ¬ script.Restores) :
    s.Moves setup script ↔
      s.tracker.prevModule ≠ "" ∧ s.tracker.prevModule ≠ Tracker.stateChangeModule ∧
        (s.runTurn setup script).2.tracker.prevModule ≠ s.tracker.prevModule ∧
        setup.settings.tracker.isTangent (s.runTurn setup script).2.tracker.prevModule = false := by
  obtain ⟨hremote, houtput⟩ := hfinished
  obtain ⟨habort, response, hanswered⟩ := exists_answered_of_output? hremote houtput
  have hmodule := Tracker.prevModule_finish setup.settings.tracker
    (s.answeredDesk setup script).tracker hanswered
  rw [← tracker_of_finish script habort hremote] at hmodule
  rw [moves_iff_course habort hanswered, courseTaken, if_neg (Bool.eq_false_iff.mp hremote),
    Tracker.course, ← hmodule, Tracker.courseInto, restoreAsked_answeredDesk,
    (frame_answeredDesk setup s script).2]
  by_cases hsame : s.tracker.prevModule = (s.runTurn setup script).2.tracker.prevModule
  · simp [← hsame, hrestores]
  · rw [if_neg hsame]
    simp [hrestores, Ne.symm hsame]

/-! ### Over a whole conversation -/

theorem prevModule_takeEvent (s : Session) :
    s.takeEvent.2.tracker.prevModule = s.tracker.prevModule := by
  change s.tracker.takeEvent.2.prevModule = _
  rw [Tracker.takeEvent]
  split <;> rfl

/-- **The module the conversation is in** is decided by the turns of the past alone. -/
theorem prevModule_of_past {past : List PastTurn} (h : Past setup past s) :
    s.tracker.prevModule = past.foldl (fun module turn => turn.enters setup module) "" := by
  induction h with
  | new => rfl
  | turn script _ ih =>
    rw [List.foldl_append, ← ih]
    exact enters_eq_prevModule.symm
  | conversation _ _ ih => exact ih
  | @event past s _ ih =>
    rw [← ih]
    exact s.prevModule_takeEvent

theorem prevModule_ne_of_past {past : List PastTurn} (h : Past setup past s)
    {before since : List PastTurn} {first : PastTurn} (hpast : past = before ++ first :: since)
    (hfirst : first.Names setup) (hloses : ∀ turn ∈ since, ¬ turn.Loses setup) :
    s.tracker.prevModule ≠ "" ∧ ∀ turn ∈ since, (turn.after setup).tracker.prevModule ≠ "" := by
  induction h generalizing since with
  | new => exact absurd hpast (by simp)
  | @turn past s script _ ih =>
    rcases List.eq_nil_or_concat since with rfl | ⟨earlier, last, rfl⟩
    · -- this is the turn that names the module
      obtain ⟨-, hlast⟩ := List.append_inj' hpast rfl
      rw [← List.head_eq_of_cons_eq hlast] at hfirst
      exact ⟨prevModule_ne_of_names hfirst, by simp⟩
    · rw [List.concat_eq_append] at hpast hloses ⊢
      have hsplit : past ++ [⟨s, script⟩] = (before ++ first :: earlier) ++ [last] := by
        simpa using hpast
      obtain ⟨hbefore, hlast⟩ := List.append_inj' hsplit rfl
      rw [← List.head_eq_of_cons_eq hlast] at hloses ⊢
      obtain ⟨hnow, hearlier⟩ := ih hbefore fun turn hturn =>
        hloses turn (List.mem_append_left _ hturn)
      have hthen := prevModule_ne_of_not_loses hnow (hloses ⟨s, script⟩ (by simp))
      refine ⟨hthen, fun turn hturn => ?_⟩
      rcases List.mem_append.mp hturn with hturn | hturn
      · exact hearlier turn hturn
      · rw [List.mem_singleton.mp hturn]
        exact hthen
  | conversation _ _ ih => exact ih hpast hloses
  | @event past s _ ih =>
    have hkept : s.takeEvent.2.tracker.prevModule = s.tracker.prevModule := s.prevModule_takeEvent
    rw [hkept]
    exact ih hpast hloses

/-- **Whether the module is kept.** Once a turn of a past has named a module, the conversation is in
one after every later turn exactly if none of them loses it. A turn that loses it counts as a change
of module, so that its markup is saved, and one that begins in no module does not, so that nothing
is saved in it, whichever module it names. Both are told for turns in which nothing is restored; the
state change is left without saving anyway. -/
theorem module_kept_iff {past : List PastTurn} (h : Past setup past s)
    {before since : List PastTurn} {first : PastTurn} (hpast : past = before ++ first :: since)
    (hfirst : first.Names setup) :
    ((∀ turn ∈ since, (turn.after setup).tracker.prevModule ≠ "") ↔
        ∀ turn ∈ since, ¬ turn.Loses setup) ∧
      (∀ turn ∈ since, turn.Loses setup → ¬ turn.script.Restores →
        turn.session.tracker.prevModule ≠ "" →
        turn.session.tracker.prevModule ≠ Tracker.stateChangeModule →
        turn.session.Moves setup turn.script) ∧
      ∀ turn ∈ since, ∀ output, turn.FinishedHere setup output → ¬ turn.script.Restores →
        turn.session.tracker.prevModule = "" → ¬ turn.session.Moves setup turn.script := by
  refine ⟨⟨fun hkept turn hturn hloses => ?_, fun hloses => ?_⟩, ?_, ?_⟩
  · exact hkept turn hturn (prevModule_of_loses hloses)
  · exact (prevModule_ne_of_past h hpast hfirst hloses).2
  · intro turn _ hloses hrestores hprev hstate
    have hlost : (turn.session.runTurn setup turn.script).2.tracker.prevModule = "" :=
      prevModule_of_loses hloses
    obtain ⟨output, hfinished, -, -, hleaves⟩ := hloses
    refine (moves_iff_of_not_restores hfinished hrestores).mpr ⟨hprev, hstate, ?_, ?_⟩
    · rw [hlost]
      exact hprev.symm
    · rw [hlost]
      exact hleaves.resolve_right hstate
  · intro turn _ output hfinished hrestores hprev hmoves
    exact ((moves_iff_of_not_restores hfinished hrestores).mp hmoves).1 hprev

/-- A conversation begins in a module. -/
def hello : TurnScript := telling (.speech "hi") "Hello!" "root" "~root_intro"

/-- Something is not understood, and the engine has a line in stock for it. -/
def blorp : TurnScript := .handling (.speech "blorp")

/-- The conversation goes elsewhere. -/
def play : TurnScript := telling (.speech "play") "Let us play." "side" "~side_game"

/-- A conversation that has begun. -/
def begun : Session := (new.runTurn {} hello).2

/-- A conversation that has lost its module. -/
def strayed : Session := (begun.runTurn {} blorp).2

theorem past_strayed : Past {} [⟨new, hello⟩, ⟨begun, blorp⟩] strayed := (Past.new.turn _).turn _

theorem names_hello : PastTurn.Names {} ⟨new, hello⟩ :=
  ⟨Output.inModule { response := "Hello!" } "root" ["~root_intro"], ⟨rfl, by decide +kernel⟩,
    by decide +kernel⟩

theorem loses_blorp : PastTurn.Loses {} ⟨begun, blorp⟩ := by
  have hfinished : PastTurn.FinishedHere {} ⟨begun, blorp⟩
      { response := Markup.save (some .one) ++ StockLine.fallbackRepeat.text, kind := .fallback } :=
    ⟨rfl, by decide +kernel⟩
  exact ⟨_, hfinished, by decide +kernel, by decide +kernel, Or.inl (by decide +kernel)⟩

/-- The line that the engine has in stock loses the module. The slot moves with it, and does not move
when the conversation goes from one module to another. -/
theorem module_kept_iff_blorp :
    (∃ s, Past {} [⟨new, hello⟩, ⟨begun, blorp⟩, ⟨strayed, play⟩] s) ∧
      PastTurn.Names {} ⟨new, hello⟩ ∧
      ¬ (∀ turn ∈ [⟨begun, blorp⟩, ⟨strayed, play⟩],
        (PastTurn.after {} turn).tracker.prevModule ≠ "") ∧
      begun.Moves {} blorp ∧ ¬ strayed.Moves {} play := by
  have hpast : Past {} [⟨new, hello⟩, ⟨begun, blorp⟩, ⟨strayed, play⟩] _ := past_strayed.turn play
  have hplay : PastTurn.FinishedHere {} ⟨strayed, play⟩
      (Output.inModule { response := "Let us play." } "side" ["~side_game"]) :=
    ⟨rfl, by decide +kernel⟩
  obtain ⟨hkept, hchange, hbegins⟩ := module_kept_iff hpast (List.nil_append _).symm names_hello
  have hmoves := hchange ⟨begun, blorp⟩ List.mem_cons_self loses_blorp
    (by decide +kernel) (by decide +kernel) (by decide +kernel)
  have hstays := hbegins ⟨strayed, play⟩
    (List.mem_cons_of_mem _ List.mem_cons_self) _ hplay (by decide +kernel) (by decide +kernel)
  dsimp only at hmoves hstays
  refine ⟨⟨_, hpast⟩, names_hello, fun hall => ?_, hmoves, hstays⟩
  exact hkept.mp hall ⟨begun, blorp⟩ List.mem_cons_self loses_blorp

/-- The module is **not always kept**: a line that the engine has in stock loses it. -/
theorem not_forall_module_kept :
    ¬ ∀ (setup : Setup) (past before since : List PastTurn) (first : PastTurn) (s : Session),
      Past setup past s → past = before ++ first :: since → first.Names setup →
      ∀ turn ∈ since, (turn.after setup).tracker.prevModule ≠ "" := by
  intro h
  exact h {} _ [] _ _ _ past_strayed (List.nil_append _).symm names_hello ⟨begun, blorp⟩
    List.mem_cons_self (prevModule_of_loses loses_blorp)

end Session

end Colloquy

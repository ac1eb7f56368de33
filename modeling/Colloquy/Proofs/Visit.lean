import Colloquy.Proofs.Slot

/-!
# Modules that are only visited

Some modules are looked in on and left again: a joke, something picked up, a greeting. The
conversation has not gone away for it, and what it had saved of the playback is still to be restored
when it goes on. So a **visit** (`Round.IsVisit`) leaves both the module and the slot where they
were, however long it lasts and through however many such modules it leads.

There are two ways in which a visit could move the slot. It could be taken for a change of module,
which would save; but the module that is visited stands for the one the conversation was in
(`modulesOf_of_tangent`). And markup can be restored in it; but a restoring where nothing has been
left collapses, and the slot goes back (`courseInto_prevModule`). An aborted turn is a visit too,
whatever was asked in it.

Two modules cannot be visited from. Before the first turn there is none to come back to, and the
state change has saved the markup for the turn that ends it.
-/

namespace Colloquy

namespace Tracker

variable {settings : TrackerSettings} {t : Tracker} {output : Output}

/-! ### Where a visit leads -/

/-- A module that is **only visited** stands for the one the conversation was in. -/
theorem modulesOf_of_tangent (hsave : t.saveAsked = false)
    (hmodule : settings.isTangent (Topic.moduleKey output.module) = true)
    (hprev : t.prevModule ≠ "") (hstate : t.prevModule ≠ stateChangeModule) :
    (t.modulesOf settings output).2 = t.prevModule := by
  simp [modulesOf, hsave, hmodule, hprev, hstate]

/-- Where the module stays, nothing is saved, and what is restored **collapses**. -/
theorem courseInto_prevModule (settings : TrackerSettings) (t : Tracker) :
    t.courseInto settings t.prevModule = if t.restoreAsked then .collapsed else .plain :=
  if_pos rfl

/-- The module of the conversation after a turn is the one that its output leads into. -/
theorem prevModule_finish (settings : TrackerSettings) (t : Tracker) {turn : Turn}
    (h : turn.output = some output) :
    (t.finish settings turn).1.prevModule = (t.modulesOf settings output).2 := by
  obtain ⟨_, hcached, -⟩ := cached_frame (t.ended settings turn output)
    ((t.course settings output).prompt t.slot (t.body settings turn output)) t.promptTopic
  rw [t.finish_of_some settings h, hcached]
  rfl

/-! ### One visit -/

namespace Round

/-- A round is a **visit** if it is aborted, or if it ends with an output in a module that is only
visited and markup has not been saved in it. -/
inductive IsVisit (settings : TrackerSettings) (round : Round) : Prop where
  | aborted (hending : round.ending = .aborted)
  | finished {turn : Turn} {output : Output} (hending : round.ending = .finished turn)
      (houtput : turn.output = some output)
      (hmodule : settings.isTangent (Topic.moduleKey output.module) = true)
      (hsave : .saveMarkup ∉ round.commands)

variable {round : Round}

theorem prevModule_asked (t : Tracker) (round : Round) :
    (round.asked t).prevModule = t.prevModule :=
  (Command.foldl_onTracker_frame t.start round.commands).2.2.1

section FromModule

variable (hprev : t.prevModule ≠ "") (hstate : t.prevModule ≠ stateChangeModule)
include hprev hstate

/-- A visit leads back to where the conversation was. -/
theorem modulesOf_asked_of_visit
    (hmodule : settings.isTangent (Topic.moduleKey output.module) = true)
    (hsave : .saveMarkup ∉ round.commands) :
    ((round.asked t).modulesOf settings output).2 = (round.asked t).prevModule := by
  have hasked : (round.asked t).saveAsked = false := by
    rw [asked, (Command.foldl_onTracker_asked _ _).1]
    simp [start, hsave]
  rw [← round.prevModule_asked t] at hprev hstate
  exact modulesOf_of_tangent hasked hmodule hprev hstate

/-- **A visit** leaves the module, names no slot in a save directive, and does not move the slot:
nothing is saved in it, and no restoring is kept. -/
theorem run_of_visit (h : round.IsVisit settings) :
    (round.run settings t).prevModule = t.prevModule ∧
      round.saved? settings t = none ∧ round.moves settings t = 0 := by
  cases h with
  | aborted hending =>
    refine ⟨?_, by simp [saved?, hending], by simp [moves, saved?, keeps, hending]⟩
    rw [run, hending]
    exact round.prevModule_asked t
  | @finished turn output hending houtput hmodule hsave =>
    have hback := modulesOf_asked_of_visit hprev hstate hmodule hsave
    have hcourse : (round.asked t).course settings output =
        if .restoreMarkup ∈ round.commands then .collapsed else .plain := by
      rw [course, hback, courseInto_prevModule, round.restoreAsked_asked]
      simp
    have hsaved : round.saved? settings t = none := by
      rw [saved?_of_finished hending houtput, hcourse]
      split <;> simp [Course.said]
    refine ⟨?_, hsaved, ?_⟩
    · rw [run, hending]
      dsimp only
      rw [(round.asked t).prevModule_finish settings houtput, hback]
      exact round.prevModule_asked t
    · -- either nothing is restored, or the round collapses
      by_cases hrestore : .restoreMarkup ∈ round.commands <;>
        simp [moves, hsaved, keeps, collapses, hending, houtput, hcourse, hrestore]

theorem slot_run_of_visit (h : round.IsVisit settings) :
    (round.run settings t).slot = t.slot := by
  have hslot := round.slot_run settings t
  rw [(run_of_visit hprev hstate h).2.2, Nat.add_zero, Slot.index_mod_two] at hslot
  exact Slot.eq_of_index hslot

end FromModule

end Round

/-! ### Visit after visit -/

/-- However many visits there are, the conversation is where it was, and so is the slot. -/
theorem after_of_visits (hprev : t.prevModule ≠ "") (hstate : t.prevModule ≠ stateChangeModule)
    {rounds : List Round} (hvisits : ∀ round ∈ rounds, round.IsVisit settings) :
    (t.after settings rounds).prevModule = t.prevModule ∧
      (t.after settings rounds).slot = t.slot := by
  induction rounds generalizing t with
  | nil => exact ⟨rfl, rfl⟩
  | cons round rest ih =>
    have hvisit := hvisits round List.mem_cons_self
    have hmodule := (Round.run_of_visit hprev hstate hvisit).1
    obtain ⟨hmodule', hslot'⟩ := ih (t := round.run settings t) (by rwa [hmodule])
      (by rwa [hmodule]) fun other hother => hvisits other (List.mem_cons_of_mem _ hother)
    exact ⟨hmodule'.trans hmodule,
      hslot'.trans (Round.slot_run_of_visit hprev hstate hvisit)⟩

/-- **Visits leave no trace.** Wherever a conversation visits from, after each of its visits it is
in the module it was in, and in the same slot; and in none of them a save directive that names a
slot is put before what is said. -/
theorem visits_leave_no_trace (hprev : t.prevModule ≠ "")
    (hstate : t.prevModule ≠ stateChangeModule) {rounds : List Round}
    (hvisits : ∀ round ∈ rounds, round.IsVisit settings)
    {before later : List Round} {round : Round} (hrounds : rounds = before ++ round :: later) :
    (t.after settings (before ++ [round])).prevModule = t.prevModule ∧
      (t.after settings (before ++ [round])).slot = t.slot ∧
      round.saved? settings (t.after settings before) = none := by
  subst hrounds
  have hbefore : ∀ other ∈ before, other.IsVisit settings := fun other hother =>
    hvisits other (List.mem_append_left _ hother)
  have hvisit : round.IsVisit settings := hvisits round (by simp)
  have hthen : ∀ other ∈ before ++ [round], other.IsVisit settings := by
    rintro other hother
    rcases List.mem_append.mp hother with hother | hother
    · exact hbefore other hother
    · rw [List.mem_singleton.mp hother]
      exact hvisit
  obtain ⟨hmodule, hslot⟩ := after_of_visits hprev hstate hthen
  have hthere := (after_of_visits hprev hstate hbefore).1
  exact ⟨hmodule, hslot, (Round.run_of_visit (by rwa [hthere]) (by rwa [hthere]) hvisit).2.1⟩

/-- A joke in which markup is restored, an aborted turn that asked for everything, and a greeting
with a replay in it: the conversation is still where it had saved its markup. -/
theorem visits_leave_no_trace_between :
    let t := after {} {} [Round.telling "root" [], Round.telling "side" []]
    let joke := Round.telling "gt" [.restoreMarkup]
    let dropped : Round := { commands := [.saveMarkup, .restoreMarkup], ending := .aborted }
    let greeting := Round.telling "~Wakeup "
      [.sendReprompt none, .overrideWithReprompt, .restoreMarkup, .restoreMarkup]
    t.prevModule = "side" ∧ t.slot = .one ∧
      (∀ round ∈ [joke, dropped, greeting], round.IsVisit {}) ∧
      (t.after {} [joke, dropped, greeting]).prevModule = "side" ∧
      (t.after {} [joke, dropped, greeting]).slot = .one ∧
      greeting.saved? {} (t.after {} [joke, dropped]) = none := by
  intro t joke dropped greeting
  have hside : t.prevModule = "side" := by decide +kernel
  have hslot : t.slot = .one := by decide +kernel
  have hvisits : ∀ round ∈ [joke, dropped, greeting], round.IsVisit {} := by
    simp only [List.mem_cons, List.not_mem_nil, or_false, forall_eq_or_imp, forall_eq]
    exact ⟨.finished rfl rfl (by decide +kernel) (by decide), .aborted rfl,
      .finished rfl rfl (by decide +kernel) (by decide)⟩
  have hlast : [joke, dropped, greeting] = [joke, dropped] ++ greeting :: [] := rfl
  obtain ⟨hmodule, hstays, hsaved⟩ := visits_leave_no_trace (t := t) (by rw [hside]; decide)
    (by rw [hside]; decide) hvisits hlast
  exact ⟨hside, hslot, hvisits, hmodule.trans hside, hstays.trans hslot, hsaved⟩

end Tracker

end Colloquy

import Colloquy.Proofs.Command
import Colloquy.Proofs.Finish
import Colloquy.Proofs.Tags

/-!
# Saving and restoring go together

A tracker goes through **rounds**, one for each turn: it is started, commands reach it, and the turn
is finished, or aborted, or accepted from the remote engine. Its slot has no history of its own, as
it only ever goes over to the other one. Still it can be read off what has been said: a save
directive that names a slot moves it, and so does a restoring that is **kept**, where the turn is
neither aborted nor found to have been no visit at all (`slot_run`).

So the two directives go together. When as many saves as kept restorings lie between a save and a
restoring, they have moved the slot back to where the save had put it, and that slot is the one that
is restored.
-/

namespace Colloquy

namespace Slot

/-- The number of the other slot. -/
theorem index_toggled (slot : Slot) : slot.toggled.index = (slot.index + 1) % 2 := by
  cases slot <;> rfl

theorem index_mod_two (slot : Slot) : slot.index % 2 = slot.index := by cases slot <;> rfl

theorem eq_of_index {slot other : Slot} (h : slot.index = other.index) : slot = other := by
  cases slot <;> cases other <;> first | rfl | cases h

end Slot

/-! ### Which directive has been put before a text -/

namespace Markup

/-- The slot whose save directive has been put before a text. -/
def savedBefore? (body said : String) : Option Slot :=
  if said = save (some .zero) ++ body then some .zero
  else if said = save (some .one) ++ body then some .one
  else none

theorem ne_save_append (slot : Option Slot) (s : String) : s ≠ save slot ++ s := by
  intro heq
  have hlength := congrArg (fun s : String => s.toList.length) heq
  simp only [String.toList_append, List.length_append] at hlength
  have hpos : 0 < (save slot).toList.length := by
    unfold save
    simp [String.toList_append]
  omega

@[simp] theorem savedBefore?_save_append (slot : Slot) (body : String) :
    savedBefore? body (save slot ++ body) = some slot := by
  cases slot with
  | zero => exact if_pos rfl
  | one => exact (if_neg fun h => by cases eq_of_save_append h).trans (if_pos rfl)

@[simp] theorem savedBefore?_save_none_append (body s : String) :
    savedBefore? body (save none ++ s) = none :=
  (if_neg fun h => by cases eq_of_save_append h).trans
    (if_neg fun h => by cases eq_of_save_append h)

@[simp] theorem savedBefore?_self (body : String) : savedBefore? body body = none :=
  (if_neg (ne_save_append _ _)).trans (if_neg (ne_save_append _ _))

end Markup

/-! ### Commands and the slot -/

namespace Command

/-- Only restoring moves the slot. -/
theorem onTracker_of_ne_restore {command : Command} (h : command ≠ .restoreMarkup) (t : Tracker) :
    (command.onTracker t).restoreAsked = t.restoreAsked ∧ (command.onTracker t).slot = t.slot := by
  cases command with
  | restoreMarkup => exact absurd rfl h
  | sendReprompt wish =>
    obtain ⟨_, _, _, _, hreplay⟩ := t.replay_frame wish
    rw [onTracker, hreplay]
    exact ⟨rfl, rfl⟩
  | _ => exact ⟨rfl, rfl⟩

/-- The slot goes over to the other one in the first restoring of a turn, and in no later one. -/
theorem foldl_onTracker_slot (t : Tracker) (commands : List Command) :
    (commands.foldl onTracker t).restoreAsked =
        (t.restoreAsked || decide (.restoreMarkup ∈ commands)) ∧
      (commands.foldl onTracker t).slot =
        if t.restoreAsked = false ∧ .restoreMarkup ∈ commands then t.slot.toggled else t.slot := by
  induction commands generalizing t with
  | nil => simp
  | cons command rest ih =>
    obtain ⟨hasked, hslot⟩ := ih (command.onTracker t)
    rw [List.foldl_cons, hasked, hslot]
    by_cases h : command = .restoreMarkup
    · subst h
      cases ha : t.restoreAsked <;> simp [onTracker, Tracker.restore, ha]
    · obtain ⟨hasked', hslot'⟩ := onTracker_of_ne_restore h t
      rw [hasked', hslot']
      simp [Ne.symm h]

end Command

/-! ### Rounds -/

namespace Tracker

/-- How a round of a tracker **ends**. -/
inductive Ending where
  | finished (turn : Turn)
  | aborted
  | accepted (turn : Turn)
deriving DecidableEq

/-- A **round** of a tracker: the commands that reach it in a turn, and how the turn ends. -/
structure Round where
  commands : List Command := []
  ending : Ending
deriving DecidableEq

namespace Round

variable (settings : TrackerSettings) (t : Tracker) (round : Round)

/-- The tracker when the commands of the round have reached it. -/
def asked : Tracker := round.commands.foldl Command.onTracker t.start

/-- The tracker **after** the round. -/
def run : Tracker :=
  match round.ending with
  | .finished turn => ((round.asked t).finish settings turn).1
  | .aborted => (round.asked t).abort
  | .accepted turn => (round.asked t).finishRemote settings turn

/-- The slot that a save directive **names** in front of what is said in the round. -/
def saved? : Option Slot :=
  match round.ending with
  | .finished turn => do
    let output ← turn.output
    let said ← ((round.asked t).finish settings turn).2.response?
    Markup.savedBefore? ((round.asked t).body settings turn output) said
  | _ => none

/-- Whether the round **collapses**: it turns out to have been no visit at all. -/
def collapses : Bool :=
  match round.ending with
  | .finished turn =>
    turn.output.any fun output => (round.asked t).course settings output = .collapsed
  | _ => false

/-- Whether markup is restored in the round and the restoring is **kept**. -/
def keeps : Bool :=
  decide (.restoreMarkup ∈ round.commands) && round.ending ≠ .aborted && !round.collapses settings t

theorem restoreAsked_asked :
    (round.asked t).restoreAsked = decide (.restoreMarkup ∈ round.commands) := by
  rw [asked, (Command.foldl_onTracker_slot _ _).1]
  rfl

theorem slot_asked :
    (round.asked t).slot =
      if .restoreMarkup ∈ round.commands then t.slot.toggled else t.slot := by
  rw [asked, (Command.foldl_onTracker_slot _ _).2]
  simp [start]

variable {settings t round} {turn : Turn} {output : Output}

theorem saved?_of_finished (hending : round.ending = .finished turn)
    (houtput : turn.output = some output) :
    round.saved? settings t =
      Markup.savedBefore? ((round.asked t).body settings turn output)
        (((round.asked t).course settings output).said (round.asked t).slot
          ((round.asked t).body settings turn output)) := by
  rw [saved?, hending]
  simp only [houtput, (round.asked t).response_finish settings houtput, Option.bind_eq_bind,
    Option.bind_some]

/-- What a **collapsed** round says: both directives in it name no slot. -/
theorem said_of_collapses (hending : round.ending = .finished turn)
    (h : round.collapses settings t = true) :
    ((round.asked t).finish settings turn).2.response? =
      turn.output.map fun output =>
        Markup.save none ++ Text.replaceAll (Markup.restore (round.run settings t).slot)
          (Markup.restore none) ((round.asked t).body settings turn output) := by
  simp only [collapses, hending, Option.any_eq_true, decide_eq_true_eq] at h
  obtain ⟨output, houtput, hcourse⟩ := h
  rw [(round.asked t).response_finish settings houtput, run, hending, houtput]
  dsimp only
  rw [(round.asked t).slot_finish settings houtput, hcourse]
  rfl

end Round

variable (settings : TrackerSettings)

/-- A visit that was none has restored markup, and a module that is left so that its state is saved
has not. -/
theorem restoreAsked_of_course (t : Tracker) (output : Output) :
    (t.course settings output = .collapsed → t.restoreAsked = true) ∧
      (t.course settings output = .saved → t.restoreAsked = false) := by
  rw [course, courseInto]
  by_cases hmodule : t.prevModule = (t.modulesOf settings output).2
  · rw [if_pos hmodule]
    cases t.restoreAsked <;> simp
  · rw [if_neg hmodule]
    cases t.restoreAsked with
    | false =>
      refine ⟨fun h => ?_, fun _ => rfl⟩
      split at h <;> cases h
    | true => simp

namespace Round

variable (t : Tracker) (round : Round)

/-- What the **saves** and the kept restorings of a round move the slot by. -/
def moves : Nat := (round.saved? settings t).isSome.toNat + (round.keeps settings t).toNat

/-- An aborted round leaves the slot where it was. -/
theorem slot_run_of_aborted (hending : round.ending = .aborted) :
    (round.run settings t).slot = t.slot := by
  rw [run, hending]
  exact (Command.foldl_onTracker_frame t.start round.commands).2.2.2.2

/-- Without an output, or with one of the remote engine, only restoring moves the slot. -/
theorem slot_run_of_silent {turn : Turn}
    (hending : round.ending = .finished turn ∧ turn.output = none ∨ round.ending = .accepted turn) :
    (round.run settings t).slot = (round.asked t).slot := by
  rw [run]
  rcases hending with ⟨hending, houtput⟩ | hending
  · obtain ⟨_, _, hsettle⟩ := (round.asked t).settleInterruption_frame settings turn.input
    rw [hending]
    dsimp only
    rw [(round.asked t).finish_of_none settings houtput, hsettle]
  · rw [hending]
    exact (round.asked t).slot_finishRemote settings turn

/-- **A round moves the slot** once for a save directive that names one, and once for a restoring
that is kept. -/
theorem slot_run :
    (round.run settings t).slot.index = (t.slot.index + round.moves settings t) % 2 := by
  have hslot := round.slot_asked t
  cases hending : round.ending with
  | aborted =>
    -- whatever was restored is taken back
    rw [round.slot_run_of_aborted settings t hending]
    simp [moves, saved?, keeps, hending, Slot.index_mod_two]
  | accepted turn =>
    rw [round.slot_run_of_silent settings t (Or.inr hending), hslot]
    by_cases hrestore : .restoreMarkup ∈ round.commands <;>
      simp [moves, saved?, keeps, collapses, hending, hrestore, Slot.index_toggled,
        Slot.index_mod_two]
  | finished turn =>
    cases houtput : turn.output with
    | none =>
      rw [round.slot_run_of_silent settings t (Or.inl ⟨hending, houtput⟩), hslot]
      by_cases hrestore : .restoreMarkup ∈ round.commands <;>
        simp [moves, saved?, keeps, collapses, hending, houtput, hrestore, Slot.index_toggled,
          Slot.index_mod_two]
    | some output =>
      obtain ⟨hcollapsed, hsaved⟩ := restoreAsked_of_course settings (round.asked t) output
      rw [round.restoreAsked_asked] at hcollapsed hsaved
      have hrun : (round.run settings t).slot =
          ((round.asked t).course settings output).slot (round.asked t).slot := by
        rw [run, hending]
        exact (round.asked t).slot_finish settings houtput
      -- the course tells both what is said in front of the body and where the slot goes
      rw [hrun, moves, saved?_of_finished hending houtput, keeps, collapses, hending, hslot]
      cases hcourse : (round.asked t).course settings output with
      | collapsed =>
        -- the restoring of this round is taken back
        have hrestore := of_decide_eq_true (hcollapsed hcourse)
        simp [Course.slot, Course.said, houtput, hcourse, hrestore, Slot.index_mod_two]
      | plain =>
        by_cases hrestore : .restoreMarkup ∈ round.commands <;>
          simp [Course.slot, Course.said, houtput, hcourse, hrestore, Slot.index_toggled,
            Slot.index_mod_two]
      | saved =>
        have hrestore := of_decide_eq_false (hsaved hcourse)
        simp [Course.slot, Course.said, hrestore, Slot.index_toggled]

/-- The slot that a save directive names is the one the tracker is in after the round. -/
theorem slot_run_of_saved {slot : Slot} (h : round.saved? settings t = some slot) :
    (round.run settings t).slot = slot := by
  cases hending : round.ending with
  | aborted | accepted => simp [saved?, hending] at h
  | finished turn =>
    cases houtput : turn.output with
    | none => simp [saved?, hending, houtput] at h
    | some output =>
      rw [saved?_of_finished hending houtput] at h
      rw [run, hending]
      dsimp only
      rw [(round.asked t).slot_finish settings houtput]
      cases hcourse : (round.asked t).course settings output <;>
        simp_all [Course.slot, Course.said]

end Round

/-! ### All rounds -/

/-- The tracker **after** rounds. -/
def after (t : Tracker) (rounds : List Round) : Tracker :=
  rounds.foldl (fun t round => round.run settings t) t

/-- The number of rounds with a property that depends on the tracker before the round. -/
def count (p : Tracker → Round → Bool) (t : Tracker) : List Round → Nat
  | [] => 0
  | round :: rest => (p t round).toNat + count p (round.run settings t) rest

/-- The number of **save directives** in these rounds that name a slot. -/
def saves (t : Tracker) (rounds : List Round) : Nat :=
  count settings (fun t round => (round.saved? settings t).isSome) t rounds

/-- The number of restorings in these rounds that are **kept**. -/
def keeps (t : Tracker) (rounds : List Round) : Nat :=
  count settings (fun t round => round.keeps settings t) t rounds

/-- **Rounds move the slot** once for each save directive that names one, and once for each restoring
that is kept. -/
theorem slot_after (t : Tracker) (rounds : List Round) :
    (t.after settings rounds).slot.index =
      (t.slot.index + t.saves settings rounds + t.keeps settings rounds) % 2 := by
  induction rounds generalizing t with
  | nil => simp [after, saves, keeps, count, Slot.index_mod_two]
  | cons round rest ih =>
    have hstep := round.slot_run settings t
    have hrest := ih (round.run settings t)
    simp only [Round.moves] at hstep
    simp only [after, saves, keeps, List.foldl_cons, count] at hrest ⊢
    omega

/-- In the middle of a round a restoring has moved the slot already. -/
theorem slot_commands (t : Tracker) (commands : List Command) :
    (commands.foldl Command.onTracker t.start).slot.index =
      (t.slot.index + (decide (.restoreMarkup ∈ commands)).toNat) % 2 := by
  rw [(Command.foldl_onTracker_slot t.start commands).2]
  by_cases h : .restoreMarkup ∈ commands <;>
    simp [start, h, Slot.index_toggled, Slot.index_mod_two]

/-- **Saving and restoring go together.** After any rounds, and in the middle of a further one, the
number of the slot is the number of the saves and of the kept restorings so far, modulo two. So if
as many saves as kept restorings lie between a save and the first restoring of a later round, this
restoring says the directive of the slot that was saved. -/
theorem slot_discipline (rounds : List Round) :
    (after settings {} rounds).slot.index =
        (saves settings {} rounds + keeps settings {} rounds) % 2 ∧
      (∀ commands : List Command,
        (commands.foldl Command.onTracker (after settings {} rounds).start).slot.index =
          (saves settings {} rounds + keeps settings {} rounds +
            (decide (.restoreMarkup ∈ commands)).toNat) % 2) ∧
      ∀ (before : List Round) (saving : Round) (between : List Round) (slot : Slot)
        (commands : List Command),
        rounds = before ++ saving :: between →
        saving.saved? settings (after settings {} before) = some slot →
        saves settings (after settings {} (before ++ [saving])) between =
          keeps settings (after settings {} (before ++ [saving])) between →
        .restoreMarkup ∉ commands →
        (commands.foldl Command.onTracker (after settings {} rounds).start).restore.1 =
          Markup.restore slot := by
  have hzero : ({} : Tracker).slot.index = 0 := rfl
  have hslot := slot_after settings {} rounds
  rw [hzero, Nat.zero_add] at hslot
  refine ⟨hslot, fun commands => ?_, ?_⟩
  · have hcommands := slot_commands (after settings {} rounds) commands
    rw [hslot] at hcommands
    omega
  · rintro before saving between slot commands rfl hsaved hbalanced hcommands
    -- the save has left the slot that it names, and what lies between has moved it back there
    have hsaving : (after settings {} (before ++ [saving])).slot = slot := by
      rw [after, List.foldl_append]
      exact saving.slot_run_of_saved settings _ hsaved
    have hsplit : after settings {} (before ++ saving :: between) =
        (after settings {} (before ++ [saving])).after settings between := by
      simp [after]
    have hbetween := slot_after settings (after settings {} (before ++ [saving])) between
    have heq : (after settings {} (before ++ saving :: between)).slot = slot := by
      refine Slot.eq_of_index ?_
      rw [hsplit, hbetween, hsaving, hbalanced, ← Slot.index_mod_two slot]
      omega
    obtain ⟨hasked, hmoved⟩ := Command.foldl_onTracker_slot
      (after settings {} (before ++ saving :: between)).start commands
    rw [if_neg fun h => hcommands h.2] at hmoved
    rw [restore, hasked, hmoved]
    simp [start, hcommands, heq]

/-- The round of a turn that is finished with an output in a module. -/
def Round.telling (module : String) (commands : List Command) : Round where
  commands
  ending := .finished { input := .speech "", output := some { response := "So.", module } }

/-- From the first module to another and back, over to a third and back again: the last restoring
says the directive of the slot in which the first change of module was saved. -/
theorem restore_nested :
    let visit := [Round.telling "root" [.restoreMarkup], Round.telling "other" []]
    (([] : List Command).foldl Command.onTracker (after {} {} ([Round.telling "root" []] ++
      Round.telling "side" [] :: visit)).start).restore.1 = Markup.restore (some .one) := by
  intro visit
  exact (slot_discipline {} ([Round.telling "root" []] ++ Round.telling "side" [] :: visit)).2.2
    [Round.telling "root" []] (Round.telling "side" []) visit .one [] rfl (by decide +kernel)
    (by decide +kernel) (by decide)

end Tracker

end Colloquy

import Colloquy.Proofs.Heard
import Colloquy.Proofs.Slot

/-!
# The slot and the directives that are said

The renderer keeps the state of the playback in two places, and all it has to go by are the
directives in what it is given to say. So the tracker's slot and what is said had better stay **in
step** (`InStep`): a directive that names a slot is said exactly in the turns that move the slot, and
it is the save directive of the slot after the turn or the restore directive of the slot before it.

## Where they do not

A restoring puts its directive into the response and moves the slot in the middle of the turn. But
another text may be said in the end, one that has been said before and is **borrowed** (`Borrows`):

* the last prompt is replayed, and with it a restore directive that it may have;
* a reprompt takes the place of the response, and so of the restore directive in it.

Nothing else brings them out of step in a conversation of plain scripts. The save directives that are
said are those that ought to be (`says_save_iff`); the restore directives are the own one of the turn,
unless a reprompt stands in its place, and those that are borrowed (`says_restore_iff`).
-/

namespace Colloquy

namespace Session

variable (setup : Setup) (s : Session) (script : TurnScript)

/-! ### Being in step -/

/-- The slot **moves** in a turn. -/
def Moves : Prop := (s.runTurn setup script).2.tracker.slot ≠ s.tracker.slot

/-- A directive is **said** in a turn. -/
def Says (directive : String) : Prop :=
  ∃ response ∈ (s.runTurn setup script).1.response, Markup.Stands directive response

/-- The slot and what is said are **in step** in a turn: a directive that names a slot is said if
and only if the slot moves, and it saves in the slot after the turn or restores the one before. -/
structure InStep : Prop where
  moves_iff : (∃ slot : Slot, s.Says setup script (Markup.save slot) ∨
    s.Says setup script (Markup.restore slot)) ↔ s.Moves setup script
  save : ∀ slot : Slot, s.Says setup script (Markup.save slot) →
    slot = (s.runTurn setup script).2.tracker.slot
  restore : ∀ slot : Slot, s.Says setup script (Markup.restore slot) → slot = s.tracker.slot

/-! ### Texts that are borrowed -/

/-- The **reprompt** that takes the place of the response in a turn. -/
def reprompted? : Option Reprompt :=
  if script.remote then none
  else
    (s.answeredTurn setup script).output.bind
      ((s.answeredDesk setup script).tracker.reprompt? setup.settings.tracker
        (s.answeredTurn setup script))

/-- The text that is **borrowed** in a turn from an earlier one: that of the reprompt in place of the
response, or that of the prompt which is replayed in the response. -/
def borrowed? : Option String :=
  match s.reprompted? setup script with
  | some entry => some entry.text
  | none => (s.replayed? script).map Prompt.text

/-- A restore directive is **borrowed** in a turn. -/
def Borrows (slot : Slot) : Prop :=
  ∃ text ∈ s.borrowed? setup script, Markup.Stands (Markup.restore slot) text

/-! ### The end of a turn -/

/-- The **body** of what is said in a turn, before any directive is put in front of it. -/
def bodySaid (output : Output) : String :=
  (s.reprompted? setup script).elim output.response
    (s.answeredDesk setup script).tracker.repromptText

/-- The **course** of a turn. What the remote engine answers is said as it is. -/
def courseTaken (output : Output) : Tracker.Course :=
  if script.remote then .plain
  else (s.answeredDesk setup script).tracker.course setup.settings.tracker output

variable {setup s script}

theorem response_report (habort : script.abort = false) :
    (s.runTurn setup script).1.response =
      if script.remote then (s.answeredTurn setup script).response?
      else ((s.answeredDesk setup script).tracker.finish setup.settings.tracker
        (s.answeredTurn setup script)).2.response? := by
  rw [runTurn_eq]
  dsimp only [report, closeTurn]
  rw [habort]
  split
  · contradiction
  · split <;> rfl

/-- The slot when the commands of a turn have been answered. -/
theorem slot_answeredDesk :
    (s.answeredDesk setup script).tracker.slot =
      if script.Restores then s.tracker.slot.toggled else s.tracker.slot := by
  rw [tracker_answeredDesk, (Command.foldl_onTracker_slot _ _).2]
  by_cases h : script.Restores
  · rw [if_pos h, if_pos ⟨rfl, h⟩]
    rfl
  · rw [if_neg h, if_neg fun h' => h h'.2]
    rfl

theorem restoreAsked_answeredDesk :
    (s.answeredDesk setup script).tracker.restoreAsked = decide script.Restores := by
  rw [tracker_answeredDesk, (Command.foldl_onTracker_slot _ _).1]
  rfl

/-- **A turn with an output** says its body behind the directive of its course, and the course moves
the slot. -/
theorem runTurn_of_some (habort : script.abort = false) {output : Output}
    (houtput : (s.answeredTurn setup script).output = some output) :
    (s.runTurn setup script).1.response =
        some ((s.courseTaken setup script output).said (s.answeredDesk setup script).tracker.slot
          (s.bodySaid setup script output)) ∧
      (s.runTurn setup script).2.tracker.slot =
        (s.courseTaken setup script output).slot (s.answeredDesk setup script).tracker.slot := by
  rw [response_report habort, tracker_runTurn, habort, courseTaken, bodySaid, reprompted?]
  cases script.remote with
  | true =>
    refine ⟨?_, Tracker.slot_finishRemote _ _ _⟩
    rw [Turn.response?, houtput]
    rfl
  | false =>
    refine ⟨(Tracker.response_finish _ _ houtput).trans ?_, Tracker.slot_finish _ _ houtput⟩
    rw [houtput]
    rfl

/-- **A turn without an output** says nothing, and then nothing has been asked of it that would
have been said. -/
theorem runTurn_of_none (habort : script.abort = false)
    (houtput : (s.answeredTurn setup script).output = none) :
    (s.runTurn setup script).1.response = none ∧ ¬ s.Moves setup script ∧ ¬ script.Restores ∧
      s.borrowed? setup script = none := by
  have hspoken := (s.output_answeredTurn setup script).2 houtput
  -- a restoring, or a prompt that is replayed, would have been said
  have hrestores : ¬ script.Restores := fun h =>
    absurd (mem_spoken.mpr (Or.inl ⟨h, rfl⟩)) (by rw [hspoken]; simp)
  have hreplayed : s.replayed? script = none := by
    cases hprompt : s.replayed? script with
    | none => rfl
    | some prompt =>
      exact absurd (mem_spoken.mpr (Or.inr (Or.inl ⟨prompt, hprompt, rfl⟩)))
        (by rw [hspoken]; simp)
  have hslot : (s.answeredDesk setup script).tracker.slot = s.tracker.slot := by
    rw [slot_answeredDesk, if_neg hrestores]
  refine ⟨?_, ?_, hrestores, ?_⟩
  · rw [response_report habort, Turn.response?, houtput, Tracker.finish_of_none _ _ houtput]
    rw [Turn.response?, houtput]
    split <;> rfl
  · rw [Moves, tracker_runTurn, habort, ← hslot, not_not]
    cases script.remote with
    | true => exact Tracker.slot_finishRemote _ _ _
    | false =>
      obtain ⟨_, _, hsettle⟩ := (s.answeredDesk setup script).tracker.settleInterruption_frame
        setup.settings.tracker (s.answeredTurn setup script).input
      change (Tracker.finish _ _ _).1.slot = _
      rw [Tracker.finish_of_none _ _ houtput, hsettle]
  · rw [borrowed?, reprompted?, houtput, hreplayed]
    split
    · rename_i hentry
      split at hentry <;> cases hentry
    · rfl

variable (setup s script) in
/-- A visit that was none has restored markup, and a turn that leaves a module has not. -/
theorem courseTaken_cases (output : Output) :
    (s.courseTaken setup script output = .collapsed → script.Restores) ∧
      (s.courseTaken setup script output = .saved → ¬ script.Restores) := by
  obtain ⟨hcollapsed, hsaved⟩ := Tracker.restoreAsked_of_course setup.settings.tracker
    (s.answeredDesk setup script).tracker output
  rw [restoreAsked_answeredDesk] at hcollapsed hsaved
  rw [courseTaken]
  split
  · exact ⟨nofun, nofun⟩
  · exact ⟨fun h => of_decide_eq_true (hcollapsed h), fun h => of_decide_eq_false (hsaved h)⟩

/-! ### The directives of the body -/

/-- The reprompt that takes the place of the response is **heard**, if all texts are that may be said
again. -/
theorem heard_reprompted (hclean : s.tracker.Clean) :
    ∀ entry ∈ s.reprompted? setup script, Markup.Heard entry.text := by
  intro entry hentry
  rw [Option.mem_def, reprompted?] at hentry
  split at hentry
  · cases hentry
  · obtain ⟨output, -, hreprompt⟩ := Option.bind_eq_some_iff.mp hentry
    exact (clean_answeredDesk hclean).settled (Tracker.mem_of_reprompt? hreprompt)

/-- **The body** of what is said saves nothing, and the slots that it restores are the own one of the
turn, unless a reprompt has taken its place, and those that are borrowed. -/
theorem tags_bodySaid (hplain : script.Plain) (hclean : s.tracker.Clean) {output : Output}
    (houtput : (s.answeredTurn setup script).output = some output) :
    Markup.Heard (s.bodySaid setup script output) ∧
      ∀ slot : Slot,
        (Markup.restore slot).toList ∈ Markup.tags (s.bodySaid setup script output) ↔
          (script.Restores ∧ slot = s.tracker.slot ∧ s.reprompted? setup script = none) ∨
            s.Borrows setup script slot := by
  obtain ⟨hheard, hrestores⟩ := heard_assembled hplain hclean
  rw [← (s.output_answeredTurn setup script).1 output houtput] at hheard hrestores
  cases hentry : s.reprompted? setup script with
  | none =>
    -- the body is what has been put together, the replayed prompt included
    refine ⟨by rw [bodySaid, hentry]; exact hheard, fun slot => ?_⟩
    rw [bodySaid, hentry, Borrows, borrowed?, hentry]
    dsimp only [Option.elim_none]
    rw [hrestores]
    simp [Markup.stands_iff (Markup.isTag_restore _)]
  | some entry =>
    -- nothing of what has been put together is left
    have hsettled := heard_reprompted hclean entry hentry
    obtain ⟨htags, hclosed⟩ :=
      Tracker.tags_repromptText (s.lead_answeredDesk setup script hplain) entry
    refine ⟨⟨?_, fun slot => ?_⟩, fun slot => ?_⟩
    · rw [bodySaid, hentry]
      exact hclosed hsettled.closed
    · rw [bodySaid, hentry]
      dsimp only [Option.elim_some]
      rw [htags]
      exact hsettled.save slot
    · rw [bodySaid, hentry, Borrows, borrowed?, hentry]
      dsimp only [Option.elim_some]
      rw [htags]
      simp [Markup.stands_iff (Markup.isTag_restore _)]

/-! ### The directives of a turn -/

/-- How the course of a turn with an output **moves the slot**: the course that collapses takes its
restoring back, a plain one lets it stand, and one that saves has none. -/
theorem moves_iff_course (habort : script.abort = false) {output : Output}
    (houtput : (s.answeredTurn setup script).output = some output) :
    s.Moves setup script ↔
      (s.courseTaken setup script output = .plain ∧ script.Restores) ∨
        s.courseTaken setup script output = .saved := by
  obtain ⟨hcollapsed, hsaved⟩ := s.courseTaken_cases setup script output
  rw [Moves, (runTurn_of_some habort houtput).2, slot_answeredDesk]
  cases hcourse : s.courseTaken setup script output with
  | collapsed => simp [Tracker.Course.slot, hcollapsed hcourse]
  | plain =>
    by_cases hrestores : script.Restores <;>
      simp [Tracker.Course.slot, hrestores, Slot.toggled_ne]
  | saved => simp [Tracker.Course.slot, hsaved hcourse, Slot.toggled_ne]

/-- What is said in a turn with an output, tag by tag. -/
theorem says_iff_mem_tags (habort : script.abort = false) {output : Output}
    (houtput : (s.answeredTurn setup script).output = some output) {directive : String}
    (htag : Markup.IsTag directive.toList) :
    s.Says setup script directive ↔
      directive.toList ∈ Markup.tags
        ((s.courseTaken setup script output).said (s.answeredDesk setup script).tracker.slot
          (s.bodySaid setup script output)) := by
  rw [Says, (runTurn_of_some habort houtput).1]
  simp [Markup.stands_iff htag]

variable (setup) in
/-- **A save directive** that names a slot is said exactly in a turn that moves the slot without
restoring, and it names the slot after the turn. -/
theorem says_save_iff (hplain : script.Plain) (hclean : s.tracker.Clean)
    (habort : script.abort = false) (slot : Slot) :
    s.Says setup script (Markup.save slot) ↔
      ¬ script.Restores ∧ s.Moves setup script ∧
        slot = (s.runTurn setup script).2.tracker.slot := by
  cases houtput : (s.answeredTurn setup script).output with
  | none =>
    obtain ⟨hsilent, hstays, -, -⟩ := runTurn_of_none habort houtput
    rw [Says, hsilent]
    simp [hstays]
  | some output =>
    obtain ⟨hcollapsed, hsaved⟩ := s.courseTaken_cases setup script output
    have hbody := (tags_bodySaid hplain hclean houtput).1
    have hprompt := (Markup.heard_prompt (s.courseTaken setup script output)
      (s.answeredDesk setup script).tracker.slot hbody).save slot
    rw [says_iff_mem_tags habort houtput (Markup.isTag_save _), Markup.mem_tags_said,
      moves_iff_course habort houtput, (runTurn_of_some habort houtput).2]
    cases hcourse : s.courseTaken setup script output with
    | saved =>
      -- the one directive that is put in front
      rw [hcourse] at hprompt
      simp [Tracker.Course.slot, hsaved hcourse, hprompt, Markup.toList_save_inj]
    | collapsed =>
      rw [hcourse] at hprompt
      simp [hcollapsed hcourse, hprompt, Markup.toList_save_inj]
    | plain =>
      rw [hcourse] at hprompt
      by_cases hrestores : script.Restores <;> simp [hprompt, hrestores]

variable (setup) in
/-- **A restore directive** that names a slot is said if it is the own one of a turn that moves the
slot, unless a reprompt has taken its place, or if it is borrowed, unless it is that of the slot in a
turn that restores without moving it. -/
theorem says_restore_iff (hplain : script.Plain) (hclean : s.tracker.Clean)
    (habort : script.abort = false) (slot : Slot) :
    s.Says setup script (Markup.restore slot) ↔
      (script.Restores ∧ s.Moves setup script ∧ slot = s.tracker.slot ∧
        s.reprompted? setup script = none) ∨
      (s.Borrows setup script slot ∧
        ¬ (script.Restores ∧ ¬ s.Moves setup script ∧ slot = s.tracker.slot)) := by
  cases houtput : (s.answeredTurn setup script).output with
  | none =>
    obtain ⟨hsilent, hstays, hrestores, hborrowed⟩ := runTurn_of_none habort houtput
    rw [Says, hsilent, Borrows, hborrowed]
    simp [hrestores]
  | some output =>
    obtain ⟨hcollapsed, hsaved⟩ := s.courseTaken_cases setup script output
    have hbody := (tags_bodySaid hplain hclean houtput).2 slot
    have hsave (slot other : Option Slot) := (Markup.save_ne_restore other slot).symm
    rw [says_iff_mem_tags habort houtput (Markup.isTag_restore _), Markup.mem_tags_said,
      Markup.mem_tags_prompt, hbody, moves_iff_course habort houtput, slot_answeredDesk]
    cases hcourse : s.courseTaken setup script output with
    | collapsed =>
      -- the own directive of the turn no longer names a slot
      have hrestores := hcollapsed hcourse
      by_cases hslot : slot = s.tracker.slot <;> simp [hrestores, hsave, hslot]
    | plain => by_cases hrestores : script.Restores <;> simp [hrestores]
    | saved => simp [hsaved hcourse, hsave]

/-! ### When they are in step -/

/-- **When the slot and what is said are in step**, in a conversation of plain scripts: every restore
directive that is borrowed is that of the slot, in a turn that moves it or restores, and a reprompt
in place of the own restore directive of a turn that moves the slot has that directive in it. -/
theorem inStep_iff {past : List PastTurn} (h : Past setup past s)
    (hpast : ∀ turn ∈ past, turn.script.Plain) (hplain : script.Plain)
    (habort : script.abort = false) :
    s.InStep setup script ↔
      (∀ slot, s.Borrows setup script slot →
        slot = s.tracker.slot ∧ (s.Moves setup script ∨ script.Restores)) ∧
      (s.reprompted? setup script ≠ none → script.Restores → s.Moves setup script →
        s.Borrows setup script s.tracker.slot) := by
  have hsaves := says_save_iff setup hplain (h.clean hpast) habort
  have hrestores := says_restore_iff setup hplain (h.clean hpast) habort
  constructor
  · intro hstep
    refine ⟨fun slot hborrows => ?_, fun hreprompted hrestored hmoves => ?_⟩
    · -- either it is rewritten, as the own one of a visit that was none, or it is said
      by_cases hown : script.Restores ∧ ¬ s.Moves setup script ∧ slot = s.tracker.slot
      · exact ⟨hown.2.2, Or.inr hown.1⟩
      · have hsays := (hrestores slot).mpr (Or.inr ⟨hborrows, hown⟩)
        exact ⟨hstep.restore slot hsays, Or.inl (hstep.moves_iff.mp ⟨slot, Or.inr hsays⟩)⟩
    · -- the directive that is said is none of the turn's own
      obtain ⟨slot, hsave | hrestore⟩ := hstep.moves_iff.mpr hmoves
      · exact absurd hrestored ((hsaves slot).mp hsave).1
      · rcases (hrestores slot).mp hrestore with ⟨-, -, -, hnone⟩ | ⟨hborrows, -⟩
        · exact absurd hnone hreprompted
        · rw [← hstep.restore slot hrestore]
          exact hborrows
  · rintro ⟨hborrowed, hreprompted⟩
    refine ⟨⟨?_, fun hmoves => ?_⟩, fun slot hsave => ((hsaves slot).mp hsave).2.2,
      fun slot hrestore => ?_⟩
    · rintro ⟨slot, hsave | hrestore⟩
      · exact ((hsaves slot).mp hsave).2.1
      · rcases (hrestores slot).mp hrestore with ⟨-, hmoves, -⟩ | ⟨hborrows, hown⟩
        · exact hmoves
        · obtain ⟨hslot, hmoves | hrestored⟩ := hborrowed slot hborrows
          · exact hmoves
          · exact by_contra fun hstays => hown ⟨hrestored, hstays, hslot⟩
    · -- a slot that moves is restored or saved
      by_cases hrestored : script.Restores
      · refine ⟨s.tracker.slot, Or.inr ((hrestores _).mpr ?_)⟩
        by_cases hnone : s.reprompted? setup script = none
        · exact Or.inl ⟨hrestored, hmoves, rfl, hnone⟩
        · exact Or.inr ⟨hreprompted hnone hrestored hmoves, fun hown => hown.2.1 hmoves⟩
      · exact ⟨_, Or.inl ((hsaves _).mpr ⟨hrestored, hmoves, rfl⟩)⟩
    · rcases (hrestores slot).mp hrestore with ⟨-, -, hslot, -⟩ | ⟨hborrows, -⟩
      · exact hslot
      · exact (hborrowed slot hborrows).1

/-! ### A reprompt in place of a directive -/

/-- The conversation comes back to where it was cut off, and the markup is restored. -/
def returning : TurnScript :=
  (telling (.speech "back") "Right." "root" "~root_ask").withCommand Command.restoreMarkup.call

/-- Besides, the reprompt is to take the place of the response. -/
def reprompting : TurnScript := returning.withCommand Command.overrideWithReprompt.call

theorem plain_returning : returning.Plain ∧ reprompting.Plain :=
  have h := (TurnScript.plain_telling (by decide) (by decide)).withCommand rfl
  ⟨h, h.withCommand rfl⟩

theorem plain_past_interrupted :
    ∃ past, Past {} past interrupted ∧ ∀ turn ∈ past, turn.script.Plain := by
  refine ⟨_, (Past.new.turn _).turn _, fun turn hturn => ?_⟩
  simp only [List.nil_append, List.singleton_append, List.mem_cons, List.not_mem_nil,
    or_false] at hturn
  rcases hturn with rfl | rfl <;> exact TurnScript.plain_telling (by decide) (by decide)

/-- Coming back, the slot and what is said are in step: the own restore directive is said, and
nothing is borrowed. -/
theorem inStep_returning : interrupted.InStep {} returning := by
  obtain ⟨past, hpast, hplain⟩ := plain_past_interrupted
  have hreprompted : interrupted.reprompted? {} returning = none := by decide +kernel
  have hborrowed : interrupted.borrowed? {} returning = none := by decide +kernel
  refine (inStep_iff hpast hplain plain_returning.1 rfl).mpr
    ⟨fun slot hborrows => ?_, fun h => absurd hreprompted h⟩
  obtain ⟨text, htext, -⟩ := hborrows
  rw [hborrowed] at htext
  cases htext

/-- They are **not always** in step: with a reprompt in place of the response, the slot goes back and
no directive is said. -/
theorem not_forall_inStep :
    ¬ ∀ (past : List PastTurn) (s : Session) (script : TurnScript), Past {} past s →
      (∀ turn ∈ past, turn.script.Plain) → script.Plain → script.abort = false →
      s.InStep {} script := by
  intro hall
  obtain ⟨past, hpast, hplain⟩ := plain_past_interrupted
  have hstep := hall past interrupted reprompting hpast hplain plain_returning.2 rfl
  have hmoves : interrupted.Moves {} reprompting := by
    unfold Moves
    decide +kernel
  have hresponse : (interrupted.runTurn {} reprompting).1.response = some "What color?" := by
    decide +kernel
  -- the response that has been replaced took the restore directive with it
  have hsilent {directive : String} (htag : Markup.IsTag directive.toList) :
      ¬ interrupted.Says {} reprompting directive := by
    rintro ⟨response, hsaid, hstands⟩
    rw [hresponse, Option.mem_some_iff] at hsaid
    subst hsaid
    have hmem := (Markup.stands_iff htag).mp hstands
    rw [(Markup.tags_of_not_mem (by decide)).1] at hmem
    cases hmem
  obtain ⟨slot, hsave | hrestore⟩ := hstep.moves_iff.mpr hmoves
  · exact hsilent (Markup.isTag_save _) hsave
  · exact hsilent (Markup.isTag_restore _) hrestore

end Session

end Colloquy

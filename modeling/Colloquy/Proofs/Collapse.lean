import Mathlib.Data.List.Infix
import Colloquy.Proofs.Visit
import Colloquy.Proofs.Wording

/-!
# A visit that was none

Markup may be restored in a turn that leaves the conversation in the module it was in. Then there was
no visit to come back from, and the turn **collapses**: both of its directives are to name no slot,
and the slot is what it was when the turn began. The save directive is put in front. The restore
directive stands somewhere in the response, and has to be found there and written anew.

It is found as a text. So what has to be shown is that putting another text in its place makes no
directive out of the texts on either side, and breaks none (`Markup.Unslotted`). Both follow from
reading tag by tag: a text that is searched for a tag is made of pieces in which it does not stand
(`Text.exists_pieces`), and what stands how often can be told from the tags that are read
(`Markup.occurrences_eq_count`).
-/

namespace Colloquy

/-! ### Places and pieces -/

namespace Text

/-- The number of **places** at which a piece stands in a text. -/
def places (piece s : List Char) : Nat := s.tails.countP piece.isPrefixOf

variable {old piece : List Char}

theorem places_cons (piece : List Char) (c : Char) (s : List Char) :
    places piece (c :: s) = places piece s + if piece <+: c :: s then 1 else 0 := by
  rw [places, List.tails_cons, List.countP_cons, places]
  simp only [List.isPrefixOf_iff_prefix]

/-- A piece does not stand where its first character does not. -/
theorem places_append_of_not_mem {c : Char} {rest l : List Char} (h : c ∉ l) (s : List Char) :
    places (c :: rest) (l ++ s) = places (c :: rest) s := by
  induction l with
  | nil => rfl
  | cons d l ih =>
    rw [List.mem_cons, not_or] at h
    rw [List.cons_append, places_cons, ih h.2, if_neg, Nat.add_zero]
    exact fun hprefix => h.1 (List.cons_prefix_cons.mp hprefix).1

theorem cons_intercalate (sep : List Char) (c : Char) (first : List Char)
    (more : List (List Char)) :
    sep.intercalate ((c :: first) :: more) = c :: sep.intercalate (first :: more) := by
  cases more with
  | nil => simp
  | cons second more => simp [List.intercalate_cons_cons]

theorem prefix_intercalate (sep first : List Char) (more : List (List Char)) :
    first <+: sep.intercalate (first :: more) := by
  cases more with
  | nil => simp
  | cons second more =>
    rw [List.intercalate_cons_cons, List.append_assoc]
    exact List.prefix_append _ _

/-- What is looked for lies **between pieces** in which it does not stand, and replacing it keeps
these pieces. -/
theorem exists_pieces_replaceFrom (hold : old ≠ []) (new s : List Char) :
    ∃ first more, s = old.intercalate (first :: more) ∧
      replaceFrom old new 0 s = new.intercalate (first :: more) ∧
      ∀ piece ∈ first :: more, ¬ old <:+: piece := by
  induction s using search_induction hold with
  | nil => exact ⟨[], [], by simp, by simp [replaceFrom], by simpa using hold⟩
  | found s ih =>
    obtain ⟨first, more, hs, hreplaced, hfree⟩ := ih
    refine ⟨[], first :: more, ?_, ?_, List.forall_mem_cons.mpr ⟨by simpa using hold, hfree⟩⟩
    · rw [List.intercalate_cons_cons, List.nil_append, ← hs]
    · rw [replaceFrom_append hold, List.intercalate_cons_cons, List.nil_append, ← hreplaced]
  | passed c s hnot ih =>
    obtain ⟨first, more, hs, hreplaced, hfree⟩ := ih
    rw [List.forall_mem_cons] at hfree
    refine ⟨c :: first, more, ?_, ?_, List.forall_mem_cons.mpr ⟨fun hinfix => ?_, hfree.2⟩⟩
    · rw [cons_intercalate, ← hs]
    · rw [replaceFrom_cons hnot, cons_intercalate, ← hreplaced]
    · rcases List.infix_cons_iff.mp hinfix with hhead | hinfix
      · rw [hs] at hnot
        exact hnot (hhead.trans (List.cons_prefix_cons.mpr ⟨rfl, prefix_intercalate _ _ _⟩))
      · exact hfree.1 hinfix

/-- **Replacing** puts the same pieces together in another way. -/
theorem exists_pieces {old : String} (hold : old.toList ≠ []) (new s : String) :
    ∃ pieces : List String, s = old.intercalate pieces ∧
      replaceAll old new s = new.intercalate pieces ∧
      ∀ piece ∈ pieces, ¬ old.toList <:+: piece.toList := by
  obtain ⟨first, more, hs, hreplaced, hfree⟩ := exists_pieces_replaceFrom hold new.toList s.toList
  have hpieces : ((first :: more).map String.ofList).map String.toList = first :: more := by simp
  refine ⟨(first :: more).map String.ofList, ?_, ?_, ?_⟩
  · rw [← String.toList_inj, String.toList_intercalate, hpieces, hs]
  · rw [← String.toList_inj, String.toList_intercalate, hpieces, toList_replaceAll, hreplaced]
  · rintro _ hpiece
    obtain ⟨piece, hmem, rfl⟩ := List.mem_map.mp hpiece
    rw [String.toList_ofList]
    exact hfree piece hmem

end Text

namespace Markup

/-! ### How often a directive stands in a text -/

variable {tag old new : List Char} {directive s : String}

/-- How often a directive **stands** in a text. -/
def occurrences (directive s : String) : Nat := Text.places directive.toList s.toList

theorem places_tag_append (htag : IsTag tag) (s : List Char) :
    Text.places tag (tag ++ s) = Text.places tag s + 1 := by
  obtain ⟨inner, rfl, hopen, -⟩ := htag
  have hinner : '<' ∉ inner ++ ['>'] := by simp [hopen]
  rw [List.cons_append, List.cons_append, Text.places_cons,
    if_pos (List.cons_prefix_cons.mpr ⟨rfl, List.prefix_append _ _⟩),
    Text.places_append_of_not_mem hinner]

/-- A tag is read **as often** as it stands in a text that does not begin with the rest of it. -/
theorem count_tagsFrom (htag : IsTag tag) (opened s : List Char)
    (hopened : ¬ Completes tag opened s) : (tagsFrom opened s).count tag = Text.places tag s := by
  induction s using Text.search_induction htag.ne_nil generalizing opened with
  | nil => simp [tagsFrom, Text.places, htag.ne_nil]
  | found s ih =>
    rw [(tagsFrom_tag htag _ _).1, List.count_cons_self, ih [] (not_completes_nil _ _),
      places_tag_append htag]
  | passed c s hnot ih =>
    rw [tagsFrom, List.count_append, ih _ (not_completes_reading hnot hopened), Text.places_cons,
      if_neg hnot, Nat.add_comm]
    congr 1
    split
    · rename_i hclosed
      exact List.count_eq_zero.mpr fun hmem =>
        ne_of_not_completes hopened hclosed (List.mem_singleton.mp hmem).symm
    · rfl

theorem occurrences_eq_count (htag : IsTag directive.toList) :
    occurrences directive s = (tags s).count directive.toList :=
  (count_tagsFrom htag [] s.toList (not_completes_nil _ _)).symm

/-! ### Directives that name no slot any more -/

/-- A text that has been **unslotted**: no restore directive of the slot is left in it, those that
name no slot are as many more, the restore directives of the other slot are as many as they were, and
the text on either side of what has been written anew is the same. -/
structure Unslotted (slot : Slot) (text unslotted : String) : Prop where
  gone : ¬ Stands (restore (some slot)) unslotted
  added : occurrences (restore none) unslotted =
    occurrences (restore none) text + occurrences (restore (some slot)) text
  other : occurrences (restore (some slot.toggled)) unslotted =
    occurrences (restore (some slot.toggled)) text
  pieces : ∃ pieces : List String,
    text = (restore (some slot)).intercalate pieces ∧
      unslotted = (restore none).intercalate pieces ∧
      ∀ piece ∈ pieces, ¬ Stands (restore (some slot)) piece

/-- Writing `old` anew as `new` adds the one to the other. -/
theorem count_map_replace (h : old ≠ new) (tags : List (List Char)) :
    (tags.map fun tag => if tag = old then new else tag).count new =
      tags.count new + tags.count old := by
  induction tags with
  | nil => rfl
  | cons tag tags ih =>
    rw [List.map_cons, List.count_cons, List.count_cons, List.count_cons, ih]
    by_cases htag : tag = old
    · simp only [htag, h, if_true, beq_self_eq_true, beq_iff_eq, if_false]
      omega
    · simp only [htag, if_false, beq_iff_eq]
      omega

theorem count_map_replace_of_ne {other : List Char} (hold : other ≠ old) (hnew : other ≠ new)
    (tags : List (List Char)) :
    (tags.map fun tag => if tag = old then new else tag).count other = tags.count other := by
  induction tags with
  | nil => rfl
  | cons tag tags ih =>
    rw [List.map_cons, List.count_cons, List.count_cons, ih]
    by_cases htag : tag = old
    · simp [htag, hold.symm, hnew.symm]
    · simp [htag]

/-- **Writing** the restore directives of a slot **anew** unslots a text. -/
theorem unslotted_replaceAll (slot : Slot) (s : String) :
    Unslotted slot s (Text.replaceAll (restore (some slot)) (restore none) s) := by
  have hslot := isTag_restore (some slot)
  have hother := isTag_restore (some slot.toggled)
  have hnone := isTag_restore none
  have hne {one two : Option Slot} (h : one ≠ two) : (restore one).toList ≠ (restore two).toList :=
    fun heq => h (toList_restore_inj.mp heq)
  obtain ⟨htags, -⟩ := tags_replaceAll hslot hnone s
  refine ⟨fun hstands => ?_, ?_, ?_, Text.exists_pieces hslot.ne_nil _ _⟩
  · rw [stands_iff hslot, htags, List.mem_map] at hstands
    obtain ⟨tag, -, htag⟩ := hstands
    split at htag
    · exact hne (by simp) htag
    · rename_i hkept
      exact hkept htag
  · rw [occurrences_eq_count hnone, occurrences_eq_count hnone, occurrences_eq_count hslot, htags,
      count_map_replace (hne (by simp))]
  · rw [occurrences_eq_count hother, occurrences_eq_count hother, htags,
      count_map_replace_of_ne (hne (by simpa using slot.toggled_ne)) (hne (by simp))]

end Markup

/-! ### A round that collapses -/

namespace Tracker

variable {settings : TrackerSettings} {t : Tracker} {turn : Turn} {output : Output}

/-- Where no reprompt is asked for, the **body** is the response. -/
theorem body_of_not_asked (h : t.overrideAsked = false) :
    t.body settings turn output = output.response := by
  rw [body, reprompt?_eq settings t turn output rfl, h, if_neg (by simp)]
  rfl

namespace Round

variable {round : Round}

theorem overrideAsked_asked (t : Tracker) (round : Round) :
    (round.asked t).overrideAsked = decide (.overrideWithReprompt ∈ round.commands) := by
  rw [asked, (Command.foldl_onTracker_asked _ _).2.1]
  simp [start]

theorem prevModule_run (hending : round.ending = .finished turn)
    (houtput : turn.output = some output) :
    (round.run settings t).prevModule = ((round.asked t).modulesOf settings output).2 := by
  rw [run, hending]
  exact (round.asked t).prevModule_finish settings houtput

/-- A round that restores markup and leaves the conversation in its module **collapses**. -/
theorem collapses_of_stays (hending : round.ending = .finished turn)
    (houtput : turn.output = some output) (hrestores : .restoreMarkup ∈ round.commands)
    (hmodule : (round.run settings t).prevModule = t.prevModule) :
    round.collapses settings t = true := by
  have hinto : ((round.asked t).modulesOf settings output).2 = (round.asked t).prevModule := by
    rw [← prevModule_run hending houtput, hmodule, prevModule_asked]
  have hcourse : (round.asked t).course settings output = .collapsed := by
    rw [course, hinto, courseInto_prevModule, restoreAsked_asked, decide_eq_true hrestores, if_pos rfl]
  simp [collapses, hending, houtput, hcourse]

/-- A round that collapses leaves the slot what it was when it began. -/
theorem slot_run_of_collapses (h : round.collapses settings t = true) :
    (round.run settings t).slot = t.slot := by
  have hslot := round.slot_run settings t
  have hkeeps : round.keeps settings t = false := by simp [keeps, h]
  have hsaved : round.saved? settings t = none := by
    cases hending : round.ending with
    | aborted | accepted => simp [collapses, hending] at h
    | finished turn =>
      simp only [collapses, hending, Option.any_eq_true, decide_eq_true_eq] at h
      obtain ⟨output, houtput, hcourse⟩ := h
      rw [saved?_of_finished hending houtput, hcourse]
      exact Markup.savedBefore?_save_none_append _ _
  rw [moves, hkeeps, hsaved] at hslot
  exact Slot.eq_of_index (by simpa [Slot.index_mod_two] using hslot)

/-- **A visit that was none** is made undone completely. Wherever a round restores markup and ends
with an output in the module that the conversation was in, the slot is what it was before, and what
is said is the response, or the reprompt in its place, behind a save directive that names no slot;
and in it the restore directives of that slot name none any more, and nothing else is different. -/
theorem collapsed_in_full (settings : TrackerSettings) (t : Tracker) {round : Round} {turn : Turn}
    {output : Output} (hending : round.ending = .finished turn)
    (houtput : turn.output = some output) (hrestores : .restoreMarkup ∈ round.commands)
    (hmodule : (round.run settings t).prevModule = t.prevModule) :
    (round.run settings t).slot = t.slot ∧
      (.overrideWithReprompt ∉ round.commands →
        (round.asked t).body settings turn output = output.response) ∧
      ∃ text, ((round.asked t).finish settings turn).2.response? =
          some (Markup.save none ++ text) ∧
        Markup.Unslotted t.slot ((round.asked t).body settings turn output) text := by
  have hcollapses := collapses_of_stays hending houtput hrestores hmodule
  have hslot := slot_run_of_collapses hcollapses
  refine ⟨hslot, fun h => body_of_not_asked ?_, _, ?_, Markup.unslotted_replaceAll _ _⟩
  · rw [overrideAsked_asked, decide_eq_false h]
  · rw [said_of_collapses hending hcollapses, houtput, hslot]
    rfl

/-- A text in which both slots are restored is said in the module that the conversation was in: the
one that the round has restored is restored no longer. -/
theorem collapsed_in_full_root :
    let t := after {} {} [Round.telling "root" []]
    let response := Markup.restore (some .one) ++ "So." ++ Markup.restore (some .zero)
    let output : Output := { response, module := "root" }
    let turn : Turn := { input := .speech "", output := some output }
    let round : Round := { commands := [.restoreMarkup], ending := .finished turn }
    (round.run {} t).slot = .zero ∧
      ∃ text, ((round.asked t).finish {} turn).2.response? = some (Markup.save none ++ text) ∧
        Markup.Unslotted .zero response text := by
  intro t response output turn round
  have hending : round.ending = .finished turn := rfl
  have houtput : turn.output = some output := rfl
  have hinto : ((round.asked t).modulesOf {} output).2 = t.prevModule := by decide +kernel
  have hmodule : (round.run {} t).prevModule = t.prevModule :=
    (prevModule_run hending houtput).trans hinto
  have hslot : t.slot = .zero := by decide +kernel
  obtain ⟨hstays, hbody, text, hsaid, hunslotted⟩ :=
    collapsed_in_full {} t hending houtput (by decide) hmodule
  rw [hslot, hbody (by decide)] at hunslotted
  exact ⟨hstays.trans hslot, text, hsaid, hunslotted⟩

end Round

end Tracker

end Colloquy

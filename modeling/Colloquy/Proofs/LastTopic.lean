import Colloquy.Proofs.Agreement

/-!
# The last topic of a module

The topic that a turn ends in is looked up among all the topics it went through. A topic is compared
by the module that is written in it, but given under its bare name when it is found; and if no name
is left of it, it is as good as not found.

This file says what is found without going through the lookup. A topic **matches** a module if,
without the label of its rule, it belongs to it (`Topic.Matches`). Of the topics that match, the
last one is found, and no other topic has any say in it (`Topic.resolve_last_match`).

That nothing is lost in the end needs a look at the texts. A topic of which no name is left consists
of blanks and one tilde at most. There is no underscore in it, so its module is what is left of it
too, which is nothing (`moduleOf_eq_of_bare`). It matches no module but the one whose name is empty
(`foundName_ne_of_matches`).
-/

namespace Colloquy.Topic

/-- A topic **matches** a module if, without the label of its rule, its module is the given one in
small letters. -/
def Matches (module topic : String) : Prop :=
  Text.lower (moduleOf (withoutRule topic)) = moduleKey module

instance (module topic : String) : Decidable (Matches module topic) :=
  inferInstanceAs (Decidable (_ = _))

/-- The **name under which a topic is found**: without the label of its rule, without the blanks
around it and without one tilde before it. -/
def foundName (topic : String) : String := bare (withoutRule topic)

/-- The **last match** of a module among the topics, as it is written. -/
def lastMatch? (module : String) (topics : List String) : Option String :=
  topics.reverse.find? fun topic => Matches module topic

/-! ### The last match -/

section LastMatch

variable {module : String}

/-- The last match of two lists is that of the second one, if this has any. -/
theorem lastMatch?_append (ts us : List String) :
    lastMatch? module (ts ++ us) = (lastMatch? module us).or (lastMatch? module ts) := by
  rw [lastMatch?, List.reverse_append, List.find?_append]
  rfl

theorem isSome_lastMatch? (topics : List String) :
    (lastMatch? module topics).isSome ↔ ∃ topic ∈ topics, Matches module topic := by
  simp [lastMatch?, List.find?_isSome]

theorem lastMatch?_eq_none {topics : List String} (h : ∀ topic ∈ topics, ¬ Matches module topic) :
    lastMatch? module topics = none := by
  refine Option.not_isSome_iff_eq_none.mp fun hsome => ?_
  obtain ⟨topic, htopic, hmatches⟩ := (isSome_lastMatch? topics).mp hsome
  exact h topic htopic hmatches

/-- **The last match** is one behind which nothing matches. -/
theorem lastMatch?_eq_some_iff {topics : List String} {topic : String} :
    lastMatch? module topics = some topic ↔
      ∃ before after, topics = before ++ topic :: after ∧ Matches module topic ∧
        ∀ later ∈ after, ¬ Matches module later := by
  rw [lastMatch?, List.find?_eq_some_iff_append]
  constructor
  · rintro ⟨hmatches, after, before, hsplit, hafter⟩
    refine ⟨before.reverse, after.reverse, ?_, of_decide_eq_true hmatches, ?_⟩
    · rw [← List.reverse_reverse topics, hsplit]
      simp
    · intro later hlater
      simpa using hafter later (List.mem_reverse.mp hlater)
  · rintro ⟨before, after, rfl, hmatches, hafter⟩
    refine ⟨decide_eq_true hmatches, after.reverse, before.reverse, by simp, ?_⟩
    intro later hlater
    simpa using hafter later (List.mem_reverse.mp hlater)

/-- The topics that do not match can be left out. -/
theorem lastMatch?_filter (topics : List String) :
    lastMatch? module (topics.filter (Matches module ·)) = lastMatch? module topics := by
  rw [lastMatch?, ← List.getLast?_filter, List.filter_filter, lastMatch?, ← List.getLast?_filter]
  simp

end LastMatch

/-! ### Names of which nothing is left -/

/-- Of a name of which nothing is left when it is made bare, trimming leaves a tilde at most. -/
theorem trimChars_of_bare_eq {name : String} (h : bare name = "") :
    Text.trimChars name.toList = [] ∨ Text.trimChars name.toList = ['~'] := by
  rw [← String.toList_inj, toList_bare] at h
  cases htrim : Text.trimChars name.toList with
  | nil => exact Or.inl rfl
  | cons c rest =>
    rw [htrim] at h
    by_cases hc : c = '~'
    · subst hc
      have hrest : rest = [] := h
      exact Or.inr (hrest ▸ rfl)
    · rw [dropTilde_of_ne hc] at h
      cases h

/-- **A topic without a name** is one without a module. -/
theorem moduleOf_eq_of_bare {topic : String} (h : bare topic = "") : moduleOf topic = "" := by
  have hmark : ¬ Text.isBlank '_' = true := by decide
  rw [← String.toList_inj, moduleOf, toList_bare, Text.toList_before,
    ← Text.trimChars_takeWhile_trimChars hmark]
  rcases trimChars_of_bare_eq h with hnil | htilde
  · rw [hnil]
    rfl
  · rw [htilde]
    decide

variable {module : String}

theorem bare_ne_of_moduleKey (h : moduleKey module ≠ "") : bare module ≠ "" := by
  intro hempty
  refine h ?_
  rw [moduleKey, hempty]
  rfl

/-- A topic that matches a module with a name is found under a name. -/
theorem foundName_ne_of_matches (h : moduleKey module ≠ "") {topic : String}
    (hmatches : Matches module topic) : foundName topic ≠ "" := by
  intro hempty
  rw [Matches, moduleOf_eq_of_bare hempty] at hmatches
  exact h hmatches.symm

/-! ### What is found -/

/-- **Resolving a topic** is finding its last match. -/
theorem resolve_eq (topics : List String) :
    resolve module topics =
      if Text.allBlank module then none
      else ((lastMatch? module topics).map foundName).filter (· ≠ "") := by
  have hmatches : belongs (moduleKey module) ∘ withoutRule = fun topic => Matches module topic := by
    funext topic
    rw [Function.comp_apply, belongs]
    exact decide_eq_decide.mpr Iff.rfl
  have hlast : ((topics.map withoutRule).filter (belongs (moduleKey module))).getLast?.map bare =
      (lastMatch? module topics).map foundName := by
    rw [List.filter_map, hmatches, List.getLast?_map, List.getLast?_filter, Option.map_map]
    rfl
  rw [resolve]
  dsimp only
  rw [hlast]

/-- What is found in a module with a name is what the last match is found under. -/
theorem resolve_of_moduleKey (h : moduleKey module ≠ "") (topics : List String) :
    resolve module topics = (lastMatch? module topics).map foundName := by
  rw [resolve_eq, allBlank_eq_false_of_bare (bare_ne_of_moduleKey h), if_neg Bool.false_ne_true]
  cases hlast : lastMatch? module topics with
  | none => rfl
  | some topic =>
    obtain ⟨-, -, -, hmatches, -⟩ := lastMatch?_eq_some_iff.mp hlast
    exact Option.filter_some_pos (by simpa using foundName_ne_of_matches h hmatches)

theorem resolve_congr {topics topics' : List String}
    (h : lastMatch? module topics = lastMatch? module topics') :
    resolve module topics = resolve module topics' := by
  rw [resolve_eq, resolve_eq, h]

/-- Of two lists, the second one decides if anything in it matches, and the first one else. -/
theorem resolve_append (ts us : List String) :
    resolve module (ts ++ us) =
      if ∃ topic ∈ us, Matches module topic then resolve module us else resolve module ts := by
  split
  · rename_i hsome
    obtain ⟨topic, htopic⟩ := Option.isSome_iff_exists.mp ((isSome_lastMatch? us).mpr hsome)
    exact resolve_congr (by rw [lastMatch?_append, htopic, Option.some_or])
  · rename_i hnone
    have hlast : lastMatch? module us = none :=
      lastMatch?_eq_none fun topic htopic hmatches => hnone ⟨topic, htopic, hmatches⟩
    exact resolve_congr (by rw [lastMatch?_append, hlast, Option.none_or])

/-- Lists with the same matches are resolved alike, whatever else is in them. -/
theorem resolve_filter (topics : List String) :
    resolve module (topics.filter (Matches module ·)) = resolve module topics :=
  resolve_congr (lastMatch?_filter topics)

/-- **The topic that is found** is the last match. Of two lists of topics, the second one decides
wherever it has a match. In a module with a name there is a topic exactly where something matches;
it is the bare name of the last match, and not empty. And topics that do not match, put in or taken
out in any places, change nothing. -/
theorem resolve_last_match (module : String) :
    (∀ ts us, resolve module (ts ++ us) =
      if ∃ topic ∈ us, Matches module topic then resolve module us else resolve module ts) ∧
    (moduleKey module ≠ "" → ∀ topics,
      ((resolve module topics).isSome ↔ ∃ topic ∈ topics, Matches module topic) ∧
      (∀ found, resolve module topics = some found ↔
        ∃ before topic after, topics = before ++ topic :: after ∧ Matches module topic ∧
          (∀ later ∈ after, ¬ Matches module later) ∧ found = foundName topic) ∧
      resolve module topics ≠ some "") ∧
    (∀ ts others us, (∀ topic ∈ others, ¬ Matches module topic) →
      resolve module (ts ++ others ++ us) = resolve module (ts ++ us)) ∧
    ∀ topics topics' : List String,
      topics.filter (Matches module ·) = topics'.filter (Matches module ·) →
      resolve module topics = resolve module topics' := by
  refine ⟨resolve_append, ?_, ?_, ?_⟩
  · intro hkey topics
    rw [resolve_of_moduleKey hkey]
    refine ⟨?_, ?_, ?_⟩
    · rw [Option.isSome_map, isSome_lastMatch?]
    · intro found
      rw [Option.map_eq_some_iff]
      constructor
      · rintro ⟨topic, hlast, rfl⟩
        obtain ⟨before, after, hsplit, hmatches, hafter⟩ := lastMatch?_eq_some_iff.mp hlast
        exact ⟨before, topic, after, hsplit, hmatches, hafter, rfl⟩
      · rintro ⟨before, topic, after, hsplit, hmatches, hafter, rfl⟩
        exact ⟨topic, lastMatch?_eq_some_iff.mpr ⟨before, after, hsplit, hmatches, hafter⟩, rfl⟩
    · intro hempty
      obtain ⟨topic, hlast, hname⟩ := Option.map_eq_some_iff.mp hempty
      obtain ⟨-, -, -, hmatches, -⟩ := lastMatch?_eq_some_iff.mp hlast
      exact foundName_ne_of_matches hkey hmatches hname
  · intro ts others us hothers
    refine resolve_congr ?_
    rw [lastMatch?_append, lastMatch?_append, lastMatch?_append, lastMatch?_eq_none hothers,
      Option.none_or]
  · intro topics topics' h
    rw [← resolve_filter topics, h, resolve_filter]

/-- Topics of a module, those of another one, and texts that are hardly topics at all. -/
theorem resolve_last_match_between :
    moduleKey "~Root" ≠ "" ∧
    resolve "~Root" (["~root_intro.greet"] ++ ["~gt_joke"]) =
      (if ∃ topic ∈ ["~gt_joke"], Matches "~Root" topic then resolve "~Root" ["~gt_joke"]
        else resolve "~Root" ["~root_intro.greet"]) ∧
    resolve "~Root" ["~root_intro.greet", "~gt_joke", " ~ROOT_ask .color"] = some "ROOT_ask" ∧
    resolve "~Root" (["~root_intro.greet"] ++ [" ~ ", "root"] ++ ["~gt_joke"]) ≠ some "" ∧
    resolve "~Root" (["~root_intro"] ++ ["~gt_joke", " ~ "] ++ ["_root"]) =
      resolve "~Root" (["~root_intro"] ++ ["_root"]) ∧
    resolve "~Root" ["~gt_joke", "root_intro", ".root"] = resolve "~Root" ["root_intro", "gt"] := by
  obtain ⟨happend, hfound, hinsert, hcongr⟩ := resolve_last_match "~Root"
  have hkey : moduleKey "~Root" ≠ "" := by decide +kernel
  refine ⟨hkey, happend _ _, ?_, (hfound hkey _).2.2, ?_, ?_⟩
  · refine ((hfound hkey _).2.1 _).mpr ⟨["~root_intro.greet", "~gt_joke"], " ~ROOT_ask .color", [],
      rfl, ?_, nofun, ?_⟩
    · decide +kernel
    · decide +kernel
  · exact hinsert _ _ _ (by decide +kernel)
  · exact hcongr _ _ (by decide +kernel)

end Colloquy.Topic

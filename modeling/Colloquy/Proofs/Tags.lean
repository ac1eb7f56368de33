import Colloquy.Engine
import Colloquy.Markup
import Colloquy.Text.Search

/-!
# Tags in a text

What matters of a text to the renderer is which **directives** stand in it. A text is read from the
left, and what has been read of a tag that is still open is kept: a `<` opens a tag anew, and the
next `>` closes it. The tags that are closed on the way are the **tags of the text** (`tags`), and
the text is **closed** if no tag is open at its end.

* A directive stands in a text exactly if it is one of its tags (`mem_tags_iff`).
* The tags of two texts, one after the other, are the tags of both if the first one is closed
  (`tags_append`).
* Replacing one directive by another replaces it among the tags, and does nothing else to them
  (`tags_replaceAll`).

So nothing need be said of texts to follow directives through them but which tags they have.
-/

namespace Colloquy.Markup

/-! ### Reading tags -/

/-- What is open after one more character, where `opened` was before it. -/
def reading (opened : List Char) (c : Char) : List Char :=
  if c = '<' then ['<'] else if opened = [] ∨ c = '>' then [] else opened ++ [c]

/-- The tags that a text **closes**, where `opened` is open before it. -/
def tagsFrom : List Char → List Char → List (List Char)
  | _, [] => []
  | opened, c :: rest =>
    (if c = '>' ∧ opened ≠ [] then [opened ++ ['>']] else []) ++ tagsFrom (reading opened c) rest

/-- A **tag**: angle brackets, and none between them. -/
def IsTag (tag : List Char) : Prop :=
  ∃ inner, tag = '<' :: inner ++ ['>'] ∧ '<' ∉ inner ∧ '>' ∉ inner

variable {opened tag old new : List Char}

theorem tagsFrom_append (opened s s' : List Char) :
    tagsFrom opened (s ++ s') = tagsFrom opened s ++ tagsFrom (s.foldl reading opened) s' := by
  induction s generalizing opened with
  | nil => rfl
  | cons c rest ih => simp [tagsFrom, ih]

/-- What stands between the brackets of a tag is only kept. -/
theorem tagsFrom_inner {inner : List Char} (hopen : '<' ∉ inner) (hclose : '>' ∉ inner)
    {opened : List Char} (hopened : opened ≠ []) :
    inner.foldl reading opened = opened ++ inner ∧ tagsFrom opened inner = [] := by
  induction inner generalizing opened with
  | nil => simp [tagsFrom]
  | cons c rest ih =>
    rw [List.mem_cons, not_or] at hopen hclose
    have hread : reading opened c = opened ++ [c] := by
      rw [reading, if_neg (Ne.symm hopen.1), if_neg (by simp [hopened, Ne.symm hclose.1])]
    have hmore : opened ++ [c] ≠ [] := by simp
    obtain ⟨hopen', hclose'⟩ := ih hopen.2 hclose.2 hmore
    simp [tagsFrom, hread, hopen', hclose', Ne.symm hclose.1]

/-- **Reading a tag** closes it, whatever was open before it, and leaves nothing open. -/
theorem tagsFrom_tag (htag : IsTag tag) (opened s : List Char) :
    tagsFrom opened (tag ++ s) = tag :: tagsFrom [] s ∧ tag.foldl reading opened = [] := by
  obtain ⟨inner, rfl, hopen, hclose⟩ := htag
  have hstart : ['<'] ≠ [] := by simp
  obtain ⟨hopened, htags⟩ := tagsFrom_inner hopen hclose hstart
  simp [tagsFrom, tagsFrom_append, hopened, htags, reading]

/-- A text without opening brackets has no tags. -/
theorem tagsFrom_of_not_mem {s : List Char} (h : '<' ∉ s) :
    tagsFrom [] s = [] ∧ s.foldl reading [] = [] := by
  induction s with
  | nil => exact ⟨rfl, rfl⟩
  | cons c rest ih =>
    rw [List.mem_cons, not_or] at h
    have hread : reading [] c = [] := by simp [reading, Ne.symm h.1]
    simp [tagsFrom, hread, ih h.2]

/-- A text **completes** a tag of which a part is open before it. -/
def Completes (tag opened s : List Char) : Prop :=
  opened ≠ [] ∧ ∃ rest, tag = opened ++ rest ∧ rest <+: s

theorem not_completes_nil (tag s : List Char) : ¬ Completes tag [] s := fun h => h.1 rfl

/-- A tag that is **completed** behind a character is completed with it, or it begins there. -/
theorem completes_of_reading {c : Char} {s : List Char} (h : Completes tag (reading opened c) s) :
    Completes tag opened (c :: s) ∨ tag <+: c :: s := by
  obtain ⟨hread, rest, heq, hrest⟩ := h
  rw [reading] at hread heq
  split at heq
  · rename_i hstart
    right
    rw [heq, hstart]
    exact List.cons_prefix_cons.mpr ⟨rfl, hrest⟩
  · rename_i hstart
    rw [if_neg hstart] at hread
    split at hread
    · exact absurd rfl hread
    · rename_i hboth
      rw [if_neg hboth] at heq
      rw [not_or] at hboth
      exact Or.inl ⟨hboth.1, c :: rest, by simpa using heq, List.cons_prefix_cons.mpr ⟨rfl, hrest⟩⟩

/-- A tag that is read has been open before, and the text goes on with the rest of it, or it stands
in the text. -/
theorem of_mem_tagsFrom {s : List Char} (h : tag ∈ tagsFrom opened s) :
    Completes tag opened s ∨ tag <:+: s := by
  induction s generalizing opened with
  | nil => cases h
  | cons c rest ih =>
    rw [tagsFrom, List.mem_append] at h
    rcases h with h | h
    · split at h
      · rename_i hclosed
        rw [List.mem_singleton] at h
        exact Or.inl ⟨hclosed.2, ['>'], h, by rw [hclosed.1]; exact ⟨rest, rfl⟩⟩
      · cases h
    · rcases ih h with hcompletes | hinfix
      · exact (completes_of_reading hcompletes).imp_right List.IsPrefix.isInfix
      · exact Or.inr (List.infix_cons hinfix)

theorem mem_tagsFrom_iff (htag : IsTag tag) {s : List Char} :
    tag ∈ tagsFrom [] s ↔ tag <:+: s := by
  constructor
  · intro h
    exact (of_mem_tagsFrom h).resolve_left (not_completes_nil tag s)
  · rintro ⟨s₁, s₂, rfl⟩
    rw [List.append_assoc, tagsFrom_append, (tagsFrom_tag htag _ _).1]
    simp

/-! ### Replacing tags -/

theorem IsTag.ne_nil (htag : IsTag tag) : tag ≠ [] := by
  obtain ⟨inner, rfl, -⟩ := htag
  exact List.cons_ne_nil _ _

/-- Where a tag does not stand at the head of a text, and is not **completed** there, it is not
completed behind the next character either. -/
theorem not_completes_reading {c : Char} {s : List Char} (h : ¬ tag <+: c :: s)
    (hopened : ¬ Completes tag opened (c :: s)) : ¬ Completes tag (reading opened c) s :=
  fun hread => (completes_of_reading hread).elim hopened h

/-- Nor is it the tag that this character closes. -/
theorem ne_of_not_completes {c : Char} {s : List Char} (hopened : ¬ Completes tag opened (c :: s))
    (hclosed : c = '>' ∧ opened ≠ []) : opened ++ ['>'] ≠ tag := by
  obtain ⟨rfl, hne⟩ := hclosed
  exact fun heq => hopened ⟨hne, ['>'], heq.symm, s, rfl⟩

/-- Replacing a tag by another one does so among the tags that are read, and leaves open what was,
if the text does not begin with the rest of a tag to be replaced. -/
theorem tagsFrom_replaceFrom (hold : IsTag old) (hnew : IsTag new) (opened s : List Char)
    (hopened : ¬ Completes old opened s) :
    tagsFrom opened (Text.replaceFrom old new 0 s) =
        (tagsFrom opened s).map (fun tag => if tag = old then new else tag) ∧
      (Text.replaceFrom old new 0 s).foldl reading opened = s.foldl reading opened := by
  induction s using Text.search_induction hold.ne_nil generalizing opened with
  | nil => exact ⟨rfl, rfl⟩
  | found s ih =>
    -- the tag stands here, and is read and replaced as a whole
    obtain ⟨htags, hopen⟩ := ih [] (not_completes_nil _ _)
    rw [Text.replaceFrom_append hold.ne_nil, (tagsFrom_tag hnew _ _).1, (tagsFrom_tag hold _ _).1,
      List.foldl_append, List.foldl_append, (tagsFrom_tag hnew opened []).2,
      (tagsFrom_tag hold opened []).2, htags, hopen]
    simp
  | passed c s hnot ih =>
    obtain ⟨htags, hopen⟩ := ih _ (not_completes_reading hnot hopened)
    rw [Text.replaceFrom_cons hnot, tagsFrom, tagsFrom, htags, List.foldl_cons, List.foldl_cons,
      hopen, List.map_append]
    refine ⟨?_, rfl⟩
    congr 1
    split
    · rename_i hclosed
      simp [ne_of_not_completes hopened hclosed]
    · rfl

/-! ### The tags of a text -/

/-- The **tags** of a text. -/
def tags (s : String) : List (List Char) := tagsFrom [] s.toList

/-- A text is **closed** if no tag is open at its end. -/
def Closed (s : String) : Prop := s.toList.foldl reading [] = []

/-- A directive **stands** in a text. -/
def Stands (directive s : String) : Prop := directive.toList <:+: s.toList

variable {s s' : String}

theorem stands_iff {directive : String} (htag : IsTag directive.toList) :
    Stands directive s ↔ directive.toList ∈ tags s :=
  (mem_tagsFrom_iff htag).symm

theorem tags_append (h : Closed s) (s' : String) : tags (s ++ s') = tags s ++ tags s' := by
  rw [tags, String.toList_append, tagsFrom_append, h]
  rfl

theorem Closed.append (h : Closed s) (h' : Closed s') : Closed (s ++ s') := by
  rw [Closed, String.toList_append, List.foldl_append, h]
  exact h'

theorem tags_of_not_mem (h : '<' ∉ s.toList) : tags s = [] ∧ Closed s := tagsFrom_of_not_mem h

theorem tags_of_isTag (h : IsTag s.toList) : tags s = [s.toList] ∧ Closed s := by
  have hread := tagsFrom_tag h [] []
  rw [List.append_nil] at hread
  exact hread

theorem tags_replaceAll {old new : String} (hold : IsTag old.toList) (hnew : IsTag new.toList)
    (s : String) :
    tags (Text.replaceAll old new s) =
        (tags s).map (fun tag => if tag = old.toList then new.toList else tag) ∧
      (Closed s → Closed (Text.replaceAll old new s)) := by
  obtain ⟨htags, hopen⟩ := tagsFrom_replaceFrom hold hnew [] s.toList (not_completes_nil _ _)
  rw [tags, Closed, Closed, Text.toList_replaceAll, htags, hopen]
  exact ⟨rfl, id⟩

/-! ### The tags that occur -/

/-- There are no brackets in what names a slot. -/
theorem not_mem_digit (slot : Option Slot) :
    '<' ∉ (slot.elim "" Slot.digit).toList ∧ '>' ∉ (slot.elim "" Slot.digit).toList := by
  rcases slot with _ | (_ | _) <;> decide

theorem isTag_save (slot : Option Slot) : IsTag (save slot).toList := by
  obtain ⟨hopen, hclose⟩ := not_mem_digit slot
  refine ⟨"mark name=\"cmd:playback-save,data:\x7b+stateToSAVE+:+MarkupState".toList ++
    ((slot.elim "" Slot.digit).toList ++ "+\x7d\"/".toList), ?_⟩
  unfold save
  simp [hopen, hclose]

theorem isTag_restore (slot : Option Slot) : IsTag (restore slot).toList := by
  obtain ⟨hopen, hclose⟩ := not_mem_digit slot
  refine ⟨"mark name=\"cmd:playback-restore,data:\x7b+stateToRESTORE+:+MarkupState".toList ++
    ((slot.elim "" Slot.digit).toList ++ "+\x7d\"/".toList), ?_⟩
  unfold restore
  simp [hopen, hclose]

theorem isTag_idleAnimation : IsTag StockLine.idleAnimation.text.toList :=
  ⟨"mark name=\"cmd:playback-anim,data:idle\"/".toList, by simp [StockLine.text]⟩

theorem isTag_curiousAnimation : IsTag StockLine.curiousAnimation.text.toList :=
  ⟨"mark name=\"cmd:playback-anim,data:curious\"/".toList, by simp [StockLine.text]⟩

/-- Directives with the same command name the same slot, whatever follows them. -/
theorem eq_of_digit {slot other : Option Slot} {s s' : List Char}
    (h : (slot.elim "" Slot.digit).toList ++ ("+\x7d\"/>".toList ++ s) =
      (other.elim "" Slot.digit).toList ++ ("+\x7d\"/>".toList ++ s')) : slot = other := by
  have hhead := congrArg List.head? h
  rcases slot with _ | (_ | _) <;> rcases other with _ | (_ | _) <;>
    first
    | rfl
    | simp [Slot.digit] at hhead

theorem eq_of_save_append {slot other : Option Slot} {s s' : String}
    (h : save slot ++ s = save other ++ s') : slot = other := by
  unfold save at h
  generalize "<mark name=\"cmd:playback-save,data:\x7b+stateToSAVE+:+MarkupState" = name at h
  have hlists := congrArg String.toList h
  simp only [String.toList_append, List.append_assoc, List.append_cancel_left_eq] at hlists
  exact eq_of_digit hlists

theorem eq_of_restore_append {slot other : Option Slot} {s s' : String}
    (h : restore slot ++ s = restore other ++ s') : slot = other := by
  unfold restore at h
  generalize "<mark name=\"cmd:playback-restore,data:\x7b+stateToRESTORE+:+MarkupState" = name
    at h
  have hlists := congrArg String.toList h
  simp only [String.toList_append, List.append_assoc, List.append_cancel_left_eq] at hlists
  exact eq_of_digit hlists

theorem toList_save_inj {slot other : Option Slot} :
    (save slot).toList = (save other).toList ↔ slot = other :=
  ⟨fun h => eq_of_save_append (congrArg (· ++ "") (String.toList_inj.mp h)), fun h => by rw [h]⟩

theorem toList_restore_inj {slot other : Option Slot} :
    (restore slot).toList = (restore other).toList ↔ slot = other :=
  ⟨fun h => eq_of_restore_append (congrArg (· ++ "") (String.toList_inj.mp h)), fun h => by rw [h]⟩

/-- The letter that tells what a tag commands, after the beginning that all of them share. -/
def commandLetter (tag : List Char) : Option Char := tag[25]?

theorem commandLetter_save (slot : Option Slot) : commandLetter (save slot).toList = some 's' := by
  unfold save
  simp [commandLetter]

theorem commandLetter_restore (slot : Option Slot) :
    commandLetter (restore slot).toList = some 'r' := by
  unfold restore
  simp [commandLetter]

theorem commandLetter_idleAnimation :
    commandLetter StockLine.idleAnimation.text.toList = some 'a' := by
  simp [commandLetter, StockLine.text]

theorem commandLetter_curiousAnimation :
    commandLetter StockLine.curiousAnimation.text.toList = some 'a' := by
  simp [commandLetter, StockLine.text]

end Colloquy.Markup

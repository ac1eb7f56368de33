/-!
# Finding and replacing inside a text

Texts are searched character by character from the left, and what has been matched once is not
looked at again. Two operations are here: **replacing** every occurrence of a fixed piece, and
**cutting** a text at the first occurrence of a character.
-/

namespace Colloquy.Text

/-- Replaces the occurrences of `old` by `new`. The count says how many of the coming characters
belong to an occurrence that has been replaced already. -/
def replaceFrom (old new : List Char) : Nat → List Char → List Char
  | _, [] => []
  | passed + 1, _ :: rest => replaceFrom old new passed rest
  | 0, c :: rest =>
    if old.isPrefixOf (c :: rest) then new ++ replaceFrom old new (old.length - 1) rest
    else c :: replaceFrom old new 0 rest

/-- The text with every occurrence of `old`, found from the left without overlap, **replaced** by
`new`. -/
def replaceAll (old new s : String) : String :=
  String.ofList (replaceFrom old.toList new.toList 0 s.toList)

@[simp] theorem toList_replaceAll (old new s : String) :
    (replaceAll old new s).toList = replaceFrom old.toList new.toList 0 s.toList := by
  simp [replaceAll]

section Replace

variable {old : List Char}

/-- What is passed over is what has been replaced already. -/
theorem replaceFrom_eq_drop (old new : List Char) (passed : Nat) (s : List Char) :
    replaceFrom old new passed s = replaceFrom old new 0 (s.drop passed) := by
  induction s generalizing passed with
  | nil => cases passed <;> rfl
  | cons c rest ih =>
    cases passed with
    | zero => rfl
    | succ passed =>
      rw [replaceFrom, ih]
      rfl

/-- What is looked for is replaced where it **stands**. -/
theorem replaceFrom_append (hold : old ≠ []) (new s : List Char) :
    replaceFrom old new 0 (old ++ s) = new ++ replaceFrom old new 0 s := by
  obtain ⟨c, rest, rfl⟩ := List.exists_cons_of_ne_nil hold
  have hprefix : (c :: rest).isPrefixOf (c :: (rest ++ s)) = true :=
    List.isPrefixOf_iff_prefix.mpr ⟨s, rfl⟩
  rw [List.cons_append, replaceFrom, if_pos hprefix, replaceFrom_eq_drop]
  simp

theorem replaceFrom_cons {c : Char} {s : List Char} (h : ¬ old <+: c :: s) (new : List Char) :
    replaceFrom old new 0 (c :: s) = c :: replaceFrom old new 0 s := by
  rw [replaceFrom, if_neg fun hprefix => h (List.isPrefixOf_iff_prefix.mp hprefix)]

/-- Texts are **searched** from the left: what is looked for stands at the head and is taken as a
whole, or it does not and one character is passed. -/
@[elab_as_elim]
theorem search_induction {motive : List Char → Prop} (hold : old ≠ []) (nil : motive [])
    (found : ∀ s, motive s → motive (old ++ s))
    (passed : ∀ c s, ¬ old <+: c :: s → motive s → motive (c :: s)) (s : List Char) :
    motive s := by
  induction hlength : s.length using Nat.strongRecOn generalizing s with
  | _ length ih =>
    subst hlength
    cases s with
    | nil => exact nil
    | cons c rest =>
      by_cases hprefix : old <+: c :: rest
      · obtain ⟨after, hafter⟩ := hprefix
        have hshort : after.length < (c :: rest).length := by
          rw [← hafter, List.length_append]
          exact Nat.lt_add_of_pos_left (List.length_pos_iff.mpr hold)
        rw [← hafter]
        exact found after (ih _ hshort after rfl)
      · exact passed c rest hprefix (ih _ (Nat.lt_succ_self _) rest rfl)

end Replace

/-- What stands before the first `mark`, or the whole text if there is none. -/
def before (mark : Char) (s : String) : String := String.ofList (s.toList.takeWhile (· ≠ mark))

@[simp] theorem toList_before (mark : Char) (s : String) :
    (before mark s).toList = s.toList.takeWhile (· ≠ mark) := by
  simp [before]

/-- The two sides of the first `mark`, if there is one. -/
def cutAt? (mark : Char) (s : String) : Option (String × String) :=
  match s.toList.dropWhile (· ≠ mark) with
  | [] => none
  | _ :: rest => some (before mark s, String.ofList rest)

section Mark

variable {mark : Char} {s : List Char} (h : mark ∉ s)
include h

/-- A text without the mark is passed over when the mark is looked for. -/
theorem decide_ne_of_not_mem : ∀ c ∈ s, decide (c ≠ mark) = true :=
  fun _ hc => decide_eq_true fun heq => h (heq ▸ hc)

theorem takeWhile_ne_append (rest : List Char) : (s ++ mark :: rest).takeWhile (· ≠ mark) = s := by
  rw [List.takeWhile_append_of_pos (decide_ne_of_not_mem h), List.takeWhile_cons_of_neg (by simp),
    List.append_nil]

theorem dropWhile_ne_append (rest : List Char) :
    (s ++ mark :: rest).dropWhile (· ≠ mark) = mark :: rest := by
  rw [List.dropWhile_append_of_pos (decide_ne_of_not_mem h), List.dropWhile_cons_of_neg (by simp)]

theorem takeWhile_ne_eq_self : s.takeWhile (· ≠ mark) = s := by
  have hall : (s ++ []).takeWhile (· ≠ mark) = s ++ [].takeWhile (· ≠ mark) :=
    List.takeWhile_append_of_pos (decide_ne_of_not_mem h)
  rwa [List.append_nil, List.takeWhile_nil, List.append_nil] at hall

theorem dropWhile_ne_eq_nil : s.dropWhile (· ≠ mark) = [] := by
  have hall : (s ++ []).dropWhile (· ≠ mark) = [].dropWhile (· ≠ mark) :=
    List.dropWhile_append_of_pos (decide_ne_of_not_mem h)
  rwa [List.append_nil, List.dropWhile_nil] at hall

end Mark

/-- **Cutting** at a mark that stands behind a text without it gives the two sides. -/
theorem cutAt?_append {mark : Char} {s : String} (h : mark ∉ s.toList) (rest : String) :
    cutAt? mark (s ++ String.singleton mark ++ rest) = some (s, rest) := by
  have hwhole : (s ++ String.singleton mark ++ rest).toList = s.toList ++ mark :: rest.toList := by
    simp
  rw [cutAt?, before, hwhole, dropWhile_ne_append h, takeWhile_ne_append h]
  simp only [String.ofList_toList]

/-- A text without the mark cannot be cut at it. -/
theorem cutAt?_eq_none {mark : Char} {s : String} (h : mark ∉ s.toList) : cutAt? mark s = none := by
  rw [cutAt?, dropWhile_ne_eq_nil h]

/-- The **pieces** of a text between the occurrences of a character, of which there is always one
less. -/
def pieces (mark : Char) : List Char → List (List Char)
  | [] => [[]]
  | c :: rest =>
    if c = mark then [] :: pieces mark rest
    else match pieces mark rest with
      | piece :: more => (c :: piece) :: more
      | [] => [[c]]

/-- The **lines** of a text: the pieces between its line feeds, of which the last one counts only
if it is not empty. -/
def lines (s : String) : List String :=
  let all := pieces '\n' s.toList
  (if all.getLast? = some [] then all.dropLast else all).map String.ofList

end Colloquy.Text

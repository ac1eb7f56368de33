import Colloquy.Text.Span

/-!
# Blank characters and trimming

A character is **blank** when it has the Unicode property `White_Space`. Trimming removes blanks
at both ends of a text and nothing inside it.
-/

namespace Colloquy.Text

/-- The code points with the property `White_Space`. -/
def blankSpans : Spans := [
  (0x9, 0xD), (0x20, 0x20), (0x85, 0x85), (0xA0, 0xA0), (0x1680, 0x1680), (0x2000, 0x200A),
  (0x2028, 0x2029), (0x202F, 0x202F), (0x205F, 0x205F), (0x3000, 0x3000)]

/-- Whether the character is **blank**. -/
def isBlank (c : Char) : Bool := blankSpans.holds c

/-- The characters of a text without the blanks at either end. -/
def trimChars (s : List Char) : List Char :=
  ((s.dropWhile isBlank).reverse.dropWhile isBlank).reverse

/-- The text without the blanks at either end. -/
def trim (s : String) : String := String.ofList (trimChars s.toList)

@[simp] theorem toList_trim (s : String) : (trim s).toList = trimChars s.toList := by
  simp [trim]

/-- Whether the text holds nothing but blanks. -/
def allBlank (s : String) : Bool := s.toList.all isBlank

/-- Nothing is left of a text by trimming exactly when all its characters are blank. -/
theorem trimChars_eq_nil_iff {s : List Char} :
    trimChars s = [] ↔ ∀ c ∈ s, isBlank c = true := by
  have all_of_drop : ∀ t : List Char, t.dropWhile isBlank = [] ↔ ∀ c ∈ t, isBlank c = true := by
    intro t
    induction t with
    | nil => simp
    | cons c t ih => by_cases h : isBlank c = true <;> simp [h, ih]
  simp only [trimChars, List.reverse_eq_nil_iff, all_of_drop, List.mem_reverse]
  constructor
  · intro h
    refine (all_of_drop s).1 ?_
    cases hd : s.dropWhile isBlank with
    | nil => rfl
    | cons c r =>
      have hc : isBlank c = true := h c (by simp [hd])
      have := List.head_dropWhile_not isBlank (l := s) (by simp [hd])
      simp [hd, hc] at this
  · intro h c hc
    exact h c ((List.dropWhile_suffix isBlank).subset hc)

end Colloquy.Text

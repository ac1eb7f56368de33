/-!
# Character classes as spans of code points

A class of characters that a standard lists by ranges is kept as a list of **spans**, each a pair
of a first and a last code point, both included. Membership is decided by looking through the
list. Nothing is assumed about the order of the spans.
-/

namespace Colloquy.Text

/-- A list of **spans** of code points, both ends of each included. -/
abbrev Spans := List (Nat × Nat)

/-- Whether the code point of the character lies in one of the spans. -/
def Spans.holds (spans : Spans) (c : Char) : Bool :=
  spans.any fun span => span.1 ≤ c.toNat && c.toNat ≤ span.2

/-- A character is in the class exactly when some span reaches over its code point. -/
theorem Spans.holds_iff {spans : Spans} {c : Char} :
    spans.holds c = true ↔ ∃ span ∈ spans, span.1 ≤ c.toNat ∧ c.toNat ≤ span.2 := by
  simp [Spans.holds]

end Colloquy.Text

import Mathlib
import Colloquy.Json.Draft

/-!
# The tokens of JSON

The grammar of what a text is made of: the **blanks** between the tokens, **strings**, and
**numbers**. For the last two it is shown that reading and the grammar agree. What is read to its end
is a text of the grammar, and such a text is read to its end, whatever follows it; only a number has
to be followed by something that does not continue it (`Draft.Ends`).

What a string spells may be no text, when half a surrogate pair stands in it, and what a number spells
may be out of range. Both still have an end.
-/

namespace Colloquy.Json.Draft

/-! ### Blanks -/

/-- Nothing but **blanks**. -/
def Blanks (w : List Char) : Prop := ∀ c ∈ w, isSpace c = true

theorem blanks_nil : Blanks [] := fun _ hc => absurd hc List.not_mem_nil

theorem skipSpace_append {w : List Char} (h : Blanks w) (s : List Char) :
    skipSpace (w ++ s) = skipSpace s := by
  induction w with
  | nil => rfl
  | cons c w ih =>
    have hc : isSpace c = true := h c List.mem_cons_self
    rw [List.cons_append, skipSpace, List.dropWhile_cons_of_pos hc]
    exact ih fun d hd => h d (List.mem_cons_of_mem c hd)

theorem Blanks.skipSpace {w : List Char} (h : Blanks w) : skipSpace w = [] := by
  rw [← List.append_nil w, skipSpace_append h]
  rfl

theorem skipSpace_cons {c : Char} (h : isSpace c = false) (s : List Char) :
    skipSpace (c :: s) = c :: s :=
  List.dropWhile_cons_of_neg (by rw [h]; decide)

/-- A text is the blanks at its head and what comes after them. -/
theorem exists_blanks (s : List Char) : ∃ w, Blanks w ∧ s = w ++ skipSpace s :=
  ⟨s.takeWhile isSpace, fun _ hc => List.mem_takeWhile_imp hc, List.takeWhile_append_dropWhile.symm⟩

theorem isSpace_of_skipSpace {s r : List Char} {c : Char} (h : skipSpace s = c :: r) :
    isSpace c = false := by
  have hhead := List.head?_dropWhile_not isSpace s
  rw [← skipSpace.eq_def, h] at hhead
  exact hhead

theorem skipSpace_idem (s : List Char) : skipSpace (skipSpace s) = skipSpace s := by
  cases h : skipSpace s with
  | nil => rfl
  | cons c r => exact skipSpace_cons (isSpace_of_skipSpace h) r

/-! ### Strings -/

/-- The text of a **string** behind its opening quote, with the closing one. -/
inductive Quoted : List Char → Prop where
  | close : Quoted ['"']
  | unit {a b c d : Char} {p : List Char} (h : (unit? a b c d).isSome = true) (rest : Quoted p) :
      Quoted ('\\' :: 'u' :: a :: b :: c :: d :: p)
  | escape {c : Char} {p : List Char} (h : (escaped? c).isSome = true) (rest : Quoted p) :
      Quoted ('\\' :: c :: p)
  | plain {c : Char} {p : List Char} (hquote : c ≠ '"') (hslash : c ≠ '\\') (h : ¬ c.toNat < 0x20)
      (rest : Quoted p) : Quoted (c :: p)

/-- The string that such a text spells. -/
def lexemeOf (p : List Char) : Lexeme String := ⟨(spell p).map String.ofList, none⟩

theorem ne_u_of_escaped? {c : Char} (h : (escaped? c).isSome = true) : c ≠ 'u' := by
  rintro rfl
  cases h

section

variable {c : Char}

theorem passOver_escape (hu : c ≠ 'u') (s : List Char) :
    passOver ('\\' :: c :: s) =
      if (escaped? c).isSome then passOver s else .error .malformed := by
  rw [passOver]
  · exact fun _ _ _ _ _ hc => absurd hc hu
  · exact hu

theorem spell_escape (hu : c ≠ 'u') (s : List Char) :
    spell ('\\' :: c :: s) = match escaped? c with
      | some d => (spell s).map (d :: ·)
      | none => .error .malformed := by
  cases hescape : escaped? c <;> simp [spell, hu, hescape]

theorem spell_pair {a b d a' b' c' d' : Char} {n : Nat} (hunit : unit? a b c d = some n)
    (htrailing : isTrailing n = false) (hleading : isLeading n = true) (s : List Char) :
    spell ('\\' :: 'u' :: a :: b :: c :: d :: '\\' :: 'u' :: a' :: b' :: c' :: d' :: s) =
      match unit? a' b' c' d' with
      | none => .error .malformed
      | some m => if isTrailing m then (spell s).map (joined n m :: ·) else .error .malformed := by
  rw [spell, hunit]
  dsimp only
  rw [htrailing, hleading, if_neg (by decide), if_pos rfl]
  rfl

/-- The first half of a surrogate pair needs an escaped unit behind it. -/
theorem spell_leading {a b d e : Char} {n : Nat} (hunit : unit? a b c d = some n)
    (htrailing : isTrailing n = false) (hleading : isLeading n = true) {s : List Char}
    (hs : e = '\\' → ∃ f r, s = f :: r ∧ f ≠ 'u') :
    spell ('\\' :: 'u' :: a :: b :: c :: d :: e :: s) = .error .malformed := by
  have hnot (r : List Char) : e :: s ≠ '\\' :: 'u' :: r := by
    intro heq
    obtain ⟨he, hrest⟩ := List.cons.inj heq
    obtain ⟨f, r', rfl, hf⟩ := hs he
    exact hf (List.cons.inj hrest).1
  rw [spell, hunit]
  dsimp only
  rw [htrailing, hleading, if_neg (by decide), if_pos rfl]
  split
  case h_1 heq => exact absurd heq (hnot _)
  case h_2 heq => exact absurd heq (hnot _)
  case h_3 heq =>
    obtain ⟨he, hnil⟩ := List.cons.inj heq
    obtain ⟨f, r, rfl, -⟩ := hs he
    cases hnil
  case h_4 heq => cases heq
  case h_5 => rfl

theorem passOver_plain (hquote : c ≠ '"') (hslash : c ≠ '\\') (s : List Char) :
    passOver (c :: s) = if c.toNat < 0x20 then .error .malformed else passOver s := by
  rw [passOver]
  · exact hquote
  all_goals
    intros
    exact hslash ‹_›

theorem spell_plain (hquote : c ≠ '"') (hslash : c ≠ '\\') (s : List Char) :
    spell (c :: s) = if c.toNat < 0x20 then .error .malformed else (spell s).map (c :: ·) := by
  rw [spell]
  · exact hquote
  all_goals
    intros
    exact hslash ‹_›

end

/-- A string is passed over to its end, whatever follows. -/
theorem Quoted.passOver_append {p : List Char} (h : Quoted p) (t : List Char) :
    passOver (p ++ t) = .ok t := by
  induction h with
  | close => rw [List.singleton_append, passOver]
  | unit hunit _ ih =>
    simp only [List.cons_append]
    rw [passOver, if_pos hunit, ih]
  | escape hescape _ ih =>
    simp only [List.cons_append]
    rw [passOver_escape (ne_u_of_escaped? hescape), if_pos hescape, ih]
  | plain hquote hslash hcontrol _ ih =>
    rw [List.cons_append, passOver_plain hquote hslash, if_neg hcontrol, ih]

/-- Whatever is passed over as a string is the text of one. -/
theorem exists_quoted_of_passOver {s r : List Char} (h : passOver s = .ok r) :
    ∃ p, Quoted p ∧ s = p ++ r := by
  fun_induction passOver s with
  | case2 s =>
    cases h
    exact ⟨['"'], .close, rfl⟩
  | case3 a b c d s hunit ih =>
    obtain ⟨p, hp, rfl⟩ := ih h
    exact ⟨_, .unit hunit hp, rfl⟩
  | case7 c s _ _ hescape ih =>
    obtain ⟨p, hp, rfl⟩ := ih h
    exact ⟨_, .escape hescape hp, rfl⟩
  | case10 c s hquote _ _ hend hslash hcontrol ih =>
    obtain ⟨p, hp, rfl⟩ := ih h
    refine ⟨_, .plain hquote (fun hc => ?_) hcontrol hp, rfl⟩
    cases hs : p ++ r with
    | nil => exact hend hc hs
    | cons d s => exact hslash d s hc hs
  | _ => cases h

/-- What a string spells does not depend on what follows it. The first half of a surrogate pair is
read together with the second one, so this is shown of what comes behind a unit as well. -/
theorem Quoted.spell_append {p : List Char} (h : Quoted p) (t : List Char) :
    spell (p ++ t) = spell p ∧
      ∀ a b c d q, p = '\\' :: 'u' :: a :: b :: c :: d :: q → spell (q ++ t) = spell q := by
  induction h with
  | close => exact ⟨by simp [spell], by simp⟩
  | @unit a b c d p hunit hp ih =>
    refine ⟨?_, fun a b c d q hq => ?_⟩
    · simp only [List.cons_append]
      cases hnumber : unit? a b c d with
      | none => rw [spell, spell, hnumber]
      | some n =>
        cases htrailing : isTrailing n with
        | true =>
          rw [spell, spell, hnumber]
          dsimp only
          rw [htrailing, if_pos rfl, if_pos rfl]
        | false =>
          cases hleading : isLeading n with
          | false =>
            rw [spell, spell, hnumber, ih.1]
            dsimp only
            rw [hleading]
            rfl
          | true =>
            -- what comes behind the first half has to be looked at
            have hnone {e : Char} {s : List Char}
                (hs : e = '\\' → ∃ f r, s = f :: r ∧ f ≠ 'u') :=
              spell_leading hnumber htrailing hleading hs
            cases hp with
            | close =>
              rw [List.singleton_append, hnone (by simp), hnone (by simp)]
            | unit =>
              simp only [List.cons_append]
              rw [spell_pair hnumber htrailing hleading, spell_pair hnumber htrailing hleading,
                ih.2 _ _ _ _ _ rfl]
            | escape hescape =>
              have hu := ne_u_of_escaped? hescape
              simp only [List.cons_append]
              rw [hnone fun _ => ⟨_, _, rfl, hu⟩, hnone fun _ => ⟨_, _, rfl, hu⟩]
            | plain _ hslash =>
              rw [List.cons_append, hnone (absurd · hslash), hnone (absurd · hslash)]
    · obtain ⟨-, -, -, -, -, -, rfl⟩ := by simpa using hq
      exact ih.1
  | @escape c p hescape hp ih =>
    have hu := ne_u_of_escaped? hescape
    refine ⟨?_, fun a b c d q hq => ?_⟩
    · simp only [List.cons_append]
      rw [spell_escape hu, spell_escape hu, ih.1]
    · exact absurd (List.cons.inj (List.cons.inj hq).2).1 hu
  | plain hquote hslash hcontrol hp ih =>
    refine ⟨?_, fun a b c d q hq => ?_⟩
    · rw [List.cons_append, spell_plain hquote hslash, spell_plain hquote hslash, ih.1]
    · exact absurd (List.cons.inj hq).1 hslash

theorem readString_append {p : List Char} (h : Quoted p) (t : List Char) :
    readString (p ++ t) = (lexemeOf p, some t) := by
  rw [readString, h.passOver_append, (h.spell_append t).1, lexemeOf]

theorem exists_quoted_of_readString {s r : List Char} {lexeme : Lexeme String}
    (h : readString s = (lexeme, some r)) :
    ∃ p, Quoted p ∧ s = p ++ r ∧ lexeme = lexemeOf p := by
  rw [readString] at h
  cases hpass : passOver s with
  | error flaw =>
    rw [hpass] at h
    cases h
  | ok rest =>
    obtain ⟨p, hp, rfl⟩ := exists_quoted_of_passOver hpass
    rw [hpass] at h
    cases h
    exact ⟨p, hp, rfl, by rw [(hp.spell_append r).1, lexemeOf]⟩

/-! ### Numbers -/

/-- A row of **digits**. -/
structure Digits (digits : List Char) : Prop where
  ne_nil : digits ≠ []
  isDigit : ∀ c ∈ digits, c.isDigit = true

theorem ne_of_isDigit {c d : Char} (hc : c.isDigit = true) (hd : d.isDigit = false) : c ≠ d := by
  rintro rfl
  rw [hc] at hd
  cases hd

theorem isSpace_of_isDigit {c : Char} (hc : c.isDigit = true) : isSpace c = false := by
  simp [isSpace, ne_of_isDigit hc]

/-- No digit stands at the head of the text. -/
def Undigited (t : List Char) : Prop := ∀ c ∈ t.head?, c.isDigit = false

theorem digits_takeWhile {s : List Char} (h : s.takeWhile Char.isDigit ≠ []) :
    Digits (s.takeWhile Char.isDigit) :=
  ⟨h, fun _ hc => List.mem_takeWhile_imp hc⟩

theorem takeWhile_of_undigited {t : List Char} (h : Undigited t) :
    t.takeWhile Char.isDigit = [] ∧ t.dropWhile Char.isDigit = t := by
  cases t with
  | nil => exact ⟨rfl, rfl⟩
  | cons c t =>
    have hc : ¬ c.isDigit = true := by
      rw [h c rfl]
      decide
    exact ⟨List.takeWhile_cons_of_neg hc, List.dropWhile_cons_of_neg hc⟩

theorem Digits.takeWhile_append {digits t : List Char} (h : Digits digits) (ht : Undigited t) :
    (digits ++ t).takeWhile Char.isDigit = digits := by
  rw [List.takeWhile_append_of_pos h.isDigit, (takeWhile_of_undigited ht).1, List.append_nil]

theorem Digits.dropWhile_append {digits t : List Char} (h : Digits digits) (ht : Undigited t) :
    (digits ++ t).dropWhile Char.isDigit = t := by
  rw [List.dropWhile_append_of_pos h.isDigit, (takeWhile_of_undigited ht).2]

/-- The sign of an **exponent**, and whether it points down. -/
inductive Sign : List Char → Bool → Prop where
  | none : Sign [] false
  | plus : Sign ['+'] false
  | minus : Sign ['-'] true

/-- The text of the **exponent** of a number. -/
inductive Exponent : Option (Bool × List Char) → List Char → Prop where
  | none : Exponent none []
  | some {mark : Char} {sign digits : List Char} {down : Bool} (hmark : mark = 'e' ∨ mark = 'E')
      (hsign : Sign sign down) (h : Digits digits) :
      Exponent (some (down, digits)) (mark :: (sign ++ digits))

/-- The text of the **fraction** of a number. -/
inductive Fraction : Option (List Char) → List Char → Prop where
  | none : Fraction none []
  | some {digits : List Char} (h : Digits digits) : Fraction (some digits) ('.' :: digits)

/-- The digits of a number before its point: no zero before another digit. -/
structure Whole (digits : List Char) : Prop extends Digits digits where
  leading : digits.head? = some '0' → digits.length = 1

/-- The draft of a number by its parts. -/
def numeralOf (negative : Bool) (whole : List Char) (fraction : Option (List Char))
    (exponent : Option (Bool × List Char)) : Draft :=
  .number ⟨(Numeral.value ⟨negative, whole, fraction, exponent⟩).elim (.error .malformed) .ok, none⟩

/-- What may follow a number: nothing that **continues** it. -/
def Ends (t : List Char) : Prop := ∀ c ∈ t.head?, c.isDigit = false ∧ c ≠ '.' ∧ c ≠ 'e' ∧ c ≠ 'E'

theorem Ends.undigited {t : List Char} (h : Ends t) : Undigited t := fun c hc => (h c hc).1

section

variable {negative : Bool} {whole : List Char} {fraction : Option (List Char)}
  {exponent : Option (Bool × List Char)}

theorem readExponent_append {q t : List Char} (h : Exponent exponent q) (ht : Ends t) :
    readExponent negative whole fraction (q ++ t) =
      (numeralOf negative whole fraction exponent, some t) := by
  cases h with
  | none =>
    cases t with
    | nil => rfl
    | cons c t =>
      obtain ⟨-, -, he, hE⟩ := ht c rfl
      rw [List.nil_append, readExponent.eq_def]
      exact if_neg (not_or.mpr ⟨he, hE⟩)
  | @some mark sign digits down hmark hsign hdigits =>
    have htake := hdigits.takeWhile_append ht.undigited
    have hdrop := hdigits.dropWhile_append ht.undigited
    have hne := hdigits.ne_nil
    rw [List.cons_append, List.append_assoc, readExponent.eq_def]
    dsimp only
    rw [if_pos hmark]
    cases hsign with
    | plus | minus =>
      simp only [List.cons_append, List.nil_append, htake, hdrop]
      rw [if_neg hne, numeralOf]
    | none =>
      obtain ⟨c, digits, rfl⟩ := List.exists_cons_of_ne_nil hne
      have hc := hdigits.isDigit c List.mem_cons_self
      rw [List.nil_append]
      split
      case h_1 rest hrest => exact absurd (List.cons.inj hrest).1 (ne_of_isDigit hc rfl)
      case h_2 rest hrest => exact absurd (List.cons.inj hrest).1 (ne_of_isDigit hc rfl)
      case h_3 =>
        dsimp only
        rw [htake, hdrop, if_neg hne, numeralOf]

theorem exists_exponent_of_readExponent {s r : List Char} {d : Draft}
    (h : readExponent negative whole fraction s = (d, some r)) :
    ∃ exponent q, Exponent exponent q ∧ s = q ++ r ∧
      d = numeralOf negative whole fraction exponent := by
  rw [readExponent.eq_def] at h
  cases s with
  | nil =>
    cases h
    exact ⟨none, [], .none, rfl, rfl⟩
  | cons c s =>
    dsimp only at h
    split at h
    · rename_i hmark
      -- what is left once the sign has been read
      have hread (sign rest : List Char) (down : Bool) (hsign : Sign sign down) :
          (if rest.takeWhile Char.isDigit = [] then (digitless rest, none)
            else (numeralOf negative whole fraction (some (down, rest.takeWhile Char.isDigit)),
              some (rest.dropWhile Char.isDigit))) = (d, some r) →
            ∃ exponent q, Exponent exponent q ∧ c :: (sign ++ rest) = q ++ r ∧
              d = numeralOf negative whole fraction exponent := by
        intro h
        split at h
        · cases h
        · rename_i hne
          cases h
          refine ⟨_, _, .some hmark hsign (digits_takeWhile hne), ?_, rfl⟩
          rw [List.cons_append, List.append_assoc, List.takeWhile_append_dropWhile]
      split at h
      case h_1 rest => exact hread ['+'] rest false .plus h
      case h_2 rest => exact hread ['-'] rest true .minus h
      case h_3 => exact hread [] s false .none h
    · cases h
      exact ⟨none, [], .none, rfl, rfl⟩

theorem Exponent.follows {q t : List Char} (h : Exponent exponent q) (ht : Ends t) :
    ∀ c ∈ (q ++ t).head?, c.isDigit = false ∧ c ≠ '.' := by
  intro c hc
  cases h with
  | none => exact ⟨(ht c hc).1, (ht c hc).2.1⟩
  | some hmark =>
    cases hc
    rcases hmark with rfl | rfl <;> decide

theorem readUnsigned_append {p q t : List Char} (hwhole : Whole whole)
    (hfraction : Fraction fraction p) (hexponent : Exponent exponent q) (ht : Ends t) :
    readUnsigned negative (whole ++ (p ++ (q ++ t))) =
      (numeralOf negative whole fraction exponent, some t) := by
  have hfollows := hexponent.follows ht
  have hundigited : Undigited (p ++ (q ++ t)) := by
    intro c hc
    cases hfraction with
    | none => exact (hfollows c hc).1
    | some =>
      cases hc
      rfl
  have hleading : ¬ (whole.head? = some '0' ∧ whole.length ≠ 1) := fun h => h.2 (hwhole.leading h.1)
  rw [readUnsigned.eq_def]
  dsimp only
  rw [hwhole.takeWhile_append hundigited, hwhole.dropWhile_append hundigited, if_neg hwhole.ne_nil,
    if_neg hleading]
  cases hfraction with
  | none =>
    rw [List.nil_append]
    split
    · rename_i s hs
      exact absurd rfl (hfollows '.' (by rw [hs]; rfl)).2
    · exact readExponent_append hexponent ht
  | @some digits hdigits =>
    have hafter : Undigited (q ++ t) := fun c hc => (hfollows c hc).1
    simp only [List.cons_append]
    rw [hdigits.takeWhile_append hafter, hdigits.dropWhile_append hafter, if_neg hdigits.ne_nil]
    exact readExponent_append hexponent ht

theorem exists_numeral_of_readUnsigned {s r : List Char} {d : Draft}
    (h : readUnsigned negative s = (d, some r)) :
    ∃ whole fraction exponent p q, Whole whole ∧ Fraction fraction p ∧ Exponent exponent q ∧
      s = whole ++ (p ++ (q ++ r)) ∧ d = numeralOf negative whole fraction exponent := by
  rw [readUnsigned.eq_def] at h
  dsimp only at h
  split at h
  · cases h
  rename_i hne
  split at h
  · cases h
  rename_i hleading
  have hwhole : Whole (s.takeWhile Char.isDigit) :=
    ⟨digits_takeWhile hne, fun hhead => by_contra fun hlength => hleading ⟨hhead, hlength⟩⟩
  have hs : s = s.takeWhile Char.isDigit ++ s.dropWhile Char.isDigit :=
    List.takeWhile_append_dropWhile.symm
  split at h
  · rename_i s' hrest
    split at h
    · cases h
    · rename_i hdigits
      obtain ⟨exponent, q, hexponent, hq, rfl⟩ := exists_exponent_of_readExponent h
      refine ⟨_, _, exponent, _, q, hwhole, .some (digits_takeWhile hdigits), hexponent, ?_, rfl⟩
      rw [List.cons_append, ← hq, List.takeWhile_append_dropWhile, ← hrest]
      exact hs
  · obtain ⟨exponent, q, hexponent, hq, rfl⟩ := exists_exponent_of_readExponent h
    exact ⟨_, none, exponent, [], q, hwhole, .none, hexponent, hq ▸ hs, rfl⟩

end

end Colloquy.Json.Draft

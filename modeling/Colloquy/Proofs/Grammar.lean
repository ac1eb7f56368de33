import Colloquy.Proofs.Tokens

/-!
# The grammar of JSON

A draft that lacks nothing comes from a text of a certain form, and that form is the **grammar** of
JSON (`Draft.Spells`): a value, and the items of an array or the members of an object up to the
bracket that closes them. The grammar says what a text looks like and nothing of how it is read.

Reading and the grammar agree. Whatever is read to its end, behind blanks, is a text of the grammar
(`Draft.exists_spells_of_read`), and a text of the grammar is read as what it spells, to its end and
no further, whatever follows it (`Draft.Spells.read`); only a number has to be followed by something
that does not continue it. So what has been read does not depend on what comes behind it.
-/

namespace Colloquy.Json.Draft

/-! ### Values -/

/-- What a text of the grammar may **spell**: a value, or the items of an array or the members of an
object. -/
inductive Part where
  | value (d : Draft)
  | items (parts : List Draft)
  | members (parts : List (Lexeme String × Draft))

/-- The minus sign of a number, if it has one. -/
def minus (negative : Bool) : List Char := if negative then ['-'] else []

/-- The **grammar** of JSON. Items and members are spelled with the bracket that closes them. -/
inductive Spells : Part → List Char → Prop where
  | null : Spells (.value (.null none)) ['n', 'u', 'l', 'l']
  | yes : Spells (.value (.bool true none)) ['t', 'r', 'u', 'e']
  | no : Spells (.value (.bool false none)) ['f', 'a', 'l', 's', 'e']
  | number {negative : Bool} {whole p q : List Char} {fraction : Option (List Char)}
      {exponent : Option (Bool × List Char)} (hwhole : Whole whole) (hfraction : Fraction fraction p)
      (hexponent : Exponent exponent q) :
      Spells (.value (numeralOf negative whole fraction exponent))
        (minus negative ++ (whole ++ (p ++ q)))
  | string {p : List Char} (h : Quoted p) : Spells (.value (.string (lexemeOf p))) ('"' :: p)
  | emptyArray {w : List Char} (h : Blanks w) :
      Spells (.value (.array [] none)) ('[' :: (w ++ [']']))
  | array {items : List Draft} {p : List Char} (h : Spells (.items items) p) :
      Spells (.value (.array items none)) ('[' :: p)
  | emptyObject {w : List Char} (h : Blanks w) :
      Spells (.value (.object [] none)) ('{' :: (w ++ ['}']))
  | object {members : List (Lexeme String × Draft)} {p : List Char}
      (h : Spells (.members members) p) : Spells (.value (.object members none)) ('{' :: p)
  | lastItem {item : Draft} {w p w' : List Char} (hw : Blanks w) (h : Spells (.value item) p)
      (hw' : Blanks w') : Spells (.items [item]) (w ++ (p ++ (w' ++ [']'])))
  | item {item : Draft} {items : List Draft} {w p w' q : List Char} (hw : Blanks w)
      (h : Spells (.value item) p) (hw' : Blanks w') (rest : Spells (.items items) q) :
      Spells (.items (item :: items)) (w ++ (p ++ (w' ++ ',' :: q)))
  | lastMember {value : Draft} {w name w₁ w₂ p w₃ : List Char} (hw : Blanks w) (hname : Quoted name)
      (hw₁ : Blanks w₁) (hw₂ : Blanks w₂) (h : Spells (.value value) p) (hw₃ : Blanks w₃) :
      Spells (.members [(lexemeOf name, value)])
        (w ++ '"' :: (name ++ (w₁ ++ ':' :: (w₂ ++ (p ++ (w₃ ++ ['}']))))))
  | member {value : Draft} {members : List (Lexeme String × Draft)}
      {w name w₁ w₂ p w₃ q : List Char} (hw : Blanks w) (hname : Quoted name) (hw₁ : Blanks w₁)
      (hw₂ : Blanks w₂) (h : Spells (.value value) p) (hw₃ : Blanks w₃)
      (rest : Spells (.members members) q) :
      Spells (.members ((lexemeOf name, value) :: members))
        (w ++ '"' :: (name ++ (w₁ ++ ':' :: (w₂ ++ (p ++ (w₃ ++ ',' :: q))))))

/-! ### What spells is read -/

/-- Blanks before a value are passed over. -/
theorem read_skipSpace (n : Nat) (s : List Char) : read n (skipSpace s) = read n s := by
  cases n with
  | zero => rfl
  | succ n => rw [read, read, skipSpace_idem]

theorem readItems_skipSpace (n : Nat) (s : List Char) :
    readItems n (skipSpace s) = readItems n s := by
  cases n with
  | zero => rfl
  | succ n => rw [readItems, readItems, read_skipSpace]

theorem readMembers_skipSpace (n : Nat) (s : List Char) :
    readMembers n (skipSpace s) = readMembers n s := by
  cases n with
  | zero => rfl
  | succ n => rw [readMembers, readMembers, skipSpace_idem]

/-- No value begins with a blank or with a closing bracket. -/
theorem Spells.head_value {d : Draft} {p : List Char} (h : Spells (.value d) p) :
    ∃ c q, p = c :: q ∧ isSpace c = false ∧ c ≠ ']' := by
  cases h with
  | @number negative whole p q _ _ hwhole =>
    cases negative with
    | true => exact ⟨'-', _, rfl, by decide, by decide⟩
    | false =>
      obtain ⟨c, digits, rfl⟩ := List.exists_cons_of_ne_nil hwhole.ne_nil
      have hc := hwhole.isDigit c List.mem_cons_self
      exact ⟨c, _, rfl, isSpace_of_isDigit hc, ne_of_isDigit hc rfl⟩
  | _ => exact ⟨_, _, rfl, by decide, by decide⟩

theorem Spells.head_items {items : List Draft} {p : List Char} (h : Spells (.items items) p)
    (t : List Char) : ∃ c s, skipSpace (p ++ t) = c :: s ∧ c ≠ ']' := by
  cases h with
  | lastItem hw h | item hw h =>
    obtain ⟨c, q, rfl, hspace, hc⟩ := h.head_value
    rw [List.append_assoc, skipSpace_append hw]
    exact ⟨c, _, skipSpace_cons hspace _, hc⟩

theorem Spells.head_members {members : List (Lexeme String × Draft)} {p : List Char}
    (h : Spells (.members members) p) (t : List Char) : ∃ s, skipSpace (p ++ t) = '"' :: s := by
  cases h with
  | lastMember hw | member hw =>
    rw [List.append_assoc, skipSpace_append hw]
    exact ⟨_, skipSpace_cons (by decide) _⟩

theorem read_array {n : Nat} {s r : List Char} {c : Char} (h : skipSpace s = c :: r) (hc : c ≠ ']') :
    read (n + 1) ('[' :: s) =
      (.array (readItems n s).1 (readItems n s).2.1, (readItems n s).2.2) := by
  rw [read, skipSpace_cons (by decide), ← readItems_skipSpace n s]
  simp only [h]
  split
  · rename_i heq
    cases heq
  · rename_i heq
    cases heq
    exact absurd rfl hc
  · rfl

theorem read_object {n : Nat} {s r : List Char} {c : Char} (h : skipSpace s = c :: r) (hc : c ≠ '}') :
    read (n + 1) ('{' :: s) =
      (.object (readMembers n s).1 (readMembers n s).2.1, (readMembers n s).2.2) := by
  rw [read, skipSpace_cons (by decide), ← readMembers_skipSpace n s]
  simp only [h]
  split
  · rename_i heq
    cases heq
  · rename_i heq
    cases heq
    exact absurd rfl hc
  · rfl

theorem read_digit {n : Nat} {s : List Char} {c : Char} (hc : c.isDigit = true) :
    read (n + 1) (c :: s) = readUnsigned false (c :: s) := by
  have hne {d : Char} (hd : d.isDigit = false) : c ≠ d := ne_of_isDigit hc hd
  rw [read, skipSpace_cons (isSpace_of_isDigit hc)]
  simp [hne, hc]

theorem ends_cons {c : Char} (hc : isSpace c = true ∨ c ∈ [',', ']', '}']) (t : List Char) :
    Ends (c :: t) := by
  rintro d hd
  cases hd
  rcases hc with hc | hc
  · simp only [isSpace, Bool.or_eq_true, decide_eq_true_eq] at hc
    rcases hc with ((rfl | rfl) | rfl) | rfl <;> decide
  · simp only [List.mem_cons, List.not_mem_nil, or_false] at hc
    rcases hc with rfl | rfl | rfl <;> decide

theorem Blanks.ends_append {w t : List Char} (hw : Blanks w) (ht : Ends t) : Ends (w ++ t) := by
  cases w with
  | nil => exact ht
  | cons c w => exact ends_cons (.inl (hw c List.mem_cons_self)) (w ++ t)

theorem Blanks.ends {w : List Char} (hw : Blanks w) : Ends w := by
  rw [← List.append_nil w]
  exact hw.ends_append (by simp [Ends])

/-- The part of a text at its head **is read** as what it spells, in so many steps, and the rest is
left. -/
def Part.Read : Part → Nat → List Char → List Char → Prop
  | .value d, n, s, t => read n s = (d, some t)
  | .items parts, n, s, t => readItems n s = (parts, none, some t)
  | .members parts, n, s, t => readMembers n s = (parts, none, some t)

/-- The steps that go into no character. -/
def Part.spare : Part → Nat
  | .value _ => 0
  | .items .. | .members .. => 1

/-- What a text may be followed by. -/
def Part.MayPrecede : Part → List Char → Prop
  | .value (.number _), t => Ends t
  | _, _ => True

theorem Ends.mayPrecede {t : List Char} (h : Ends t) {part : Part} : part.MayPrecede t := by
  cases part with
  | value d =>
    cases d with
    | number => exact h
    | _ => trivial
  | items | members => trivial

theorem read_unsigned {n : Nat} {negative : Bool} {whole : List Char} (h : Whole whole)
    (s : List Char) :
    read (n + 1) (minus negative ++ (whole ++ s)) = readUnsigned negative (whole ++ s) := by
  cases negative with
  | true =>
    rw [minus, if_pos rfl, List.singleton_append, read, skipSpace_cons (by decide)]
    rfl
  | false =>
    obtain ⟨c, digits, rfl⟩ := List.exists_cons_of_ne_nil h.ne_nil
    exact read_digit (h.isDigit c List.mem_cons_self)

/-- **What the grammar spells is read** to its end and no further, if there are steps enough, whatever
follows it. -/
theorem Spells.read {part : Part} {p : List Char} (h : Spells part p) {n : Nat}
    (hn : 2 * p.length + part.spare ≤ n) {t : List Char} (ht : part.MayPrecede t) :
    part.Read n (p ++ t) t := by
  induction h generalizing n t with
  | null | yes | no =>
    obtain ⟨n, rfl⟩ := Nat.exists_eq_add_one.mpr (Nat.lt_of_lt_of_le (by simp) hn)
    exact rfl
  | number hwhole hfraction hexponent =>
    have hpos := List.length_pos_of_ne_nil hwhole.ne_nil
    obtain ⟨n, rfl⟩ := Nat.exists_eq_add_one.mpr (Nat.lt_of_lt_of_le (by simp [hpos]) hn)
    simp only [Part.Read, List.append_assoc]
    rw [read_unsigned hwhole]
    exact readUnsigned_append hwhole hfraction hexponent ht
  | string h =>
    obtain ⟨n, rfl⟩ := Nat.exists_eq_add_one.mpr (Nat.lt_of_lt_of_le (by simp) hn)
    rw [Part.Read, List.cons_append, Draft.read, skipSpace_cons (by decide)]
    simp only [readString_append h]
  | emptyArray h | emptyObject h =>
    obtain ⟨n, rfl⟩ := Nat.exists_eq_add_one.mpr (Nat.lt_of_lt_of_le (by simp) hn)
    rw [Part.Read, List.cons_append, Draft.read, skipSpace_cons (by decide)]
    simp only [List.append_assoc, skipSpace_append h]
    rfl
  | @array parts p h ih =>
    obtain ⟨n, rfl⟩ := Nat.exists_eq_add_one.mpr (Nat.lt_of_lt_of_le (by simp) hn)
    obtain ⟨c, s, hs, hc⟩ := h.head_items t
    have hparts : readItems n (p ++ t) = (parts, none, some t) :=
      ih (by simp [Part.spare] at hn ⊢; omega) trivial
    rw [Part.Read, List.cons_append, read_array hs hc, hparts]
  | @object parts p h ih =>
    obtain ⟨n, rfl⟩ := Nat.exists_eq_add_one.mpr (Nat.lt_of_lt_of_le (by simp) hn)
    obtain ⟨s, hs⟩ := h.head_members t
    have hparts : readMembers n (p ++ t) = (parts, none, some t) :=
      ih (by simp [Part.spare] at hn ⊢; omega) trivial
    rw [Part.Read, List.cons_append, read_object hs (by decide), hparts]
  | @lastItem item w p w' hw h hw' ih =>
    obtain ⟨n, rfl⟩ := Nat.exists_eq_add_one.mpr (Nat.lt_of_lt_of_le (by simp) hn)
    have hitem : Draft.read n (p ++ (w' ++ ']' :: t)) = (item, some (w' ++ ']' :: t)) :=
      ih (by simp [Part.spare] at hn ⊢; omega) (hw'.ends_append (ends_cons (by decide) t)).mayPrecede
    rw [Part.Read, ← readItems_skipSpace, List.append_assoc, skipSpace_append hw,
      readItems_skipSpace, readItems]
    simp only [List.append_assoc, List.singleton_append, hitem, skipSpace_append hw']
    rfl
  | @item item items w p w' q hw h hw' rest ih ihrest =>
    obtain ⟨n, rfl⟩ := Nat.exists_eq_add_one.mpr (Nat.lt_of_lt_of_le (by simp) hn)
    have hitem : Draft.read n (p ++ (w' ++ ',' :: (q ++ t))) =
        (item, some (w' ++ ',' :: (q ++ t))) :=
      ih (by simp [Part.spare] at hn ⊢; omega) (hw'.ends_append (ends_cons (by decide) _)).mayPrecede
    have hrest : readItems n (q ++ t) = (items, none, some t) :=
      ihrest (by simp [Part.spare] at hn ⊢; omega) trivial
    rw [Part.Read, ← readItems_skipSpace, List.append_assoc, skipSpace_append hw,
      readItems_skipSpace, readItems]
    simp only [List.append_assoc, List.cons_append, hitem, skipSpace_append hw']
    rw [skipSpace_cons (by decide)]
    simp only [hrest]
  | @lastMember value w name w₁ w₂ p w₃ hw hname hw₁ hw₂ h hw₃ ih =>
    obtain ⟨n, rfl⟩ := Nat.exists_eq_add_one.mpr (Nat.lt_of_lt_of_le (by simp) hn)
    have hvalue : Draft.read n (p ++ (w₃ ++ '}' :: t)) = (value, some (w₃ ++ '}' :: t)) :=
      ih (by simp [Part.spare] at hn ⊢; omega) (hw₃.ends_append (ends_cons (by decide) t)).mayPrecede
    rw [← read_skipSpace, ← skipSpace_append hw₂, read_skipSpace] at hvalue
    rw [Part.Read, List.append_assoc, readMembers, skipSpace_append hw]
    simp only [List.cons_append, List.append_assoc, List.nil_append]
    rw [skipSpace_cons (by decide)]
    simp only [readString_append hname, skipSpace_append hw₁]
    rw [skipSpace_cons (by decide)]
    simp only [hvalue, skipSpace_append hw₃]
    rw [skipSpace_cons (by decide)]
    rfl
  | @member value members w name w₁ w₂ p w₃ q hw hname hw₁ hw₂ h hw₃ rest ih ihrest =>
    obtain ⟨n, rfl⟩ := Nat.exists_eq_add_one.mpr (Nat.lt_of_lt_of_le (by simp) hn)
    have hvalue : Draft.read n (p ++ (w₃ ++ ',' :: (q ++ t))) =
        (value, some (w₃ ++ ',' :: (q ++ t))) :=
      ih (by simp [Part.spare] at hn ⊢; omega) (hw₃.ends_append (ends_cons (by decide) _)).mayPrecede
    rw [← read_skipSpace, ← skipSpace_append hw₂, read_skipSpace] at hvalue
    have hrest : readMembers n (q ++ t) = (members, none, some t) :=
      ihrest (by simp [Part.spare] at hn ⊢; omega) trivial
    rw [Part.Read, List.append_assoc, readMembers, skipSpace_append hw]
    simp only [List.cons_append, List.append_assoc]
    rw [skipSpace_cons (by decide)]
    simp only [readString_append hname, skipSpace_append hw₁]
    rw [skipSpace_cons (by decide)]
    simp only [hvalue, skipSpace_append hw₃]
    rw [skipSpace_cons (by decide)]
    simp only [hrest]

/-! ### What is read spells -/

/-- A word that is read to its end stands there. -/
theorem eq_append_of_word {expected s r : List Char} (h : word expected s = (none, r)) :
    s = expected ++ r := by
  induction expected generalizing s with
  | nil =>
    cases h
    rfl
  | cons e expected ih =>
    cases s with
    | nil => cases h
    | cons c s =>
      rw [word] at h
      split at h
      · rename_i hc
        rw [hc, ih h, List.cons_append]
      · cases h

/-- In so many steps only what the grammar spells is **read to its end**. Items and members have been
read to their end if they are closed, or if there is a rest. -/
structure Sound (n : Nat) : Prop where
  value {s r : List Char} {d : Draft} (h : Draft.read n s = (d, some r)) :
    ∃ w p, Blanks w ∧ Spells (.value d) p ∧ s = w ++ (p ++ r)
  items {s : List Char} {parts : List Draft} {ending : Option Flaw} {rest : Option (List Char)}
    (h : readItems n s = (parts, ending, rest)) (hend : ending = none ∨ rest.isSome = true) :
    ∃ p r, ending = none ∧ rest = some r ∧ Spells (.items parts) p ∧ s = p ++ r
  members {s : List Char} {parts : List (Lexeme String × Draft)} {ending : Option Flaw}
    {rest : Option (List Char)} (h : readMembers n s = (parts, ending, rest))
    (hend : ending = none ∨ rest.isSome = true) :
    ∃ p r, ending = none ∧ rest = some r ∧ Spells (.members parts) p ∧ s = p ++ r

namespace Sound

variable {n : Nat} (hn : Sound n)
include hn

theorem succ_value {s r : List Char} {d : Draft} (h : Draft.read (n + 1) s = (d, some r)) :
    ∃ w p, Blanks w ∧ Spells (.value d) p ∧ s = w ++ (p ++ r) := by
  obtain ⟨w, hw, hs⟩ := exists_blanks s
  suffices ∃ p, Spells (.value d) p ∧ skipSpace s = p ++ r by
    obtain ⟨p, hp, hsp⟩ := this
    exact ⟨w, p, hw, hp, hsp ▸ hs⟩
  rw [Draft.read] at h
  split at h
  · cases h
  · rename_i u hu
    rw [hu]
    cases hread : readString u with
    | mk lexeme rest =>
      rw [hread] at h
      cases h
      obtain ⟨p, hp, rfl, rfl⟩ := exists_quoted_of_readString hread
      exact ⟨_, .string hp, rfl⟩
  · rename_i u hu
    obtain ⟨w', hw', hu'⟩ := exists_blanks u
    rw [hu]
    split at h
    · cases h
    · rename_i v hv
      cases h
      rw [hv] at hu'
      exact ⟨_, .emptyArray hw', by rw [hu']; simp⟩
    · rcases hread : readItems n (skipSpace u) with ⟨parts, ending, rest⟩
      rw [hread] at h
      cases h
      obtain ⟨p, r, rfl, hr, hp, hs⟩ := hn.items (readItems_skipSpace n u ▸ hread) (.inr rfl)
      cases hr
      exact ⟨_, .array hp, by rw [hs, List.cons_append]⟩
  · rename_i u hu
    obtain ⟨w', hw', hu'⟩ := exists_blanks u
    rw [hu]
    split at h
    · cases h
    · rename_i v hv
      cases h
      rw [hv] at hu'
      exact ⟨_, .emptyObject hw', by rw [hu']; simp⟩
    · rcases hread : readMembers n (skipSpace u) with ⟨parts, ending, rest⟩
      rw [hread] at h
      cases h
      obtain ⟨p, r, rfl, hr, hp, hs⟩ := hn.members (readMembers_skipSpace n u ▸ hread) (.inr rfl)
      cases hr
      exact ⟨_, .object hp, by rw [hs, List.cons_append]⟩
  · rename_i u hu
    obtain ⟨whole, fraction, exponent, p, q, hwhole, hfraction, hexponent, rfl, rfl⟩ :=
      exists_numeral_of_readUnsigned h
    refine ⟨_, .number hwhole hfraction hexponent, ?_⟩
    rw [hu]
    simp [minus]
  · rename_i c u _ _ _ _ hu
    rw [hu]
    split at h
    · rename_i hc
      split at h
      · rename_i v hword
        cases h
        exact ⟨_, .null, by rw [hc, eq_append_of_word hword]; rfl⟩
      · cases h
    split at h
    · rename_i hc
      split at h
      · rename_i v hword
        cases h
        exact ⟨_, .yes, by rw [hc, eq_append_of_word hword]; rfl⟩
      · cases h
    split at h
    · rename_i hc
      split at h
      · rename_i v hword
        cases h
        exact ⟨_, .no, by rw [hc, eq_append_of_word hword]; rfl⟩
      · cases h
    split at h
    · obtain ⟨whole, fraction, exponent, p, q, hwhole, hfraction, hexponent, hu, rfl⟩ :=
        exists_numeral_of_readUnsigned h
      refine ⟨_, .number hwhole hfraction hexponent, ?_⟩
      rw [hu]
      simp [minus]
    · cases h

theorem succ_items {s : List Char} {parts : List Draft} {ending : Option Flaw}
    {rest : Option (List Char)} (h : readItems (n + 1) s = (parts, ending, rest))
    (hend : ending = none ∨ rest.isSome = true) :
    ∃ p r, ending = none ∧ rest = some r ∧ Spells (.items parts) p ∧ s = p ++ r := by
  rw [readItems] at h
  split at h
  · cases h
    simp at hend
  rename_i item u hread
  obtain ⟨w, p, hw, hp, rfl⟩ := hn.value hread
  obtain ⟨w', hw', hu⟩ := exists_blanks u
  split at h
  · cases h
    simp at hend
  · rename_i v hv
    rcases hitems : readItems n v with ⟨parts', ending', rest'⟩
    rw [hitems] at h
    cases h
    obtain ⟨q, r, rfl, rfl, hq, rfl⟩ := hn.items hitems hend
    rw [hv] at hu
    exact ⟨_, r, rfl, rfl, .item hw hp hw' hq, by rw [hu]; simp⟩
  · rename_i v hv
    cases h
    rw [hv] at hu
    exact ⟨_, v, rfl, rfl, .lastItem hw hp hw', by rw [hu]; simp⟩
  · cases h
    simp at hend

theorem succ_members {s : List Char} {parts : List (Lexeme String × Draft)} {ending : Option Flaw}
    {rest : Option (List Char)} (h : readMembers (n + 1) s = (parts, ending, rest))
    (hend : ending = none ∨ rest.isSome = true) :
    ∃ p r, ending = none ∧ rest = some r ∧ Spells (.members parts) p ∧ s = p ++ r := by
  obtain ⟨w, hw, hs⟩ := exists_blanks s
  rw [readMembers] at h
  split at h
  · cases h
    simp at hend
  rename_i u hu
  split at h
  · cases h
    simp at hend
  rename_i name u' hname
  obtain ⟨p, hp, rfl, rfl⟩ := exists_quoted_of_readString hname
  obtain ⟨w₁, hw₁, hu'⟩ := exists_blanks u'
  split at h
  · cases h
    simp at hend
  · rename_i v hv
    split at h
    · cases h
      simp at hend
    rename_i value v' hvalue
    obtain ⟨w₂, q, hw₂, hq, rfl⟩ := hn.value hvalue
    obtain ⟨w₃, hw₃, hv'⟩ := exists_blanks v'
    split at h
    · cases h
      simp at hend
    · rename_i x hx
      rcases hmembers : readMembers n x with ⟨parts', ending', rest'⟩
      rw [hmembers] at h
      cases h
      obtain ⟨q', r, rfl, rfl, hq', rfl⟩ := hn.members hmembers hend
      refine ⟨_, r, rfl, rfl, .member hw hp hw₁ hw₂ hq hw₃ hq', ?_⟩
      rw [hs, hu, hu', hv, hv', hx]
      simp
    · rename_i x hx
      cases h
      refine ⟨_, x, rfl, rfl, .lastMember hw hp hw₁ hw₂ hq hw₃, ?_⟩
      rw [hs, hu, hu', hv, hv', hx]
      simp
    · cases h
      simp at hend
  · cases h
    simp at hend
  -- no name begins here
  · cases h
    simp at hend

end Sound

theorem sound (n : Nat) : Sound n := by
  induction n with
  | zero =>
    refine ⟨fun h => ?_, fun h hend => ?_, fun h hend => ?_⟩
    · cases h
    · cases h
      simp at hend
    · cases h
      simp at hend
  | succ n ih => exact ⟨ih.succ_value, ih.succ_items, ih.succ_members⟩

/-- **Whatever is read to its end** is a text of the grammar, behind blanks. -/
theorem exists_spells_of_read {n : Nat} {s r : List Char} {d : Draft} (h : read n s = (d, some r)) :
    ∃ w p, Blanks w ∧ Spells (.value d) p ∧ s = w ++ (p ++ r) :=
  (sound n).value h

/-! ### Texts that hold one value -/

/-- A value is found in a text that holds nothing else than blanks before it, whatever follows. -/
theorem Spells.ofChars {d : Draft} {w p t : List Char} (h : Spells (.value d) p) (hw : Blanks w)
    (ht : (Part.value d).MayPrecede t) : Draft.ofChars (w ++ (p ++ t)) = (d, some t) := by
  rw [Draft.ofChars, ← read_skipSpace, skipSpace_append hw, read_skipSpace]
  exact h.read (by simp [Part.spare]; omega) ht

/-- Members end with the bracket that closes the object. -/
theorem Spells.closed_members {members : List (Lexeme String × Draft)} {p : List Char}
    (h : Spells (.members members) p) : ∃ q, p = q ++ ['}'] := by
  generalize hpart : Part.members members = part at h
  induction h generalizing members with
  | @lastMember value w name w₁ w₂ p w₃ =>
    exact ⟨w ++ '"' :: (name ++ (w₁ ++ ':' :: (w₂ ++ (p ++ w₃)))), by simp⟩
  | @member value members w name w₁ w₂ p w₃ q _ _ _ _ _ _ _ _ ihrest =>
    obtain ⟨q, rfl⟩ := ihrest rfl
    exact ⟨w ++ '"' :: (name ++ (w₁ ++ ':' :: (w₂ ++ (p ++ (w₃ ++ ',' :: q))))), by simp⟩
  | _ => cases hpart

/-- The text of an object stands between brackets. -/
theorem Spells.closed_object {members : List (Lexeme String × Draft)} {p : List Char}
    (h : Spells (.value (.object members none)) p) : ∃ q, p = '{' :: (q ++ ['}']) := by
  cases h with
  | emptyObject => exact ⟨_, rfl⟩
  | object h =>
    obtain ⟨q, rfl⟩ := h.closed_members
    exact ⟨q, rfl⟩

/-- **A text that begins with an object** is read as one. If that is closed it is the text of an
object, with blanks before it and the rest behind it. -/
theorem exists_object {s : List Char} (h : (skipSpace s).head? = some '{') :
    ∃ members ending rest, Draft.ofChars s = (.object members ending, rest) ∧
      (ending = none → ∃ w p r, rest = some r ∧ Blanks w ∧
        Spells (.value (.object members none)) p ∧ s = w ++ (p ++ r)) := by
  obtain ⟨u, hu⟩ : ∃ u, skipSpace s = '{' :: u := by
    cases hs : skipSpace s with
    | nil =>
      rw [hs] at h
      cases h
    | cons c u =>
      rw [hs] at h
      cases h
      exact ⟨u, rfl⟩
  obtain ⟨members, ending, rest, hread, hrest⟩ : ∃ members ending rest,
      Draft.ofChars s = (.object members ending, rest) ∧ (ending = none → rest.isSome = true) := by
    rw [Draft.ofChars, ← read_skipSpace, hu]
    cases hs : skipSpace u with
    | nil =>
      refine ⟨[], some .unfinished, none, ?_, by simp⟩
      rw [Draft.read, skipSpace_cons (by decide)]
      simp only [hs]
    | cons c v =>
      by_cases hc : c = '}'
      · refine ⟨[], none, some v, ?_, fun _ => rfl⟩
        rw [Draft.read, skipSpace_cons (by decide)]
        simp only [hs, hc]
      · rw [read_object hs hc]
        refine ⟨_, _, _, rfl, fun hending => ?_⟩
        obtain ⟨_, _, -, hrest, -⟩ := (sound _).members rfl (.inl hending)
        rw [hrest]
        rfl
  refine ⟨members, ending, rest, hread, ?_⟩
  rintro rfl
  obtain ⟨r, rfl⟩ := Option.isSome_iff_exists.mp (hrest rfl)
  obtain ⟨w, p, hw, hp, hs⟩ := exists_spells_of_read hread
  exact ⟨w, p, r, rfl, hw, hp, hs⟩

end Colloquy.Json.Draft

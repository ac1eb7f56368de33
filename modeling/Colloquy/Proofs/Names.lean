import Colloquy.Proofs.SmallLetters
import Colloquy.Topic
import Mathlib.Data.List.DropRight

/-!
# Names in small letters

A name is cut in several places before it is compared: at the first underscore, at the blanks around
it, behind a tilde. Some of these cuts are made before the name is put into small letters and some
after, so what is looked up depends on the order, unless **cutting and lower-casing commute**. They
do (`Topic.lower_bare`, `Topic.lower_moduleOf`), and two things are behind it:

* the characters that are cut at are **separators** (`IsSeparator`): they have no case, and casing
  does not pass over them. So what stands on one side of them has no influence on the small letters
  on the other, not even on those of a sigma (`lowerAfter_append`);
* no other character turns into a separator (`eq_of_mem_smallIn`), so there are as many places to
  cut at as before.

The dot before the label of a rule is no separator, as casing passes over it: whether the sigma of
`ΑΣ.Β` ends a word depends on whether the label has been cut off.
-/

namespace Colloquy

namespace Text

/-! ### Separators -/

/-- A character is a **separator** if it is small, has no case, and casing does not pass over it. -/
structure IsSeparator (c : Char) : Prop where
  small : IsSmall c
  uncased : casedSpans.holds c = false
  heeded : caseIgnoredSpans.holds c = false

theorem isSeparator_underscore : IsSeparator '_' :=
  ⟨by decide +kernel, by decide +kernel, by decide +kernel⟩

theorem isSeparator_tilde : IsSeparator '~' :=
  ⟨by decide +kernel, by decide +kernel, by decide +kernel⟩

/-- Two ranges of code points have none in common. -/
def apart (span : Nat × Nat) (first last : Nat) : Bool :=
  Nat.blt span.2 first || Nat.blt last span.1

theorem Spans.holds_eq_false_of_apart {spans : Spans} {c : Char} {span : Nat × Nat}
    (hc : span.1 ≤ c.toNat ∧ c.toNat ≤ span.2)
    (h : spans.all (fun other => apart span other.1 other.2) = true) : spans.holds c = false := by
  refine Bool.eq_false_iff.mpr fun hholds => ?_
  obtain ⟨other, hother, hfirst, hlast⟩ := Spans.holds_iff.mp hholds
  have hapart := List.all_eq_true.mp h other hother
  simp only [apart, Bool.or_eq_true, Nat.blt_eq] at hapart
  omega

/-- The blanks lie apart from the cased characters, from those that casing passes over, and from the
runs of capitals. -/
theorem blankSpans_apart : ∀ span ∈ blankSpans,
    casedSpans.all (fun other => apart span other.1 other.2) = true ∧
      caseIgnoredSpans.all (fun other => apart span other.1 other.2) = true ∧
      (caseRuns.all (fun run => apart span run.first run.last) &&
        apart span 0x130 0x130) = true := by decide +kernel

theorem isSeparator_of_isBlank {c : Char} (h : isBlank c = true) : IsSeparator c := by
  obtain ⟨span, hspan, hc⟩ := Spans.holds_iff.mp h
  obtain ⟨hcased, hignored, hruns⟩ := blankSpans_apart span hspan
  rw [Bool.and_eq_true] at hruns
  refine ⟨⟨fun run hrun => ?_, ?_⟩, Spans.holds_eq_false_of_apart hc hcased,
    Spans.holds_eq_false_of_apart hc hignored⟩
  · have hapart := List.all_eq_true.mp hruns.1 run hrun
    simp only [apart, Bool.or_eq_true, Nat.blt_eq] at hapart
    simp only [CaseRun.holds, Bool.and_eq_false_iff, decide_eq_false_iff_not]
    omega
  · have hapart := hruns.2
    simp only [apart, Bool.or_eq_true, Nat.blt_eq] at hapart
    omega

/-! ### The small letters of one character -/

/-- The small letters of a character that stands between two texts. -/
def smallIn (before : List Char) (c : Char) (rest : List Char) : List Char :=
  if c = 'Σ' then
    if meetsCased before && !meetsCased rest then ['ς'] else ['σ']
  else if c.toNat < 0x80 then [c.toLower]
  else smallForm c

theorem lowerAfter_cons (before : List Char) (c : Char) (rest : List Char) :
    lowerAfter before (c :: rest) = smallIn before c rest ++ lowerAfter (c :: before) rest := rfl

theorem smallIn_ne_nil (before : List Char) (c : Char) (rest : List Char) :
    smallIn before c rest ≠ [] := by
  rw [smallIn, smallForm]
  split
  · split <;> simp
  · split
    · simp
    · split
      · simp
      · split <;> simp

theorem IsSmall.smallIn_eq {c : Char} (h : IsSmall c) (before rest : List Char) :
    smallIn before c rest = [c] := by
  rw [smallIn, if_neg h.ne_sigma, h.toLower_eq, h.smallForm_eq, ite_self]

/-- The small letters of a run of capitals are characters, and all of them are cased. -/
theorem caseRuns_cased : ∀ run ∈ caseRuns,
    (Nat.blt run.high 0xD800 || Nat.blt 0xDFFF run.low && Nat.blt run.high 0x110000) = true ∧
      casedSpans.any (fun span => Nat.ble span.1 run.low && Nat.ble run.high span.2) = true := by
  decide +kernel

theorem cased_of_run {run : CaseRun} (hrun : run ∈ caseRuns) {code : Nat}
    (h : run.holds code = true) :
    casedSpans.holds (Char.ofNat (code + run.shift).toNat) = true := by
  have hlow := caseRuns_low run hrun
  obtain ⟨hvalid, hcased⟩ := caseRuns_cased run hrun
  simp only [CaseRun.holds, Bool.and_eq_true, decide_eq_true_eq] at h
  simp only [CaseRun.low, CaseRun.high, Bool.or_eq_true, Bool.and_eq_true, Nat.blt_eq] at hvalid
  obtain ⟨span, hspan, hwithin⟩ := List.any_eq_true.mp hcased
  simp only [CaseRun.low, CaseRun.high, Bool.and_eq_true, Nat.ble_eq] at hwithin
  have hchar : (Char.ofNat (code + run.shift).toNat).toNat = (code + run.shift).toNat := by
    refine congrArg Char.toNat (dif_pos ?_)
    simp only [Nat.isValidChar]
    omega
  refine Spans.holds_iff.mpr ⟨span, hspan, ?_⟩
  rw [hchar]
  omega

/-- **No character turns into a separator**: a small letter of another character is cased, or casing
passes over it. -/
theorem eq_of_mem_smallIn {before rest : List Char} {c small : Char}
    (h : small ∈ smallIn before c rest) (hsmall : IsSeparator small) : small = c := by
  have huncased := hsmall.uncased
  rw [smallIn] at h
  split at h
  · split at h <;>
      (rw [List.mem_singleton.mp h] at huncased; exact absurd huncased (by decide +kernel))
  · split at h
    · rename_i hascii
      rw [List.mem_singleton.mp h] at huncased ⊢
      have hall : ∀ code < 0x80, (Char.ofNat code).toLower = Char.ofNat code ∨
          casedSpans.holds (Char.ofNat code).toLower = true := by decide +kernel
      rcases hall c.toNat hascii with hsame | hcased
      · rwa [Char.ofNat_toNat] at hsame
      · rw [Char.ofNat_toNat, huncased] at hcased
        cases hcased
    · rw [smallForm] at h
      split at h
      · -- a capital I with a dot above becomes a cased letter and a dot that casing passes over
        rcases List.mem_cons.mp h with rfl | h
        · exact absurd huncased (by decide +kernel)
        · have hheeded := hsmall.heeded
          rw [List.mem_singleton.mp h] at hheeded
          exact absurd hheeded (by decide +kernel)
      · split at h
        · rename_i run hfind
          have hcased := cased_of_run (List.mem_of_find?_eq_some hfind)
            (by simpa using List.find?_some hfind)
          rw [← List.mem_singleton.mp h, huncased] at hcased
          cases hcased
        · exact List.mem_singleton.mp h

theorem mem_of_mem_lowerAfter {before s : List Char} {c : Char} (h : c ∈ lowerAfter before s)
    (hc : IsSeparator c) : c ∈ s := by
  induction s generalizing before with
  | nil => exact h
  | cons first rest ih =>
    rw [lowerAfter_cons] at h
    rcases List.mem_append.mp h with h | h
    · exact eq_of_mem_smallIn h hc ▸ List.mem_cons_self
    · exact List.mem_cons_of_mem _ (ih h)

/-! ### Texts on both sides of a separator -/

section Separator

variable {mark : Char} (hmark : IsSeparator mark)
include hmark

/-- Casing does not look beyond a separator. -/
theorem meetsCased_append (s rest : List Char) : meetsCased (s ++ mark :: rest) = meetsCased s := by
  induction s with
  | nil => simp [meetsCased, hmark.heeded, hmark.uncased]
  | cons c s ih =>
    by_cases hc : caseIgnoredSpans.holds c = true
    · simpa [meetsCased, hc] using ih
    · simp [meetsCased, hc]

theorem smallIn_before_append (before passed rest : List Char) (c : Char) :
    smallIn (before ++ mark :: passed) c rest = smallIn before c rest := by
  rw [smallIn, smallIn, meetsCased_append hmark]

theorem smallIn_append (before rest behind : List Char) (c : Char) :
    smallIn before c (rest ++ mark :: behind) = smallIn before c rest := by
  rw [smallIn, smallIn, meetsCased_append hmark]

/-- What has been read before a separator does not count behind it. -/
theorem lowerAfter_before_append (before passed s : List Char) :
    lowerAfter (before ++ mark :: passed) s = lowerAfter before s := by
  induction s generalizing before with
  | nil => rfl
  | cons c rest ih =>
    rw [lowerAfter_cons, lowerAfter_cons, smallIn_before_append hmark, ← List.cons_append, ih]

/-- **A separator cuts a text in two**, and either side is put into small letters by itself. -/
theorem lowerAfter_append (before s rest : List Char) :
    lowerAfter before (s ++ mark :: rest) = lowerAfter before s ++ mark :: lowerAfter [] rest := by
  induction s generalizing before with
  | nil =>
    have hrest := lowerAfter_before_append hmark [] before rest
    rw [List.nil_append] at hrest
    rw [List.nil_append, lowerAfter_cons, hmark.small.smallIn_eq, hrest]
    rfl
  | cons c s ih =>
    rw [List.cons_append, lowerAfter_cons, lowerAfter_cons, smallIn_append hmark, ih,
      List.append_assoc]

/-- **Cutting at the first separator** of a kind commutes with lower-casing. -/
theorem takeWhile_lowerAfter (s : List Char) :
    (lowerAfter [] s).takeWhile (· ≠ mark) = lowerAfter [] (s.takeWhile (· ≠ mark)) := by
  by_cases hmem : mark ∈ s
  · obtain ⟨front, behind, rfl, hfront⟩ := List.eq_append_cons_of_mem hmem
    have hsmall : mark ∉ lowerAfter [] front := fun h => hfront (mem_of_mem_lowerAfter h hmark)
    rw [lowerAfter_append hmark, takeWhile_ne_append hsmall, takeWhile_ne_append hfront]
  · have hsmall : mark ∉ lowerAfter [] s := fun h => hmem (mem_of_mem_lowerAfter h hmark)
    rw [takeWhile_ne_eq_self hsmall, takeWhile_ne_eq_self hmem]

end Separator

theorem lower_before {mark : Char} (hmark : IsSeparator mark) (s : String) :
    lower (before mark s) = before mark (lower s) := by
  rw [← String.toList_inj, toList_lower, toList_before, toList_before, toList_lower,
    takeWhile_lowerAfter hmark]

/-! ### Trimming -/

theorem trimChars_eq (s : List Char) :
    trimChars s = (s.dropWhile isBlank).rdropWhile isBlank := rfl

theorem length_trimChars_le (s : List Char) : (trimChars s).length ≤ s.length :=
  (List.rdropWhile_prefix isBlank _).length_le.trans (List.dropWhile_suffix isBlank).length_le

/-- Where a text begins is not changed by taking away from its end. -/
theorem dropWhile_eq_self_of_prefix {s whole : List Char} (hbegins : s <+: whole)
    (h : whole.dropWhile isBlank = whole) : s.dropWhile isBlank = s := by
  obtain ⟨behind, rfl⟩ := hbegins
  cases s with
  | nil => rfl
  | cons c rest =>
    have hc := List.dropWhile_eq_self_iff.mp h (by simp)
    exact List.dropWhile_cons_of_neg (by simpa using hc)

theorem dropWhile_trimChars (s : List Char) : (trimChars s).dropWhile isBlank = trimChars s :=
  dropWhile_eq_self_of_prefix (List.rdropWhile_prefix isBlank _)
    (List.dropWhile_idempotent isBlank s)

theorem rdropWhile_cons {c : Char} (hc : ¬ isBlank c = true) (s : List Char) :
    (c :: s).rdropWhile isBlank = c :: s.rdropWhile isBlank := by
  induction s using List.reverseRecOn with
  | nil => exact List.rdropWhile_concat_neg _ [] c hc
  | append_singleton s last ih =>
    rw [← List.cons_append]
    by_cases hlast : isBlank last = true
    · rw [List.rdropWhile_concat_pos _ _ _ hlast, List.rdropWhile_concat_pos _ _ _ hlast, ih]
    · rw [List.rdropWhile_concat_neg _ _ _ hlast, List.rdropWhile_concat_neg _ _ _ hlast]
      rfl

section Mark

variable {mark : Char} (hmark : ¬ isBlank mark = true) (s : List Char)
include hmark

/-- Dropping blanks at the head commutes with cutting at what is no blank. -/
theorem dropWhile_takeWhile :
    (s.dropWhile isBlank).takeWhile (· ≠ mark) = (s.takeWhile (· ≠ mark)).dropWhile isBlank := by
  induction s with
  | nil => rfl
  | cons c rest ih =>
    by_cases hc : isBlank c = true
    · have hne : c ≠ mark := fun heq => hmark (heq ▸ hc)
      rw [List.dropWhile_cons_of_pos hc, ih, List.takeWhile_cons_of_pos (by simpa using hne),
        List.dropWhile_cons_of_pos hc]
    · rw [List.dropWhile_cons_of_neg hc]
      by_cases hne : c = mark
      · rw [List.takeWhile_cons_of_neg (by simpa using hne)]
        rfl
      · rw [List.takeWhile_cons_of_pos (by simpa using hne), List.dropWhile_cons_of_neg hc]

/-- Blanks at the end are no longer there when a text has been cut before them, and are dropped from
what is cut off otherwise. -/
theorem rdropWhile_takeWhile_rdropWhile :
    ((s.rdropWhile isBlank).takeWhile (· ≠ mark)).rdropWhile isBlank =
      (s.takeWhile (· ≠ mark)).rdropWhile isBlank := by
  induction s using List.reverseRecOn with
  | nil => rfl
  | append_singleton s c ih =>
    by_cases hc : isBlank c = true
    · have hne : c ≠ mark := fun heq => hmark (heq ▸ hc)
      rw [List.rdropWhile_concat_pos _ _ _ hc, ih, List.takeWhile_append]
      split
      · rename_i hall
        rw [List.takeWhile_cons_of_pos (by simpa using hne), List.takeWhile_nil,
          List.rdropWhile_concat_pos _ _ _ hc, (List.takeWhile_prefix _).eq_of_length hall]
      · rfl
    · rw [List.rdropWhile_concat_neg _ _ _ hc]

/-- The blanks around a topic are not part of its module. -/
theorem trimChars_takeWhile_trimChars :
    trimChars ((trimChars s).takeWhile (· ≠ mark)) = trimChars (s.takeWhile (· ≠ mark)) := by
  calc trimChars ((trimChars s).takeWhile (· ≠ mark))
      = ((trimChars s).takeWhile (· ≠ mark)).rdropWhile isBlank := by
        rw [trimChars_eq, ← dropWhile_takeWhile hmark, dropWhile_trimChars]
    _ = ((s.dropWhile isBlank).takeWhile (· ≠ mark)).rdropWhile isBlank := by
        rw [trimChars_eq, rdropWhile_takeWhile_rdropWhile hmark]
    _ = trimChars (s.takeWhile (· ≠ mark)) := by
        rw [dropWhile_takeWhile hmark, trimChars_eq]

end Mark

/-! ### Trimming and small letters -/

theorem lowerAfter_of_isBlank {c : Char} (h : isBlank c = true) (rest : List Char) :
    lowerAfter [] (c :: rest) = c :: lowerAfter [] rest :=
  lowerAfter_append (isSeparator_of_isBlank h) [] [] rest

theorem not_isBlank_of_mem_smallIn {before rest : List Char} {c small : Char}
    (hc : ¬ isBlank c = true) (h : small ∈ smallIn before c rest) : ¬ isBlank small = true :=
  fun hblank => hc (eq_of_mem_smallIn h (isSeparator_of_isBlank hblank) ▸ hblank)

theorem dropWhile_lowerAfter (s : List Char) :
    (lowerAfter [] s).dropWhile isBlank = lowerAfter [] (s.dropWhile isBlank) := by
  induction s with
  | nil => rfl
  | cons c rest ih =>
    by_cases hc : isBlank c = true
    · rw [lowerAfter_of_isBlank hc, List.dropWhile_cons_of_pos hc, List.dropWhile_cons_of_pos hc,
        ih]
    · rw [List.dropWhile_cons_of_neg hc, lowerAfter_cons]
      obtain ⟨first, others, hsmall⟩ := List.exists_cons_of_ne_nil (smallIn_ne_nil [] c rest)
      have hmem : first ∈ smallIn [] c rest := by simp [hsmall]
      have hfirst := not_isBlank_of_mem_smallIn hc hmem
      rw [hsmall, List.cons_append, List.dropWhile_cons_of_neg hfirst]

/-- The small letters of a text end in those of its last character. -/
theorem exists_lowerAfter_concat (before s : List Char) (c : Char) :
    ∃ front read, lowerAfter before (s ++ [c]) = front ++ smallIn read c [] := by
  induction s generalizing before with
  | nil => exact ⟨[], before, by simp [lowerAfter_cons, lowerAfter]⟩
  | cons first s ih =>
    obtain ⟨front, read, h⟩ := ih (first :: before)
    exact ⟨_, read, by rw [List.cons_append, lowerAfter_cons, h, ← List.append_assoc]⟩

theorem rdropWhile_lowerAfter (s : List Char) :
    (lowerAfter [] s).rdropWhile isBlank = lowerAfter [] (s.rdropWhile isBlank) := by
  induction s using List.reverseRecOn with
  | nil => rfl
  | append_singleton s c ih =>
    by_cases hc : isBlank c = true
    · rw [lowerAfter_append (isSeparator_of_isBlank hc), List.rdropWhile_concat_pos _ _ _ hc]
      exact (List.rdropWhile_concat_pos _ _ _ hc).trans ih
    · obtain ⟨front, read, hfront⟩ := exists_lowerAfter_concat [] s c
      obtain ⟨others, last, hsmall⟩ : ∃ others last, smallIn read c [] = others ++ [last] :=
        ⟨_, _, (List.dropLast_append_getLast (smallIn_ne_nil read c [])).symm⟩
      have hmem : last ∈ smallIn read c [] := by simp [hsmall]
      have hlast := not_isBlank_of_mem_smallIn hc hmem
      rw [List.rdropWhile_concat_neg _ _ _ hc, hfront, hsmall, ← List.append_assoc,
        List.rdropWhile_concat_neg _ _ _ hlast]

theorem trimChars_lowerAfter (s : List Char) :
    trimChars (lowerAfter [] s) = lowerAfter [] (trimChars s) := by
  rw [trimChars_eq, trimChars_eq, dropWhile_lowerAfter, rdropWhile_lowerAfter]

end Text

namespace Topic

open Text

theorem dropTilde_of_ne {c : Char} (h : c ≠ '~') (rest : List Char) :
    dropTilde (c :: rest) = c :: rest := by
  rw [dropTilde]
  rintro rest' heq
  exact h (List.cons.inj heq).1

theorem dropTilde_lowerAfter (s : List Char) :
    dropTilde (lowerAfter [] s) = lowerAfter [] (dropTilde s) := by
  cases s with
  | nil => rfl
  | cons c rest =>
    by_cases hc : c = '~'
    · subst hc
      have h := lowerAfter_append isSeparator_tilde [] [] rest
      rw [List.nil_append] at h
      rw [h]
      rfl
    · obtain ⟨first, others, hsmall⟩ := List.exists_cons_of_ne_nil (smallIn_ne_nil [] c rest)
      have hmem : first ∈ smallIn [] c rest := by simp [hsmall]
      have hfirst : first ≠ '~' := by
        rintro rfl
        exact hc (eq_of_mem_smallIn hmem isSeparator_tilde).symm
      rw [dropTilde_of_ne hc, lowerAfter_cons, hsmall, List.cons_append, dropTilde_of_ne hfirst]

/-- **The bare name in small letters** is the bare name of the small letters. -/
theorem lower_bare (name : String) : lower (bare name) = bare (lower name) := by
  rw [← String.toList_inj, toList_lower, toList_bare, toList_bare, toList_lower,
    trimChars_lowerAfter, dropTilde_lowerAfter]

/-- **The module in small letters** is the module of the small letters. -/
theorem lower_moduleOf (topic : String) : lower (moduleOf topic) = moduleOf (lower topic) := by
  rw [moduleOf, moduleOf, lower_bare, lower_before isSeparator_underscore]

/-! ### The module of a bare name -/

theorem dropTilde_eq_self_of_prefix {s whole : List Char} (hbegins : s <+: whole)
    (h : dropTilde whole = whole) : dropTilde s = s := by
  obtain ⟨behind, rfl⟩ := hbegins
  cases s with
  | nil => rfl
  | cons c rest =>
    refine dropTilde_of_ne ?_ rest
    rintro rfl
    simpa [dropTilde] using congrArg List.length h

/-- A name that is bare has no blanks around it and no tilde before it. -/
theorem trimChars_of_bare {name : String} (h : bare name = name) :
    trimChars name.toList = name.toList ∧ dropTilde name.toList = name.toList := by
  rw [← String.toList_inj, toList_bare] at h
  have hlength := length_trimChars_le name.toList
  cases htrim : trimChars name.toList with
  | nil =>
    rw [htrim] at h
    exact ⟨h, by rw [← h]; rfl⟩
  | cons c rest =>
    rw [htrim] at h hlength
    by_cases hc : c = '~'
    · subst hc
      -- without the tilde the name would be shorter than it is
      replace h : rest = name.toList := h
      rw [← h] at hlength
      exact absurd hlength (Nat.not_succ_le_self _)
    · rw [dropTilde_of_ne hc] at h
      exact ⟨h, by rw [← h, dropTilde_of_ne hc]⟩

/-- **The module of a topic** is not changed by making its name bare, unless the name is not bare
even then. -/
theorem moduleOf_bare {topic : String} (h : bare (bare topic) = bare topic) :
    moduleOf (bare topic) = moduleOf topic := by
  have hmark : ¬ isBlank '_' = true := by decide
  obtain ⟨htrimmed, htilde⟩ := trimChars_of_bare h
  rw [← String.toList_inj]
  simp only [moduleOf, toList_bare, toList_before] at htrimmed htilde ⊢
  rw [← trimChars_takeWhile_trimChars hmark topic.toList]
  cases htrim : trimChars topic.toList with
  | nil => rfl
  | cons c rest =>
    rw [htrim] at htrimmed htilde
    by_cases hc : c = '~'
    · subst hc
      have hbegin := dropWhile_trimChars rest
      replace htrimmed : trimChars rest = rest := htrimmed
      replace htilde : dropTilde rest = rest := htilde
      rw [htrimmed] at hbegin
      have hbegins := List.takeWhile_prefix (l := rest) (· ≠ '_')
      -- what is cut off behind the tilde begins neither with a blank nor with another tilde
      have hrest : trimChars (rest.takeWhile (· ≠ '_')) =
          (rest.takeWhile (· ≠ '_')).rdropWhile isBlank := by
        rw [trimChars_eq, dropWhile_eq_self_of_prefix hbegins hbegin]
      have htildes : trimChars (('~' :: rest).takeWhile (· ≠ '_')) =
          '~' :: (rest.takeWhile (· ≠ '_')).rdropWhile isBlank := by
        have htilde : ¬ isBlank '~' = true := by decide
        rw [List.takeWhile_cons_of_pos (by decide), trimChars_eq,
          List.dropWhile_cons_of_neg htilde, rdropWhile_cons htilde]
      rw [htildes]
      change dropTilde (trimChars (rest.takeWhile (· ≠ '_'))) = _
      have hcut := (List.rdropWhile_prefix isBlank (rest.takeWhile (· ≠ '_'))).trans hbegins
      rw [hrest, dropTilde_eq_self_of_prefix hcut htilde]
      rfl
    · rw [dropTilde_of_ne hc]

end Topic

end Colloquy

import Colloquy.Text.Casing

/-!
# Small letters stay as they are

Lower-casing a text a second time changes nothing (`lower_lower`). This rests on one fact about the
table of runs: what a run of capitals is taken to is met by no run. The fact is looked up run
against run (`CaseRun.misses`), not character by character: either the one ends before the other
begins, or both go in steps of two and never meet.

The capital I with a dot above is in no run, and neither of the two characters it becomes is a
capital. Where a capital sigma goes, to its final form or to the other, does not matter here either.
-/

namespace Colloquy.Text

namespace CaseRun

variable (run other : CaseRun)

/-- The code of the small letter of the run's first capital. -/
def low : Nat := (run.first + run.shift).toNat

/-- The code of the small letter of the run's last capital. -/
def high : Nat := (run.last + run.shift).toNat

/-- The small letters of a run **miss** the capitals of another one: they lie on one side of them,
or between them. -/
def misses : Bool :=
  Nat.blt other.last run.low || Nat.blt run.high other.first ||
    ((Nat.beq run.step 2 || Nat.beq run.first run.last) && Nat.beq other.step 2 &&
      Nat.beq ((run.low + other.first) % 2) 1)

variable {run other}

theorem not_holds_of_misses (h : run.misses other = true) (hlow : 0 ≤ run.first + run.shift)
    {code : Nat} (hcode : run.holds code = true) :
    other.holds (code + run.shift).toNat = false := by
  simp only [holds, Bool.and_eq_true, decide_eq_true_eq, beq_iff_eq] at hcode
  obtain ⟨⟨hfirst, hlast⟩, hstep⟩ := hcode
  refine Bool.eq_false_iff.mpr fun hother => ?_
  simp only [holds, Bool.and_eq_true, decide_eq_true_eq, beq_iff_eq] at hother
  obtain ⟨⟨hfirst', hlast'⟩, hstep'⟩ := hother
  simp only [misses, low, high, Bool.or_eq_true, Bool.and_eq_true, Nat.blt_eq, Nat.beq_eq] at h
  rcases h with (hbelow | habove) | ⟨⟨hsteps, htwo⟩, hodd⟩
  · omega
  · omega
  · -- both go in steps of two, and an odd number apart
    rw [htwo] at hstep'
    rcases hsteps with hsteps | hsingle
    · rw [hsteps] at hstep
      omega
    · omega

end CaseRun

/-! ### What the table holds -/

theorem caseRuns_miss : ∀ run ∈ caseRuns, ∀ other ∈ caseRuns, run.misses other = true := by
  have hall : (caseRuns.all fun run => caseRuns.all run.misses) = true := by decide +kernel
  intro run hrun other hother
  exact List.all_eq_true.mp (List.all_eq_true.mp hall run hrun) other hother

/-- No small letter of a run is the capital I with a dot above. -/
theorem caseRuns_miss_dotted : ∀ run ∈ caseRuns, run.misses ⟨0x130, 0x130, 1, 0⟩ = true := by
  decide +kernel

theorem caseRuns_low : ∀ run ∈ caseRuns, 0 ≤ run.first + run.shift := by decide +kernel

/-- Only one run has capitals of ASCII. -/
theorem caseRuns_first :
    ∀ run ∈ caseRuns, run = ⟨0x41, 0x5A, 1, 32⟩ ∨ 0x80 ≤ run.first := by decide +kernel

/-! ### Small characters -/

/-- A character is **small** if it is no capital: neither one of a run, nor the one that is not. -/
def IsSmall (c : Char) : Prop :=
  (∀ run ∈ caseRuns, run.holds c.toNat = false) ∧ c.toNat ≠ 0x130

instance (c : Char) : Decidable (IsSmall c) := inferInstanceAs (Decidable (_ ∧ _))

theorem toNat_ofNat (code : Nat) : (Char.ofNat code).toNat = code ∨ (Char.ofNat code).toNat = 0 := by
  by_cases h : code.isValidChar
  · exact Or.inl (congrArg Char.toNat (dif_pos h))
  · exact Or.inr (congrArg Char.toNat (dif_neg h))

theorem isSmall_of_ascii {c : Char} (h : c.toNat < 0x80) (hnot : c.toNat < 0x41 ∨ 0x5A < c.toNat) :
    IsSmall c := by
  refine ⟨fun run hrun => ?_, by omega⟩
  rcases caseRuns_first run hrun with rfl | hfirst
  · simp only [CaseRun.holds, Bool.and_eq_false_iff, decide_eq_false_iff_not]
    omega
  · simp only [CaseRun.holds, Bool.and_eq_false_iff, decide_eq_false_iff_not]
    omega

namespace IsSmall

variable {c : Char}

theorem smallForm_eq (h : IsSmall c) : smallForm c = [c] := by
  have hnone : caseRuns.find? (·.holds c.toNat) = none :=
    List.find?_eq_none.mpr fun run hrun => by simp [h.1 run hrun]
  rw [smallForm, if_neg h.2, hnone]

theorem ne_sigma (h : IsSmall c) : c ≠ 'Σ' := by
  rintro rfl
  have hrun := h.1 ⟨0x3A3, 0x3AB, 1, 32⟩ (by decide +kernel)
  exact absurd hrun (by decide)

theorem toLower_eq (h : IsSmall c) : c.toLower = c := by
  have hrun := h.1 ⟨0x41, 0x5A, 1, 32⟩ (by decide +kernel)
  refine dif_neg fun hupper => ?_
  have hle : 0x41 ≤ c.toNat ∧ c.toNat ≤ 0x5A := hupper
  simp only [CaseRun.holds, Bool.and_eq_false_iff, decide_eq_false_iff_not,
    beq_eq_false_iff_ne] at hrun
  omega

end IsSmall

theorem isSmall_toLower {c : Char} (h : c.toNat < 0x80) : IsSmall c.toLower := by
  have hall : ∀ code < 0x80, (Char.ofNat code).toLower.toNat < 0x80 ∧
      ((Char.ofNat code).toLower.toNat < 0x41 ∨ 0x5A < (Char.ofNat code).toLower.toNat) := by
    decide +kernel
  obtain ⟨hlt, hnot⟩ := hall c.toNat h
  rw [Char.ofNat_toNat] at hlt hnot
  exact isSmall_of_ascii hlt hnot

theorem isSmall_of_mem_smallForm {c small : Char} (h : small ∈ smallForm c) : IsSmall small := by
  rw [smallForm] at h
  split at h
  · rcases List.mem_cons.mp h with rfl | h
    · decide +kernel
    · rw [List.mem_singleton.mp h]
      decide +kernel
  · rename_i hdotted
    split at h
    · -- a capital of a run: its small letter is met by no run
      rename_i run hfind
      have hrun : run ∈ caseRuns := List.mem_of_find?_eq_some hfind
      have hholds : run.holds c.toNat = true := by simpa using List.find?_some hfind
      rw [List.mem_singleton.mp h]
      rcases toNat_ofNat (c.toNat + run.shift).toNat with hcode | hcode
      · refine ⟨fun other hother => ?_, ?_⟩
        · rw [hcode]
          exact CaseRun.not_holds_of_misses (caseRuns_miss run hrun other hother)
            (caseRuns_low run hrun) hholds
        · have hnot := CaseRun.not_holds_of_misses (caseRuns_miss_dotted run hrun)
            (caseRuns_low run hrun) hholds
          rw [hcode]
          intro heq
          rw [heq] at hnot
          exact absurd hnot (by decide)
      · exact isSmall_of_ascii (by omega) (by omega)
    · -- a character that is no capital
      rename_i hfind
      rw [List.mem_singleton.mp h]
      exact ⟨fun run hrun => by simpa using List.find?_eq_none.mp hfind run hrun, hdotted⟩

/-! ### Small texts -/

theorem isSmall_of_mem_lowerAfter {before s : List Char} {c : Char} (h : c ∈ lowerAfter before s) :
    IsSmall c := by
  induction s generalizing before with
  | nil => cases h
  | cons first rest ih =>
    rw [lowerAfter] at h
    rcases List.mem_append.mp h with h | h
    · split at h
      · -- both forms of a sigma are small
        split at h <;> (rw [List.mem_singleton.mp h]; decide +kernel)
      · split at h
        · rename_i hascii
          rw [List.mem_singleton.mp h]
          exact isSmall_toLower hascii
        · exact isSmall_of_mem_smallForm h
    · exact ih h

theorem lowerAfter_of_isSmall {s : List Char} (h : ∀ c ∈ s, IsSmall c) (before : List Char) :
    lowerAfter before s = s := by
  induction s generalizing before with
  | nil => rfl
  | cons c rest ih =>
    have hc : IsSmall c := h c List.mem_cons_self
    rw [lowerAfter, ih (fun other hother => h other (List.mem_cons_of_mem _ hother)),
      if_neg hc.ne_sigma, hc.toLower_eq, hc.smallForm_eq]
    split <;> rfl

/-- **Small letters stay as they are.** -/
theorem lower_lower (s : String) : lower (lower s) = lower s := by
  rw [← String.toList_inj, toList_lower]
  exact lowerAfter_of_isSmall
    (fun c hc => isSmall_of_mem_lowerAfter (by simpa only [toList_lower] using hc)) []

end Colloquy.Text

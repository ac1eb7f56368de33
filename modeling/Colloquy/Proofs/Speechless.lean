import Mathlib.Computability.Language
import Colloquy.Proofs.Prompts

/-!
# The language of speechless texts

Whether a text carries speech is found out by taking its tags out, from the left and without
overlap, and looking at what is left. This file says which texts are found to be speechless, without
taking anything out: those that are put together from blanks and tags (`isSpeechless_iff`).

The two agree since a tag can be read in one way only. Its first `>` is its end, whatever else it
holds, be it the beginning of another tag; so what is found at the head of a text is the tag that
stands there, and no other (`tagLength?_append_of_mem`, `exists_of_tagLength?`). And no blank begins
a tag, so that nothing of a text is taken for a tag that was put there as something else.

Every directive is a tag, and a tag in front of a text is taken out before the text is looked at. So
a directive may be put in front of any text, even of one that ends inside of a tag.
-/

namespace Colloquy.Markup

open Text
open scoped Computability

/-! ### Blanks and tags as languages -/

/-- The texts of **one blank**. -/
def oneBlank : Language Char := {w | ∃ c, isBlank c = true ∧ w = [c]}

/-- The texts of **one tag**: `<mark`, not followed by a word character, then any characters other
than `>`, then `/>`. -/
def oneTag : Language Char :=
  {w | ∃ inside, w = opening ++ (inside ++ ['/', '>']) ∧ '>' ∉ inside ∧
    ∀ c ∈ (inside ++ ['/', '>']).head?, isWordChar c = false}

variable {s tag : List Char}

/-! ### The tag at the head of a text -/

/-- Whether a word goes on behind `<mark` does not depend on the bracket at the end of the tag. -/
theorem unworded_iff (inside : List Char) :
    (∀ c ∈ (inside ++ ['/', '>']).head?, isWordChar c = false) ↔
      ¬ (inside ++ ['/']).head?.any isWordChar = true := by
  have hslash : isWordChar '/' = false := by decide +kernel
  cases inside with
  | nil => simp [hslash]
  | cons c rest => simp

/-- **The tag at the head** of a text is found, whatever comes after it. -/
theorem tagLength?_append_of_mem (h : tag ∈ oneTag) (behind : List Char) :
    tagLength? (tag ++ behind) = some tag.length := by
  obtain ⟨inside, rfl, hinside, hword⟩ := h
  have hfront : '>' ∉ inside ++ ['/'] := by simp [hinside]
  have hend : (inside ++ ['/', '>'] ++ behind).takeWhile (· ≠ '>') = inside ++ ['/'] := by
    have hsplit : inside ++ ['/', '>'] ++ behind = (inside ++ ['/']) ++ '>' :: behind := by simp
    rw [hsplit, takeWhile_ne_append hfront]
  have hclosed : (inside ++ ['/', '>'] ++ behind).drop (inside ++ ['/']).length ≠ [] := by
    intro hnil
    have hshort := List.drop_eq_nil_iff.mp hnil
    simp only [List.length_append, List.length_cons, List.length_nil] at hshort
    omega
  rw [List.append_assoc, tagLength?, if_pos (by simp), List.drop_left]
  dsimp only
  rw [hend, if_pos ⟨hclosed, List.getLast?_concat, (unworded_iff inside).mp hword⟩]
  refine congrArg some ?_
  simp only [List.length_append, List.length_cons, List.length_nil]
  omega

/-- **What is found** at the head of a text is a tag. -/
theorem exists_of_tagLength? {length : Nat} (h : tagLength? s = some length) :
    ∃ tag ∈ oneTag, ∃ behind, s = tag ++ behind ∧ tag.length = length := by
  rw [tagLength?] at h
  split at h
  · rename_i hopening
    obtain ⟨more, rfl⟩ := List.isPrefixOf_iff_prefix.mp hopening
    rw [List.drop_left] at h
    dsimp only at h
    split at h
    · rename_i hfound
      obtain ⟨hclosed, hslash, hword⟩ := hfound
      have hmem : '>' ∈ more := by
        by_contra hnot
        rw [takeWhile_ne_eq_self hnot] at hclosed
        exact hclosed List.drop_length
      -- the text is cut at its first bracket that closes
      obtain ⟨front, behind, rfl, hfront⟩ := List.eq_append_cons_of_mem hmem
      rw [takeWhile_ne_append hfront] at hslash hword h
      obtain ⟨inside, rfl⟩ := List.getLast?_eq_some_iff.mp hslash
      have hopen : '>' ∉ inside := fun hin => hfront (List.mem_append_left _ hin)
      refine ⟨opening ++ (inside ++ ['/', '>']),
        ⟨inside, rfl, hopen, (unworded_iff inside).mpr hword⟩, behind, by simp, ?_⟩
      rw [← Option.some_inj.mp h]
      simp only [List.length_append, List.length_cons, List.length_nil]
      omega
    · cases h
  · cases h

/-! ### Taking the tags out -/

/-- What has been found to be in a tag is passed over. -/
theorem untaggedFrom_eq_drop (inTag : Nat) (s : List Char) :
    untaggedFrom inTag s = untaggedFrom 0 (s.drop inTag) := by
  induction s generalizing inTag with
  | nil => cases inTag <;> rfl
  | cons c rest ih =>
    cases inTag with
    | zero => rfl
    | succ inTag => exact ih inTag

theorem exists_cons_of_mem_oneTag (h : tag ∈ oneTag) : ∃ rest, tag = '<' :: rest := by
  obtain ⟨inside, rfl, -⟩ := h
  exact ⟨_, rfl⟩

/-- A tag in front of a text **is taken out**. -/
theorem untaggedFrom_tag_append (h : tag ∈ oneTag) (s : List Char) :
    untaggedFrom 0 (tag ++ s) = untaggedFrom 0 s := by
  have hlength := tagLength?_append_of_mem h s
  obtain ⟨rest, rfl⟩ := exists_cons_of_mem_oneTag h
  rw [List.cons_append] at hlength ⊢
  rw [untaggedFrom, hlength]
  dsimp only
  rw [untaggedFrom_eq_drop, List.length_cons, Nat.add_sub_cancel, List.drop_left]

/-- A blank in front of a text **stays**. -/
theorem untaggedFrom_blank_cons {c : Char} (hc : isBlank c = true) (s : List Char) :
    untaggedFrom 0 (c :: s) = c :: untaggedFrom 0 s := by
  have hne : c ≠ '<' := by
    rintro rfl
    exact absurd hc (by decide)
  rw [untaggedFrom, tagLength?_eq_none_of_ne hne]

/-! ### What is found to be speechless -/

/-- One more piece may come in front of what is put together from pieces. -/
theorem append_mem_kstar {l : Language Char} {w s : List Char} (hw : w ∈ l) (hs : s ∈ l∗) :
    w ++ s ∈ l∗ := by
  rw [← Language.one_add_self_mul_kstar_eq_kstar]
  exact Or.inr (Language.append_mem_mul hw hs)

/-- If nothing but blanks is left of a text, it is **put together** from blanks and tags. -/
theorem mem_kstar_of_untaggedFrom (inTag : Nat) (s : List Char)
    (h : ∀ c ∈ untaggedFrom inTag s, isBlank c = true) :
    s.drop inTag ∈ (oneBlank + oneTag)∗ := by
  induction inTag, s using untaggedFrom.induct with
  | case1 inTag =>
    rw [List.drop_nil]
    exact Language.nil_mem_kstar _
  | case2 inTag c rest ih => exact ih h
  | case3 c rest length hlength ih =>
    rw [untaggedFrom, hlength] at h
    obtain ⟨tag, htag, behind, hsplit, rfl⟩ := exists_of_tagLength? hlength
    obtain ⟨inner, rfl⟩ := exists_cons_of_mem_oneTag htag
    rw [List.cons_append] at hsplit
    obtain ⟨rfl, rfl⟩ := List.cons.inj hsplit
    have hbehind := ih h
    rw [List.length_cons, Nat.add_sub_cancel, List.drop_left] at hbehind
    exact append_mem_kstar (Or.inr htag) hbehind
  | case4 c rest hnone ih =>
    rw [untaggedFrom, hnone] at h
    obtain ⟨hc, hrest⟩ := List.forall_mem_cons.mp h
    have hblank : [c] ∈ oneBlank + oneTag := Or.inl ⟨c, hc, rfl⟩
    exact append_mem_kstar hblank (ih hrest)

/-- Of a text that is put together from blanks and tags nothing but **blanks is left**. -/
theorem isBlank_of_mem_kstar (h : s ∈ (oneBlank + oneTag)∗) :
    ∀ c ∈ untaggedFrom 0 s, isBlank c = true := by
  obtain ⟨pieces, rfl, hpieces⟩ := Language.mem_kstar.mp h
  clear h
  induction pieces with
  | nil => exact fun c hc => absurd hc List.not_mem_nil
  | cons piece rest ih =>
    obtain ⟨hpiece, hrest⟩ := List.forall_mem_cons.mp hpieces
    have hblank := ih hrest
    rw [List.flatten_cons]
    rcases hpiece with ⟨c, hc, rfl⟩ | htag
    · rw [List.singleton_append, untaggedFrom_blank_cons hc]
      exact List.forall_mem_cons.mpr ⟨hc, hblank⟩
    · rw [untaggedFrom_tag_append htag]
      exact hblank

/-! ### Directives -/

/-- A blank behind `<mark` **ends the word**, so that it does not matter what follows. -/
theorem mem_oneTag_of_blank {inner : List Char} (h : '>' ∉ inner) :
    opening ++ (' ' :: inner ++ ['/', '>']) ∈ oneTag := by
  refine ⟨' ' :: inner, rfl, by simpa using h, ?_⟩
  rintro c hc
  obtain rfl := Option.some_inj.mp hc
  decide +kernel

theorem save_mem_oneTag (slot : Option Slot) : (save slot).toList ∈ oneTag := by
  have hclose : '>' ∉ "name=\"cmd:playback-save,data:\x7b+stateToSAVE+:+MarkupState".toList ++
      ((slot.elim "" Slot.digit).toList ++ "+\x7d\"".toList) := by
    simp [(not_mem_digit slot).2]
  unfold save
  simpa [opening] using mem_oneTag_of_blank hclose

theorem restore_mem_oneTag (slot : Option Slot) : (restore slot).toList ∈ oneTag := by
  have hclose : '>' ∉ "name=\"cmd:playback-restore,data:\x7b+stateToRESTORE+:+MarkupState".toList ++
      ((slot.elim "" Slot.digit).toList ++ "+\x7d\"".toList) := by
    simp [(not_mem_digit slot).2]
  unfold restore
  simpa [opening] using mem_oneTag_of_blank hclose

/-- **A tag in front** of a text does not make it speechless, and does not give it speech. -/
theorem isSpeechless_tag_append {directive : String} (h : directive.toList ∈ oneTag) (s : String) :
    isSpeechless (directive ++ s) = isSpeechless s := by
  rw [isSpeechless, String.toList_append, untaggedFrom_tag_append h]
  rfl

/-- **The speechless texts** are those that are put together from blanks and tags. So a directive in
front of a text makes no difference to whether it is speechless, whatever that text is. -/
theorem isSpeechless_iff (s : String) :
    (isSpeechless s = true ↔ s.toList ∈ (oneBlank + oneTag)∗) ∧
      ∀ slot, isSpeechless (save slot ++ s) = isSpeechless s ∧
        isSpeechless (restore slot ++ s) = isSpeechless s := by
  refine ⟨?_, fun slot => ⟨isSpeechless_tag_append (save_mem_oneTag slot) s,
    isSpeechless_tag_append (restore_mem_oneTag slot) s⟩⟩
  rw [isSpeechless, List.all_eq_true]
  constructor
  · intro h
    exact mem_kstar_of_untaggedFrom 0 s.toList h
  · intro h
    exact isBlank_of_mem_kstar h

/-- A tag may hold the beginning of another one, but it is none if a word goes on behind `<mark`, or
if the bracket closes without a slash. -/
example : isSpeechless " <mark <mark/> " = true ∧ isSpeechless "<markup/>" = false ∧
    isSpeechless "<mark >/>" = false := by decide +kernel

end Colloquy.Markup

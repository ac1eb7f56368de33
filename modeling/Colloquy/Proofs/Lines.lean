import Colloquy.Proofs.FrontEnds
import Colloquy.Proofs.Names

/-!
# Texts by their lines

A written script may have more lines than turns. What is passed over is a line in which nothing
stands but blanks, or nothing before a number sign (`Script.IsIdle`); and a line may end with a line
feed, with a carriage return before it, or with the text. `Script.Holds` says of a text, line by
line, which of its lines are left: every text holds some lines (`Script.exists_holds`), and these
are read, each without the blanks around it, and no others (`Script.Holds.ofText`).

What a codec writes takes one line and begins with a brace, so that it is none of those that are
passed over, whatever texts are in it. So scripts are read as they were written, wherever idle lines
have been put between them; and the first line left that cannot be read is what is wrong with the
whole.
-/

namespace Colloquy

namespace Text

/-! ### Blanks around a line -/

/-- A **carriage return** at the end of a line is taken off with the blanks. -/
theorem trim_append_return (line : String) : trim (line ++ "\r") = trim line := by
  have hblank : isBlank '\r' = true := by decide
  rw [← String.toList_inj, toList_trim, toList_trim, String.toList_append, trimChars_eq,
    trimChars_eq]
  change ((line.toList ++ ['\r']).dropWhile isBlank).rdropWhile isBlank = _
  rw [List.dropWhile_append]
  split
  · rename_i hempty
    rw [List.isEmpty_iff.mp hempty]
    simp [hblank]
  · rw [List.rdropWhile_concat_pos _ _ _ hblank]

/-- The **first character** that is left of a line is the first one that is no blank. -/
theorem head?_trimChars (s : List Char) : (trimChars s).head? = s.find? (!isBlank ·) := by
  rw [trimChars_eq]
  induction s with
  | nil => rfl
  | cons c rest ih =>
    cases hc : isBlank c with
    | true => rw [List.dropWhile_cons_of_pos hc, ih, List.find?_cons_of_neg (by simp [hc])]
    | false =>
      rw [List.dropWhile_cons_of_neg (by simp [hc]), rdropWhile_cons (by simp [hc]),
        List.find?_cons_of_pos (by simp [hc]), List.head?_cons]

theorem pieces_of_not_mem {mark : Char} {s : List Char} (h : mark ∉ s) : pieces mark s = [s] := by
  induction s with
  | nil => rfl
  | cons c s ih =>
    obtain ⟨hc, hs⟩ : mark ≠ c ∧ mark ∉ s := by simpa using h
    rw [pieces, if_neg (Ne.symm hc), ih hs]

/-- A text **without a line feed** is its only line, if it is not empty. -/
theorem lines_of_not_mem {line : String} (h : '\n' ∉ line.toList) :
    lines line = if line = "" then [] else [line] := by
  rw [lines, pieces_of_not_mem h]
  by_cases hempty : line = ""
  · rw [hempty]
    rfl
  · have hchars : line.toList ≠ [] := fun hnil => hempty (String.toList_eq_nil_iff.mp hnil)
    simp [hempty, hchars]

end Text

namespace Script

open Json (Failure)

/-! ### The lines that are left -/

/-- A line is **idle** if nothing but blanks stands in it before a number sign or its end. -/
def IsIdle (line : String) : Prop := ∀ c ∈ line.toList.find? (!Text.isBlank ·), c = '#'

instance (line : String) : Decidable (IsIdle line) := Option.decidableForallMem _

/-- What may **end** a line: a line feed, or a carriage return and a line feed, and then the rest of
the text; or the end of the text. -/
inductive Ends : String → String → Prop where
  | lineFeed (rest : String) : Ends "\n" rest
  | carriageReturn (rest : String) : Ends "\r\n" rest
  | last : Ends "" ""

/-- A text **holds** lines if these are left, in this order, when its idle lines are passed over. -/
inductive Holds : List String → String → Prop where
  | nil : Holds [] ""
  | idle {line ending rest : String} {lines : List String} :
      '\n' ∉ line.toList → IsIdle line → Ends ending rest → Holds lines rest →
        Holds lines (line ++ ending ++ rest)
  | turn {line ending rest : String} {lines : List String} :
      '\n' ∉ line.toList → ¬ IsIdle line → Ends ending rest → Holds lines rest →
        Holds (line :: lines) (line ++ ending ++ rest)

/-- Just the lines that are **not idle** are read as turns. -/
theorem isTurn_trim (line : String) : isTurn (Text.trim line) = decide (¬ IsIdle line) := by
  have hidle : IsIdle line ↔ ∀ c ∈ (Text.trim line).toList.head?, c = '#' := by
    rw [Text.toList_trim, Text.head?_trimChars]
    rfl
  rw [isTurn, Bool.eq_iff_iff, decide_eq_true_iff, hidle]
  cases hhead : (Text.trim line).toList.head? with
  | none =>
    have hempty : Text.trim line = "" :=
      String.toList_eq_nil_iff.mp (List.head?_eq_none_iff.mp hhead)
    simp [hempty]
  | some c =>
    have hempty : Text.trim line ≠ "" := by
      intro hnil
      rw [hnil] at hhead
      cases hhead
    simp [hempty]

/-- **One line** is read on its own, however it ends. -/
theorem turnLines_append {line ending rest : String} (hline : '\n' ∉ line.toList)
    (hends : Ends ending rest) :
    turnLines (line ++ ending ++ rest) =
      (if IsIdle line then [] else [Text.trim line]) ++ turnLines rest := by
  have hone : ([line].map Text.trim).filter isTurn =
      if IsIdle line then [] else [Text.trim line] := by
    rw [List.map_singleton, List.filter_singleton, isTurn_trim]
    by_cases hidle : IsIdle line <;> simp [hidle]
  cases hends with
  | lineFeed =>
    have hlines := Text.lines_append hline rest
    rw [Console.line] at hlines
    rw [turnLines, hlines, ← List.singleton_append, List.map_append, List.filter_append, hone]
    rfl
  | carriageReturn =>
    have hreturn : '\n' ∉ (line ++ "\r").toList := by
      rw [String.toList_append, List.mem_append, not_or]
      exact ⟨hline, by decide⟩
    have hlines := Text.lines_append hreturn rest
    have hsplit : line ++ "\r\n" = line ++ "\r" ++ "\n" := by
      rw [String.append_assoc]
      rfl
    rw [Console.line, ← hsplit] at hlines
    rw [turnLines, hlines, List.map_cons, Text.trim_append_return, ← List.singleton_append,
      List.filter_append, ← hone]
    rfl
  | last =>
    rw [String.append_empty, String.append_empty, turnLines, Text.lines_of_not_mem hline]
    split
    · rename_i hempty
      have hidle : IsIdle line := by
        rw [hempty]
        decide
      rw [if_pos hidle]
      rfl
    · rw [hone]
      exact (List.append_nil _).symm

/-- **The lines that are left** are those that are read, without the blanks around them. -/
theorem Holds.turnLines {lines : List String} {text : String} (h : Holds lines text) :
    turnLines text = lines.map Text.trim := by
  induction h with
  | nil => rfl
  | idle hline hidle hends _ ih =>
    rw [turnLines_append hline hends, if_pos hidle, ih, List.nil_append]
  | turn hline hturn hends _ ih =>
    rw [turnLines_append hline hends, if_neg hturn, ih, List.singleton_append, List.map_cons]

/-- The **first line** of a text that holds lines. -/
theorem Holds.exists_line {lines : List String} {text : String} (h : Holds lines text) :
    ∃ line ending rest lines, text = line ++ ending ++ rest ∧ '\n' ∉ line.toList ∧
      Ends ending rest ∧ Holds lines rest := by
  cases h with
  | nil => exact ⟨"", "", "", [], rfl, List.not_mem_nil, .last, .nil⟩
  | idle hline _ hends hrest | turn hline _ hends hrest =>
    exact ⟨_, _, _, _, rfl, hline, hends, hrest⟩

/-- **Every text** holds some lines. -/
theorem exists_holds (text : String) : ∃ lines, Holds lines text := by
  have hline {line ending rest : String} {lines : List String} (hline : '\n' ∉ line.toList)
      (hends : Ends ending rest) (hrest : Holds lines rest) :
      ∃ lines, Holds lines (line ++ ending ++ rest) := by
    by_cases hidle : IsIdle line
    · exact ⟨_, .idle hline hidle hends hrest⟩
    · exact ⟨_, .turn hline hidle hends hrest⟩
  obtain ⟨s, rfl⟩ : ∃ s, String.ofList s = text := ⟨text.toList, String.ofList_toList⟩
  induction s with
  | nil => exact ⟨[], .nil⟩
  | cons c s ih =>
    obtain ⟨lines, h⟩ := ih
    rw [← List.singleton_append, String.ofList_append]
    by_cases hc : c = '\n'
    · -- a line feed ends an empty line
      rw [hc]
      have hempty : '\n' ∉ "".toList := List.not_mem_nil
      exact hline hempty (.lineFeed _) h
    · -- any other character stands in front of the first line
      obtain ⟨line, ending, rest, lines, htext, hfirst, hends, hrest⟩ := h.exists_line
      rw [htext, ← String.append_assoc, ← String.append_assoc]
      refine hline ?_ hends hrest
      rw [String.toList_append, String.toList_ofList, List.singleton_append, List.mem_cons, not_or]
      exact ⟨Ne.symm hc, hfirst⟩

/-! ### What is read of them -/

/-- Reads a line that is left, **without the blanks** around it. -/
def ofLine (line : String) : Except Failure TurnScript := Wire.turnScript.ofText (Text.trim line)

/-- **The lines that are left** are read, and no others. -/
theorem Holds.ofText {lines : List String} {text : String} (h : Holds lines text) :
    ofText text = lines.mapM ofLine := by
  rw [Script.ofText, h.turnLines, List.mapM_map]
  rfl

/-- Lines that can all be read are read as **their turns**. -/
theorem mapM_of_ok {lines : List String} {scripts : List TurnScript}
    (h : List.Forall₂ (fun line script => ofLine line = .ok script) lines scripts) :
    lines.mapM ofLine = .ok scripts := by
  induction h with
  | nil => rfl
  | cons hline _ ih =>
    rw [List.mapM_cons, hline, ih]
    rfl

/-- The **first line** that cannot be read is what is wrong with all of them. -/
theorem mapM_of_error {good : List String}
    (hgood : ∀ line ∈ good, ∃ script, ofLine line = .ok script) {bad : String} {failure : Failure}
    (hbad : ofLine bad = .error failure) (rest : List String) :
    (good ++ bad :: rest).mapM ofLine = .error failure := by
  induction good with
  | nil =>
    rw [List.nil_append, List.mapM_cons, hbad]
    rfl
  | cons line good ih =>
    obtain ⟨⟨script, hline⟩, hothers⟩ := List.forall_mem_cons.mp hgood
    rw [List.cons_append, List.mapM_cons, hline, ih hothers]
    rfl

end Script

/-! ### What is written -/

/-- The **line** of a turn, as it is written. -/
def lineOf (script : TurnScript) : String := (Wire.turnScript.write script).text

/-- The line of a turn is **not passed over**. -/
theorem not_isIdle_lineOf (script : TurnScript) : ¬ Script.IsIdle (lineOf script) := by
  have hturn : Script.isTurn (Text.trim (lineOf script)) = true := (writes_text script).isTurn
  rw [Script.isTurn_trim, decide_eq_true_iff] at hturn
  exact hturn

/-- **What is written is read again**, whatever texts are in it: settings, catalogs, and the turns
of a script, one to a line, with either end of line and wherever idle lines are put between them.
And every text holds lines, of which the first one that cannot be read is what is wrong with the
whole. -/
theorem written_survives :
    (∀ script : TurnScript, '\n' ∉ (lineOf script).toList ∧ ¬ Script.IsIdle (lineOf script)) ∧
    (∀ (scripts : List TurnScript) (text : String),
      Script.Holds (scripts.map lineOf) text → Script.ofText text = .ok scripts) ∧
    (∀ text, (∃ lines, Script.Holds lines text) ∧
      ∀ good bad rest failure, Script.Holds (good ++ bad :: rest) text →
        (∀ line ∈ good, ∃ script, Wire.turnScript.ofText (Text.trim line) = .ok script) →
          Wire.turnScript.ofText (Text.trim bad) = .error failure →
            Script.ofText text = .error failure) ∧
    (∀ settings : Settings,
      Wire.settings.ofText (Wire.settings.write settings).text = .ok settings) ∧
    (∀ catalog : Catalog, Wire.catalog.ofText (Wire.catalog.write catalog).text = .ok catalog) := by
  refine ⟨fun script => ⟨not_mem_text script, not_isIdle_lineOf script⟩, fun scripts text h => ?_,
    fun text => ⟨Script.exists_holds text, fun good bad rest failure h hgood hbad => ?_⟩,
    Wire.settings_faithful.ofText, Wire.catalog_faithful.ofText⟩
  · rw [h.ofText]
    refine Script.mapM_of_ok ?_
    rw [List.forall₂_map_left_iff]
    exact List.forall₂_same.mpr fun script _ => (writes_text script).trim.2
  · rw [h.ofText]
    exact Script.mapM_of_error hgood hbad rest

/-- Two turns behind a comment and a line of blanks, with a line between them and no end of line
behind them. -/
def commented : String :=
  "  # two turns" ++ "\n" ++ ("\t\u00A0" ++ "\r\n" ++
    (lineOf { input := .speech "hi" } ++ "\r\n" ++ ("" ++ "\n" ++
      (lineOf { input := .speech "# 1\n# 2" } ++ "" ++ ""))))

/-- The first of them, and a line that is cut off. -/
def cutOff : String :=
  lineOf { input := .speech "hi" } ++ "\n" ++ (" \x7b" ++ "\r\n" ++ ("#" ++ "" ++ ""))

/-- Both turns are read, although the second one says something with a line feed and number signs.
And nothing is read where a line is cut off. -/
theorem written_survives_commented :
    Script.ofText commented = .ok [{ input := .speech "hi" }, { input := .speech "# 1\n# 2" }] ∧
      Script.ofText cutOff = .error (.flaw .unfinished) := by
  obtain ⟨hline, hread, hfail, -⟩ := written_survives
  have hbrace : ¬ Script.IsIdle " \x7b" := by decide +kernel
  constructor
  · refine hread [_, _] commented (.idle ?_ ?_ (.lineFeed _) (.idle ?_ ?_ (.carriageReturn _)
      (.turn (hline _).1 (hline _).2 (.carriageReturn _) (.idle ?_ ?_ (.lineFeed _)
        (.turn (hline _).1 (hline _).2 .last .nil))))) <;> decide +kernel
  · have hholds : Script.Holds [lineOf { input := .speech "hi" }, " \x7b"] cutOff :=
      .turn (hline _).1 (hline _).2 (.lineFeed _) (.turn (by decide) hbrace (.carriageReturn _)
        (.idle (by decide) (by decide +kernel) .last .nil))
    refine (hfail cutOff).2 [_] _ [] _ hholds (fun line hmem => ?_) (by decide +kernel)
    rw [List.mem_singleton.mp hmem]
    exact ⟨_, (writes_text _).trim.2⟩

end Colloquy

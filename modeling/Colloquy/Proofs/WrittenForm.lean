import Colloquy.Proofs.Heard
import Colloquy.Proofs.Names

/-!
# The written form of commands

A command is written as its name, with the argument in parentheses behind it if there is one, and
what has been written is read again by trimming the text, cutting it at the first parenthesis,
taking one closing parenthesis off the end and trimming the argument.

An argument may have parentheses and blanks inside. The first parenthesis of the text is still the
one behind the name, since no name has any, and the parenthesis that is taken off is the one that
has been written last, so **any argument in parentheses is read as it was given**
(`Command.ofText_parentheses`). What is left to ask of an argument is that trimming leaves it alone
and does not leave nothing. An argument that has been read once is such a one (`Command.tidy_of`).
So the commands that are read back from their written form are exactly those with a tidy argument
(`Command.tidy_iff`), and every command that was read in whatever way is among them.
-/

namespace Colloquy

/-! ### Trimming -/

namespace Text

/-- A text is left alone by trimming if it neither begins nor ends with a blank. -/
theorem trimChars_eq_self_iff {s : List Char} :
    trimChars s = s ↔ s.dropWhile isBlank = s ∧ s.rdropWhile isBlank = s := by
  constructor
  · intro h
    have hbegin := dropWhile_trimChars s
    rw [h] at hbegin
    refine ⟨hbegin, ?_⟩
    rwa [trimChars_eq, hbegin] at h
  · rintro ⟨hbegin, hend⟩
    rw [trimChars_eq, hbegin, hend]

theorem trimChars_trimChars (s : List Char) : trimChars (trimChars s) = trimChars s :=
  trimChars_eq_self_iff.mpr ⟨dropWhile_trimChars s, List.rdropWhile_idempotent isBlank _⟩

@[simp] theorem trim_trim (s : String) : trim (trim s) = trim s := by
  rw [← String.toList_inj, toList_trim, toList_trim, trimChars_trimChars]

/-- Of a trimmed text with something behind it that begins and ends with no blank, no blanks are
taken off. -/
theorem trimChars_append {s rest : List Char} {first last : Char} (hs : trimChars s = s)
    (hfirst : ¬ isBlank first = true) (hlast : ¬ isBlank last = true) :
    trimChars (s ++ first :: (rest ++ [last])) = s ++ first :: (rest ++ [last]) := by
  refine trimChars_eq_self_iff.mpr ⟨?_, ?_⟩
  · cases s with
    | nil => exact List.dropWhile_cons_of_neg hfirst
    | cons c s =>
      have hc := List.dropWhile_eq_self_iff.mp (trimChars_eq_self_iff.mp hs).1 (by simp)
      exact List.dropWhile_cons_of_neg hc
  · rw [← List.cons_append, ← List.append_assoc]
    exact List.rdropWhile_concat_neg _ _ _ hlast

end Text

namespace Command

/-! ### Texts in parentheses -/

theorem withoutClosing_append (s : String) : withoutClosing (s ++ ")") = s := by
  have hwhole : (s ++ ")").toList = s.toList ++ [')'] := by simp
  rw [withoutClosing, hwhole, List.getLast?_concat, if_pos rfl, List.dropLast_concat,
    String.ofList_toList]

/-- A trimmed name with an argument in parentheses behind it is left alone by trimming. -/
theorem trim_parentheses {name : String} (h : Text.trim name = name) (argument : String) :
    Text.trim (name ++ "(" ++ (argument ++ ")")) = name ++ "(" ++ (argument ++ ")") := by
  have hname : Text.trimChars name.toList = name.toList := by rw [← Text.toList_trim, h]
  have hwhole : (name ++ "(" ++ (argument ++ ")")).toList =
      name.toList ++ '(' :: (argument.toList ++ [')']) := by simp
  rw [← String.toList_inj, Text.toList_trim, hwhole,
    Text.trimChars_append hname (by decide) (by decide)]

/-- **An argument in parentheses** is the one of the command that is read, whatever it holds. -/
theorem ofText_parentheses {name : String} (hname : '(' ∉ name.toList)
    (htrim : Text.trim name = name) (argument : String) :
    ofText (name ++ "(" ++ argument ++ ")") = of name (some argument) := by
  have hcut : Text.cutAt? '(' (name ++ "(" ++ (argument ++ ")")) = some (name, argument ++ ")") :=
    Text.cutAt?_append hname _
  have hwhole : name ++ "(" ++ argument ++ ")" = name ++ "(" ++ (argument ++ ")") :=
    String.append_assoc
  rw [ofText, hwhole, trim_parentheses htrim, hcut]
  exact congrArg (fun given => of name (some given)) (withoutClosing_append argument)

/-- A text without parentheses is the **name** of the command that is read. -/
theorem ofText_name {name : String} (hname : '(' ∉ name.toList) (htrim : Text.trim name = name) :
    ofText name = of name none := by
  rw [ofText, htrim, Text.cutAt?_eq_none hname]

/-! ### Tidy arguments -/

/-- A command is **tidy** if its argument, where it has one, has no blanks around it and is not
empty. -/
def Tidy (command : Command) : Prop := argumentOf command.argument? = command.argument?

instance (command : Command) : Decidable command.Tidy := inferInstanceAs (Decidable (_ = _))

/-- What is left of an argument is left of it again. -/
@[simp] theorem argumentOf_argumentOf (argument : Option String) :
    argumentOf (argumentOf argument) = argumentOf argument := by
  cases argument with
  | none => rfl
  | some given =>
    by_cases hempty : Text.trim given = ""
    · simp [argumentOf, Option.filter, hempty]
    · simp [argumentOf, Option.filter, hempty]

/-- **A command that is read is tidy.** -/
theorem tidy_of {name : String} {argument : Option String} {command : Command}
    (h : of name argument = .ok command) : command.Tidy := by
  have hcarries := carries_of name argument command h
  rw [Tidy]
  cases hargument : command.argument? with
  | none => rfl
  | some text =>
    have hleft : argumentOf argument = some text := hcarries text hargument
    rw [← hleft, argumentOf_argumentOf]

theorem tidy_of_ofText {s : String} {command : Command} (h : ofText s = .ok command) :
    command.Tidy := by
  rw [ofText] at h
  split at h
  · exact tidy_of h
  · exact tidy_of h

/-! ### Writing and reading -/

theorem trim_name (command : Command) : Text.trim command.name = command.name := by
  cases command <;> (rw [name]; decide +kernel)

theorem not_mem_name (command : Command) : '(' ∉ command.name.toList := by
  cases command <;> (rw [name]; decide +kernel)

/-- A tidy command is the command of its name and its argument. -/
theorem Tidy.of_name {command : Command} (h : command.Tidy) :
    of command.name command.argument? = .ok command := by
  have hname := trim_name command
  rw [Tidy] at h
  rw [of, h, hname]
  cases command <;> rfl

/-- **A tidy command is read back** from its written form. -/
theorem Tidy.ofText_text {command : Command} (h : command.Tidy) :
    ofText command.text = .ok command := by
  have hread := h.of_name
  rw [text]
  cases hargument : command.argument? with
  | none =>
    rw [hargument] at hread
    exact (ofText_name (not_mem_name command) (trim_name command)).trans hread
  | some argument =>
    rw [hargument] at hread
    exact (ofText_parentheses (not_mem_name command) (trim_name command) argument).trans hread

/-- The commands that are read back from their written form are the tidy ones. -/
theorem tidy_iff {command : Command} : command.Tidy ↔ ofText command.text = .ok command :=
  ⟨Tidy.ofText_text, tidy_of_ofText⟩

/-- **Writing and reading.** A command that came of a name and an argument, or of a text, is read
back from its written form, whatever text its argument is; and the commands that are read back are
those with a tidy argument. A trimmed name without parentheses and any argument in parentheses
behind it are read as the name and the argument are, also where they are refused. -/
theorem read_back :
    (∀ name argument command, of name argument = .ok command →
      ofText command.text = .ok command) ∧
    (∀ s command, ofText s = .ok command → ofText command.text = .ok command) ∧
    (∀ command, ofText command.text = .ok command ↔ Tidy command) ∧
    ∀ name argument, '(' ∉ name.toList → Text.trim name = name →
      ofText (name ++ "(" ++ argument ++ ")") = of name (some argument) := by
  refine ⟨?_, ?_, fun command => tidy_iff.symm, ?_⟩
  · intro name argument command h
    exact (tidy_of h).ofText_text
  · intro s command h
    exact (tidy_of_ofText h).ofText_text
  · intro name argument hname htrim
    exact ofText_parentheses hname htrim argument

/-- An argument with parentheses and blanks inside and around it, a text with blanks everywhere, an
argument that is not tidy, and two that are refused. -/
theorem read_back_parentheses :
    ofText (prependReprompt "(as I)  was)").text = .ok (.prependReprompt "(as I)  was)") ∧
    ofText (sendReprompt (some "re(mote")).text = .ok (.sendReprompt (some "re(mote")) ∧
    ofText (sendReprompt (some " ")).text ≠ .ok (.sendReprompt (some " ")) ∧
    ofText ("prepend_current_reprompt" ++ "(" ++ "  " ++ ")") =
      of "prepend_current_reprompt" (some "  ") ∧
    ofText ("do a dance" ++ "(" ++ "(now)" ++ ")") = of "do a dance" (some "(now)") := by
  obtain ⟨hof, htext, htidy, hparentheses⟩ := read_back
  refine ⟨?_, ?_, ?_, ?_, ?_⟩
  · exact hof " prepend_current_reprompt" (some " (as I)  was) ") _ (by decide +kernel)
  · exact htext "  send_reprompt ( re(mote ) " _ (by decide +kernel)
  · rw [Ne, htidy]
    decide +kernel
  · exact hparentheses _ _ (by decide +kernel) (by decide +kernel)
  · exact hparentheses _ _ (by decide +kernel) (by decide +kernel)

end Command

end Colloquy

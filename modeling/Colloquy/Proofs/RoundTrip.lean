import Mathlib
import Colloquy.Proofs.Grammar
import Colloquy.Wire.Session

/-!
# What is written can be read

A value is written by a codec and made into a text, and the text is read again by the same codec.
Both halves of the way there are followed by both halves of the way back. The text of a value is in
the grammar of JSON and spells the draft of that value (`Json.Spelled`), and the draft is read as what
was written (`Codec.Faithful`). The latter is shown of each way of putting a codec together: a list or
a dictionary of what is read faithfully is read faithfully itself, and so is a record whose fields
are, if no two of them have one name and setting all of them makes the record (`Shape.Faithful`).

Nothing that is written takes more than one line, since line feeds in strings are escaped.

Numbers are left out here. Only reports and summaries hold any, and those are not read.
-/

namespace Colloquy

open Json (Codec Draft Lexeme Failure Shape Field)

namespace Json

open Draft

/-! ### Strings -/

/-- A character is escaped by a letter, or by its number, or stands as it is. -/
theorem spelledChar_cases (c : Char) :
    (∃ e, spelledChar c = ['\\', e] ∧ escaped? e = some c ∧ ' ' ≤ e) ∨
      (spelledChar c = '\\' :: 'u' :: fourHex c.toNat ∧ c.toNat < 32) ∨
      (spelledChar c = [c] ∧ c ≠ '"' ∧ c ≠ '\\' ∧ ¬ c.toNat < 32) := by
  have hof {n : Nat} (h : c.toNat = n) : c = Char.ofNat n := by
    rw [← h, Char.ofNat_toNat]
  by_cases hquote : c = '"'
  · exact Or.inl ⟨'"', by rw [hquote]; rfl, by rw [hquote]; rfl, by decide⟩
  by_cases hslash : c = '\\'
  · exact Or.inl ⟨'\\', by rw [hslash]; rfl, by rw [hslash]; rfl, by decide⟩
  by_cases hfeed : c = '\n'
  · exact Or.inl ⟨'n', by rw [hfeed]; rfl, by rw [hfeed]; rfl, by decide⟩
  by_cases hreturn : c = '\r'
  · exact Or.inl ⟨'r', by rw [hreturn]; rfl, by rw [hreturn]; rfl, by decide⟩
  by_cases htab : c = '\t'
  · exact Or.inl ⟨'t', by rw [htab]; rfl, by rw [htab]; rfl, by decide⟩
  by_cases hback : c.toNat = 8
  · exact Or.inl ⟨'b', by rw [hof hback]; rfl, by rw [hof hback]; rfl, by decide⟩
  by_cases hform : c.toNat = 12
  · exact Or.inl ⟨'f', by rw [hof hform]; rfl, by rw [hof hform]; rfl, by decide⟩
  rw [spelledChar, if_neg hquote, if_neg hslash, if_neg hfeed, if_neg hreturn, if_neg htab,
    if_neg hback, if_neg hform]
  by_cases hcontrol : c.toNat < 32
  · exact Or.inr (Or.inl ⟨if_pos hcontrol, hcontrol⟩)
  · exact Or.inr (Or.inr ⟨if_neg hcontrol, hquote, hslash, hcontrol⟩)

/-- The four digits of a control character are read as its number, which is no half of a pair. -/
theorem unit?_fourHex {n : Nat} (h : n < 32) :
    unit? (Nat.digitChar (n / 4096 % 16)) (Nat.digitChar (n / 256 % 16))
        (Nat.digitChar (n / 16 % 16)) (Nat.digitChar (n % 16)) = some n ∧
      isTrailing n = false ∧ isLeading n = false := by
  revert n
  decide

/-- The text of a string is one of the grammar, and spells that string. -/
theorem quoted_spelled (s : List Char) :
    Quoted (s.flatMap spelledChar ++ ['"']) ∧ spell (s.flatMap spelledChar ++ ['"']) = .ok s := by
  induction s with
  | nil => exact ⟨.close, rfl⟩
  | cons c s ih =>
    obtain ⟨hquoted, hspell⟩ := ih
    rw [List.flatMap_cons, List.append_assoc]
    rcases spelledChar_cases c with ⟨e, he, hescaped, -⟩ | ⟨hunit, hc⟩ | ⟨hplain, hquote, hslash, hc⟩
    · have hsome : (escaped? e).isSome = true := by
        rw [hescaped]
        rfl
      have hu := ne_u_of_escaped? hsome
      rw [he]
      refine ⟨.escape hsome hquoted, ?_⟩
      simp only [List.cons_append, List.nil_append]
      rw [spell_escape hu, hescaped, hspell]
      rfl
    · obtain ⟨hnumber, htrailing, hleading⟩ := unit?_fourHex hc
      rw [hunit, fourHex]
      refine ⟨.unit (by rw [hnumber]; rfl) hquoted, ?_⟩
      simp only [List.map_cons, List.map_nil, List.cons_append, List.nil_append]
      rw [spell, hnumber]
      simp [htrailing, hleading, hspell, Except.map]
    · rw [hplain]
      refine ⟨.plain hquote hslash hc hquoted, ?_⟩
      rw [List.singleton_append, spell_plain hquote hslash, if_neg hc, hspell]
      rfl

theorem lexemeOf_spelled (s : String) :
    lexemeOf (s.toList.flatMap spelledChar ++ ['"']) = ⟨.ok s, none⟩ := by
  rw [lexemeOf, (quoted_spelled s.toList).2]
  simp [Except.map]

/-- What is written of a character takes no new line. -/
theorem not_mem_spelledChar (c : Char) : '\n' ∉ spelledChar c := by
  rcases spelledChar_cases c with ⟨e, he, -, hspace⟩ | ⟨hunit, hc⟩ | ⟨hplain, -, -, hc⟩
  · rw [he]
    simp only [List.mem_cons, List.not_mem_nil, or_false, not_or]
    refine ⟨by decide, ?_⟩
    rintro rfl
    exact absurd hspace (by decide)
  · rw [hunit]
    generalize c.toNat = n at hc
    revert n
    decide
  · rw [hplain, List.mem_singleton]
    rintro rfl
    exact hc (by decide)

theorem not_mem_spelledString (s : String) : '\n' ∉ spelledString s := by
  simp [spelledString, not_mem_spelledChar]

/-! ### Values -/

/-- The text of a value **spells** it, on one line. -/
structure Spelled (j : Json) : Prop where
  spells : Spells (.value (toDraft j)) j.chars
  onOneLine : '\n' ∉ j.chars

theorem spelled_null : Spelled .null := ⟨.null, by decide⟩

theorem spelled_bool (b : Bool) : Spelled (.bool b) := by
  cases b with
  | true => exact ⟨.yes, by decide⟩
  | false => exact ⟨.no, by decide⟩

theorem spelled_string (s : String) : Spelled (.string s) := by
  refine ⟨?_, not_mem_spelledString s⟩
  rw [toDraft, ← lexemeOf_spelled]
  exact .string (quoted_spelled s.toList).1

theorem spells_items {item : Json} {rest : List Json} (h : ∀ j ∈ item :: rest, Spelled j) :
    Spells (.items (toDrafts (item :: rest))) (charsOfItems (item :: rest) ++ [']']) ∧
      '\n' ∉ charsOfItems (item :: rest) := by
  induction rest generalizing item with
  | nil =>
    obtain ⟨hspells, hline⟩ := h item List.mem_cons_self
    exact ⟨.lastItem blanks_nil hspells blanks_nil, hline⟩
  | cons next rest ih =>
    obtain ⟨hspells, hline⟩ := h item List.mem_cons_self
    obtain ⟨hrest, hlines⟩ := ih fun j hj => h j (List.mem_cons_of_mem item hj)
    constructor
    · rw [charsOfItems, List.append_assoc, List.cons_append]
      · exact .item blanks_nil hspells blanks_nil hrest
      · simp
    · rw [charsOfItems]
      · simp [hline, hlines]
      · simp

theorem spelled_array {items : List Json} (h : ∀ j ∈ items, Spelled j) : Spelled (.array items) := by
  cases items with
  | nil => exact ⟨.emptyArray blanks_nil, by decide⟩
  | cons item rest =>
    obtain ⟨hspells, hline⟩ := spells_items h
    have hchars : (Json.array (item :: rest)).chars =
        '[' :: charsOfItems (item :: rest) ++ [']'] := rfl
    exact ⟨.array hspells, by simp [hchars, hline]⟩

theorem spells_members {name : String} {value : Json} {rest : List (String × Json)}
    (h : ∀ entry ∈ (name, value) :: rest, Spelled entry.2) :
    Spells (.members (toDraftMembers ((name, value) :: rest)))
        (charsOfMembers ((name, value) :: rest) ++ ['}']) ∧
      '\n' ∉ charsOfMembers ((name, value) :: rest) := by
  have hname := (quoted_spelled name.toList).1
  obtain ⟨hspells, hline⟩ : Spelled value := h (name, value) List.mem_cons_self
  induction rest generalizing name value with
  | nil =>
    constructor
    · have hform := Spells.lastMember blanks_nil hname blanks_nil blanks_nil hspells blanks_nil
      rw [lexemeOf_spelled] at hform
      simpa [toDraftMembers, charsOfMembers, spelledString] using hform
    · simp [charsOfMembers, not_mem_spelledString, hline]
  | cons next rest ih =>
    have hnext := h next (List.mem_cons_of_mem _ List.mem_cons_self)
    obtain ⟨hrest, hlines⟩ := ih (fun entry hentry => h entry (List.mem_cons_of_mem _ hentry))
      (quoted_spelled next.1.toList).1 hnext.spells hnext.onOneLine
    constructor
    · have hform := Spells.member blanks_nil hname blanks_nil blanks_nil hspells blanks_nil hrest
      rw [lexemeOf_spelled] at hform
      simpa [toDraftMembers, charsOfMembers, spelledString] using hform
    · simp [charsOfMembers, not_mem_spelledString, hline, hlines]

theorem spelled_object {members : List (String × Json)} (h : ∀ entry ∈ members, Spelled entry.2) :
    Spelled (.object members) := by
  cases members with
  | nil => exact ⟨.emptyObject blanks_nil, by decide⟩
  | cons member rest =>
    obtain ⟨hspells, hline⟩ := spells_members h
    have hchars : (Json.object (member :: rest)).chars =
        '{' :: charsOfMembers (member :: rest) ++ ['}'] := rfl
    exact ⟨.object hspells, by simp [hchars, hline]⟩

/-! ### Codecs -/

theorem toDrafts_eq_map (items : List Json) : toDrafts items = items.map toDraft := by
  induction items with
  | nil => rfl
  | cons item rest ih => rw [toDrafts, ih, List.map_cons]

/-- The **member** of an object that has a name and a draft. -/
def member (name : String) (value : Draft) : Lexeme String × Draft := (⟨.ok name, none⟩, value)

theorem toDraftMembers_eq_map (members : List (String × Json)) :
    toDraftMembers members = members.map fun m => member m.1 (toDraft m.2) := by
  induction members with
  | nil => rfl
  | cons m rest ih =>
    rw [toDraftMembers, ih, List.map_cons]
    rfl

namespace Codec

variable {α : Type}

/-- A codec is **faithful** if what it writes is spelled by its text, and is read by it again. -/
structure Faithful (codec : Codec α) : Prop where
  spelled (a : α) : Spelled (codec.write a)
  read (a : α) : codec.read (toDraft (codec.write a)) = .ok a

theorem faithful_string : string.Faithful where
  spelled := spelled_string
  read _ := rfl

theorem faithful_bool : bool.Faithful where
  spelled := spelled_bool
  read _ := rfl

/-- Drafts of which each **is read** as a value are read as the list of these. -/
theorem mapM_of_read (item : Codec α) (items : List (α × Draft))
    (h : ∀ i ∈ items, item.read i.2 = .ok i.1) :
    (items.map Prod.snd).mapM item.read = .ok (items.map Prod.fst) := by
  induction items with
  | nil => rfl
  | cons i rest ih =>
    obtain ⟨hi, hrest⟩ := List.forall_mem_cons.mp h
    rw [List.map_cons, List.mapM_cons, hi, ih hrest]
    rfl

/-- Entries that are added in the order of their names come behind each other. -/
theorem insertEntry_of_lt (name : String) (value : α) {entries : List (String × α)}
    (hlt : ∀ entry ∈ entries, entry.1 < name) :
    insertEntry name value entries = entries ++ [(name, value)] := by
  induction entries with
  | nil => rfl
  | cons entry rest ih =>
    have hentry := hlt entry List.mem_cons_self
    rw [insertEntry, if_neg (String.lt_asymm hentry), if_neg (String.ne_of_lt hentry).symm,
      ih fun e he => hlt e (List.mem_cons_of_mem _ he)]
    rfl

/-- Reading the entries that are **still to come** makes the dictionary of all of them. -/
theorem readEntries_of_read (item : Codec α) {d e : Dict α} (rest : List (String × α × Draft))
    (he : e.entries = d.entries ++ rest.map fun entry => (entry.1, entry.2.1))
    (h : ∀ entry ∈ rest, item.read entry.2.2 = .ok entry.2.1) :
    readEntries item d (rest.map fun entry => member entry.1 entry.2.2) = .ok e := by
  induction rest generalizing d with
  | nil =>
    rw [List.map_nil, List.append_nil] at he
    rw [Dict.ext he]
    rfl
  | cons entry rest ih =>
    obtain ⟨hread, hothers⟩ := List.forall_mem_cons.mp h
    have hsorted := e.sorted
    rw [he] at hsorted
    have hlt := List.pairwise_append.mp hsorted
    have hinsert : (d.insert entry.1 entry.2.1).entries = d.entries ++ [(entry.1, entry.2.1)] :=
      insertEntry_of_lt entry.1 entry.2.1 fun known hknown =>
        hlt.2.2 known hknown (entry.1, entry.2.1) List.mem_cons_self
    have hrest := ih (d := d.insert entry.1 entry.2.1) (by simp [he, hinsert]) hothers
    rw [List.map_cons, member, readEntries, hread]
    exact hrest

variable {item : Codec α} (h : item.Faithful)
include h

theorem faithful_list : (list item).Faithful where
  spelled values := by
    refine spelled_array fun j hj => ?_
    obtain ⟨value, -, rfl⟩ := List.mem_map.mp hj
    exact h.spelled value
  read values := by
    have hread := mapM_of_read item
      (values.map fun value => (value, toDraft (item.write value))) (by simp [h.read])
    rw [List.map_map, List.map_map] at hread
    dsimp only [list, toDraft]
    rw [toDrafts_eq_map, List.map_map]
    dsimp only [Function.comp_def] at hread ⊢
    rw [hread, List.map_id']
    rfl

/-- Values that may be absent are told from `null` if no other value is written so. -/
theorem faithful_option (hnull : ∀ a, item.write a ≠ .null) : (option item).Faithful where
  spelled
    | none => spelled_null
    | some a => h.spelled a
  read
    | none => rfl
    | some a => by
      have hread := h.read a
      have hwrite := hnull a
      dsimp only [option]
      cases hj : item.write a with
      | null => exact absurd hj hwrite
      | _ =>
        rw [hj] at hread
        dsimp only [toDraft] at hread ⊢
        rw [hread]
        rfl

theorem faithful_dict : (dict item).Faithful where
  spelled d := by
    refine spelled_object fun entry hentry => ?_
    obtain ⟨written, -, rfl⟩ := List.mem_map.mp hentry
    exact h.spelled _
  read d := by
    have hread : readEntries item ∅ _ = .ok d := readEntries_of_read item
      (d.entries.map fun entry => (entry.1, entry.2, toDraft (item.write entry.2)))
      (by rw [List.map_map]; exact (List.map_id' _).symm) fun entry hentry => by
        obtain ⟨written, -, rfl⟩ := List.mem_map.mp hentry
        exact h.read written.2
    rw [List.map_map] at hread
    dsimp only [dict, toDraft]
    rw [toDraftMembers_eq_map, List.map_map]
    dsimp only [Function.comp_def] at hread ⊢
    rw [hread]
    rfl

omit h in
/-- A choice is read by its name if no two of its members have one. -/
theorem faithful_choice {all : List α} {nameOf : α → String}
    (hall : ∀ a, all.find? (nameOf · = nameOf a) = some a) : (choice all nameOf).Faithful where
  spelled a := spelled_string (nameOf a)
  read a := by
    have hpick : pick all nameOf (nameOf a) = .ok a := by
      rw [pick, hall a]
    exact hpick

end Codec

/-! ### Records -/

/-- The first member of a list that has the name of a member is that member, if no two of them have
one name. -/
theorem find?_of_nodup {α : Type*} {nameOf : α → String} {all : List α}
    (hall : (all.map nameOf).Nodup) {a : α} (ha : a ∈ all) :
    all.find? (nameOf · = nameOf a) = some a := by
  induction all with
  | nil => cases ha
  | cons b rest ih =>
    obtain ⟨hb, hrest⟩ := List.nodup_cons.mp hall
    rcases List.mem_cons.mp ha with rfl | ha
    · exact List.find?_cons_of_pos (by simp)
    · have hne : nameOf b ≠ nameOf a := fun hname => hb (hname ▸ List.mem_map_of_mem ha)
      rw [List.find?_cons_of_neg (by simpa using hne), ih hrest ha]

namespace Shape

variable {ρ : Type}

/-- A shape is **faithful** if its fields are, no two of them have one name, and setting them to what
they are in a record makes that record. -/
structure Faithful (shape : Shape ρ) : Prop where
  names : (shape.fields.map Field.name).Nodup
  fields : ∀ f ∈ shape.fields, f.codec.Faithful
  rebuilt (record : ρ) : shape.fields.foldl (fun r f => f.set (f.get record) r) shape.blank = record

variable {shape : Shape ρ} (h : shape.Faithful)
include h

/-- Reading the fields that are still to come sets all of them. -/
theorem readMembers_written (record : ρ) {fields : List (Field ρ)} (hfields : fields ⊆ shape.fields)
    (hnames : (fields.map Field.name).Nodup) (r : ρ) {seen : List String}
    (hseen : ∀ f ∈ fields, f.name ∉ seen) :
    shape.readMembers r seen
        (toDraftMembers (fields.map fun f => (f.name, f.codec.write (f.get record)))) =
      .ok (fields.foldl (fun r f => f.set (f.get record) r) r,
        (fields.map Field.name).reverse ++ seen) := by
  induction fields generalizing r seen with
  | nil => rfl
  | cons f rest ih =>
    have hf := hfields List.mem_cons_self
    obtain ⟨hfresh, hrest⟩ := List.nodup_cons.mp hnames
    have hfield : shape.field? f.name = some f := find?_of_nodup h.names hf
    have hread : f.codec.read (toDraft (f.codec.write (f.get record))) = .ok (f.get record) :=
      (h.fields f hf).read _
    have hunseen : f.name ∉ seen := hseen f List.mem_cons_self
    have hstep : shape.readMembers r seen
        (toDraftMembers ((f :: rest).map fun f => (f.name, f.codec.write (f.get record)))) =
        shape.readMembers (f.set (f.get record) r) (f.name :: seen)
          (toDraftMembers (rest.map fun f => (f.name, f.codec.write (f.get record)))) := by
      rw [List.map_cons, toDraftMembers, readMembers]
      dsimp only [Lexeme.read, Except.mapError, bind, Except.bind]
      rw [hfield]
      dsimp only
      rw [if_neg hunseen, hread]
    rw [hstep, ih (fun g hg => hfields (List.mem_cons_of_mem f hg)) hrest]
    · simp
    · intro g hg hmem
      rcases List.mem_cons.mp hmem with hname | hmem
      · exact hfresh (hname ▸ List.mem_map_of_mem hg)
      · exact hseen g (List.mem_cons_of_mem f hg) hmem

theorem faithful_codec : shape.codec.Faithful where
  spelled record := by
    refine spelled_object fun entry hentry => ?_
    obtain ⟨f, hf, rfl⟩ := List.mem_map.mp hentry
    exact (h.fields f hf).spelled _
  read record := by
    have hunseen : ∀ f ∈ shape.fields, f.name ∉ [] := fun _ _ => List.not_mem_nil
    have hread := readMembers_written h record (List.Subset.refl _) h.names shape.blank hunseen
    have hcomplete : shape.complete ((shape.fields.map Field.name).reverse ++ []) = .ok () := by
      have hnone : (shape.fields.find? fun f => f.presence = .required ∧
          f.name ∉ (shape.fields.map Field.name).reverse ++ []) = none := by
        refine List.find?_eq_none.mpr fun f hf => ?_
        simp only [List.append_nil, List.mem_reverse, decide_eq_true_eq, not_and, not_not]
        exact fun _ => List.mem_map_of_mem hf
      rw [complete, hnone]
    dsimp only [codec, toDraft, bind, Except.bind]
    rw [hread, h.rebuilt]
    dsimp only [closing]
    rw [hcomplete]
    rfl

end Shape

/-! ### Texts -/

/-- What is read in two steps **has been read** in the first one. -/
theorem exists_of_bind {α β : Type} {x : Except Failure α} {f : α → Except Failure β} {b : β}
    (h : (x >>= f) = .ok b) : ∃ a, x = .ok a ∧ f a = .ok b := by
  cases x with
  | error failure => cases h
  | ok a => exact ⟨a, rfl, h⟩

/-- An object that has been read as a record was closed. -/
theorem Shape.ending_of_read {ρ : Type} {shape : Shape ρ} {record : ρ}
    {members : List (Lexeme String × Draft)} {ending : Option Flaw}
    (h : shape.codec.read (.object members ending) = .ok record) : ending = none := by
  cases ending with
  | none => rfl
  | some flaw =>
    obtain ⟨outcome, -, h⟩ := exists_of_bind h
    cases h

/-- A text that holds one value between blanks is read as that value. -/
theorem Codec.ofText_of_spells {α : Type} (codec : Codec α) {text : String} {d : Draft}
    {w p r : List Char} (h : Draft.Spells (.value d) p) (hw : Draft.Blanks w)
    (hr : Draft.Blanks r) (htext : text.toList = w ++ (p ++ r)) : codec.ofText text = codec.read d := by
  rw [Codec.ofText, htext, h.ofChars hw hr.ends.mayPrecede]
  dsimp only [bind, Except.bind]
  cases codec.read d with
  | error failure => rfl
  | ok a =>
    dsimp only
    rw [Option.map_some, Option.getD_some, hr.skipSpace, if_pos rfl]
    rfl

/-- A value that is read from a whole text is read from its head. -/
theorem Codec.ofHead_of_ofText {α : Type} {codec : Codec α} {text : String} {a : α}
    (h : codec.ofText text = .ok a) : codec.ofHead text = .ok a := by
  rw [Codec.ofText] at h
  dsimp only at h
  obtain ⟨value, hread, h⟩ := exists_of_bind h
  split at h
  · cases h
    exact hread
  · cases h

/-- **A text that holds a record as an object** is the text of that object between blanks. -/
theorem Shape.exists_spells_of_ofText {ρ : Type} {shape : Shape ρ} {text : String} {record : ρ}
    (hhead : (Draft.skipSpace text.toList).head? = some '{')
    (h : shape.codec.ofText text = .ok record) :
    ∃ members w p r, Draft.Spells (.value (.object members none)) p ∧ Draft.Blanks w ∧
      Draft.Blanks r ∧ text.toList = w ++ (p ++ r) := by
  obtain ⟨members, ending, rest, hread, hspells⟩ := Draft.exists_object hhead
  rw [Codec.ofText, hread] at h
  obtain ⟨value, hrecord, h⟩ := exists_of_bind h
  obtain ⟨w, p, r, rfl, hw, hp, htext⟩ := hspells (Shape.ending_of_read hrecord)
  split at h
  · rename_i hblank
    refine ⟨members, w, p, r, Shape.ending_of_read hrecord ▸ hp, hw, ?_, htext⟩
    obtain ⟨v, hv, hr⟩ := Draft.exists_blanks r
    rw [Option.map_some, Option.getD_some] at hblank
    rw [hblank, List.append_nil] at hr
    exact hr ▸ hv
  · cases h

/-- **What is written is read again** from its text. -/
theorem Codec.Faithful.ofText {α : Type} {codec : Codec α} (h : codec.Faithful) (a : α) :
    codec.ofText (codec.write a).text = .ok a := by
  rw [codec.ofText_of_spells (h.spelled a).spells blanks_nil blanks_nil (by simp [Json.text])]
  exact h.read a

end Json

/-! ### Scripts -/

namespace Wire

open Json.Codec (Faithful faithful_string faithful_bool faithful_list faithful_option faithful_dict
  faithful_choice)

theorem inputKind_faithful : inputKind.Faithful :=
  faithful_choice fun kind => by cases kind <;> rfl

theorem outputKind_faithful : outputKind.Faithful :=
  faithful_choice fun kind => by cases kind <;> rfl

theorem phase_faithful : phase.Faithful :=
  faithful_choice fun phase => by cases phase <;> rfl

theorem input_faithful : input.Faithful := by
  refine Shape.faithful_codec ⟨by decide, fun f hf => ?_, fun _ => rfl⟩
  simp only [inputShape, List.mem_cons, List.not_mem_nil, or_false] at hf
  rcases hf with rfl | rfl | rfl | rfl
  exacts [inputKind_faithful, faithful_string, faithful_dict faithful_string, faithful_bool]

theorem output_faithful : output.Faithful := by
  refine Shape.faithful_codec ⟨by decide, fun f hf => ?_, fun _ => rfl⟩
  simp only [outputShape, List.mem_cons, List.not_mem_nil, or_false] at hf
  rcases hf with rfl | rfl | rfl | rfl | rfl
  exacts [faithful_string, outputKind_faithful, faithful_string, faithful_list faithful_string,
    faithful_string]

theorem commandCall_faithful : commandCall.Faithful := by
  refine Shape.faithful_codec ⟨by decide, fun f hf => ?_, fun _ => rfl⟩
  simp only [commandCallShape, List.mem_cons, List.not_mem_nil, or_false] at hf
  rcases hf with rfl | rfl
  exacts [faithful_string, faithful_option faithful_string fun _ => Json.noConfusion]

theorem engineScript_faithful : engineScript.Faithful := by
  refine Shape.faithful_codec ⟨by decide, fun f hf => ?_, fun _ => rfl⟩
  simp only [engineScriptShape, List.mem_cons, List.not_mem_nil, or_false] at hf
  rcases hf with rfl | rfl | rfl | rfl
  exacts [faithful_dict faithful_string, faithful_dict faithful_bool, faithful_dict faithful_string,
    faithful_dict faithful_bool]

theorem conversation_faithful : conversation.Faithful := by
  refine Shape.faithful_codec ⟨by decide, fun f hf => ?_, fun _ => rfl⟩
  simp only [conversationShape, List.mem_cons, List.not_mem_nil, or_false] at hf
  rcases hf with rfl | rfl
  exacts [phase_faithful, faithful_bool]

/-- **Turns** are written and read faithfully. -/
theorem turnScript_faithful : turnScript.Faithful := by
  refine Shape.faithful_codec ⟨by decide, fun f hf => ?_, fun _ => rfl⟩
  simp only [turnScriptShape, List.mem_cons, List.not_mem_nil, or_false] at hf
  rcases hf with rfl | rfl | rfl | rfl | rfl | rfl | rfl | rfl
  exacts [input_faithful, faithful_list commandCall_faithful,
    faithful_option output_faithful fun _ => Json.noConfusion, engineScript_faithful,
    faithful_bool, faithful_bool,
    faithful_option conversation_faithful fun _ => Json.noConfusion, faithful_bool]

/-! ### What is authored -/

theorem treatment_faithful : treatment.Faithful :=
  faithful_choice fun treatment => by cases treatment <;> rfl

theorem context_faithful : context.Faithful := by
  refine Shape.faithful_codec ⟨by decide, fun f hf => ?_, fun _ => rfl⟩
  simp only [contextShape, List.mem_cons, List.not_mem_nil, or_false] at hf
  rcases hf with rfl | rfl
  exacts [faithful_string, faithful_string]

theorem topicEntry_faithful : topicEntry.Faithful := by
  refine Shape.faithful_codec ⟨by decide, fun f hf => ?_, fun _ => rfl⟩
  simp only [topicEntryShape, List.mem_cons, List.not_mem_nil, or_false] at hf
  rcases hf with rfl | rfl
  exacts [treatment_faithful, context_faithful]

theorem moduleEntry_faithful : moduleEntry.Faithful := by
  refine Shape.faithful_codec ⟨by decide, fun f hf => ?_, fun _ => rfl⟩
  simp only [moduleEntryShape, List.mem_cons, List.not_mem_nil, or_false] at hf
  rcases hf with rfl | rfl | rfl
  exacts [context_faithful, faithful_dict context_faithful, faithful_dict topicEntry_faithful]

/-- **Catalogs** are written and read faithfully. -/
theorem catalog_faithful : catalog.Faithful := by
  refine Shape.faithful_codec ⟨by decide, fun f hf => ?_, fun _ => rfl⟩
  simp only [catalogShape, List.mem_cons, List.not_mem_nil, or_false] at hf
  rcases hf with rfl | rfl
  exacts [context_faithful, faithful_dict moduleEntry_faithful]

theorem arbiterSettings_faithful : arbiterSettings.Faithful := by
  refine Shape.faithful_codec ⟨by decide, fun f hf => ?_, fun _ => rfl⟩
  simp only [arbiterSettingsShape, List.mem_cons, List.not_mem_nil, or_false] at hf
  rcases hf with rfl | rfl | rfl | rfl
  exacts [faithful_bool, faithful_string, faithful_string, faithful_string]

theorem trackerSettings_faithful : trackerSettings.Faithful := by
  refine Shape.faithful_codec ⟨by decide, fun f hf => ?_, fun _ => rfl⟩
  simp only [trackerSettingsShape, List.mem_cons, List.not_mem_nil, or_false] at hf
  rcases hf with rfl | rfl | rfl | rfl | rfl
  exacts [faithful_list faithful_string, faithful_list faithful_string,
    faithful_list faithful_string, faithful_string, faithful_string]

/-- **Settings** are written and read faithfully. -/
theorem settings_faithful : settings.Faithful := by
  refine Shape.faithful_codec ⟨by decide, fun f hf => ?_, fun _ => rfl⟩
  simp only [settingsShape, List.mem_cons, List.not_mem_nil, or_false] at hf
  rcases hf with rfl | rfl
  exacts [arbiterSettings_faithful, trackerSettings_faithful]

end Wire

end Colloquy

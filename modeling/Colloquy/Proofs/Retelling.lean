import Colloquy.Proofs.Members

/-!
# Telling a value in other words

The same record can be told in many ways: its fields may stand in any order, those that are what
they would be anyway may be left out, and others may stand between them that nobody asked for.
`Codec.Retells` says which drafts are such **retellings** of a value, along the ways in which codecs
are put together, so that records inside of records may be told in other words as well. What a
codec writes is one of them. All of them are read as the value (`Codec.Retells.read`), since what an
object says of a record does not depend on more (`Shape.Regular.read_object_iff`).

What is never read is a draft in which a record has one of its fields twice, however deep inside
that record stands and whatever else is told (`Codec.Repeats.not_read`).

Both are about drafts, so they hold of every text that holds such a draft, with white space wherever
JSON allows it.
-/

namespace Colloquy

open Json (Codec Draft Lexeme Failure Shape Field member)

namespace Json

/-! ### Getting to the end of a draft -/

/-- What keeps a reader from passing over what is spelled. -/
def Draft.Part.flaw? : Draft.Part → Option Flaw
  | .value d => d.flaw?
  | .items parts => Draft.itemsFlaw? parts
  | .members parts => Draft.membersFlaw? parts

/-- **Well-formed** texts can be passed over, whatever their strings and numbers stand for. -/
theorem Draft.Spells.flaw?_eq_none {part : Draft.Part} {p : List Char} (h : Draft.Spells part p) :
    part.flaw? = none := by
  induction h with
  | null | yes | no | number | string | emptyArray | emptyObject => rfl
  | array _ ih =>
    dsimp only [Part.flaw?, Draft.flaw?] at ih ⊢
    rw [ih]
    rfl
  | object _ ih =>
    dsimp only [Part.flaw?, Draft.flaw?] at ih ⊢
    rw [ih]
    rfl
  | lastItem _ _ _ ih | lastMember _ _ _ _ _ _ ih =>
    dsimp only [Part.flaw?, itemsFlaw?, membersFlaw?, lexemeOf] at ih ⊢
    rw [ih]
    rfl
  | item _ _ _ _ ih ihrest | member _ _ _ _ _ _ _ ih ihrest =>
    dsimp only [Part.flaw?, itemsFlaw?, membersFlaw?, lexemeOf] at ih ihrest ⊢
    rw [ih, ihrest]
    rfl

/-- A text **holds** a draft if it spells it, with nothing but white space around it. -/
def Holds (text : String) (d : Draft) : Prop :=
  ∃ w p r, Draft.Blanks w ∧ Draft.Spells (.value d) p ∧ Draft.Blanks r ∧
    text.toList = w ++ (p ++ r)

/-- A text is read as the draft that it **holds** is. -/
theorem Holds.ofText {α : Type} {text : String} {d : Draft} (h : Holds text d) (codec : Codec α) :
    codec.ofText text = codec.read d := by
  obtain ⟨w, p, r, hw, hp, hr, htext⟩ := h
  exact codec.ofText_of_spells hp hw hr htext

theorem holds_of_ofChars {text : String} {d : Draft}
    (h : Draft.ofChars text.toList = (d, some [])) : Holds text d := by
  obtain ⟨w, p, hw, hp, htext⟩ := Draft.exists_spells_of_read h
  exact ⟨w, p, [], hw, hp, Draft.blanks_nil, htext⟩

namespace Codec

/-! ### Retellings -/

/-- A draft **retells** a value. A record is retold by an object of some of its fields and of
strangers, in any order; the fields that are left out are not required and are what they are by
default. Texts, truth values and choices have one telling each, lists and dictionaries are retold by
their items, and a value that is absent is told by `null`. -/
inductive Retells : {α : Type} → Codec α → α → Draft → Prop where
  | string (s : String) : Retells .string s (.string ⟨.ok s, none⟩)
  | bool (b : Bool) : Retells .bool b (.bool b none)
  | choice {α : Type} {all : List α} {nameOf : α → String} {a : α}
      (ha : all.find? (nameOf · = nameOf a) = some a) :
      Retells (.choice all nameOf) a (.string ⟨.ok (nameOf a), none⟩)
  | list {α : Type} {item : Codec α} (items : List (α × Draft))
      (hitems : ∀ i ∈ items, Retells item i.1 i.2) :
      Retells (.list item) (items.map Prod.fst) (.array (items.map Prod.snd) none)
  | dict {α : Type} {item : Codec α} {d : Dict α} (entries : List (String × α × Draft))
      (hd : d.entries = entries.map fun entry => (entry.1, entry.2.1))
      (hentries : ∀ entry ∈ entries, Retells item entry.2.1 entry.2.2) :
      Retells (.dict item) d (.object (entries.map fun entry => member entry.1 entry.2.2) none)
  | absent {α : Type} {item : Codec α} : Retells (.option item) none (.null none)
  | present {α : Type} {item : Codec α} {a : α} {d : Draft} (hd : ∀ torn, d ≠ .null torn)
      (ha : Retells item a d) : Retells (.option item) (some a) d
  | record {ρ : Type} {shape : Shape ρ} (hshape : shape.Regular) {record : ρ}
      (kept : List (Field ρ × Draft)) (strangers : List (Lexeme String × Draft))
      {members : List (Lexeme String × Draft)}
      (hkept : (kept.map Prod.fst).Sublist shape.fields)
      (hvalues : ∀ k ∈ kept, Retells k.1.codec (k.1.get record) k.2)
      (hleft : ∀ f ∈ shape.fields, f ∉ kept.map Prod.fst →
        f.presence ≠ .required ∧ f.get record = f.get shape.blank)
      (hstrangers : ∀ m ∈ strangers, shape.IsStranger m ∧ ∃ p, Draft.Spells (.value m.2) p)
      (hmembers : members.Perm ((kept.map fun k => member k.1.name k.2) ++ strangers)) :
      Retells shape.codec record (.object members none)

/-- The fields that are kept are **told**, and no others. -/
theorem told_kept {ρ : Type} {shape : Shape ρ} {kept : List (Field ρ × Draft)}
    (hkept : kept.map Prod.fst ⊆ shape.fields) :
    shape.told (kept.map fun k => member k.1.name k.2) = kept.map fun k => k.1.name := by
  induction kept with
  | nil => rfl
  | cons k rest ih =>
    rw [List.map_cons, List.cons_subset] at hkept
    rw [List.map_cons, Shape.told_cons_of_names ⟨hkept.1, rfl⟩, ih hkept.2, List.map_cons]

/-- **A retelling is read** as the value it retells. -/
theorem Retells.read {α : Type} {codec : Codec α} {a : α} {d : Draft} (h : Retells codec a d) :
    codec.read d = .ok a := by
  induction h with
  | string | bool | absent => rfl
  | @choice α all nameOf a ha =>
    have hpick : pick all nameOf (nameOf a) = .ok a := by
      rw [pick, ha]
    exact hpick
  | list items _ ih =>
    dsimp only [Codec.list]
    rw [mapM_of_read _ items ih]
    rfl
  | @dict α item d entries hd _ ih =>
    have hread : readEntries item ∅ _ = .ok d :=
      readEntries_of_read item entries (by rw [hd]; rfl) ih
    dsimp only [Codec.dict]
    rw [hread]
    rfl
  | @present α item a d hd _ ih =>
    cases d with
    | null torn => exact absurd rfl (hd torn)
    | _ =>
      dsimp only [Codec.option]
      rw [ih]
      rfl
  | @record ρ shape hshape record kept strangers members hkept _ hleft hstrangers hmembers ih =>
    have htold : (shape.told members).Perm (kept.map fun k => k.1.name) := by
      have hperm := hmembers.filterMap shape.fieldName?
      rw [List.filterMap_append] at hperm
      change (shape.told members).Perm (shape.told _ ++ shape.told strangers) at hperm
      rwa [told_kept hkept.subset, Shape.told_of_strangers fun m hm => (hstrangers m hm).1,
        List.append_nil] at hperm
    have hnames : (kept.map fun k => k.1.name) = (kept.map Prod.fst).map Field.name := by
      rw [List.map_map]
      rfl
    refine hshape.read_object_iff.mpr ⟨fun m hm => ?_, ?_, fun f hf huntold => ?_⟩
    · rcases List.mem_append.mp (hmembers.mem_iff.mp hm) with hm | hm
      · obtain ⟨k, hk, rfl⟩ := List.mem_map.mp hm
        exact .inr ⟨k.1, ⟨hkept.subset (List.mem_map_of_mem hk), rfl⟩, ih k hk⟩
      · obtain ⟨hstranger, p, hp⟩ := hstrangers m hm
        exact .inl ⟨hstranger, hp.flaw?_eq_none⟩
    · rw [htold.nodup_iff, hnames]
      exact (hkept.map Field.name).nodup hshape.names
    · refine hleft f hf fun hmem => huntold ?_
      rw [htold.mem_iff, hnames]
      exact List.mem_map_of_mem hmem

/-! ### What is written -/

/-- A codec is **told as written** if what it writes is one of the tellings of a value. -/
def ToldAsWritten {α : Type} (codec : Codec α) : Prop :=
  ∀ a, Retells codec a (toDraft (codec.write a))

theorem told_string : ToldAsWritten .string := .string

theorem told_bool : ToldAsWritten .bool := .bool

theorem told_choice {α : Type} {all : List α} {nameOf : α → String}
    (hall : ∀ a, all.find? (nameOf · = nameOf a) = some a) : ToldAsWritten (.choice all nameOf) :=
  fun a => .choice (hall a)

section

variable {α : Type} {item : Codec α} (h : ToldAsWritten item)
include h

theorem told_list : ToldAsWritten (.list item) := by
  intro values
  have hretells := Retells.list (values.map fun value => (value, toDraft (item.write value)))
    (by simpa using fun a _ => h a)
  simpa [Codec.list, toDraft, toDrafts_eq_map, Function.comp_def] using hretells

theorem told_dict : ToldAsWritten (.dict item) := by
  intro d
  have hd : d.entries = (d.entries.map fun entry =>
      (entry.1, entry.2, toDraft (item.write entry.2))).map fun entry => (entry.1, entry.2.1) := by
    simp [Function.comp_def]
  have hretells := Retells.dict _ hd fun entry hentry => by
    obtain ⟨written, -, rfl⟩ := List.mem_map.mp hentry
    exact h written.2
  simpa [Codec.dict, toDraft, toDraftMembers_eq_map, Function.comp_def] using hretells

theorem told_option (hnull : ∀ a, item.write a ≠ .null) : ToldAsWritten (.option item)
  | none => .absent
  | some a => by
    refine .present (fun torn => ?_) (h a)
    have hwrite := hnull a
    dsimp only [Codec.option]
    cases hj : item.write a <;> simp_all [toDraft]

end

theorem told_record {ρ : Type} {shape : Shape ρ} (hshape : shape.Regular)
    (hfields : ∀ f ∈ shape.fields, ToldAsWritten f.codec) : ToldAsWritten shape.codec := by
  intro record
  have hretells := @Retells.record ρ shape hshape record
    (shape.fields.map fun f => (f, toDraft (f.codec.write (f.get record)))) [] _
    (by simp [Function.comp_def]) (by simpa using fun f hf => hfields f hf (f.get record))
    (by simpa [Function.comp_def] using fun f hf hleft => absurd hf hleft) (by simp)
    (List.Perm.refl _)
  simpa [Shape.codec, toDraft, toDraftMembers_eq_map, Function.comp_def] using hretells

/-! ### Repetitions -/

/-- A draft **repeats** a field if the object of a record in it has two members that name one field
of that record. The record may be the whole, or stand in a field, in an item of a list or in an
entry of a dictionary. -/
inductive Repeats : {α : Type} → Codec α → Draft → Prop where
  | here {ρ : Type} {shape : Shape ρ} (hshape : shape.Regular) {f : Field ρ}
      {first second : Lexeme String × Draft} (before between after : List (Lexeme String × Draft))
      {ending : Option Flaw} (hfirst : shape.Names f first) (hsecond : shape.Names f second) :
      Repeats shape.codec (.object (before ++ first :: (between ++ second :: after)) ending)
  | field {ρ : Type} {shape : Shape ρ} (hshape : shape.Regular) {f : Field ρ}
      {m : Lexeme String × Draft} {members : List (Lexeme String × Draft)} {ending : Option Flaw}
      (hm : m ∈ members) (hname : shape.Names f m) (h : Repeats f.codec m.2) :
      Repeats shape.codec (.object members ending)
  | element {ρ : Type} {shape : Shape ρ} {f : Field ρ} {item : Draft} {items : List Draft}
      {ending : Option Flaw} (hitem : (f, item) ∈ shape.fields.zip items)
      (h : Repeats f.codec item) : Repeats shape.codec (.array items ending)
  | item {α : Type} {codec : Codec α} {item : Draft} {items : List Draft} {ending : Option Flaw}
      (hitem : item ∈ items) (h : Repeats codec item) : Repeats (.list codec) (.array items ending)
  | entry {α : Type} {codec : Codec α} {m : Lexeme String × Draft}
      {members : List (Lexeme String × Draft)} {ending : Option Flaw} (hm : m ∈ members)
      (h : Repeats codec m.2) : Repeats (.dict codec) (.object members ending)
  | present {α : Type} {codec : Codec α} {d : Draft} (h : Repeats codec d) :
      Repeats (.option codec) d

theorem Repeats.ne_null {α : Type} {codec : Codec α} {d : Draft} (h : Repeats codec d)
    (torn : Option Flaw) : d ≠ .null torn := by
  induction h with
  | present _ ih => exact ih
  | _ => rintro ⟨⟩

/-- If all items of an array can be read, each of them can. -/
theorem exists_read_of_mapM {α : Type} {item : Codec α} {items : List Draft} {values : List α}
    (h : items.mapM item.read = .ok values) : ∀ d ∈ items, ∃ a, item.read d = .ok a := by
  induction items generalizing values with
  | nil =>
    rintro d ⟨⟩
  | cons first rest ih =>
    rw [List.mapM_cons] at h
    obtain ⟨a, hfirst, h⟩ := exists_of_bind h
    obtain ⟨others, hrest, -⟩ := exists_of_bind h
    exact List.forall_mem_cons.mpr ⟨⟨a, hfirst⟩, ih hrest⟩

theorem exists_read_of_readEntries {α : Type} {item : Codec α}
    {members : List (Lexeme String × Draft)} {d e : Dict α}
    (h : readEntries item d members = .ok e) : ∀ m ∈ members, ∃ a, item.read m.2 = .ok a := by
  induction members generalizing d with
  | nil =>
    rintro m ⟨⟩
  | cons first rest ih =>
    rw [readEntries] at h
    obtain ⟨name, -, h⟩ := exists_of_bind h
    obtain ⟨a, hfirst, h⟩ := exists_of_bind h
    exact List.forall_mem_cons.mpr ⟨⟨a, hfirst⟩, ih h⟩

theorem exists_read_of_readItems {ρ : Type} {shape : Shape ρ} {fields : List (Field ρ)}
    {items : List Draft} {ending : Option Flaw} {r s : ρ} {position : Nat}
    (h : shape.readItems r position ending fields items = .ok s) :
    ∀ pair ∈ fields.zip items, ∃ v, pair.1.codec.read pair.2 = .ok v := by
  induction fields generalizing items r position with
  | nil =>
    rintro pair ⟨⟩
  | cons f fields ih =>
    cases items with
    | nil =>
      rintro pair ⟨⟩
    | cons item items =>
      rw [Shape.readItems] at h
      obtain ⟨v, hitem, h⟩ := exists_of_bind h
      exact List.forall_mem_cons.mpr ⟨⟨v, hitem⟩, ih h⟩

/-- **A repetition is never read.** -/
theorem Repeats.not_read {α : Type} {codec : Codec α} {d : Draft} (h : Repeats codec d) (a : α) :
    codec.read d ≠ .ok a := by
  induction h with
  | @here ρ shape hshape f first second before between after ending hfirst hsecond =>
    intro hread
    rw [Shape.ending_of_read hread] at hread
    obtain ⟨-, honce, -⟩ := hshape.read_object_iff.mp hread
    rw [Shape.told_append, Shape.told_cons_of_names hfirst, Shape.told_append,
      Shape.told_cons_of_names hsecond] at honce
    exact (List.nodup_cons.mp honce.of_append_right).1
      (List.mem_append_right _ List.mem_cons_self)
  | @field ρ shape hshape f m members ending hm hname _ ih =>
    intro hread
    rw [Shape.ending_of_read hread] at hread
    obtain ⟨heach, -, -⟩ := hshape.read_object_iff.mp hread
    exact ih _ (hshape.read_of_names (heach m hm) hname)
  | element hitem _ ih =>
    intro hread
    obtain ⟨v, hv⟩ := exists_read_of_readItems hread _ hitem
    exact ih v hv
  | @item α codec item items ending hitem _ ih =>
    intro hread
    obtain ⟨values, hitems, -⟩ := exists_of_bind hread
    obtain ⟨v, hv⟩ := exists_read_of_mapM hitems item hitem
    exact ih v hv
  | @entry α codec m members ending hm _ ih =>
    intro hread
    obtain ⟨e, hmembers, -⟩ := exists_of_bind hread
    obtain ⟨v, hv⟩ := exists_read_of_readEntries hmembers m hm
    exact ih v hv
  | @present α codec d hd ih =>
    intro hread
    cases d with
    | null torn => exact hd.ne_null torn rfl
    | _ =>
      dsimp only [Codec.option] at hread
      cases hd : codec.read _ with
      | error failure =>
        rw [hd] at hread
        cases hread
      | ok v => exact ih v hd

end Codec

end Json

namespace Wire

open Json.Codec (ToldAsWritten Retells Repeats told_string told_bool told_choice told_list told_dict
  told_option told_record)

/-! ### What comes in -/

theorem input_told : ToldAsWritten input := by
  refine told_record inputShape_regular fun f hf => ?_
  simp only [inputShape, List.mem_cons, List.not_mem_nil, or_false] at hf
  rcases hf with rfl | rfl | rfl | rfl
  exacts [told_choice fun kind => by cases kind <;> rfl, told_string, told_dict told_string,
    told_bool]

theorem output_told : ToldAsWritten output := by
  refine told_record outputShape_regular fun f hf => ?_
  simp only [outputShape, List.mem_cons, List.not_mem_nil, or_false] at hf
  rcases hf with rfl | rfl | rfl | rfl | rfl
  exacts [told_string, told_choice fun kind => by cases kind <;> rfl, told_string,
    told_list told_string, told_string]

theorem commandCall_told : ToldAsWritten commandCall := by
  refine told_record commandCallShape_regular fun f hf => ?_
  simp only [commandCallShape, List.mem_cons, List.not_mem_nil, or_false] at hf
  rcases hf with rfl | rfl
  exacts [told_string, told_option told_string fun _ => Json.noConfusion]

theorem engineScript_told : ToldAsWritten engineScript := by
  refine told_record engineScriptShape_regular fun f hf => ?_
  simp only [engineScriptShape, List.mem_cons, List.not_mem_nil, or_false] at hf
  rcases hf with rfl | rfl | rfl | rfl
  exacts [told_dict told_string, told_dict told_bool, told_dict told_string, told_dict told_bool]

theorem conversation_told : ToldAsWritten conversation := by
  refine told_record conversationShape_regular fun f hf => ?_
  simp only [conversationShape, List.mem_cons, List.not_mem_nil, or_false] at hf
  rcases hf with rfl | rfl
  exacts [told_choice fun phase => by cases phase <;> rfl, told_bool]

theorem turnScript_told : ToldAsWritten turnScript := by
  refine told_record turnScriptShape_regular fun f hf => ?_
  simp only [turnScriptShape, List.mem_cons, List.not_mem_nil, or_false] at hf
  rcases hf with rfl | rfl | rfl | rfl | rfl | rfl | rfl | rfl
  exacts [input_told, told_list commandCall_told, told_option output_told fun _ => Json.noConfusion,
    engineScript_told, told_bool, told_bool,
    told_option conversation_told fun _ => Json.noConfusion, told_bool]

theorem context_told : ToldAsWritten context := by
  refine told_record contextShape_regular fun f hf => ?_
  simp only [contextShape, List.mem_cons, List.not_mem_nil, or_false] at hf
  rcases hf with rfl | rfl
  exacts [told_string, told_string]

theorem request_told : ToldAsWritten request := by
  refine told_record requestShape_regular fun f hf => ?_
  simp only [requestShape, List.mem_cons, List.not_mem_nil, or_false] at hf
  rcases hf with rfl | rfl | rfl
  exacts [context_told, told_bool, told_dict told_string]

theorem turn_told : ToldAsWritten turn := by
  refine told_record turnShape_regular fun f hf => ?_
  simp only [turnShape, List.mem_cons, List.not_mem_nil, or_false] at hf
  rcases hf with rfl | rfl | rfl | rfl
  exacts [input_told, told_option output_told fun _ => Json.noConfusion, request_told, told_bool]

theorem topicEntry_told : ToldAsWritten topicEntry := by
  refine told_record topicEntryShape_regular fun f hf => ?_
  simp only [topicEntryShape, List.mem_cons, List.not_mem_nil, or_false] at hf
  rcases hf with rfl | rfl
  exacts [told_choice fun treatment => by cases treatment <;> rfl, context_told]

theorem moduleEntry_told : ToldAsWritten moduleEntry := by
  refine told_record moduleEntryShape_regular fun f hf => ?_
  simp only [moduleEntryShape, List.mem_cons, List.not_mem_nil, or_false] at hf
  rcases hf with rfl | rfl | rfl
  exacts [context_told, told_dict context_told, told_dict topicEntry_told]

theorem catalog_told : ToldAsWritten catalog := by
  refine told_record catalogShape_regular fun f hf => ?_
  simp only [catalogShape, List.mem_cons, List.not_mem_nil, or_false] at hf
  rcases hf with rfl | rfl
  exacts [context_told, told_dict moduleEntry_told]

theorem arbiterSettings_told : ToldAsWritten arbiterSettings := by
  refine told_record arbiterSettingsShape_regular fun f hf => ?_
  simp only [arbiterSettingsShape, List.mem_cons, List.not_mem_nil, or_false] at hf
  rcases hf with rfl | rfl | rfl | rfl
  exacts [told_bool, told_string, told_string, told_string]

theorem trackerSettings_told : ToldAsWritten trackerSettings := by
  refine told_record trackerSettingsShape_regular fun f hf => ?_
  simp only [trackerSettingsShape, List.mem_cons, List.not_mem_nil, or_false] at hf
  rcases hf with rfl | rfl | rfl | rfl | rfl
  exacts [told_list told_string, told_list told_string, told_list told_string, told_string,
    told_string]

theorem settings_told : ToldAsWritten settings := by
  refine told_record settingsShape_regular fun f hf => ?_
  simp only [settingsShape, List.mem_cons, List.not_mem_nil, or_false] at hf
  rcases hf with rfl | rfl
  exacts [arbiterSettings_told, trackerSettings_told]

/-- The codecs of what is **received** from outside. -/
inductive Received : {α : Type} → Codec α → Prop where
  | turnScript : Received turnScript
  | turn : Received turn
  | catalog : Received catalog
  | settings : Received settings

/-- What is received is **read in other words** as well. What is written of a value is one telling
of it; every text that holds a telling of it, with its fields in any order, defaults left out and
strange members added in any of its records, is read as that value; and a text in which a record has
one of its fields twice is not read at all. -/
theorem read_in_other_words {α : Type} {codec : Codec α} (hcodec : Received codec) :
    (∀ a, Retells codec a (Json.toDraft (codec.write a))) ∧
      (∀ a d text, Retells codec a d → Json.Holds text d → codec.ofText text = .ok a) ∧
      ∀ d text, Repeats codec d → Json.Holds text d →
        ∃ failure, codec.ofText text = .error failure := by
  refine ⟨?_, fun a d text ha htext => ?_, fun d text hd htext => ?_⟩
  · cases hcodec
    exacts [turnScript_told, turn_told, catalog_told, settings_told]
  · rw [htext.ofText]
    exact ha.read
  · rw [htext.ofText]
    cases hread : codec.read d with
    | error failure => exact ⟨failure, rfl⟩
    | ok a => exact absurd hread (hd.not_read a)

/-- An input with its fields turned around. -/
def greeting : Draft :=
  .object [member "text" (.string ⟨.ok "hi", none⟩), member "kind" (.string ⟨.ok "speech", none⟩)]
    none

/-- An array in which a string spells nothing. It can be passed over all the same. -/
def strange : Draft :=
  .array [.number ⟨.ok (.natural 0), none⟩, .string ⟨.error .malformed, none⟩] none

/-- A turn told in other words: its mark of an end comes first, behind it a member that nobody asked
for, and an output is said to be absent. -/
def reworded : String :=
  "\x7b \"abort\" : true,\n\"extra\":[0, \"\\ud800\"] ," ++
    " \"input\":\x7b\"text\":\"hi\",\"kind\":\"speech\"\x7d, \"output\":null\x7d"

/-- A turn whose input has two texts. -/
def repetitive : String :=
  "\x7b\"input\":\x7b\"kind\":\"speech\",\"text\":\"hi\",\"text\":\"ho\"\x7d\x7d"

theorem retells_greeting : Retells input (.speech "hi") greeting := by
  refine .record inputShape_regular
    [(_, .string ⟨.ok "speech", none⟩), (_, .string ⟨.ok "hi", none⟩)] []
    (.cons_cons _ (.cons_cons _ (.cons _ (.cons _ .slnil)))) ?_ ?_ ?_ (.swap _ _ _)
  · rw [List.forall_mem_cons, List.forall_mem_singleton]
    exact ⟨.choice rfl, .string "hi"⟩
  · simpa [inputShape, Input.speech] using ⟨rfl, rfl⟩
  · simp

theorem spells_strange : ∃ p, Draft.Spells (.value strange) p := by
  obtain ⟨_, p, _, _, hp, -⟩ : Json.Holds "[0, \"\\ud800\"]" strange :=
    Json.holds_of_ofChars (by cbv)
  exact ⟨p, hp⟩

/-- The reworded turn is read as if it had been written, and the repetitive one is not read. -/
theorem read_in_other_words_reworded :
    turnScript.ofText reworded = .ok { input := .speech "hi", abort := true } ∧
      ∃ failure, turnScript.ofText repetitive = .error failure := by
  obtain ⟨-, hread, hrepeat⟩ := read_in_other_words .turnScript
  constructor
  · refine hread _ (.object [member "abort" (.bool true none), member "extra" strange,
      member "input" greeting, member "output" (.null none)] none) _ ?_
      (Json.holds_of_ofChars (by cbv))
    refine .record turnScriptShape_regular
      [(_, greeting), (_, .null none), (_, .bool true none)] [member "extra" strange]
      (.cons_cons _ (.cons _ (.cons_cons _ (.cons _ (.cons_cons _ (.cons _ (.cons _ (.cons _
        .slnil)))))))) ?_ ?_ ?_ ?_
    · rw [List.forall_mem_cons, List.forall_mem_cons, List.forall_mem_singleton]
      exact ⟨retells_greeting, .absent, .bool true⟩
    · simp [turnScriptShape, Input.speech]
    · rw [List.forall_mem_singleton]
      exact ⟨⟨"extra", rfl, by decide⟩, spells_strange⟩
    · exact @List.perm_append_comm _ [_, _] [_, _]
  · refine hrepeat (.object [member "input" (.object [member "kind" (.string ⟨.ok "speech", none⟩),
      member "text" (.string ⟨.ok "hi", none⟩), member "text" (.string ⟨.ok "ho", none⟩)] none)]
      none) _ ?_ (Json.holds_of_ofChars (by cbv))
    have htext {s : String} : inputShape.Names _ (member "text" (.string ⟨.ok s, none⟩)) :=
      ⟨List.mem_cons_of_mem _ List.mem_cons_self, rfl⟩
    exact .field turnScriptShape_regular List.mem_cons_self ⟨List.mem_cons_self, rfl⟩
      (.here inputShape_regular [_] [] [] htext htext)

end Wire

end Colloquy

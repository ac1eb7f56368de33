import Colloquy.Proofs.RoundTrip

/-!
# What an object says of a record

An object is read as a record member by member, and this file says what comes out of it without
going through the members one by one. A member is a **stranger** if none of the fields has its name,
and it **tells** a field of a record if it has the name of that field and is read as its value. Then
an object is read as a record if and only if every member is a stranger without a flaw or tells a
field of the record, no field is told twice, and each field that is not told may be left out and is
in the record what it is in the blank one (`Shape.Regular.read_object_iff`).

The order of the members is not in this account, so it does not matter. What it needs of the shape
is that its fields behave as fields do (`Shape.Regular`), which those of every record that comes in
from outside do.
-/

namespace Colloquy

open Json (Codec Draft Lexeme Failure Shape Field)

namespace Json

/-! ### Regular shapes -/

/-- Two fields are **apart** if either is what it was after the other has been set. -/
def Field.Apart {ρ : Type} (f g : Field ρ) : Prop :=
  (∀ v r, g.get (f.set v r) = g.get r) ∧ ∀ v r, f.get (g.set v r) = f.get r

namespace Shape

variable {ρ : Type}

/-- A shape is **regular** if no two of its fields have one name, a field that is set is what it is
set to, all fields are apart, and records with the same fields are the same. -/
structure Regular (shape : Shape ρ) : Prop where
  names : (shape.fields.map Field.name).Nodup
  get_set : ∀ f ∈ shape.fields, ∀ v r, f.get (f.set v r) = v
  apart : shape.fields.Pairwise Field.Apart
  ext : ∀ r s, (∀ f ∈ shape.fields, f.get r = f.get s) → r = s

/-- Setting a field leaves a field of **another name** alone. -/
theorem Regular.get_set_of_ne {shape : Shape ρ} (h : shape.Regular) {f g : Field ρ}
    (hf : f ∈ shape.fields) (hg : g ∈ shape.fields) (hname : f.name ≠ g.name) (v : f.Value)
    (r : ρ) : g.get (f.set v r) = g.get r := by
  have hsymm : Std.Symm (@Field.Apart ρ) := ⟨fun f g hfg => ⟨hfg.2, hfg.1⟩⟩
  have hne : f ≠ g := by
    rintro rfl
    exact hname rfl
  exact (h.apart.forall hf hg hne).1 v r

variable (shape : Shape ρ)

/-- A member is a **stranger** to a record if none of the fields has its name. -/
def IsStranger (member : Lexeme String × Draft) : Prop :=
  ∃ name, member.1.value = .ok name ∧ name ∉ shape.fields.map Field.name

/-- A member **names** a field. -/
def Names (f : Field ρ) (member : Lexeme String × Draft) : Prop :=
  f ∈ shape.fields ∧ member.1.value = .ok f.name

/-- A member **tells** a field of a record if it names that field and is read as its value. -/
def Tells (record : ρ) (member : Lexeme String × Draft) : Prop :=
  ∃ f, shape.Names f member ∧ f.codec.read member.2 = .ok (f.get record)

/-- A member is **passed over** if it is a stranger and nothing in it keeps a reader from getting to
its end. -/
def PassedOver (member : Lexeme String × Draft) : Prop :=
  shape.IsStranger member ∧ member.2.flaw? = none

/-- The name of the field that a member names, if it names one. -/
def fieldName? (member : Lexeme String × Draft) : Option String :=
  member.1.value.toOption.filter (· ∈ shape.fields.map Field.name)

/-- The names of the fields that the members name, once for each member that does. -/
def told (members : List (Lexeme String × Draft)) : List String :=
  members.filterMap shape.fieldName?

/-- The name of a member is none, or that of a stranger, or that of a field. -/
theorem member_cases (member : Lexeme String × Draft) :
    (∃ flaw, member.1.value = .error flaw) ∨ shape.IsStranger member ∨
      ∃ f, shape.Names f member := by
  rcases hname : member.1.value with flaw | name
  · exact .inl ⟨flaw, rfl⟩
  · by_cases hknown : name ∈ shape.fields.map Field.name
    · obtain ⟨f, hf, rfl⟩ := List.mem_map.mp hknown
      exact .inr (.inr ⟨f, hf, hname⟩)
    · exact .inr (.inl ⟨name, hname, hknown⟩)

variable {shape}

theorem IsStranger.not_tells {member : Lexeme String × Draft} (hm : shape.IsStranger member)
    (record : ρ) : ¬ shape.Tells record member := by
  rintro ⟨f, ⟨hf, hname⟩, -⟩
  obtain ⟨name, hvalue, hunknown⟩ := hm
  rw [hname] at hvalue
  cases hvalue
  exact hunknown (List.mem_map_of_mem hf)

theorem Names.not_passedOver {f : Field ρ} {member : Lexeme String × Draft}
    (hm : shape.Names f member) : ¬ shape.PassedOver member := by
  rintro ⟨⟨name, hvalue, hunknown⟩, -⟩
  rw [hm.2] at hvalue
  cases hvalue
  exact hunknown (List.mem_map_of_mem hm.1)

@[simp] theorem told_nil : shape.told [] = [] := rfl

theorem told_append (members others : List (Lexeme String × Draft)) :
    shape.told (members ++ others) = shape.told members ++ shape.told others :=
  List.filterMap_append

theorem told_cons_of_stranger {member : Lexeme String × Draft} (hm : shape.IsStranger member)
    (rest : List (Lexeme String × Draft)) : shape.told (member :: rest) = shape.told rest := by
  obtain ⟨name, hname, hunknown⟩ := hm
  refine List.filterMap_cons_none ?_
  rw [fieldName?, hname]
  exact Option.filter_some_neg (by simpa using hunknown)

theorem told_cons_of_names {f : Field ρ} {member : Lexeme String × Draft}
    (hm : shape.Names f member) (rest : List (Lexeme String × Draft)) :
    shape.told (member :: rest) = f.name :: shape.told rest := by
  refine List.filterMap_cons_some ?_
  rw [fieldName?, hm.2]
  exact Option.filter_some_pos (by simpa using ⟨f, hm.1, rfl⟩)

/-- Strangers tell nothing. -/
theorem told_of_strangers {members : List (Lexeme String × Draft)}
    (h : ∀ m ∈ members, shape.IsStranger m) : shape.told members = [] := by
  induction members with
  | nil => rfl
  | cons member rest ih =>
    obtain ⟨hm, hrest⟩ := List.forall_mem_cons.mp h
    rw [told_cons_of_stranger hm, ih hrest]

/-- A member that names a field and is not passed over **tells** that field. -/
theorem Regular.read_of_names (h : shape.Regular) {record : ρ} {f : Field ρ}
    {member : Lexeme String × Draft} (hmember : shape.PassedOver member ∨ shape.Tells record member)
    (hm : shape.Names f member) : f.codec.read member.2 = .ok (f.get record) := by
  obtain ⟨g, hg, hread⟩ := hmember.resolve_left hm.not_passedOver
  have hname := hg.2
  rw [hm.2] at hname
  rwa [List.inj_on_of_nodup_map h.names hg.1 hm.1 (Except.ok.inj hname).symm] at hread

/-! ### One member -/

/-- A **stranger** is passed over, if one gets to its end. -/
theorem readMembers_of_stranger {member : Lexeme String × Draft} (hm : shape.IsStranger member)
    (r : ρ) (seen : List String) (rest : List (Lexeme String × Draft)) :
    shape.readMembers r seen (member :: rest) =
      (closing member.2.flaw?).bind fun _ => shape.readMembers r seen rest := by
  obtain ⟨name, hname, hunknown⟩ := hm
  have hnone : shape.field? name = none := by
    refine List.find?_eq_none.mpr fun f hf => ?_
    rw [decide_eq_true_iff]
    rintro rfl
    exact hunknown (List.mem_map_of_mem hf)
  rw [readMembers, Lexeme.read, hname]
  dsimp only [Except.mapError, bind, Except.bind]
  rw [hnone]

theorem readMembers_of_unreadable {member : Lexeme String × Draft} {flaw : Flaw}
    (hm : member.1.value = .error flaw) (r : ρ) (seen : List String)
    (rest : List (Lexeme String × Draft)) :
    shape.readMembers r seen (member :: rest) = .error (.flaw flaw) := by
  rw [readMembers, Lexeme.read, hm]
  rfl

/-- A **field** is set as its member is read, unless it has been seen before. -/
theorem Regular.readMembers_of_names (h : shape.Regular) {f : Field ρ}
    {member : Lexeme String × Draft} (hm : shape.Names f member) (r : ρ) (seen : List String)
    (rest : List (Lexeme String × Draft)) :
    shape.readMembers r seen (member :: rest) =
      if f.name ∈ seen then .error (.mismatch (.duplicateField f.name))
      else (f.codec.read member.2).bind fun v =>
        shape.readMembers (f.set v r) (f.name :: seen) rest := by
  have hfield : shape.field? f.name = some f := find?_of_nodup h.names hm.1
  rw [readMembers, Lexeme.read, hm.2]
  dsimp only [Except.mapError, bind, Except.bind]
  rw [hfield]

/-! ### All members -/

/-- Members **carry** one record to another, when the fields in `seen` have been told: each of them
is passed over or tells a field of the other record, no field is told again, and fields that are not
told stay what they are. -/
structure Carries (shape : Shape ρ) (seen : List String) (members : List (Lexeme String × Draft))
    (r s : ρ) : Prop where
  each : ∀ m ∈ members, shape.PassedOver m ∨ shape.Tells s m
  once : (shape.told members ++ seen).Nodup
  rest : ∀ f ∈ shape.fields, f.name ∉ shape.told members → f.get s = f.get r

theorem Carries.nil {r s : ρ} {seen : List String} (hseen : seen.Nodup)
    (h : ∀ f ∈ shape.fields, f.get s = f.get r) : shape.Carries seen [] r s where
  each _ hm := absurd hm List.not_mem_nil
  once := hseen
  rest f hf _ := h f hf

theorem carries_cons_of_stranger {member : Lexeme String × Draft} (hm : shape.IsStranger member)
    {rest : List (Lexeme String × Draft)} {seen : List String} {r s : ρ} :
    shape.Carries seen (member :: rest) r s ↔
      member.2.flaw? = none ∧ shape.Carries seen rest r s := by
  have htold := told_cons_of_stranger hm rest
  constructor
  · rintro ⟨heach, honce, hrest⟩
    obtain ⟨hfirst, heach⟩ := List.forall_mem_cons.mp heach
    rw [htold] at honce hrest
    exact ⟨(hfirst.resolve_right (hm.not_tells s)).2, heach, honce, hrest⟩
  · rintro ⟨hflaw, heach, honce, hrest⟩
    refine ⟨List.forall_mem_cons.mpr ⟨.inl ⟨hm, hflaw⟩, heach⟩, ?_, ?_⟩
    · rwa [htold]
    · rwa [htold]

/-- A member that names a field carries a record on by **setting** that field. -/
theorem Regular.carries_cons_of_names (h : shape.Regular) {f : Field ρ}
    {member : Lexeme String × Draft} (hm : shape.Names f member)
    {rest : List (Lexeme String × Draft)} {seen : List String} {r s : ρ} :
    shape.Carries seen (member :: rest) r s ↔
      f.codec.read member.2 = .ok (f.get s) ∧
        shape.Carries (f.name :: seen) rest (f.set (f.get s) r) s := by
  have htold := told_cons_of_names hm rest
  have hnodup : (f.name :: shape.told rest ++ seen).Nodup ↔
      (shape.told rest ++ f.name :: seen).Nodup := List.perm_middle.symm.nodup_iff
  constructor
  · rintro ⟨heach, honce, hrest⟩
    obtain ⟨hfirst, heach⟩ := List.forall_mem_cons.mp heach
    rw [htold] at honce hrest
    refine ⟨h.read_of_names hfirst hm, heach, hnodup.mp honce, fun g hg huntold => ?_⟩
    by_cases hname : f.name = g.name
    · rw [← List.inj_on_of_nodup_map h.names hm.1 hg hname, h.get_set f hm.1]
    · rw [h.get_set_of_ne hm.1 hg hname]
      refine hrest g hg ?_
      rw [List.mem_cons, not_or]
      exact ⟨Ne.symm hname, huntold⟩
  · rintro ⟨hread, heach, honce, hrest⟩
    refine ⟨List.forall_mem_cons.mpr ⟨.inr ⟨f, hm, hread⟩, heach⟩, ?_, ?_⟩
    · rw [htold]
      exact hnodup.mpr honce
    · rw [htold]
      intro g hg huntold
      rw [List.mem_cons, not_or] at huntold
      rw [hrest g hg huntold.2, h.get_set_of_ne hm.1 hg (Ne.symm huntold.1)]

/-- **Reading members** gives the record that they carry the one at hand to, and the fields told. -/
theorem Regular.readMembers_iff (h : shape.Regular) {members : List (Lexeme String × Draft)}
    {r s : ρ} {seen told : List String} (hseen : seen.Nodup) :
    shape.readMembers r seen members = .ok (s, told) ↔
      shape.Carries seen members r s ∧ told = (shape.told members).reverse ++ seen := by
  induction members generalizing r seen with
  | nil =>
    have hread : shape.readMembers r seen [] = .ok (r, seen) := rfl
    rw [hread, Except.ok.injEq, Prod.mk.injEq, told_nil, List.reverse_nil, List.nil_append]
    constructor
    · rintro ⟨rfl, rfl⟩
      exact ⟨.nil hseen fun _ _ => rfl, rfl⟩
    · rintro ⟨hcarries, rfl⟩
      exact ⟨h.ext r s fun f hf => (hcarries.rest f hf List.not_mem_nil).symm, rfl⟩
  | cons member rest ih =>
    rcases shape.member_cases member with ⟨flaw, hflaw⟩ | hm | ⟨f, hm⟩
    · -- a member without a name is neither passed over nor tells a field
      rw [readMembers_of_unreadable hflaw]
      refine iff_of_false (fun herror => by cases herror) ?_
      rintro ⟨hcarries, -⟩
      rcases hcarries.each member List.mem_cons_self with ⟨⟨name, hname, -⟩, -⟩ | ⟨f, hf, -⟩
      · rw [hflaw] at hname
        cases hname
      · have hname := hf.2
        rw [hflaw] at hname
        cases hname
    · rw [readMembers_of_stranger hm, carries_cons_of_stranger hm, told_cons_of_stranger hm]
      cases member.2.flaw? with
      | none => simpa [closing, Except.bind] using ih hseen
      | some flaw => simp [closing, Except.bind]
    · rw [h.readMembers_of_names hm, h.carries_cons_of_names hm, told_cons_of_names hm]
      by_cases hold : f.name ∈ seen
      · rw [if_pos hold]
        refine iff_of_false (fun herror => by cases herror) ?_
        rintro ⟨⟨-, hcarries⟩, -⟩
        exact (List.nodup_cons.mp hcarries.once.of_append_right).1 hold
      · rw [if_neg hold, List.reverse_cons, List.append_assoc, List.singleton_append]
        have hmore : (f.name :: seen).Nodup := List.nodup_cons.mpr ⟨hold, hseen⟩
        cases hread : f.codec.read member.2 with
        | error failure => simp [Except.bind]
        | ok v =>
          dsimp only [Except.bind]
          rw [ih hmore, Except.ok.injEq]
          constructor
          · rintro ⟨hcarries, htold⟩
            have hv : v = f.get s := by
              have huntold : f.name ∉ shape.told rest := fun hmem =>
                List.disjoint_of_nodup_append hcarries.once hmem List.mem_cons_self
              rw [hcarries.rest f hm.1 huntold, h.get_set f hm.1]
            exact ⟨⟨hv, hv ▸ hcarries⟩, htold⟩
          · rintro ⟨⟨rfl, hcarries⟩, htold⟩
            exact ⟨hcarries, htold⟩

theorem complete_eq_ok_iff {seen : List String} :
    shape.complete seen = .ok () ↔
      ∀ f ∈ shape.fields, f.presence = .required → f.name ∈ seen := by
  rw [complete]
  constructor
  · intro h f hf hpresence
    split at h
    · cases h
    · rename_i hnone
      have hfound := List.find?_eq_none.mp hnone f hf
      simpa [hpresence] using hfound
  · intro h
    have hnone : (shape.fields.find? fun f => f.presence = .required ∧ f.name ∉ seen) = none := by
      refine List.find?_eq_none.mpr fun f hf => ?_
      rw [decide_eq_true_iff]
      exact fun hmissing => hmissing.2 (h f hf hmissing.1)
    rw [hnone]

/-- **An object is read as a record** just when each member is passed over or tells a field of it,
no field is told twice, and each field that is not told may be left out and is what it is in the
blank record. -/
theorem Regular.read_object_iff (h : shape.Regular) {members : List (Lexeme String × Draft)}
    {record : ρ} :
    shape.codec.read (.object members none) = .ok record ↔
      (∀ m ∈ members, shape.PassedOver m ∨ shape.Tells record m) ∧ (shape.told members).Nodup ∧
        ∀ f ∈ shape.fields, f.name ∉ shape.told members →
          f.presence ≠ .required ∧ f.get record = f.get shape.blank := by
  have hmembers {told : List String} :
      shape.readMembers shape.blank [] members = .ok (record, told) ↔
        shape.Carries [] members shape.blank record ∧ told = (shape.told members).reverse ++ [] :=
    h.readMembers_iff List.nodup_nil
  have hread : shape.codec.read (.object members none) = .ok record ↔
      ∃ told, shape.readMembers shape.blank [] members = .ok (record, told) ∧
        shape.complete told = .ok () := by
    constructor
    · intro hread
      obtain ⟨⟨read, told⟩, houtcome, hread⟩ := exists_of_bind hread
      obtain ⟨-, -, hread⟩ := exists_of_bind hread
      obtain ⟨⟨⟩, hall, hread⟩ := exists_of_bind hread
      cases hread
      exact ⟨told, houtcome, hall⟩
    · rintro ⟨told, houtcome, hall⟩
      dsimp only [codec, closing]
      rw [houtcome]
      dsimp only [bind, Except.bind]
      rw [hall]
      rfl
  rw [hread]
  constructor
  · rintro ⟨told, htold, hall⟩
    obtain ⟨hcarries, rfl⟩ := hmembers.mp htold
    rw [List.append_nil, complete_eq_ok_iff] at hall
    have honce := hcarries.once
    rw [List.append_nil] at honce
    refine ⟨hcarries.each, honce, fun f hf huntold => ⟨fun hpresence => ?_, ?_⟩⟩
    · exact huntold (List.mem_reverse.mp (hall f hf hpresence))
    · exact hcarries.rest f hf huntold
  · rintro ⟨heach, honce, hrest⟩
    refine ⟨_, hmembers.mpr ⟨⟨heach, ?_, fun f hf huntold => (hrest f hf huntold).2⟩, rfl⟩, ?_⟩
    · rwa [List.append_nil]
    · rw [List.append_nil, complete_eq_ok_iff]
      intro f hf hpresence
      refine List.mem_reverse.mpr (by_contra fun huntold => ?_)
      exact (hrest f hf huntold).1 hpresence

end Shape

end Json

/-! ### The shapes of what comes in -/

namespace Wire

theorem inputShape_regular : inputShape.Regular := by
  refine ⟨by decide, ?_, ?_, ?_⟩
  · simp [inputShape]
  · simp [inputShape, Field.Apart]
  · rintro ⟨⟩ ⟨⟩ h
    simpa [inputShape] using h

theorem outputShape_regular : outputShape.Regular := by
  refine ⟨by decide, ?_, ?_, ?_⟩
  · simp [outputShape]
  · simp [outputShape, Field.Apart]
  · rintro ⟨⟩ ⟨⟩ h
    simpa [outputShape] using h

theorem contextShape_regular : contextShape.Regular := by
  refine ⟨by decide, ?_, ?_, ?_⟩
  · simp [contextShape]
  · simp [contextShape, Field.Apart]
  · rintro ⟨⟩ ⟨⟩ h
    simpa [contextShape] using h

theorem requestShape_regular : requestShape.Regular := by
  refine ⟨by decide, ?_, ?_, ?_⟩
  · simp [requestShape]
  · simp [requestShape, Field.Apart]
  · rintro ⟨⟩ ⟨⟩ h
    simpa [requestShape] using h

theorem turnShape_regular : turnShape.Regular := by
  refine ⟨by decide, ?_, ?_, ?_⟩
  · simp [turnShape]
  · simp [turnShape, Field.Apart]
  · rintro ⟨⟩ ⟨⟩ h
    simpa [turnShape] using h

theorem engineScriptShape_regular : engineScriptShape.Regular := by
  refine ⟨by decide, ?_, ?_, ?_⟩
  · simp [engineScriptShape]
  · simp [engineScriptShape, Field.Apart]
  · rintro ⟨⟩ ⟨⟩ h
    simpa [engineScriptShape] using h

theorem commandCallShape_regular : commandCallShape.Regular := by
  refine ⟨by decide, ?_, ?_, ?_⟩
  · simp [commandCallShape]
  · simp [commandCallShape, Field.Apart]
  · rintro ⟨⟩ ⟨⟩ h
    simpa [commandCallShape] using h

theorem conversationShape_regular : conversationShape.Regular := by
  refine ⟨by decide, ?_, ?_, ?_⟩
  · simp [conversationShape]
  · simp [conversationShape, Field.Apart]
  · rintro ⟨⟩ ⟨⟩ h
    simpa [conversationShape] using h

theorem turnScriptShape_regular : turnScriptShape.Regular := by
  refine ⟨by decide, ?_, ?_, ?_⟩
  · simp [turnScriptShape]
  · simp [turnScriptShape, Field.Apart]
  · rintro ⟨⟩ ⟨⟩ h
    simpa [turnScriptShape] using h

theorem topicEntryShape_regular : topicEntryShape.Regular := by
  refine ⟨by decide, ?_, ?_, ?_⟩
  · simp [topicEntryShape]
  · simp [topicEntryShape, Field.Apart]
  · rintro ⟨⟩ ⟨⟩ h
    simpa [topicEntryShape] using h

theorem moduleEntryShape_regular : moduleEntryShape.Regular := by
  refine ⟨by decide, ?_, ?_, ?_⟩
  · simp [moduleEntryShape]
  · simp [moduleEntryShape, Field.Apart]
  · rintro ⟨⟩ ⟨⟩ h
    simpa [moduleEntryShape] using h

theorem catalogShape_regular : catalogShape.Regular := by
  refine ⟨by decide, ?_, ?_, ?_⟩
  · simp [catalogShape]
  · simp [catalogShape, Field.Apart]
  · rintro ⟨⟩ ⟨⟩ h
    simpa [catalogShape] using h

theorem arbiterSettingsShape_regular : arbiterSettingsShape.Regular := by
  refine ⟨by decide, ?_, ?_, ?_⟩
  · simp [arbiterSettingsShape]
  · simp [arbiterSettingsShape, Field.Apart]
  · rintro ⟨⟩ ⟨⟩ h
    simpa [arbiterSettingsShape] using h

theorem trackerSettingsShape_regular : trackerSettingsShape.Regular := by
  refine ⟨by decide, ?_, ?_, ?_⟩
  · simp [trackerSettingsShape]
  · simp [trackerSettingsShape, Field.Apart]
  · rintro ⟨⟩ ⟨⟩ h
    simpa [trackerSettingsShape] using h

theorem settingsShape_regular : settingsShape.Regular := by
  refine ⟨by decide, ?_, ?_, ?_⟩
  · simp [settingsShape]
  · simp [settingsShape, Field.Apart]
  · rintro ⟨⟩ ⟨⟩ h
    simpa [settingsShape] using h

end Wire

end Colloquy

import Mathlib
import Colloquy.Report

/-!
# The line of a report

In the **line** of a report seven fields come before the response. None of them has a bar in it, so
that each ends at the first bar behind it (`Text.field_inj`), and what comes behind the last of these
bars is the response, whatever text that is. So everything that the line shows can be told from it
again (`Report.line_eq_iff`), also where the response looks like one more field, or goes over
several lines. Only a turn without a response cannot be told from one in which just that is said
which stands for none.
-/

namespace Colloquy

/-! ### Fields and bars -/

namespace Text

/-- Fields, each with a **bar** behind it, and a last text behind them all. -/
def joinFields (fields : List String) (last : String) : String :=
  fields.foldr (fun field rest => field ++ " | " ++ rest) last

variable {last last' : String}

/-- A field without a bar **ends** where the text is cut at the first one. -/
theorem cutAt?_field {field : String} (h : '|' ∉ field.toList) (last : String) :
    cutAt? '|' (field ++ " | " ++ last) = some (field ++ " ", " " ++ last) := by
  have hspaced : '|' ∉ (field ++ " ").toList := by simpa using h
  have hbar : " | " = " " ++ String.singleton '|' ++ " " := rfl
  rw [← cutAt?_append hspaced, hbar]
  simp only [String.append_assoc]

theorem field_inj {field field' : String} (h : '|' ∉ field.toList) (h' : '|' ∉ field'.toList)
    (heq : field ++ " | " ++ last = field' ++ " | " ++ last') : field = field' ∧ last = last' := by
  have hsides := cutAt?_field h last
  rw [heq, cutAt?_field h', Option.some_inj, Prod.mk.injEq, String.append_left_inj,
    String.append_right_inj] at hsides
  exact ⟨hsides.1.symm, hsides.2.symm⟩

/-- **Fields without bars**, and the text behind them, are told from the whole if it is known how
many there are. -/
theorem joinFields_inj {fields fields' : List String} (hlength : fields.length = fields'.length)
    (h : ∀ field ∈ fields, '|' ∉ field.toList) (h' : ∀ field ∈ fields', '|' ∉ field.toList)
    (heq : joinFields fields last = joinFields fields' last') : fields = fields' ∧ last = last' := by
  induction fields generalizing fields' with
  | nil =>
    obtain rfl := List.eq_nil_of_length_eq_zero hlength.symm
    exact ⟨rfl, heq⟩
  | cons field rest ih =>
    cases fields' with
    | nil => cases hlength
    | cons field' rest' =>
      rw [List.forall_mem_cons] at h h'
      obtain ⟨rfl, hrest⟩ := field_inj h.1 h'.1 heq
      obtain ⟨rfl, hlast⟩ := ih (Nat.succ.inj hlength) h.2 h'.2 hrest
      exact ⟨rfl, hlast⟩

/-- A number is written in digits, and there is **no bar** among them. -/
theorem bar_not_mem_toString (n : Nat) : '|' ∉ (toString n).toList := by
  intro hmem
  have hdigits : (toString n).toList = Nat.toDigits 10 n := Nat.toList_repr
  rw [hdigits] at hmem
  exact absurd (Nat.isDigit_of_mem_toDigits (by decide) (by decide) hmem) (by decide)

end Text

/-! ### Names -/

theorem Owner.name_injective : Function.Injective Owner.name := by
  intro owner owner' h
  cases owner <;> cases owner' <;> first | rfl | simp [Owner.name] at h

theorem Stage.name_injective : Function.Injective Stage.name := by
  intro stage stage' h
  cases stage <;> cases stage' <;> first | rfl | simp [Stage.name] at h

theorem Slot.digit_injective : Function.Injective Slot.digit := by
  intro slot slot' h
  cases slot <;> cases slot' <;> first | rfl | simp [Slot.digit] at h

theorem Resolution.code_injective : Function.Injective Resolution.code := by
  intro r r' h
  cases r <;> cases r' <;> first | rfl | simp [Resolution.code] at h

namespace Report

/-- What is **there** is told from what is not, and by its name from everything else. -/
theorem getD_absent_injective {α : Type} {name : α → String} (hname : Function.Injective name)
    (habsent : ∀ a, name a ≠ absent) :
    Function.Injective fun o : Option α => (o.map name).getD absent := by
  intro o o' h
  cases o with
  | none =>
    cases o' with
    | none => rfl
    | some a' => exact absurd h.symm (habsent a')
  | some a =>
    cases o' with
    | none => exact absurd h (habsent a)
    | some a' => exact congrArg some (hname h)

variable {r r' : Report}

theorem ownerText_inj (h : r.ownerText = r'.ownerText) : r.owner = r'.owner :=
  getD_absent_injective Owner.name_injective (fun owner => by cases owner <;> decide) h

theorem resolutionText_inj (h : r.resolutionText = r'.resolutionText) :
    r.resolution = r'.resolution :=
  getD_absent_injective Resolution.code_injective (fun r => by cases r <;> decide) h

/-! ### The line -/

/-- The **fields** that come before the response. -/
def fields (r : Report) : List String := [
  "turn=" ++ toString r.turn.toNat, "policy=" ++ r.ownerText, "state=" ++ r.stage.name,
  "counter=" ++ toString r.counter.toNat, "slot=" ++ r.slot.digit,
  "reprompts=" ++ toString r.reprompts.toNat, "kind=" ++ r.resolutionText]

theorem line_eq_joinFields (r : Report) :
    r.line = Text.joinFields r.fields ("response=" ++ r.responseText) := by
  unfold line stateText
  apply String.toList_inj.mp
  simp only [fields, Text.joinFields, List.foldr_cons, List.foldr_nil, String.toList_append,
    List.append_assoc]
  rfl

/-- **No field** has a bar in it. -/
theorem bar_not_mem_fields (r : Report) : ∀ field ∈ r.fields, '|' ∉ field.toList := by
  have howner : '|' ∉ r.ownerText.toList := by
    rw [ownerText]
    rcases r.owner with _ | (_ | _ | _ | _ | _) <;> decide
  have hresolution : '|' ∉ r.resolutionText.toList := by
    rw [resolutionText]
    rcases r.resolution with _ | (_ | _ | _ | _ | _ | _ | _ | _ | _) <;> decide
  have hstage : '|' ∉ r.stage.name.toList := by cases r.stage <;> decide
  have hslot : '|' ∉ r.slot.digit.toList := by cases r.slot <;> decide
  have hnumber := Text.bar_not_mem_toString
  have labelled : ∀ {label text : String}, '|' ∉ label.toList → '|' ∉ text.toList →
      '|' ∉ (label ++ text).toList := by
    intro label text hlabel htext
    rw [String.toList_append, List.mem_append]
    exact not_or.mpr ⟨hlabel, htext⟩
  simp only [fields, List.forall_mem_cons]
  exact ⟨labelled (by decide) (hnumber _), labelled (by decide) howner,
    labelled (by decide) hstage, labelled (by decide) (hnumber _), labelled (by decide) hslot,
    labelled (by decide) (hnumber _), labelled (by decide) hresolution, List.forall_mem_nil _⟩

/-- The **fields** show what they are made of. -/
theorem fields_inj (h : r.fields = r'.fields) :
    r.turn = r'.turn ∧ r.owner = r'.owner ∧ r.stage = r'.stage ∧ r.counter = r'.counter ∧
      r.slot = r'.slot ∧ r.reprompts = r'.reprompts ∧ r.resolution = r'.resolution := by
  simp only [fields, List.cons.injEq, String.append_right_inj, and_true] at h
  obtain ⟨hturn, howner, hstage, hcounter, hslot, hreprompts, hresolution⟩ := h
  exact ⟨UInt64.toNat_inj.mp (Nat.repr_injective hturn), ownerText_inj howner,
    Stage.name_injective hstage, UInt32.toNat_inj.mp (Nat.repr_injective hcounter),
    Slot.digit_injective hslot, UInt64.toNat_inj.mp (Nat.repr_injective hreprompts),
    resolutionText_inj hresolution⟩

/-- **The line determines the report**, as far as it shows it: reports have the same line just if
they agree in the number of the turn, its owner, the stage, the counter, the slot, the number of
reprompts, how the fallback was resolved, and the response, where a response that is not there is
taken for the text that stands for it. -/
theorem line_eq_iff (r r' : Report) :
    r.line = r'.line ↔
      r.turn = r'.turn ∧ r.owner = r'.owner ∧ r.stage = r'.stage ∧ r.counter = r'.counter ∧
        r.slot = r'.slot ∧ r.reprompts = r'.reprompts ∧ r.resolution = r'.resolution ∧
        r.response.getD noResponse = r'.response.getD noResponse := by
  constructor
  · intro h
    rw [line_eq_joinFields, line_eq_joinFields] at h
    have hlength : r.fields.length = r'.fields.length := rfl
    obtain ⟨hfields, hlast⟩ :=
      Text.joinFields_inj hlength r.bar_not_mem_fields r'.bar_not_mem_fields h
    obtain ⟨hturn, howner, hstage, hcounter, hslot, hreprompts, hresolution⟩ := fields_inj hfields
    exact ⟨hturn, howner, hstage, hcounter, hslot, hreprompts, hresolution,
      (String.append_right_inj "response=").mp hlast⟩
  · rintro ⟨hturn, howner, hstage, hcounter, hslot, hreprompts, hresolution, hresponse⟩
    have hfields : r.fields = r'.fields := by
      simp only [fields, ownerText, resolutionText, hturn, howner, hstage, hcounter, hslot,
        hreprompts, hresolution]
    rw [line_eq_joinFields, line_eq_joinFields, hfields, responseText, responseText, hresponse]

end Report

end Colloquy

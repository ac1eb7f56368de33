/-!
# Dictionaries

A **dictionary** gives values to names. Its entries are kept in the order of the names, each name
at most once, so two dictionaries with the same entries are the same dictionary, whatever the order
in which the entries came in.
-/

namespace Colloquy

/-- The entries with `value` at `name`, in place of what was there. -/
def insertEntry {α : Type} (name : String) (value : α) : List (String × α) → List (String × α)
  | [] => [(name, value)]
  | entry :: rest =>
    if name < entry.1 then (name, value) :: entry :: rest
    else if name = entry.1 then (name, value) :: rest
    else entry :: insertEntry name value rest

/-- A name below the inserted one and below all others stays below all. -/
theorem lt_of_mem_insertEntry {α : Type} {low name : String} {value : α}
    {entries : List (String × α)} (hname : low < name) (h : ∀ e ∈ entries, low < e.1) :
    ∀ e ∈ insertEntry name value entries, low < e.1 := by
  induction entries with
  | nil =>
    intro e he
    rw [insertEntry, List.mem_singleton] at he
    rw [he]
    exact hname
  | cons entry rest ih =>
    intro e he
    simp only [insertEntry] at he
    split at he
    · rcases List.mem_cons.1 he with rfl | he
      · exact hname
      · exact h e he
    · split at he
      · rcases List.mem_cons.1 he with rfl | he
        · exact hname
        · exact h e (List.mem_cons_of_mem _ he)
      · rcases List.mem_cons.1 he with rfl | he
        · exact h e List.mem_cons_self
        · exact ih (fun e he => h e (List.mem_cons_of_mem _ he)) e he

/-- Inserting keeps the names in order. -/
theorem pairwise_insertEntry {α : Type} (name : String) (value : α) {entries : List (String × α)}
    (h : entries.Pairwise fun a b => a.1 < b.1) :
    (insertEntry name value entries).Pairwise fun a b => a.1 < b.1 := by
  induction entries with
  | nil => simp [insertEntry]
  | cons entry rest ih =>
    have hrest := List.pairwise_cons.1 h
    simp only [insertEntry]
    split
    · rename_i hlt
      refine List.pairwise_cons.2 ⟨fun e he => ?_, h⟩
      rcases List.mem_cons.1 he with rfl | he
      · exact hlt
      · exact String.lt_trans hlt (hrest.1 e he)
    · split
      · rename_i _ heq
        exact List.pairwise_cons.2 ⟨fun e he => heq ▸ hrest.1 e he, hrest.2⟩
      · rename_i hlt heq
        have hgt : entry.1 < name := by
          refine Decidable.byContradiction fun hn => heq ?_
          exact String.le_antisymm (String.not_lt.1 hn) (String.not_lt.1 hlt)
        exact List.pairwise_cons.2 ⟨lt_of_mem_insertEntry hgt hrest.1, ih hrest.2⟩

/-- A **dictionary**: names with their values, in the order of the names. -/
structure Dict (α : Type) where
  entries : List (String × α)
  sorted : entries.Pairwise fun a b => a.1 < b.1
deriving DecidableEq

namespace Dict

variable {α : Type}

/-- The dictionary without entries. -/
def empty : Dict α := ⟨[], List.Pairwise.nil⟩

instance : EmptyCollection (Dict α) := ⟨empty⟩
instance : Inhabited (Dict α) := ⟨empty⟩

/-- The dictionary with `value` at `name`, in place of what was there. -/
def insert (d : Dict α) (name : String) (value : α) : Dict α :=
  ⟨insertEntry name value d.entries, pairwise_insertEntry name value d.sorted⟩

/-- The value at a name, if there is one. -/
def get? (d : Dict α) (name : String) : Option α :=
  (d.entries.find? (·.1 = name)).map (·.2)

/-- The value at a name, or another one where there is none. -/
def getD (d : Dict α) (name : String) (fallback : α) : α := (d.get? name).getD fallback

/-- The dictionary that a list of entries makes when they are entered one after the other. -/
def ofList (entries : List (String × α)) : Dict α :=
  entries.foldl (fun d entry => d.insert entry.1 entry.2) empty

@[ext] theorem ext {d e : Dict α} (h : d.entries = e.entries) : d = e := by
  cases d; cases e; cases h; rfl

@[simp] theorem get?_empty (name : String) : (empty : Dict α).get? name = none := rfl

theorem find?_insertEntry (name : String) (value : α) (entries : List (String × α))
    (other : String) :
    ((insertEntry name value entries).find? (·.1 = other)).map (·.2) =
      if other = name then some value else (entries.find? (·.1 = other)).map (·.2) := by
  induction entries with
  | nil => by_cases h : other = name <;> simp [insertEntry, h, eq_comm]
  | cons entry rest ih =>
    simp only [insertEntry]
    split
    · by_cases h : other = name
      · simp [h]
      · simp [h, Ne.symm h, List.find?_cons]
    · split
      · rename_i _ heq
        by_cases h : other = name
        · simp [h]
        · have h' : ¬ entry.1 = other := fun he => h (he ▸ heq.symm)
          simp [h, Ne.symm h, h']
      · rename_i _ hne
        by_cases h : entry.1 = other
        · have h' : ¬ other = name := fun ho => hne (ho ▸ h.symm)
          simp [h, h']
        · simp [h, ih]

/-- After an insertion the name has the new value, and every other name what it had. -/
@[simp] theorem get?_insert (d : Dict α) (name : String) (value : α) (other : String) :
    (d.insert name value).get? other = if other = name then some value else d.get? other :=
  find?_insertEntry name value d.entries other

end Dict

end Colloquy

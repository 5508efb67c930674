/-!
# Tables of names

A table gives values to names. Storing a value under a name that has one replaces it; the names
stay in the order in which they first came in.
-/

namespace GoalSearch

/-- Values by name, each name once. -/
structure NameTable (α : Type) where
  entries : List (String × α)
deriving Repr

namespace NameTable

variable {α : Type}

def empty : NameTable α := ⟨[]⟩

instance : Inhabited (NameTable α) := ⟨empty⟩

def size (t : NameTable α) : Nat := t.entries.length

def find? (t : NameTable α) (name : String) : Option α := t.entries.lookup name

/-- Entries with a name's value replaced, or put last if the name is new. -/
def insertEntry (name : String) (value : α) : List (String × α) → List (String × α)
  | [] => [(name, value)]
  | (n, v) :: rest =>
    if n = name then (n, value) :: rest else (n, v) :: insertEntry name value rest

def insert (t : NameTable α) (name : String) (value : α) : NameTable α :=
  ⟨insertEntry name value t.entries⟩

/-- The table with another value in the place of each value. -/
def mapValues {β : Type} (f : α → β) (t : NameTable α) : NameTable β :=
  ⟨t.entries.map fun (name, value) => (name, f value)⟩

@[simp] theorem find?_empty (name : String) : (empty : NameTable α).find? name = none := rfl

theorem lookup_entry {name n : String} (value : α) (rest : List (String × α)) :
    List.lookup name ((n, value) :: rest) = if name = n then some value else rest.lookup name := by
  rw [List.lookup_cons]
  by_cases h : name = n
  · simp [h]
  · have hbeq : (name == n) = false := by simpa using h
    simp [h, hbeq]

theorem lookup_insertEntry (name other : String) (value : α) (entries : List (String × α)) :
    (insertEntry name value entries).lookup other =
      if other = name then some value else entries.lookup other := by
  induction entries with
  | nil => rw [insertEntry, lookup_entry]
  | cons entry rest ih =>
    obtain ⟨n, v⟩ := entry
    by_cases hn : n = name
    · subst hn
      simp only [insertEntry, if_true, lookup_entry]
      split <;> rfl
    · simp only [insertEntry, if_neg hn, lookup_entry, ih]
      by_cases h : other = n
      · subst h
        simp [hn]
      · simp [h]

/-- A stored value is found under its name, and every other name keeps its value. -/
theorem find?_insert (t : NameTable α) (name other : String) (value : α) :
    (t.insert name value).find? other = if other = name then some value else t.find? other :=
  lookup_insertEntry name other value t.entries

theorem mem_of_lookup {entries : List (String × α)} {name : String} {value : α}
    (h : entries.lookup name = some value) : (name, value) ∈ entries := by
  obtain ⟨earlier, later, rfl, -⟩ := List.lookup_eq_some_iff.mp h
  simp

theorem mem_entries_of_find? {t : NameTable α} {name : String} {value : α}
    (h : t.find? name = some value) : (name, value) ∈ t.entries :=
  mem_of_lookup h

theorem find?_mapValues {β : Type} (f : α → β) (t : NameTable α) (name : String) :
    (t.mapValues f).find? name = (t.find? name).map f := by
  obtain ⟨entries⟩ := t
  unfold find? mapValues
  induction entries with
  | nil => rfl
  | cons entry rest ih =>
    obtain ⟨n, v⟩ := entry
    simp only [List.map_cons, lookup_entry, ih]
    split <;> rfl

theorem mapValues_insert {β : Type} (f : α → β) (t : NameTable α) (name : String) (value : α) :
    (t.insert name value).mapValues f = (t.mapValues f).insert name (f value) := by
  obtain ⟨entries⟩ := t
  unfold insert mapValues
  induction entries with
  | nil => rfl
  | cons entry rest ih =>
    obtain ⟨n, v⟩ := entry
    by_cases h : n = name
    · simp [insertEntry, h]
    · simpa [insertEntry, h] using ih

end NameTable

end GoalSearch

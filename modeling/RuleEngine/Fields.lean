/-!
# Named entries

A table from names to values is a list in increasing order of the names (by code
point), so that none occurs twice (`Table`). It is built from the empty one by
insertion, which keeps the order.

Records, JSON objects and registries of functions are lists of entries under
names (`Fields`). A value may hold a record, whose fields hold values, and so may
JSON values: a type that is still being defined can stand in a list, but not in a
condition on the list. So the order is not part of these types, but of the ones
that go with them, as `Json.Ordered`.
-/

namespace RuleEngine

/-- Entries under names. -/
abbrev Fields (α : Type) := List (String × α)

namespace Fields

variable {α : Type}

/-- The names increase, so none occurs twice. -/
def Sorted (fields : Fields α) : Prop :=
  fields.Pairwise fun a b => a.1 < b.1

/-- The entry under a name. -/
def get? (fields : Fields α) (name : String) : Option α :=
  match fields with
  | [] => none
  | (key, value) :: rest => if key = name then some value else get? rest name

/-- Whether a name is bound. -/
def contains (fields : Fields α) (name : String) : Bool :=
  (fields.get? name).isSome

/-- Binds a name, in place of what it was bound to before. -/
def insert (fields : Fields α) (name : String) (value : α) : Fields α :=
  match fields with
  | [] => [(name, value)]
  | (key, old) :: rest =>
    if name < key then (name, value) :: (key, old) :: rest
    else if key = name then (name, value) :: rest
    else (key, old) :: insert rest name value

/-- The last value bound to a name is the one found under it. -/
theorem get?_insert (fields : Fields α) (name other : String) (value : α) :
    (fields.insert name value).get? other =
      if name = other then some value else fields.get? other := by
  induction fields with
  | nil => rfl
  | cons entry rest ih =>
    obtain ⟨key, old⟩ := entry
    rw [insert]
    split
    · rfl
    · split
      · next h => subst h; simp only [get?]; split <;> rfl
      · next h =>
        simp only [get?, ih]
        split
        · next h' => rw [if_neg (fun h'' => h (h'.trans h''.symm))]
        · rfl

/-- What is found after an insertion is the value inserted or was there before. -/
theorem mem_insert {fields : Fields α} {name : String} {value : α} {entry : String × α}
    (h : entry ∈ fields.insert name value) : entry = (name, value) ∨ entry ∈ fields := by
  induction fields with
  | nil => exact .inl (List.mem_singleton.mp h)
  | cons first rest ih =>
    obtain ⟨key, old⟩ := first
    rw [insert] at h
    split at h
    · exact List.mem_cons.mp h
    · split at h
      · exact (List.mem_cons.mp h).imp id (List.mem_cons_of_mem _)
      · rcases List.mem_cons.mp h with h | h
        · exact .inr (h ▸ List.mem_cons_self)
        · exact (ih h).imp id (List.mem_cons_of_mem _)

/-- Insertion keeps the order of the names. -/
theorem Sorted.insert {fields : Fields α} (h : fields.Sorted) (name : String) (value : α) :
    (fields.insert name value).Sorted := by
  induction fields with
  | nil => exact List.pairwise_singleton _ _
  | cons first rest ih =>
    obtain ⟨key, old⟩ := first
    have hrest := List.pairwise_cons.mp h
    rw [Fields.insert]
    split
    · next hlt =>
      refine List.pairwise_cons.mpr ⟨fun entry he => ?_, h⟩
      rcases List.mem_cons.mp he with he | he
      · exact he ▸ hlt
      · exact String.lt_trans hlt (hrest.1 entry he)
    · next hlt =>
      split
      · next heq => exact List.pairwise_cons.mpr ⟨fun entry he => heq ▸ hrest.1 entry he, hrest.2⟩
      · next hne =>
        refine List.pairwise_cons.mpr ⟨fun entry he => ?_, ih hrest.2⟩
        rcases mem_insert he with he | he
        · refine he ▸ Std.lt_of_le_of_ne (String.not_lt.mp hlt) hne
        · exact hrest.1 entry he

/-- The names, from the first entry on. -/
def names (fields : Fields α) : List String :=
  fields.map (·.1)

/-- The names are those that are bound. -/
theorem mem_names_iff {fields : Fields α} {name : String} :
    name ∈ fields.names ↔ fields.contains name = true := by
  induction fields with
  | nil => exact ⟨nofun, nofun⟩
  | cons entry rest ih =>
    obtain ⟨key, value⟩ := entry
    rw [names, List.map_cons, List.mem_cons, contains, get?]
    split
    · next h => exact ⟨fun _ => rfl, fun _ => .inl h.symm⟩
    · next h => exact (or_iff_right fun h' => h h'.symm).trans ih

theorem contains_insert (fields : Fields α) (name other : String) (value : α) :
    (fields.insert name value).contains other = true ↔
      name = other ∨ fields.contains other = true := by
  rw [contains, get?_insert]
  split
  · next h => exact ⟨fun _ => .inl h, fun _ => rfl⟩
  · next h => exact (or_iff_right h).symm

instance (fields : Fields α) : Decidable fields.Sorted :=
  inferInstanceAs (Decidable (fields.Pairwise _))

end Fields

/-- Entries in increasing order of their names. -/
structure Table (α : Type) where
  entries : Fields α
  sorted : entries.Sorted

namespace Table

variable {α β : Type}

def empty : Table α :=
  ⟨[], .nil⟩

/-- Binds a name, in place of what it was bound to before. -/
def insert (table : Table α) (name : String) (value : α) : Table α :=
  ⟨table.entries.insert name value, table.sorted.insert name value⟩

/-- The same names with something else made of what they are bound to. -/
def map (f : α → β) (table : Table α) : Table β :=
  ⟨table.entries.map (Prod.map id f), List.pairwise_map.mpr table.sorted⟩

/-- The table of some entries; of two under one name the later one counts. -/
def ofList (entries : List (String × α)) : Table α :=
  entries.foldl (fun table entry => table.insert entry.1 entry.2) empty

/-- In the table of some entries exactly their names are bound. -/
theorem contains_ofList {entries : List (String × α)} {name : String} :
    (ofList entries).entries.contains name = true ↔ name ∈ entries.map (·.1) := by
  suffices ∀ table : Table α,
      (entries.foldl (fun table entry => table.insert entry.1 entry.2) table).entries.contains
        name = true ↔ table.entries.contains name = true ∨ name ∈ entries.map (·.1) from
    (this empty).trans (or_iff_right nofun)
  induction entries with
  | nil => exact fun table => (or_iff_left nofun).symm
  | cons entry rest ih =>
    intro table
    rw [List.foldl_cons, ih, insert, Fields.contains_insert, List.map_cons, List.mem_cons,
      or_assoc, or_left_comm, @eq_comm _ name]

end Table

/-- The different names of a list, in increasing order. -/
def sortedNames (names : List String) : List String :=
  (Table.ofList (names.map fun name => (name, ()))).entries.names

/-- The names are those of the list. -/
theorem mem_sortedNames {names : List String} {name : String} :
    name ∈ sortedNames names ↔ name ∈ names := by
  rw [sortedNames, Fields.mem_names_iff, Table.contains_ofList, List.map_map]
  exact iff_of_eq (congrArg (name ∈ ·) (List.map_id names))

end RuleEngine

/-! Tables keyed by name. Entries stand in ascending order of their names, so two tables with the
same look-ups are equal and walking a table needs no further sort. -/

namespace RunGate

/-- Entries in strictly ascending order of name: each name occurs once. -/
structure Table (α : Type) where
  entries : List (String × α)
  ascending : entries.Pairwise fun first second => first.1 < second.1

namespace Table

variable {α β : Type}

@[ext]
theorem ext {first second : Table α} (same : first.entries = second.entries) : first = second := by
  cases first; cases second; simp_all

instance [DecidableEq α] : DecidableEq (Table α) := fun first second =>
  decidable_of_iff (first.entries = second.entries) ⟨ext, fun same => same ▸ rfl⟩

def empty : Table α := ⟨[], .nil⟩

instance : Inhabited (Table α) := ⟨empty⟩

def names (table : Table α) : List String := table.entries.map (·.1)

def get? (table : Table α) (name : String) : Option α :=
  (table.entries.find? (·.1 == name)).map (·.2)

def has (table : Table α) (name : String) : Bool :=
  table.entries.any (·.1 == name)

/-- Put an entry at its place in an ascending list, in the place of one with its name. -/
def insertEntry (name : String) (value : α) : List (String × α) → List (String × α)
  | [] => [(name, value)]
  | entry :: rest =>
    if name < entry.1 then (name, value) :: entry :: rest
    else if name = entry.1 then (name, value) :: rest
    else entry :: insertEntry name value rest

private theorem mem_insertEntry {name : String} {value : α} {entries : List (String × α)}
    {entry : String × α} (member : entry ∈ insertEntry name value entries) :
    entry = (name, value) ∨ entry ∈ entries := by
  induction entries with
  | nil => simpa [insertEntry] using member
  | cons head rest ih =>
    simp only [insertEntry] at member
    split at member
    · simpa using member
    · split at member
      · rcases List.mem_cons.mp member with same | kept
        · exact .inl same
        · exact .inr (List.mem_cons_of_mem _ kept)
      · rcases List.mem_cons.mp member with same | kept
        · exact .inr (same ▸ List.mem_cons_self ..)
        · rcases ih kept with same | old
          · exact .inl same
          · exact .inr (List.mem_cons_of_mem _ old)

private theorem ascending_insertEntry (name : String) (value : α) {entries : List (String × α)}
    (ascending : entries.Pairwise fun first second => first.1 < second.1) :
    (insertEntry name value entries).Pairwise fun first second => first.1 < second.1 := by
  induction entries with
  | nil => simp [insertEntry]
  | cons head rest ih =>
    obtain ⟨below, later⟩ := List.pairwise_cons.mp ascending
    simp only [insertEntry]
    split
    · rename_i before
      refine List.pairwise_cons.mpr ⟨fun entry member => ?_, ascending⟩
      rcases List.mem_cons.mp member with same | old
      · exact same ▸ before
      · exact String.lt_trans before (below entry old)
    · rename_i notBefore
      split
      · rename_i same
        exact List.pairwise_cons.mpr ⟨fun entry member => same ▸ below entry member, later⟩
      · rename_i other
        refine List.pairwise_cons.mpr ⟨fun entry member => ?_, ih later⟩
        rcases mem_insertEntry member with same | old
        · subst same
          exact Std.lt_of_le_of_ne (String.not_lt.mp notBefore) (Ne.symm other)
        · exact below entry old

private theorem find?_insertEntry (name other : String) (value : α) {entries : List (String × α)}
    (ascending : entries.Pairwise fun first second => first.1 < second.1) :
    (insertEntry name value entries).find? (·.1 == other) =
      if name = other then some (name, value) else entries.find? (·.1 == other) := by
  induction entries with
  | nil => by_cases same : name = other <;> simp [insertEntry, same]
  | cons head rest ih =>
    obtain ⟨below, later⟩ := List.pairwise_cons.mp ascending
    simp only [insertEntry]
    split
    · by_cases same : name = other <;> simp [same]
    · split
      · rename_i same
        subst same
        by_cases found : head.1 = other <;> simp [found]
      · rename_i different
        by_cases found : head.1 = other
        · subst found
          simp [different]
        · simp [found, ih later]

/-- Give a name an entry, in the place of the one it had. -/
def insert (table : Table α) (name : String) (value : α) : Table α :=
  ⟨insertEntry name value table.entries, ascending_insertEntry name value table.ascending⟩

@[simp]
theorem get?_empty (name : String) : (empty : Table α).get? name = none := rfl

theorem get?_insert (table : Table α) (name other : String) (value : α) :
    (table.insert name value).get? other =
      if name = other then some value else table.get? other := by
  simp only [get?, insert, find?_insertEntry name other value table.ascending]
  split <;> rfl

private theorem find?_eq_some_iff {entries : List (String × α)} {name : String} {value : α}
    (ascending : entries.Pairwise fun first second => first.1 < second.1) :
    entries.find? (·.1 == name) = some (name, value) ↔ (name, value) ∈ entries := by
  induction entries with
  | nil => simp
  | cons head rest ih =>
    obtain ⟨below, later⟩ := List.pairwise_cons.mp ascending
    by_cases found : head.1 = name
    · subst found
      simp only [List.find?_cons, beq_self_eq_true, Option.some.injEq, List.mem_cons]
      constructor
      · intro same
        exact .inl same.symm
      · rintro (same | member)
        · exact same.symm
        · exact absurd (below _ member) (String.lt_irrefl _)
    · simp only [List.find?_cons, beq_eq_false_iff_ne.mpr found, ih later, List.mem_cons]
      constructor
      · exact .inr
      · rintro (same | member)
        · exact absurd (congrArg Prod.fst same).symm found
        · exact member

theorem get?_eq_some_iff {table : Table α} {name : String} {value : α} :
    table.get? name = some value ↔ (name, value) ∈ table.entries := by
  rw [← find?_eq_some_iff table.ascending, get?, Option.map_eq_some_iff]
  constructor
  · rintro ⟨entry, found, same⟩
    have named := List.find?_some found
    rw [found, ← same, ← beq_iff_eq.mp named]
  · intro found
    exact ⟨_, found, rfl⟩

theorem has_eq_isSome_get? (table : Table α) (name : String) :
    table.has name = (table.get? name).isSome := by
  simp [has, get?, List.isSome_find?]

theorem mem_names_iff {table : Table α} {name : String} :
    name ∈ table.names ↔ table.has name = true := by
  simp [names, has]

theorem mem_names_iff_exists_get? {table : Table α} {name : String} :
    name ∈ table.names ↔ ∃ value, table.get? name = some value := by
  rw [mem_names_iff, has_eq_isSome_get?, Option.isSome_iff_exists]

theorem nodup_names (table : Table α) : table.names.Nodup := by
  refine List.pairwise_map.mpr (table.ascending.imp fun {first second} before same => ?_)
  rw [same] at before
  exact String.lt_irrefl _ before

/-- The table of a list of entries; of several with one name the last one stands. -/
def ofList (entries : List (String × α)) : Table α :=
  entries.foldl (fun table entry => table.insert entry.1 entry.2) empty

/-- Change every entry, the names staying as they are. -/
def map (table : Table α) (change : String → α → β) : Table β :=
  ⟨table.entries.map fun entry => (entry.1, change entry.1 entry.2),
    List.pairwise_map.mpr table.ascending⟩

theorem get?_map (table : Table α) (change : String → α → β) (name : String) :
    (table.map change).get? name = (table.get? name).map (change name) := by
  simp only [get?, map]
  induction table.entries with
  | nil => rfl
  | cons entry rest ih =>
    by_cases found : entry.1 = name
    · subst found
      simp
    · simpa [found] using ih

theorem names_map (table : Table α) (change : String → α → β) :
    (table.map change).names = table.names := by
  simp [names, map]

end Table

end RunGate

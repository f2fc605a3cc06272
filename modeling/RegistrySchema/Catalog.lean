/-!
# Catalogs

A catalog keeps one value per key, in the order in which the keys were first entered. An
insertion never replaces or moves an entry: a key that is known leaves the catalog as it is.
`put` gives a known key a new value and keeps its place; `erase` drops an entry. The facts below
say what an insertion does to the list of entries and to look-ups.
-/

namespace RegistrySchema

/-- Values under pairwise distinct keys, in order of entry. -/
structure Catalog (κ α : Type) where
  /-- The entries, oldest first. -/
  entries : List (κ × α)
  /-- No key is entered twice. -/
  nodup : (entries.map Prod.fst).Nodup
  deriving DecidableEq

namespace Catalog

variable {κ α : Type}

/-- The catalog without entries. -/
def empty : Catalog κ α := ⟨[], by simp⟩

instance : Inhabited (Catalog κ α) := ⟨empty⟩

/-- The keys in order of entry. -/
def keys (table : Catalog κ α) : List κ := table.entries.map Prod.fst

/-- Number of entries. -/
def size (table : Catalog κ α) : Nat := table.entries.length

/-- Whether there is no entry. -/
def isEmpty (table : Catalog κ α) : Bool := table.entries.isEmpty

@[simp] theorem entries_empty : (empty : Catalog κ α).entries = [] := rfl

@[simp] theorem keys_empty : (empty : Catalog κ α).keys = [] := rfl

/-- Catalogs with the same entries are equal. -/
theorem ext_entries {table other : Catalog κ α} (h : table.entries = other.entries) :
    table = other := by
  obtain ⟨entries, _⟩ := table
  obtain ⟨others, _⟩ := other
  subst h
  rfl

variable [DecidableEq κ]

/-- The value under a key. -/
def get? (table : Catalog κ α) (key : κ) : Option α :=
  (table.entries.find? fun entry => entry.1 = key).map Prod.snd

/-- Whether a key has an entry. -/
def contains (table : Catalog κ α) (key : κ) : Bool := decide (key ∈ table.keys)

/-- Enter a value unless its key has an entry already. -/
def insert (table : Catalog κ α) (key : κ) (value : α) : Catalog κ α :=
  if h : key ∈ table.keys then table
  else
    { entries := table.entries ++ [(key, value)]
      nodup := by
        have hkeys : key ∉ table.entries.map Prod.fst := h
        simp only [List.map_append, List.map_cons, List.map_nil, List.nodup_append]
        refine ⟨table.nodup, by simp, ?_⟩
        intro a ha b hb hab
        simp only [List.mem_singleton] at hb
        exact hkeys (hb ▸ hab ▸ ha) }

/-- Enter a value, in place of the one that its key has if there is one. -/
def put (table : Catalog κ α) (key : κ) (value : α) : Catalog κ α :=
  if key ∈ table.keys then
    { entries := table.entries.map fun entry => (entry.1, if entry.1 = key then value else entry.2)
      nodup := by
        have hkeys : (table.entries.map fun entry =>
            (entry.1, if entry.1 = key then value else entry.2)).map Prod.fst
              = table.entries.map Prod.fst := by
          simp [Function.comp_def]
        exact hkeys ▸ table.nodup }
  else table.insert key value

/-- Drop the entry of a key. -/
def erase (table : Catalog κ α) (key : κ) : Catalog κ α where
  entries := table.entries.filter fun entry => entry.1 ≠ key
  nodup := table.nodup.sublist (List.filter_sublist.map Prod.fst)

/-- The entries of a list, of several under one key the first. -/
def ofList (entries : List (κ × α)) : Catalog κ α :=
  entries.foldl (fun table entry => table.insert entry.1 entry.2) empty

/-- A key with an entry: insertion changes nothing. -/
theorem insert_of_mem {table : Catalog κ α} {key : κ} (value : α) (h : key ∈ table.keys) :
    table.insert key value = table := by
  simp [insert, h]

/-- A new key: insertion puts its entry at the end. -/
theorem entries_insert_of_not_mem {table : Catalog κ α} {key : κ} (value : α)
    (h : key ∉ table.keys) :
    (table.insert key value).entries = table.entries ++ [(key, value)] := by
  simp [insert, h]

/-- After an insertion the keys are the old ones and the new one. -/
theorem mem_keys_insert {table : Catalog κ α} {key other : κ} {value : α} :
    other ∈ (table.insert key value).keys ↔ other ∈ table.keys ∨ other = key := by
  by_cases h : key ∈ table.keys
  · rw [insert_of_mem value h]
    constructor
    · exact Or.inl
    · rintro (hmem | rfl)
      · exact hmem
      · exact h
  · simp [keys, entries_insert_of_not_mem value h]

/-- Dropping a new entry again leaves what there was. -/
theorem erase_insert_of_not_mem {table : Catalog κ α} {key : κ} (value : α)
    (h : key ∉ table.keys) : (table.insert key value).erase key = table := by
  have hkeep : table.entries.filter (fun entry => decide (entry.1 ≠ key)) = table.entries := by
    refine List.filter_eq_self.2 fun entry hentry => decide_eq_true ?_
    rintro rfl
    exact h (List.mem_map_of_mem hentry)
  have hentries : ((table.insert key value).erase key).entries = table.entries := by
    simp only [erase, entries_insert_of_not_mem value h, List.filter_append, hkeep]
    simp
  exact ext_entries hentries

/-- Looking up a key succeeds exactly for the keys with an entry. -/
theorem get?_isSome_iff {table : Catalog κ α} {key : κ} :
    (table.get? key).isSome = true ↔ key ∈ table.keys := by
  simp only [get?, Option.isSome_map, List.find?_isSome, decide_eq_true_eq, keys, List.mem_map]

end Catalog

end RegistrySchema

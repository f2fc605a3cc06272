import Mathlib.Data.List.Induction
import Mathlib.Data.List.Nodup
import RegistrySchema.Catalog

/-!
# Runs of insertions

Entering the members of a list one after the other under their keys, into a catalog that may hold
entries already. The entries of the result are those there were, followed by one for each member
whose key is new; of several members under one key the first counts. All other facts about such
runs follow from this one.
-/

namespace RegistrySchema

/-- In a list with distinct keys, a search by key finds the member with that key. -/
theorem find?_eq_some_of_nodup_map {α κ : Type} [DecidableEq κ] (key : α → κ) {xs : List α}
    (hnodup : (xs.map key).Nodup) {x : α} (hx : x ∈ xs) :
    xs.find? (fun y => decide (key y = key x)) = some x := by
  have hsome : (xs.find? fun y => decide (key y = key x)).isSome = true :=
    List.find?_isSome.2 ⟨x, hx, decide_eq_true rfl⟩
  obtain ⟨found, hfound⟩ := Option.isSome_iff_exists.1 hsome
  have hkey : key found = key x := by simpa using List.find?_some hfound
  rw [hfound, List.inj_on_of_nodup_map hnodup (List.mem_of_find?_eq_some hfound) hx hkey]

namespace Catalog

variable {κ α β : Type} [DecidableEq κ]

/-- A look-up finds an entry exactly if there is one. -/
theorem get?_eq_some_iff {table : Catalog κ α} {key : κ} {value : α} :
    table.get? key = some value ↔ (key, value) ∈ table.entries := by
  constructor
  · intro h
    simp only [get?, Option.map_eq_some_iff] at h
    obtain ⟨⟨found, held⟩, hfind, rfl⟩ := h
    have hkey : found = key := by simpa using List.find?_some hfind
    exact hkey ▸ List.mem_of_find?_eq_some hfind
  · intro hmem
    have hfind : table.entries.find? (fun entry => decide (entry.1 = key)) = some (key, value) :=
      find?_eq_some_of_nodup_map Prod.fst table.nodup hmem
    rw [get?, hfind]
    rfl

/-- What a look-up finds, it finds also when entries are added at the end. -/
theorem get?_of_isPrefix {table later : Catalog κ α} (h : table.entries <+: later.entries)
    {key : κ} {value : α} (hget : table.get? key = some value) : later.get? key = some value :=
  get?_eq_some_iff.2 (h.subset (get?_eq_some_iff.1 hget))

/-- An inserted value is found under its key, unless the key was known. -/
theorem get?_insert (table : Catalog κ α) (key other : κ) (value : α) :
    (table.insert key value).get? other =
      (table.get? other).or (if key = other then some value else none) := by
  by_cases hknown : key ∈ table.keys
  · rw [insert_of_mem value hknown]
    split
    · next heq =>
      obtain ⟨found, hfound⟩ := Option.isSome_iff_exists.1 (get?_isSome_iff.2 (heq ▸ hknown))
      rw [hfound, Option.some_or]
    · rw [Option.or_none]
  · have hsingle : [(key, value)].find? (fun entry => decide (entry.1 = other)) =
        if key = other then some (key, value) else none := by
      by_cases heq : key = other <;> simp [heq]
    rw [get?, get?, entries_insert_of_not_mem value hknown, List.find?_append, Option.map_or,
      hsingle]
    split <;> rfl

/-- A value that is put is found under its key, in place of what was there. -/
theorem get?_put (table : Catalog κ α) (key other : κ) (value : α) :
    (table.put key value).get? other = if key = other then some value else table.get? other := by
  by_cases hknown : key ∈ table.keys
  · refine Option.ext fun found => ?_
    rw [put, if_pos hknown, get?_eq_some_iff, List.mem_map]
    split
    · next heq =>
      subst heq
      obtain ⟨held, hheld, rfl⟩ := List.mem_map.1 hknown
      constructor
      · rintro ⟨entry, -, hentry⟩
        obtain ⟨hkey, rfl⟩ := Prod.mk.inj hentry
        rw [if_pos hkey]
      · intro hfound
        exact ⟨held, hheld, by rw [if_pos rfl, Option.some.inj hfound]⟩
    · next hne =>
      rw [get?_eq_some_iff]
      constructor
      · rintro ⟨entry, hmem, hentry⟩
        obtain ⟨rfl, rfl⟩ := Prod.mk.inj hentry
        rwa [if_neg (Ne.symm hne)]
      · intro hmem
        exact ⟨_, hmem, by rw [if_neg (Ne.symm hne)]⟩
  · have hnone : table.get? key = none :=
      Option.not_isSome_iff_eq_none.1 fun hsome => hknown (get?_isSome_iff.1 hsome)
    rw [put, if_neg hknown, get?_insert]
    split
    · next heq => rw [← heq, hnone, Option.none_or]
    · rw [Option.or_none]

/-- Dropping a key without an entry changes nothing. -/
theorem erase_of_not_mem {table : Catalog κ α} {key : κ} (h : key ∉ table.keys) :
    table.erase key = table := by
  refine ext_entries (List.filter_eq_self.2 fun entry hentry => decide_eq_true ?_)
  rintro rfl
  exact h (List.mem_map_of_mem hentry)

/-- Dropping what was put leaves what is left without the entry that was there before. -/
theorem erase_put (table : Catalog κ α) (key : κ) (value : α) :
    (table.put key value).erase key = table.erase key := by
  by_cases hknown : key ∈ table.keys
  · apply ext_entries
    rw [put, if_pos hknown]
    simp only [erase, List.filter_map, Function.comp_def]
    -- None of the entries that are left is the one with the new value.
    refine (List.map_congr_left fun entry hentry => ?_).trans (List.map_id _)
    have hne : entry.1 ≠ key := of_decide_eq_true (List.mem_filter.1 hentry).2
    rw [if_neg hne, id]
  · rw [put, if_neg hknown, erase_insert_of_not_mem value hknown, erase_of_not_mem hknown]

/-- The order of the entries does not matter to a look-up. -/
theorem get?_of_perm {table other : Catalog κ α} (h : table.entries.Perm other.entries) (key : κ) :
    table.get? key = other.get? key :=
  Option.ext fun value => by rw [get?_eq_some_iff, get?_eq_some_iff, h.mem_iff]

/-- Catalogs in which every look-up finds the same have the same entries up to their order. -/
theorem perm_of_get?_eq {table other : Catalog κ α} (h : ∀ key, table.get? key = other.get? key) :
    table.entries.Perm other.entries := by
  refine (List.perm_ext_iff_of_nodup table.nodup.of_map other.nodup.of_map).2 ?_
  rintro ⟨key, value⟩
  rw [← get?_eq_some_iff, ← get?_eq_some_iff, h]

/-- The entries after a run: what there was, and each new key with its first value. -/
theorem entries_foldl_insert (key : β → κ) (value : β → α) (xs : List β) (table : Catalog κ α) :
    (xs.foldl (fun table x => table.insert (key x) (value x)) table).entries =
      table.entries ++
        ((xs.filter fun x => decide (key x ∉ table.keys)).eraseDupsBy
          fun x y => key x == key y).map fun x => (key x, value x) := by
  induction xs generalizing table with
  | nil => simp
  | cons x xs ih =>
    rw [List.foldl_cons, ih]
    by_cases hx : key x ∈ table.keys
    · rw [insert_of_mem _ hx, List.filter_cons_of_neg (by simpa using hx)]
    · -- From here on the key of `x` is known, so what shares it is left out of the rest.
      have hkeys : ∀ y, key y ∈ (table.insert (key x) (value x)).keys ↔
          key y ∈ table.keys ∨ key y = key x := fun _ => mem_keys_insert
      rw [List.filter_cons_of_pos (by simpa using hx), List.eraseDupsBy_cons, List.filter_filter,
        entries_insert_of_not_mem _ hx, List.map_cons, List.append_assoc, List.singleton_append]
      congr 4
      refine List.filter_congr fun y _ => ?_
      simp only [hkeys, not_or, beq_eq_false_iff_ne, Bool.decide_and, Bool.and_comm, ne_eq]

/-- No entry is replaced or moved. -/
theorem isPrefix_foldl_insert (key : β → κ) (value : β → α) (xs : List β) (table : Catalog κ α) :
    table.entries <+: (xs.foldl (fun table x => table.insert (key x) (value x)) table).entries := by
  rw [entries_foldl_insert]
  exact List.prefix_append _ _

/-- The keys after a run are the old ones and those of the members. -/
theorem mem_keys_foldl_insert (key : β → κ) (value : β → α) (xs : List β) (table : Catalog κ α)
    (k : κ) :
    k ∈ (xs.foldl (fun table x => table.insert (key x) (value x)) table).keys ↔
      k ∈ table.keys ∨ ∃ x ∈ xs, key x = k := by
  induction xs generalizing table with
  | nil => simp
  | cons x xs ih =>
    rw [List.foldl_cons, ih, mem_keys_insert, or_assoc, List.exists_mem_cons_iff]
    simp only [eq_comm]

/-- Every entry after a run was there before or belongs to a member. -/
theorem of_mem_entries_foldl_insert (key : β → κ) (value : β → α) {xs : List β}
    {table : Catalog κ α} {entry : κ × α}
    (h : entry ∈ (xs.foldl (fun table x => table.insert (key x) (value x)) table).entries) :
    entry ∈ table.entries ∨ ∃ x ∈ xs, entry = (key x, value x) := by
  induction xs generalizing table with
  | nil => exact Or.inl h
  | cons x xs ih =>
    rcases ih h with hmem | ⟨y, hy, hentry⟩
    · -- The entry was there after the first insertion: from before, or just made.
      change entry ∈ (table.insert (key x) (value x)).entries at hmem
      by_cases hx : key x ∈ table.keys
      · rw [insert_of_mem _ hx] at hmem
        exact Or.inl hmem
      · rw [entries_insert_of_not_mem _ hx, List.mem_append, List.mem_singleton] at hmem
        exact hmem.imp_right fun hentry => ⟨x, List.mem_cons_self, hentry⟩
    · exact Or.inr ⟨y, List.mem_cons_of_mem x hy, hentry⟩

/-- Entering known keys changes nothing. -/
theorem foldl_insert_of_forall_mem (key : β → κ) (value : β → α) {xs : List β}
    {table : Catalog κ α} (h : ∀ x ∈ xs, key x ∈ table.keys) :
    xs.foldl (fun table x => table.insert (key x) (value x)) table = table := by
  induction xs with
  | nil => rfl
  | cons x xs ih =>
    obtain ⟨hx, hxs⟩ := List.forall_mem_cons.1 h
    rw [List.foldl_cons, insert_of_mem _ hx, ih hxs]

/-- A list with distinct keys is kept as it is. -/
theorem entries_ofList_of_nodup {entries : List (κ × α)} (h : (entries.map Prod.fst).Nodup) :
    (ofList entries).entries = entries := by
  induction entries using List.reverseRecOn with
  | nil => rfl
  | append_singleton entries entry ih =>
    rw [List.map_append, List.map_singleton] at h
    have hkeep := ih h.of_append_left
    have hnew : entry.1 ∉ (ofList entries).keys := by
      rw [keys, hkeep]
      exact fun hmem => (List.nodup_append.1 h).2.2 _ hmem _ (List.mem_singleton_self _) rfl
    have hstep : ofList (entries ++ [entry]) = (ofList entries).insert entry.1 entry.2 := by
      rw [ofList, List.foldl_append]
      rfl
    rw [hstep, entries_insert_of_not_mem _ hnew, hkeep]

end Catalog

end RegistrySchema

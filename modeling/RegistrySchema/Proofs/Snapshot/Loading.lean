import Mathlib.Data.List.Nodup
import Mathlib.Tactic.Tauto
import RegistrySchema.Snapshot.Basic

/-!
# When a snapshot is made

Declarations make a snapshot exactly if no block kind and no entity kind is declared twice. The
classes play no part in this: whatever is declared of them, there is a graph.
-/

namespace RegistrySchema.Snapshot

/-- No member occurs earlier iff the members are distinct and were not seen before. -/
theorem firstRepeat?_eq_none_iff {α : Type} [DecidableEq α] {seen xs : List α} :
    firstRepeat? seen xs = none ↔ xs.Nodup ∧ ∀ x ∈ xs, x ∉ seen := by
  induction xs generalizing seen with
  | nil => simp [firstRepeat?]
  | cons x xs ih =>
    unfold firstRepeat?
    split
    · next hx => simp [hx]
    · next hx =>
      rw [ih, List.nodup_cons]
      constructor
      · rintro ⟨hnodup, hseen⟩
        refine ⟨⟨fun hmem => hseen x hmem List.mem_cons_self, hnodup⟩, ?_⟩
        rintro y (_ | ⟨_, hy⟩)
        · exact hx
        · exact fun hmem => hseen y hy (List.mem_cons_of_mem x hmem)
      · rintro ⟨⟨hnew, hnodup⟩, hseen⟩
        refine ⟨hnodup, fun y hy hmem => ?_⟩
        rcases List.mem_cons.1 hmem with rfl | hmem
        · exact hnew hy
        · exact hseen y (List.mem_cons_of_mem x hy) hmem

/-- What counts as repeated depends on what was seen, not on its order. -/
theorem firstRepeat?_congr {α : Type} [DecidableEq α] {seen other : List α}
    (h : ∀ x, x ∈ seen ↔ x ∈ other) (xs : List α) :
    firstRepeat? seen xs = firstRepeat? other xs := by
  induction xs generalizing seen other with
  | nil => rfl
  | cons x xs ih =>
    have hmore : ∀ y, y ∈ x :: seen ↔ y ∈ x :: other := by
      intro y
      rw [List.mem_cons, List.mem_cons, h]
    rw [firstRepeat?, firstRepeat?, ih hmore]
    simp only [h]

/-- The first member that stands in a list already. -/
def EarliestRepeat {α : Type} (xs : List α) (x : α) : Prop :=
  ∃ before after, xs = before ++ x :: after ∧ before.Nodup ∧ x ∈ before

/-- A search goes on behind what it does not stop at. -/
theorem firstRepeat?_append {α : Type} [DecidableEq α] {seen before : List α}
    (h : firstRepeat? seen before = none) (rest : List α) :
    firstRepeat? seen (before ++ rest) = firstRepeat? (before.reverse ++ seen) rest := by
  induction before generalizing seen with
  | nil => rfl
  | cons x before ih =>
    rw [firstRepeat?] at h
    rw [List.cons_append, firstRepeat?]
    split at h
    · cases h
    · next hx => rw [if_neg hx, ih h, List.reverse_cons, List.append_assoc, List.singleton_append]

/-- What is found was seen before or occurs earlier, and nothing before it does. -/
theorem firstRepeat?_eq_some_iff {α : Type} [DecidableEq α] {seen xs : List α} {x : α} :
    firstRepeat? seen xs = some x ↔
      ∃ before after, xs = before ++ x :: after ∧ firstRepeat? seen before = none ∧
        (x ∈ seen ∨ x ∈ before) := by
  constructor
  · intro h
    induction xs generalizing seen with
    | nil => cases h
    | cons y xs ih =>
      rw [firstRepeat?] at h
      split at h
      · next hy =>
        cases h
        exact ⟨[], xs, rfl, rfl, Or.inl hy⟩
      · next hy =>
        obtain ⟨before, after, rfl, hnone, hx⟩ := ih h
        refine ⟨y :: before, after, rfl, ?_, ?_⟩
        · rw [firstRepeat?, if_neg hy, hnone]
        · simp only [List.mem_cons] at hx ⊢
          tauto
  · rintro ⟨before, after, rfl, hnone, hx⟩
    rw [firstRepeat?_append hnone, firstRepeat?, if_pos]
    rw [List.mem_append, List.mem_reverse]
    exact hx.symm

theorem firstRepeat?_nil_eq_some_iff {α : Type} [DecidableEq α] {xs : List α} {x : α} :
    firstRepeat? [] xs = some x ↔ EarliestRepeat xs x := by
  simp [firstRepeat?_eq_some_iff, firstRepeat?_eq_none_iff, EarliestRepeat]

/-- The snapshot that declarations make when nothing is declared twice. -/
def ofDistinct (declared : Declarations) : Snapshot where
  blocks := declared.blocks.map DeclaredBlock.entry
  entities := (declareEntities (declareClasses declared.root declared.classes)
    declared.entities).2
  classes := (declareEntities (declareClasses declared.root declared.classes)
    declared.entities).1

/-- Declarations are refused exactly if a kind is declared twice. -/
theorem ofDeclarations_eq_ok_iff {declared : Declarations} {snapshot : Snapshot} :
    ofDeclarations declared = .ok snapshot ↔
      (declared.blocks.map DeclaredBlock.id).Nodup ∧
        (declared.entities.map DeclaredEntity.id).Nodup ∧ snapshot = ofDistinct declared := by
  unfold ofDeclarations
  cases hblocks : firstRepeat? [] (declared.blocks.map DeclaredBlock.id) with
  | some id =>
    have hrepeat : ¬ (declared.blocks.map DeclaredBlock.id).Nodup := fun hnodup => by
      rw [firstRepeat?_eq_none_iff.2 ⟨hnodup, by simp⟩] at hblocks
      cases hblocks
    simp [hrepeat]
  | none =>
    cases hentities : firstRepeat? [] (declared.entities.map DeclaredEntity.id) with
    | some id =>
      have hrepeat : ¬ (declared.entities.map DeclaredEntity.id).Nodup := fun hnodup => by
        rw [firstRepeat?_eq_none_iff.2 ⟨hnodup, by simp⟩] at hentities
        cases hentities
      simp [hrepeat]
    | none =>
      refine Iff.trans ⟨fun h => (Except.ok.inj h).symm, fun h => h ▸ rfl⟩ ?_
      simp [(firstRepeat?_eq_none_iff.1 hblocks).1, (firstRepeat?_eq_none_iff.1 hentities).1,
        ofDistinct]

/-- What declarations are refused for: the earliest block kind that is declared again, and only if
there is none the earliest entity kind. -/
theorem ofDeclarations_eq_error_iff {declared : Declarations} {err : LoadError} :
    ofDeclarations declared = .error err ↔
      (∃ id, EarliestRepeat (declared.blocks.map DeclaredBlock.id) id ∧
        err = .duplicateBlock id) ∨
      (declared.blocks.map DeclaredBlock.id).Nodup ∧
        ∃ id, EarliestRepeat (declared.entities.map DeclaredEntity.id) id ∧
          err = .duplicateEntity id := by
  simp only [← firstRepeat?_nil_eq_some_iff]
  have hnodup : (declared.blocks.map DeclaredBlock.id).Nodup ↔
      firstRepeat? [] (declared.blocks.map DeclaredBlock.id) = none := by
    simp [firstRepeat?_eq_none_iff]
  rw [hnodup, ofDeclarations]
  cases firstRepeat? [] (declared.blocks.map DeclaredBlock.id) with
  | some id => simp [eq_comm]
  | none =>
    cases firstRepeat? [] (declared.entities.map DeclaredEntity.id) with
    | some id => simp [eq_comm]
    | none => simp

/-- The block registry is what is declared, entry by entry. -/
theorem blocks_ofDeclarations {declared : Declarations} {snapshot : Snapshot}
    (h : ofDeclarations declared = .ok snapshot) :
    snapshot.blocks = declared.blocks.map DeclaredBlock.entry := by
  obtain ⟨-, -, rfl⟩ := ofDeclarations_eq_ok_iff.1 h
  rfl

end RegistrySchema.Snapshot

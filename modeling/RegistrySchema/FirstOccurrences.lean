/-!
# First occurrences

The members of a list that are met for the first time. `firstsAfter seen xs` leaves out what is
in `seen` already, and of several equal members keeps the first; `firsts xs` starts with nothing
seen. The facts below say that nothing is lost, nothing is repeated and the order is kept.
-/

namespace RegistrySchema

variable {α : Type} [DecidableEq α]

/-- The members of a list that are neither in `seen` nor met earlier in the list. -/
def firstsAfter (seen : List α) : List α → List α
  | [] => []
  | x :: xs => if x ∈ seen then firstsAfter seen xs else x :: firstsAfter (x :: seen) xs

/-- Each member of a list once, at its first position. -/
def firsts (xs : List α) : List α := firstsAfter [] xs

theorem mem_firstsAfter {seen xs : List α} {x : α} :
    x ∈ firstsAfter seen xs ↔ x ∈ xs ∧ x ∉ seen := by
  induction xs generalizing seen with
  | nil => simp [firstsAfter]
  | cons y ys ih =>
    unfold firstsAfter
    split
    · next hy =>
      rw [ih]
      constructor
      · exact fun h => ⟨List.mem_cons_of_mem y h.1, h.2⟩
      · rintro ⟨hmem, hseen⟩
        refine ⟨?_, hseen⟩
        rcases List.mem_cons.1 hmem with rfl | hys
        · exact absurd hy hseen
        · exact hys
    · next hy =>
      simp only [List.mem_cons, ih]
      by_cases hxy : x = y
      · subst hxy; simp [hy]
      · simp [hxy]

/-- The first occurrences are the members. -/
theorem mem_firsts {xs : List α} {x : α} : x ∈ firsts xs ↔ x ∈ xs := by
  simp [firsts, mem_firstsAfter]

/-- No member is kept twice. -/
theorem nodup_firstsAfter (seen xs : List α) : (firstsAfter seen xs).Nodup := by
  induction xs generalizing seen with
  | nil => simp [firstsAfter]
  | cons y ys ih =>
    unfold firstsAfter
    split
    · exact ih seen
    · refine List.nodup_cons.2 ⟨?_, ih _⟩
      simp [mem_firstsAfter]

/-- The kept members stand in the order of the list. -/
theorem sublist_firstsAfter (seen xs : List α) : (firstsAfter seen xs).Sublist xs := by
  induction xs generalizing seen with
  | nil => simp [firstsAfter]
  | cons y ys ih =>
    unfold firstsAfter
    split
    · exact (ih seen).cons y
    · exact (ih _).cons_cons y

end RegistrySchema

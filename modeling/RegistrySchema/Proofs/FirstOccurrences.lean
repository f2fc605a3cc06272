import Mathlib.Data.List.Basic
import Mathlib.Tactic.Tauto
import RegistrySchema.FirstOccurrences

/-!
# First occurrences and duplicates

Keeping first occurrences is the standard library's `List.eraseDups`, applied to what has not
been seen. So only the members of `seen` count, and a list in two parts is gone through part by
part.
-/

namespace RegistrySchema

variable {α : Type} [DecidableEq α]

/-- What was not seen, each at its first position. -/
theorem firstsAfter_eq_eraseDups (seen xs : List α) :
    firstsAfter seen xs = (xs.filter fun x => !decide (x ∈ seen)).eraseDups := by
  induction xs generalizing seen with
  | nil => rfl
  | cons x xs ih =>
    unfold firstsAfter
    split
    · next hx => rw [ih, List.filter_cons_of_neg (by simp [hx])]
    · next hx =>
      -- Leaving out what equals `x` from the rest is the same as having seen `x`.
      rw [ih, List.filter_cons_of_pos (by simp [hx]), List.eraseDups_cons, List.filter_filter]
      congr 3
      funext y
      rw [show (y == x) = decide (y = x) from rfl]
      simp

theorem firsts_eq_eraseDups (xs : List α) : firsts xs = xs.eraseDups := by
  rw [firsts, firstsAfter_eq_eraseDups]
  congr 1
  exact List.filter_eq_self.2 (fun x _ => by simp)

/-- Only which members were seen counts. -/
theorem firstsAfter_congr {seen others : List α} (h : ∀ x, x ∈ seen ↔ x ∈ others) (xs : List α) :
    firstsAfter seen xs = firstsAfter others xs := by
  rw [firstsAfter_eq_eraseDups, firstsAfter_eq_eraseDups]
  simp only [h]

/-- What was seen in a first part is left out of a second one. -/
theorem firstsAfter_append (seen xs ys : List α) :
    firstsAfter seen (xs ++ ys) =
      firstsAfter seen xs ++ firstsAfter (firstsAfter seen xs ++ seen) ys := by
  induction xs generalizing seen with
  | nil => rfl
  | cons x xs ih =>
    rw [List.cons_append, firstsAfter, firstsAfter]
    split
    · exact ih seen
    · rw [ih, List.cons_append]
      congr 2
      -- Both sides have seen the same members, in another order.
      refine firstsAfter_congr (fun y => ?_) ys
      simp only [List.mem_append, List.mem_cons]
      tauto

/-- Adding what is new of one list and then of another adds what is new of both. -/
theorem append_firstsAfter_append (known xs ys : List α) :
    (known ++ firstsAfter known xs) ++ firstsAfter (known ++ firstsAfter known xs) ys =
      known ++ firstsAfter known (xs ++ ys) := by
  rw [firstsAfter_append, List.append_assoc]
  congr 2
  refine firstsAfter_congr (fun y => ?_) ys
  rw [List.mem_append, List.mem_append, or_comm]

/-- Nothing is kept of what was seen already. -/
theorem firstsAfter_cons_of_mem {seen : List α} {x : α} (h : x ∈ seen) (xs : List α) :
    firstsAfter seen (x :: xs) = firstsAfter seen xs := by
  rw [firstsAfter, if_pos h]

theorem firstsAfter_cons_of_not_mem {seen : List α} {x : α} (h : x ∉ seen) (xs : List α) :
    firstsAfter seen (x :: xs) = x :: firstsAfter (x :: seen) xs := by
  rw [firstsAfter, if_neg h]

/-- A renaming that keeps members apart keeps first occurrences. -/
theorem firstsAfter_map {β : Type} [DecidableEq β] {f : α → β} (hf : Function.Injective f)
    (seen xs : List α) :
    firstsAfter (seen.map f) (xs.map f) = (firstsAfter seen xs).map f := by
  induction xs generalizing seen with
  | nil => rfl
  | cons x xs ih =>
    have hmem : f x ∈ seen.map f ↔ x ∈ seen := List.mem_map_of_injective hf
    rw [List.map_cons]
    by_cases hx : x ∈ seen
    · rw [firstsAfter_cons_of_mem (hmem.2 hx), firstsAfter_cons_of_mem hx, ih]
    · rw [firstsAfter_cons_of_not_mem (mt hmem.1 hx), firstsAfter_cons_of_not_mem hx,
        ← List.map_cons, ih, List.map_cons]

end RegistrySchema

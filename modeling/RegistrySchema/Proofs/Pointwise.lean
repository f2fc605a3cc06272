import Mathlib.Data.List.Forall2
import RegistrySchema.Proofs.FirstOccurrences

/-!
# Lists that correspond member by member

What a relation between the members says about the lists: each member has a counterpart, equal
values make equal lists, and first occurrences stand in the same places.
-/

namespace RegistrySchema

variable {α β γ : Type} {R : α → β → Prop} {xs : List α} {ys : List β}

/-- What is on the right of a pointwise relation is related to something on the left. -/
theorem exists_mem_of_forall₂ (h : List.Forall₂ R xs ys) {y : β} (hy : y ∈ ys) :
    ∃ x ∈ xs, R x y := by
  induction h with
  | nil => cases hy
  | cons hxy _ ih =>
    rcases List.mem_cons.1 hy with rfl | hy
    · exact ⟨_, List.mem_cons_self, hxy⟩
    · obtain ⟨x, hx, hR⟩ := ih hy
      exact ⟨x, List.mem_cons_of_mem _ hx, hR⟩

/-- What stands at a place on the left is related to what stands there on the right. -/
theorem exists_getElem?_of_forall₂ (h : List.Forall₂ R xs ys) {n : Nat} {x : α}
    (hx : xs[n]? = some x) : ∃ y, ys[n]? = some y ∧ R x y := by
  induction h generalizing n with
  | nil => cases hx
  | cons hxy _ ih =>
    cases n with
    | zero =>
      cases hx
      exact ⟨_, rfl, hxy⟩
    | succ n => exact ih hx

/-- Functions that agree on counterparts have the same values along corresponding lists. -/
theorem map_eq_map_of_forall₂ {f : α → γ} {g : β → γ} (h : List.Forall₂ R xs ys)
    (hfg : ∀ a b, R a b → f a = g b) : xs.map f = ys.map g := by
  rw [← List.forall₂_eq_eq_eq, List.forall₂_map_left_iff, List.forall₂_map_right_iff]
  exact h.imp hfg

/-- First occurrences stand in the same places of corresponding lists. -/
theorem forall₂_firstsAfter [DecidableEq α] [DecidableEq β] (hR : Relator.BiUnique R)
    {seen : List α} {seen' : List β} (hseen : List.Forall₂ R seen seen')
    (h : List.Forall₂ R xs ys) :
    List.Forall₂ R (firstsAfter seen xs) (firstsAfter seen' ys) := by
  induction h generalizing seen seen' with
  | nil => exact List.Forall₂.nil
  | @cons x y xs ys hxy _ ih =>
    have hmem : x ∈ seen ↔ y ∈ seen' := List.rel_mem hR hxy hseen
    by_cases hx : x ∈ seen
    · rw [firstsAfter_cons_of_mem hx, firstsAfter_cons_of_mem (hmem.1 hx)]
      exact ih hseen
    · rw [firstsAfter_cons_of_not_mem hx, firstsAfter_cons_of_not_mem (mt hmem.2 hx)]
      exact List.Forall₂.cons hxy (ih (List.Forall₂.cons hxy hseen))

/-- Lists whose members have equal images correspond, with what holds of these images. -/
theorem forall₂_of_map_eq_map {f : α → γ} {g : β → γ} {P : γ → Prop} (h : xs.map f = ys.map g)
    (hP : ∀ c ∈ xs.map f, P c) : List.Forall₂ (fun a b => f a = g b ∧ P (f a)) xs ys := by
  induction xs generalizing ys with
  | nil =>
    rw [List.map_nil] at h
    rw [List.map_eq_nil_iff.1 h.symm]
    exact List.Forall₂.nil
  | cons x xs ih =>
    obtain _ | ⟨y, ys⟩ := ys
    · cases h
    · obtain ⟨hxy, hrest⟩ := List.cons.inj h
      obtain ⟨hx, hxs⟩ := List.forall_mem_cons.1 hP
      exact List.Forall₂.cons ⟨hxy, hx⟩ (ih hrest hxs)

theorem rel_of_map_eq_map {f : α → γ} {g : β → γ} {P : γ → Prop} {x : Option α} {y : Option β}
    (h : x.map f = y.map g) (hP : ∀ c ∈ x.map f, P c) :
    Option.Rel (fun a b => f a = g b ∧ P (f a)) x y := by
  cases x with
  | none =>
    rw [Option.map_eq_none_iff.1 h.symm]
    exact Option.Rel.none
  | some a =>
    obtain ⟨b, rfl, hb⟩ := Option.map_eq_some_iff.1 h.symm
    exact Option.Rel.some ⟨hb.symm, hP _ rfl⟩

/-- A member may be replaced by one that its counterpart is related to as well. -/
theorem forall₂_replace {front back : List α} {x x' : α} (hx : ∀ y, R x y → R x' y)
    (h : List.Forall₂ R (front ++ x :: back) ys) : List.Forall₂ R (front ++ x' :: back) ys := by
  induction front generalizing ys with
  | nil =>
    obtain ⟨y, rest, hy, hrest, rfl⟩ := List.forall₂_cons_left_iff.1 h
    exact List.Forall₂.cons (hx y hy) hrest
  | cons first front ih =>
    obtain ⟨y, rest, hy, hrest, rfl⟩ := List.forall₂_cons_left_iff.1 h
    exact List.Forall₂.cons hy (ih hrest)

end RegistrySchema

import Mathlib.Logic.Function.Basic
import RegistrySchema.Ancestors

/-!
# Distinct classes, distinct source paths

A source path writes slashes for the dots of a qualified name. Two names can only share a path if
one has a slash where the other has a dot, so names without slashes can be told apart by their
paths.
-/

namespace RegistrySchema

/-- Slashes for dots, which can be undone in a text without slashes. -/
theorem eq_of_map_slash_eq {a b : List Char} (ha : '/' ∉ a) (hb : '/' ∉ b)
    (h : (a.map fun c => if c = '.' then '/' else c) =
      b.map fun c => if c = '.' then '/' else c) : a = b := by
  induction a generalizing b with
  | nil => exact (List.map_eq_nil_iff.1 h.symm).symm
  | cons c a ih =>
    obtain _ | ⟨d, b⟩ := b
    · simp at h
    · rw [List.mem_cons, not_or] at ha hb
      rw [List.map_cons, List.map_cons, List.cons.injEq] at h
      obtain ⟨hhead, htail⟩ := h
      refine congrArg₂ List.cons ?_ (ih ha.2 hb.2 htail)
      -- A dot becomes a slash, which no other character of the names becomes.
      split at hhead <;> split at hhead
      · next hc hd => rw [hc, hd]
      · exact absurd hhead hb.1
      · exact absurd hhead.symm ha.1
      · exact hhead

/-- Of names without slashes, only equal ones have the same source path. -/
theorem SourcePath.ofQualifiedName_inj {a b : String} (ha : '/' ∉ a.toList) (hb : '/' ∉ b.toList)
    (h : ofQualifiedName a = ofQualifiedName b) : a = b := by
  have htext := congrArg String.toList (SourcePath.mk.inj h)
  rw [String.toList_append, String.toList_append, String.toList_ofList, String.toList_ofList,
    List.append_cancel_right_eq] at htext
  exact String.toList_inj.1 (eq_of_map_slash_eq ha hb htext)

/-- Types with distinct names without slashes have distinct source paths. -/
theorem TypeGraph.injective_sourcePath {τ : Type} [DecidableEq τ] (graph : TypeGraph τ)
    (hname : Function.Injective graph.name) (hslash : ∀ t, '/' ∉ (graph.name t).toList) :
    Function.Injective graph.sourcePath :=
  fun s t h => hname (SourcePath.ofQualifiedName_inj (hslash s) (hslash t) h)

end RegistrySchema

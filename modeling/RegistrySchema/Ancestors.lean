import RegistrySchema.FirstOccurrences
import RegistrySchema.Host
import RegistrySchema.SourcePath

/-!
# Ancestors

The ancestors of a type in order: the interfaces that it declares, then its superclass and the
interfaces declared there, and so on upwards. A type is listed at its first position only. The
way up ends at the root, at a class without a superclass, and at a class that was met before,
so it ends also in a graph with cycles: every step meets one type more.
-/

namespace RegistrySchema.TypeGraph

variable {τ : Type} [DecidableEq τ]

/-- The members of a list that have not been met. -/
def unmetIn (met types : List τ) : List τ := types.filter fun t => !decide (t ∈ met)

/-- The types that have not been met. -/
def unmet (graph : TypeGraph τ) (met : List τ) : List τ := unmetIn met graph.types

/-- Meeting more leaves no more to meet. -/
theorem length_unmetIn_le {met more : List τ} (hsub : ∀ s ∈ met, s ∈ more) (types : List τ) :
    (unmetIn more types).length ≤ (unmetIn met types).length := by
  induction types with
  | nil => simp [unmetIn]
  | cons s types ih =>
    simp only [unmetIn] at ih
    by_cases hs : s ∈ met
    · simpa [unmetIn, hs, hsub s hs] using ih
    · by_cases hm : s ∈ more
      · simp only [unmetIn, List.filter_cons, hm, hs, decide_true, decide_false, Bool.not_true,
          Bool.not_false, if_true, if_false, List.length_cons, Bool.false_eq_true]
        omega
      · simpa [unmetIn, hs, hm] using ih

/-- Meeting a new member leaves fewer to meet. -/
theorem length_unmetIn_lt {met more types : List τ} {t : τ} (ht : t ∉ met) (hmem : t ∈ more)
    (hsub : ∀ s ∈ met, s ∈ more) (htypes : t ∈ types) :
    (unmetIn more types).length < (unmetIn met types).length := by
  obtain ⟨before, after, rfl⟩ := List.append_of_mem htypes
  have hbefore := length_unmetIn_le hsub before
  have hafter := length_unmetIn_le hsub after
  simp only [unmetIn] at hbefore hafter
  simp only [unmetIn, List.filter_append, List.filter_cons, hmem, ht, decide_true, decide_false,
    Bool.not_true, Bool.not_false, if_true, if_false, List.length_append, List.length_cons,
    Bool.false_eq_true]
  omega

/-- The way up from a class, given the types met so far. -/
def climb (graph : TypeGraph τ) (met : List τ) : Option τ → List τ
  | none => []
  | some c =>
    if graph.isRoot c = true ∨ c ∈ met then []
    else
      c :: firstsAfter (c :: met) (graph.interfaces c)
        ++ climb graph (firstsAfter (c :: met) (graph.interfaces c) ++ c :: met)
          (graph.superclass c)
  termination_by (graph.unmet met).length
  decreasing_by
    rename_i h
    exact length_unmetIn_lt (fun hc => h (Or.inr hc)) (by simp) (fun s hs => by simp [hs])
      (graph.mem_types c)

/-- The ancestors of a type, nearest first. -/
def ancestors (graph : TypeGraph τ) (t : τ) : List τ :=
  firstsAfter [t] (graph.interfaces t)
    ++ graph.climb (firstsAfter [t] (graph.interfaces t) ++ [t]) (graph.superclass t)

/-- The source path of a type. -/
def sourcePath (graph : TypeGraph τ) (t : τ) : SourcePath :=
  SourcePath.ofQualifiedName (graph.name t)

/-- The source paths of the ancestors, each once. -/
def lineage (graph : TypeGraph τ) (t : τ) : List SourcePath :=
  firsts ((graph.ancestors t).map graph.sourcePath)

end RegistrySchema.TypeGraph

import RegistrySchema.Proofs.ClassTable
import RegistrySchema.Proofs.Pointwise

/-!
# Type graphs that cannot be told apart

Two type graphs may have different types and yet the same names in the same places. A
*bisimulation* is a correspondence between types of the one graph and types of the other that is
one to one and under which corresponding types have one name, corresponding interfaces in the same
order, and corresponding superclasses. A superclass that is the root counts as none, since a walk
ends there all the same.

Corresponding types have corresponding ancestors (`Bisimulation.ancestors`), so they offer the same
paths and lineages to a class table (`Bisimulation.offers`). Neither how types are compared nor
which other types there are plays a role.
-/

namespace RegistrySchema.TypeGraph

variable {τ σ : Type}

/-- The class where a walk goes on, if that is not the root. -/
def proper (graph : TypeGraph τ) (start : Option τ) : Option τ :=
  start.filter fun c => !graph.isRoot c

/-- A one-to-one correspondence that respects names and links. -/
structure Bisimulation (graph : TypeGraph τ) (other : TypeGraph σ) (R : τ → σ → Prop) : Prop where
  /-- No type has two counterparts. -/
  biUnique : Relator.BiUnique R
  /-- Counterparts have one name. -/
  name : ∀ {t s}, R t s → graph.name t = other.name s
  /-- They declare counterparts, in the same order. -/
  interfaces : ∀ {t s}, R t s → List.Forall₂ R (graph.interfaces t) (other.interfaces s)
  /-- They extend counterparts, the root left aside. -/
  superclass : ∀ {t s}, R t s →
    Option.Rel R (graph.proper (graph.superclass t)) (other.proper (other.superclass s))

theorem proper_eq_some_iff {graph : TypeGraph τ} {start : Option τ} {c : τ} :
    graph.proper start = some c ↔ start = some c ∧ graph.isRoot c = false := by
  rw [proper, Option.filter_eq_some_iff, Bool.not_eq_true']

theorem Bisimulation.sourcePath {graph : TypeGraph τ} {other : TypeGraph σ} {R : τ → σ → Prop}
    (h : Bisimulation graph other R) {t : τ} {s : σ} (hts : R t s) :
    graph.sourcePath t = other.sourcePath s :=
  congrArg SourcePath.ofQualifiedName (h.name hts)

variable [DecidableEq τ] [DecidableEq σ]

/-- Where a walk goes on at a class that was not met. -/
theorem climb_of_proper {graph : TypeGraph τ} {met : List τ} {start : Option τ} {c : τ}
    (hstart : graph.proper start = some c) (hc : c ∉ met) :
    graph.climb met start =
      c :: firstsAfter (c :: met) (graph.interfaces c)
        ++ graph.climb (firstsAfter (c :: met) (graph.interfaces c) ++ c :: met)
          (graph.superclass c) := by
  obtain ⟨rfl, hroot⟩ := proper_eq_some_iff.1 hstart
  rw [climb, if_neg (by simp [hroot, hc])]

/-- A walk goes nowhere from nothing and from a class that was met. -/
theorem climb_eq_nil {graph : TypeGraph τ} {met : List τ} {start : Option τ}
    (h : ∀ c, graph.proper start = some c → c ∈ met) : graph.climb met start = [] := by
  cases start with
  | none => rw [climb]
  | some c =>
    rw [climb, if_pos]
    cases hroot : graph.isRoot c with
    | true => exact Or.inl rfl
    | false => exact Or.inr (h c (proper_eq_some_iff.2 ⟨rfl, hroot⟩))

namespace Bisimulation

variable {graph : TypeGraph τ} {other : TypeGraph σ} {R : τ → σ → Prop}

/-- Walks upwards from counterparts, with counterparts met so far, list counterparts. -/
theorem climb (h : Bisimulation graph other R) {met : List τ} {start : Option τ} {met' : List σ}
    {start' : Option σ} (hmet : List.Forall₂ R met met')
    (hstart : Option.Rel R (graph.proper start) (other.proper start')) :
    List.Forall₂ R (graph.climb met start) (other.climb met' start') := by
  -- Along the walk in the first graph. The other one is followed by where it goes on: its own
  -- cases may differ, since one may end at a root where the other has no superclass.
  induction met, start using climb.induct graph generalizing met' start' with
  | case1 met =>
    have hnone : other.proper start' = none := by
      generalize other.proper start' = found at hstart
      cases hstart
      rfl
    rw [TypeGraph.climb, climb_eq_nil (by simp [hnone])]
    exact List.Forall₂.nil
  | case2 met c hstop =>
    rw [TypeGraph.climb, if_pos hstop, climb_eq_nil]
    · exact List.Forall₂.nil
    · -- If the other walk could go on, this one did not end at the root.
      intro d hd
      rw [hd] at hstart
      generalize hc : graph.proper (some c) = found at hstart
      cases hstart with
      | some hcd =>
        obtain ⟨hsome, hroot⟩ := proper_eq_some_iff.1 hc
        cases hsome
        refine (List.rel_mem h.biUnique hcd hmet).1 (hstop.resolve_left ?_)
        rw [hroot]
        exact Bool.false_ne_true
  | case3 met c hgo ih =>
    obtain ⟨hroot, hc⟩ := not_or.1 hgo
    rw [proper_eq_some_iff.2 ⟨rfl, eq_false_of_ne_true hroot⟩] at hstart
    generalize hd : other.proper start' = found at hstart
    cases hstart with
    | @some _ d hcd =>
      have hnew : d ∉ met' := mt (List.rel_mem h.biUnique hcd hmet).2 hc
      have hfirsts := forall₂_firstsAfter h.biUnique (List.Forall₂.cons hcd hmet)
        (h.interfaces hcd)
      rw [TypeGraph.climb, if_neg hgo, climb_of_proper hd hnew]
      exact List.rel_append (List.Forall₂.cons hcd hfirsts)
        (ih (List.rel_append hfirsts (List.Forall₂.cons hcd hmet)) (h.superclass hcd))

/-- Counterparts have counterparts as ancestors, in the same order. -/
theorem ancestors (h : Bisimulation graph other R) {t : τ} {s : σ} (hts : R t s) :
    List.Forall₂ R (graph.ancestors t) (other.ancestors s) := by
  have hself : List.Forall₂ R [t] [s] := List.Forall₂.cons hts List.Forall₂.nil
  have hfirsts := forall₂_firstsAfter h.biUnique hself (h.interfaces hts)
  exact List.rel_append hfirsts (h.climb (List.rel_append hfirsts hself) (h.superclass hts))

theorem lineage (h : Bisimulation graph other R) {t : τ} {s : σ} (hts : R t s) :
    graph.lineage t = other.lineage s := by
  rw [TypeGraph.lineage, TypeGraph.lineage,
    map_eq_map_of_forall₂ (h.ancestors hts) fun _ _ => h.sourcePath]

/-- Counterparts offer the same to a class table. -/
theorem offers (h : Bisimulation graph other R) {t : τ} {s : σ} (hts : R t s) :
    ClassTable.offers graph t = ClassTable.offers other s := by
  have hchain : List.Forall₂ R (ClassTable.chain graph t) (ClassTable.chain other s) :=
    List.Forall₂.cons hts (h.ancestors hts)
  refine map_eq_map_of_forall₂ hchain fun a b hab => ?_
  rw [h.sourcePath hab, h.lineage hab]

end Bisimulation

end RegistrySchema.TypeGraph

import Mathlib.Tactic.ByContra
import RegistrySchema.Ancestors
import RegistrySchema.Proofs.FirstOccurrences

/-!
# The order of the ancestors

The ancestors of a type against two independent parts: the path of its superclasses, on which
interfaces play no role, and the interfaces declared along that path.

* `classPath` is the way up through the superclasses, cut at the root and at the first class that
  is on the way already.
* `linearization` writes out the type's interfaces and then each class of the path with its
  interfaces, and keeps first positions.

The walk has a single record of the types it met, so an interface that is also a superclass
further up ends the walk there. The ancestors are therefore the start of the linearization, and
all of it when no class of the path was declared as an interface lower down.
-/

namespace RegistrySchema.TypeGraph

variable {τ : Type} [DecidableEq τ]

/-- The superclasses from a class upwards, up to the root and to the first class on the path. -/
def pathFrom (graph : TypeGraph τ) (path : List τ) : Option τ → List τ
  | none => []
  | some c =>
    if graph.isRoot c = true ∨ c ∈ path then []
    else c :: graph.pathFrom (c :: path) (graph.superclass c)
  termination_by (graph.unmet path).length
  decreasing_by
    rename_i h
    exact length_unmetIn_lt (fun hc => h (Or.inr hc)) List.mem_cons_self
      (fun _ hs => List.mem_cons_of_mem c hs) (graph.mem_types c)

/-- The superclasses of a type, nearest first. -/
def classPath (graph : TypeGraph τ) (t : τ) : List τ := graph.pathFrom [t] (graph.superclass t)

/-- A class and the interfaces that it declares. -/
def declaring (graph : TypeGraph τ) (c : τ) : List τ := c :: graph.interfaces c

/-- The interfaces of a type and of its superclasses in order, each type at its first position. -/
def linearization (graph : TypeGraph τ) (t : τ) : List τ :=
  ((graph.interfaces t ++ (graph.classPath t).flatMap graph.declaring).filter
    fun s => decide (s ≠ t)).eraseDups

/-! ## The path of superclasses -/

/-- Nothing on the path is the root or was on the way already. -/
theorem not_mem_of_mem_pathFrom (graph : TypeGraph τ) (path : List τ) (start : Option τ) {c : τ}
    (hc : c ∈ graph.pathFrom path start) : graph.isRoot c = false ∧ c ∉ path := by
  induction path, start using pathFrom.induct graph with
  | case1 path => simp [pathFrom] at hc
  | case2 path d h => simp [pathFrom, h] at hc
  | case3 path d h ih =>
    rw [pathFrom, if_neg h] at hc
    rcases List.mem_cons.1 hc with rfl | hc
    · simpa [not_or] using h
    · obtain ⟨hroot, hpath⟩ := ih hc
      exact ⟨hroot, fun hmem => hpath (List.mem_cons_of_mem d hmem)⟩

/-! ## The walk along the path -/

/-- One step up a class that is new: it and its interfaces, then what is new further up. -/
theorem firstsAfter_declaring {met : List τ} {c : τ} (graph : TypeGraph τ) (hc : c ∉ met)
    (rest : List τ) :
    firstsAfter met (graph.declaring c ++ rest) =
      c :: firstsAfter (c :: met) (graph.interfaces c) ++
        firstsAfter (firstsAfter (c :: met) (graph.interfaces c) ++ c :: met) rest := by
  rw [declaring, List.cons_append, firstsAfter_cons_of_not_mem hc, firstsAfter_append,
    List.cons_append]

/-- Where the walk goes on, the path does: it has not met the class either. -/
theorem pathFrom_of_not_mem {met path : List τ} {c : τ} (graph : TypeGraph τ)
    (hpath : ∀ s ∈ path, s ∈ met) (h : ¬ (graph.isRoot c = true ∨ c ∈ met)) :
    graph.pathFrom path (some c) = c :: graph.pathFrom (c :: path) (graph.superclass c) := by
  rw [pathFrom, if_neg fun hstop => h (hstop.imp_right (hpath c))]

/-- What is on the path stays among what was met. -/
theorem mem_met_of_mem_path {met path : List τ} (hpath : ∀ s ∈ path, s ∈ met) (c : τ)
    (interfaces : List τ) : ∀ s ∈ c :: path, s ∈ firstsAfter (c :: met) interfaces ++ c :: met := by
  intro s hs
  rw [List.mem_append, List.mem_cons]
  rcases List.mem_cons.1 hs with rfl | hs
  · exact Or.inr (Or.inl rfl)
  · exact Or.inr (Or.inr (hpath s hs))

/-- The way up never leaves the path of superclasses. -/
theorem isPrefix_climb (graph : TypeGraph τ) (met : List τ) (start : Option τ) (path : List τ)
    (hpath : ∀ s ∈ path, s ∈ met) :
    graph.climb met start <+:
      firstsAfter met ((graph.pathFrom path start).flatMap graph.declaring) := by
  induction met, start using climb.induct graph generalizing path with
  | case1 met => simp [climb]
  | case2 met c h => simp [climb, h]
  | case3 met c h ih =>
    rw [climb, if_neg h, graph.pathFrom_of_not_mem hpath h, List.flatMap_cons,
      graph.firstsAfter_declaring fun hc => h (Or.inr hc)]
    exact (List.prefix_append_right_inj _).2 (ih (c :: path) (mem_met_of_mem_path hpath c _))

/-- If no class of the path was met otherwise, the way up is the whole path. -/
theorem climb_eq_of_pairwise (graph : TypeGraph τ) (met : List τ) (start : Option τ)
    (path : List τ) (hpath : ∀ s ∈ path, s ∈ met)
    (hnew : ∀ s ∈ graph.pathFrom path start, s ∉ met)
    (hfree : (graph.pathFrom path start).Pairwise fun a b => b ∉ graph.interfaces a) :
    graph.climb met start =
      firstsAfter met ((graph.pathFrom path start).flatMap graph.declaring) := by
  induction met, start using climb.induct graph generalizing path with
  | case1 met => simp [climb, pathFrom, firstsAfter]
  | case2 met c h =>
    -- A class that was met and is not on the path itself would be a member of the path.
    have hstop : graph.isRoot c = true ∨ c ∈ path := by
      by_contra hgo
      refine hnew c ?_ (h.resolve_left (not_or.1 hgo).1)
      rw [pathFrom, if_neg hgo]
      exact List.mem_cons_self
    rw [climb, if_pos h, pathFrom, if_pos hstop]
    rfl
  | case3 met c h ih =>
    have hgo := graph.pathFrom_of_not_mem hpath h
    rw [hgo] at hnew hfree
    rw [climb, if_neg h, hgo, List.flatMap_cons,
      graph.firstsAfter_declaring fun hc => h (Or.inr hc)]
    obtain ⟨hbelow, hfree⟩ := List.pairwise_cons.1 hfree
    congr 1
    refine ih (c :: path) (mem_met_of_mem_path hpath c _) (fun s hs => ?_) hfree
    -- A class further up is new: not met before, not this class, and none of its interfaces.
    have hmet := hnew s (List.mem_cons_of_mem c hs)
    have hne : s ≠ c := by
      rintro rfl
      exact (graph.not_mem_of_mem_pathFrom _ _ hs).2 List.mem_cons_self
    simp [mem_firstsAfter, hbelow s hs, hmet, hne]

/-- What the linearization keeps, as the walk does: after the type itself. -/
theorem linearization_eq_firstsAfter (graph : TypeGraph τ) (t : τ) :
    graph.linearization t =
      firstsAfter [t] (graph.interfaces t) ++
        firstsAfter (firstsAfter [t] (graph.interfaces t) ++ [t])
          ((graph.classPath t).flatMap graph.declaring) := by
  rw [← firstsAfter_append, firstsAfter_eq_eraseDups, linearization]
  simp only [List.mem_singleton, decide_not]

/-! ## The ancestors -/

/-- The ancestors are the start of the linearization. -/
theorem isPrefix_ancestors (graph : TypeGraph τ) (t : τ) :
    graph.ancestors t <+: graph.linearization t := by
  rw [ancestors, linearization_eq_firstsAfter, List.prefix_append_right_inj]
  exact graph.isPrefix_climb _ _ [t] (by simp)

/-- Nothing is an ancestor twice, and no type is its own ancestor. -/
theorem nodup_ancestors (graph : TypeGraph τ) (t : τ) : (graph.ancestors t).Nodup := by
  refine (graph.isPrefix_ancestors t).sublist.nodup ?_
  rw [linearization_eq_firstsAfter, ← firstsAfter_append]
  exact nodup_firstsAfter _ _

theorem not_mem_ancestors_self (graph : TypeGraph τ) (t : τ) : t ∉ graph.ancestors t := by
  intro ht
  have hlin := (graph.isPrefix_ancestors t).subset ht
  rw [linearization_eq_firstsAfter, ← firstsAfter_append, mem_firstsAfter] at hlin
  exact hlin.2 List.mem_cons_self

/-- If no class of the path is an interface lower down, nothing of the linearization is missing. -/
theorem ancestors_eq_of_pairwise (graph : TypeGraph τ) (t : τ)
    (hfree : (t :: graph.classPath t).Pairwise fun a b => b ∉ graph.interfaces a) :
    graph.ancestors t = graph.linearization t := by
  obtain ⟨hbelow, hfree⟩ := List.pairwise_cons.1 hfree
  rw [ancestors, linearization_eq_firstsAfter]
  congr 1
  refine graph.climb_eq_of_pairwise _ _ [t] (by simp) (fun s hs => ?_) hfree
  have hne := (graph.not_mem_of_mem_pathFrom _ _ hs).2
  rw [List.mem_singleton] at hne
  simp [mem_firstsAfter, hbelow s hs, hne]

/-- The ancestors are where the types, in the order of the superclass path, are met first. -/
theorem ancestors_linearized (graph : TypeGraph τ) (t : τ) :
    graph.ancestors t <+: graph.linearization t ∧
      (graph.ancestors t).Nodup ∧ t ∉ graph.ancestors t ∧
      ((t :: graph.classPath t).Pairwise (fun a b => b ∉ graph.interfaces a) →
        graph.ancestors t = graph.linearization t) ∧
      graph.lineage t = ((graph.ancestors t).map graph.sourcePath).eraseDups :=
  ⟨graph.isPrefix_ancestors t, graph.nodup_ancestors t, graph.not_mem_ancestors_self t,
    graph.ancestors_eq_of_pairwise t, firsts_eq_eraseDups _⟩

/-- Two classes that extend each other and declare the same interface, a second interface, and
one that only this interface extends. -/
def entwined : TypeGraph (Fin 5) where
  types := [0, 1, 2, 3, 4]
  mem_types := by decide
  name t := ["host.Cow", "host.Animal", "host.Breeds", "host.Saddled", "host.Equips"][t]
  interfaces t := [[2], [3, 2], [], [4], []][t]
  superclass t := [some 1, some 0, none, none, none][t]
  isRoot _ := false

/-- A cycle of superclasses and a repeated interface leave nothing out. -/
theorem ancestors_linearized_entwined :
    (0 :: entwined.classPath 0).Pairwise (fun a b => b ∉ entwined.interfaces a) ∧
      entwined.ancestors 0 = entwined.linearization 0 ∧
      entwined.linearization 0 = [2, 1, 3] := by
  have hpath : entwined.classPath 0 = [1] := by
    simp [classPath, pathFrom, entwined]
  have hfree : (0 :: entwined.classPath 0).Pairwise (fun a b => b ∉ entwined.interfaces a) := by
    rw [hpath]
    decide
  refine ⟨hfree, (ancestors_linearized entwined 0).2.2.2.1 hfree, ?_⟩
  rw [linearization, hpath]
  decide

end RegistrySchema.TypeGraph

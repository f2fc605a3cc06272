import Mathlib.Logic.Function.Basic
import RegistrySchema.ClassTable
import RegistrySchema.Proofs.Ancestors
import RegistrySchema.Proofs.Catalog
import RegistrySchema.Proofs.SourcePath

/-!
# The class table of a run

Collecting a type enters it and its ancestors, so collecting several types is one run of
insertions: over each type with its ancestors, type after type. What the table holds in the end
can be read off that list.

The table is closed in one respect only: what the lineage of a *collected* type names has an entry.
The lineage of an ancestor may name classes without one, since ancestors are not expanded.
-/

namespace RegistrySchema.ClassTable

variable {τ : Type} [DecidableEq τ]

/-- What collecting a type meets, in order: the type and its ancestors. -/
def chain (graph : TypeGraph τ) (t : τ) : List τ := t :: graph.ancestors t

/-- The class table after collecting the types of a list, from no entry. -/
def collectAll (graph : TypeGraph τ) (ts : List τ) : ClassTable :=
  ts.foldl (collect graph) Catalog.empty

/-- Collecting several types enters their chains one after the other. -/
theorem foldl_collect (graph : TypeGraph τ) (ts : List τ) (table : ClassTable) :
    ts.foldl (collect graph) table = (ts.flatMap (chain graph)).foldl (enter graph) table := by
  rw [List.foldl_flatMap]
  rfl

/-- What collecting a type offers to a table: each type of the chain with its lineage. -/
def offers (graph : TypeGraph τ) (t : τ) : List (SourcePath × List SourcePath) :=
  (chain graph t).map fun s => (graph.sourcePath s, graph.lineage s)

/-- Collecting several types enters what they offer, one after the other. -/
theorem foldl_collect_eq_foldl_insert (graph : TypeGraph τ) (ts : List τ) (table : ClassTable) :
    ts.foldl (collect graph) table =
      (ts.flatMap (offers graph)).foldl (fun table entry => table.insert entry.1 entry.2)
        table := by
  have hoffers : ts.flatMap (offers graph) =
      (ts.flatMap (chain graph)).map fun s => (graph.sourcePath s, graph.lineage s) :=
    List.map_flatMap.symm
  rw [foldl_collect, hoffers, List.foldl_map]
  rfl

/-- The entries of a run: each type of the chains, unless an earlier one has its source path. -/
theorem entries_collectAll (graph : TypeGraph τ) (ts : List τ) :
    (collectAll graph ts).entries =
      ((ts.flatMap (chain graph)).eraseDupsBy fun a b =>
        graph.sourcePath a == graph.sourcePath b).map
          fun t => (graph.sourcePath t, graph.lineage t) := by
  rw [collectAll, foldl_collect]
  refine (Catalog.entries_foldl_insert graph.sourcePath graph.lineage _ Catalog.empty).trans ?_
  simp

/-- The keys of a run are the source paths of the chains. -/
theorem mem_keys_collectAll (graph : TypeGraph τ) (ts : List τ) (path : SourcePath) :
    path ∈ (collectAll graph ts).keys ↔
      ∃ t ∈ ts, ∃ s ∈ chain graph t, graph.sourcePath s = path := by
  rw [collectAll, foldl_collect]
  refine (Catalog.mem_keys_foldl_insert graph.sourcePath graph.lineage _ Catalog.empty
    path).trans ?_
  simp only [Catalog.keys_empty, List.not_mem_nil, false_or, List.mem_flatMap]
  constructor
  · rintro ⟨s, ⟨t, ht, hs⟩, hpath⟩
    exact ⟨t, ht, s, hs, hpath⟩
  · rintro ⟨t, ht, s, hs, hpath⟩
    exact ⟨s, ⟨t, ht, hs⟩, hpath⟩

/-- Whatever is collected later, the entries stay what they are and where they are. -/
theorem isPrefix_collectAll_append (graph : TypeGraph τ) (ts us : List τ) :
    (collectAll graph ts).entries <+: (collectAll graph (ts ++ us)).entries := by
  rw [collectAll, collectAll, List.foldl_append, foldl_collect graph us]
  exact Catalog.isPrefix_foldl_insert graph.sourcePath graph.lineage _ _

/-- A type that was collected has nothing to add. -/
theorem collect_collectAll_of_mem (graph : TypeGraph τ) {ts : List τ} {t : τ} (ht : t ∈ ts) :
    collect graph (collectAll graph ts) t = collectAll graph ts := by
  have hkeys : ∀ s ∈ chain graph t, graph.sourcePath s ∈ (collectAll graph ts).keys :=
    fun s hs => (mem_keys_collectAll graph ts _).2 ⟨t, ht, s, hs, rfl⟩
  exact Catalog.foldl_insert_of_forall_mem graph.sourcePath graph.lineage hkeys

/-- Every entry is that of a type which a collected type reaches by itself. -/
theorem exists_of_mem_entries (graph : TypeGraph τ) {ts : List τ}
    {entry : SourcePath × List SourcePath} (hentry : entry ∈ (collectAll graph ts).entries) :
    ∃ t ∈ ts, ∃ s, (s = t ∨ s ∈ graph.linearization t) ∧
      entry = (graph.sourcePath s, graph.lineage s) := by
  rw [collectAll, foldl_collect] at hentry
  obtain hmem | ⟨s, hs, rfl⟩ :=
    Catalog.of_mem_entries_foldl_insert graph.sourcePath graph.lineage hentry
  · exact absurd hmem List.not_mem_nil
  · obtain ⟨t, ht, hs⟩ := List.mem_flatMap.1 hs
    refine ⟨t, ht, s, ?_, rfl⟩
    exact (List.mem_cons.1 hs).imp_right fun hs => (graph.isPrefix_ancestors t).subset hs

/-- What is only reached through an interface of an interface has no entry. -/
theorem not_mem_keys_collectAll (graph : TypeGraph τ) {ts : List τ} {s : τ}
    (hout : ∀ t ∈ ts, s ≠ t ∧ s ∉ graph.linearization t)
    (hname : ∀ u, graph.sourcePath u = graph.sourcePath s → u = s) :
    graph.sourcePath s ∉ (collectAll graph ts).keys := by
  intro hkey
  obtain ⟨entry, hentry, hpath⟩ := List.mem_map.1 hkey
  obtain ⟨t, ht, u, hu, rfl⟩ := exists_of_mem_entries graph hentry
  obtain rfl := hname u hpath
  obtain ⟨hne, hlin⟩ := hout t ht
  exact hu.elim hne hlin

/-- With distinct source paths, each collected type has its own lineage in the table. -/
theorem get?_collectAll (graph : TypeGraph τ) (hpaths : Function.Injective graph.sourcePath)
    {ts : List τ} {t : τ} (ht : t ∈ ts) :
    (collectAll graph ts).get? (graph.sourcePath t) = some (graph.lineage t) := by
  have hkey : graph.sourcePath t ∈ (collectAll graph ts).keys :=
    (mem_keys_collectAll graph ts _).2 ⟨t, ht, t, List.mem_cons_self, rfl⟩
  obtain ⟨found, hfound⟩ := Option.isSome_iff_exists.1 (Catalog.get?_isSome_iff.2 hkey)
  -- The entry may have been made for another type, but only under that type's source path.
  obtain ⟨-, -, s, -, hentry⟩ := exists_of_mem_entries graph (Catalog.get?_eq_some_iff.1 hfound)
  obtain ⟨hpath, rfl⟩ := Prod.mk.inj hentry
  rw [hfound, hpaths hpath]

/-- What the lineage of a collected type names has an entry. -/
theorem mem_keys_of_mem_lineage (graph : TypeGraph τ) {ts : List τ} {t : τ} (ht : t ∈ ts)
    {path : SourcePath} (hpath : path ∈ graph.lineage t) :
    path ∈ (collectAll graph ts).keys := by
  obtain ⟨s, hs, rfl⟩ := List.mem_map.1 (mem_firsts.1 hpath)
  exact (mem_keys_collectAll graph ts _).2 ⟨t, ht, s, List.mem_cons_of_mem t hs, rfl⟩

/-- The whole account of a run from no entry: its entries in order, and what follows for entries
met earlier, types collected again, types out of reach and the lineages of collected types. -/
theorem collectAll_account (graph : TypeGraph τ) (ts : List τ) :
    (collectAll graph ts).entries =
        ((ts.flatMap fun t => t :: graph.ancestors t).eraseDupsBy fun a b =>
          graph.sourcePath a == graph.sourcePath b).map
            (fun t => (graph.sourcePath t, graph.lineage t)) ∧
      (∀ us, (collectAll graph ts).entries <+: (collectAll graph (ts ++ us)).entries) ∧
      (∀ t ∈ ts, collect graph (collectAll graph ts) t = collectAll graph ts) ∧
      (∀ entry ∈ (collectAll graph ts).entries, ∃ t ∈ ts, ∃ s,
        (s = t ∨ s ∈ graph.linearization t) ∧ entry = (graph.sourcePath s, graph.lineage s)) ∧
      (∀ s, (∀ t ∈ ts, s ≠ t ∧ s ∉ graph.linearization t) →
        (∀ u, graph.sourcePath u = graph.sourcePath s → u = s) →
        graph.sourcePath s ∉ (collectAll graph ts).keys) ∧
      (Function.Injective graph.sourcePath → ∀ t ∈ ts, ∃ lineage,
        (collectAll graph ts).get? (graph.sourcePath t) = some lineage ∧
          ∀ path ∈ lineage, path ∈ (collectAll graph ts).keys) :=
  ⟨entries_collectAll graph ts, isPrefix_collectAll_append graph ts,
    fun _ ht => collect_collectAll_of_mem graph ht,
    fun _ hentry => exists_of_mem_entries graph hentry,
    fun _ hout hname => not_mem_keys_collectAll graph hout hname,
    fun hpaths t ht => ⟨graph.lineage t, get?_collectAll graph hpaths ht,
      fun _ hpath => mem_keys_of_mem_lineage graph ht hpath⟩⟩

/-- A class is collected and then its superclass, which extends it again. The interface of an
interface has no entry. -/
theorem collectAll_account_entwined :
    Function.Injective TypeGraph.entwined.sourcePath ∧
      TypeGraph.entwined.sourcePath 4 ∉ (collectAll TypeGraph.entwined [0, 1]).keys ∧
      ∃ lineage, (collectAll TypeGraph.entwined [0, 1]).get? (TypeGraph.entwined.sourcePath 1) =
          some lineage ∧
        ∀ path ∈ lineage, path ∈ (collectAll TypeGraph.entwined [0, 1]).keys := by
  have hpaths : Function.Injective TypeGraph.entwined.sourcePath :=
    TypeGraph.entwined.injective_sourcePath (by unfold Function.Injective; decide) (by decide)
  obtain ⟨-, -, -, -, hout, hclosed⟩ := collectAll_account TypeGraph.entwined [0, 1]
  have hlin : ∀ t ∈ [0, 1], (4 : Fin 5) ≠ t ∧ 4 ∉ TypeGraph.entwined.linearization t := by
    have h0 : TypeGraph.entwined.classPath 0 = [1] := by
      simp [TypeGraph.classPath, TypeGraph.pathFrom, TypeGraph.entwined]
    have h1 : TypeGraph.entwined.classPath 1 = [0] := by
      simp [TypeGraph.classPath, TypeGraph.pathFrom, TypeGraph.entwined]
    simp only [List.forall_mem_cons, TypeGraph.linearization, h0, h1]
    decide
  exact ⟨hpaths, hout 4 hlin fun _ hu => hpaths hu, hclosed hpaths 1 (by decide)⟩

end RegistrySchema.ClassTable

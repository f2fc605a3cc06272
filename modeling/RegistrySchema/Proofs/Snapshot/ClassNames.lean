import RegistrySchema.Proofs.Catalog
import RegistrySchema.Proofs.FirstOccurrences
import RegistrySchema.Proofs.Snapshot.Loading
import RegistrySchema.Proofs.SourcePath

/-!
# The class names of a snapshot

A class graph is built in four phases, each of which looks names up and adds those that are new: the
root, the declared names, the links of each declared class, and the classes of the objects that
are made. Names are looked up in the map that stands beside the classes, so a phase can only
be trusted as far as that map is *aligned* with the classes: its entries are the names with their
handles.

What a phase does is said once, by `Loads`: it leaves the map aligned and the root where it is, and
adds the names that it looks up, in order and each once. Phases that follow each other load what
they mention together (`Loads.trans`), and so a whole snapshot is the one list of names that its
declarations mention (`loads_ofDeclarations`).
-/

namespace RegistrySchema.Snapshot

namespace ClassGraph

/-- The names of the classes, in the order of their handles. -/
def names (graph : ClassGraph) : List String := graph.nodes.map ClassNode.name

/-- The map leads from the name of each class to its handle, in step with the classes. -/
def Aligned (graph : ClassGraph) : Prop :=
  graph.byName.entries = graph.names.zipIdx.map fun entry => (entry.1, ⟨entry.2⟩)

variable {graph later last : ClassGraph} {name : String} {id : ClassId}

theorem length_names (graph : ClassGraph) : graph.names.length = graph.nodes.length :=
  List.length_map _

theorem name?_eq (graph : ClassGraph) (id : ClassId) :
    graph.name? id = graph.names[id.index]? := by
  rw [name?, node?, names, List.getElem?_map]

/-! ## The map of names -/

theorem keys_of_aligned (h : graph.Aligned) : graph.byName.keys = graph.names := by
  rw [Catalog.keys, h, List.map_map]
  exact List.zipIdx_map_fst 0 graph.names

/-- No two classes have one name, for no key stands twice in a map. -/
theorem Aligned.nodup (h : graph.Aligned) : graph.names.Nodup := by
  rw [← keys_of_aligned h]
  exact graph.byName.nodup

/-- Looking a name up and reading the name of a handle undo each other. -/
theorem lookup_eq_some_iff (h : graph.Aligned) :
    graph.lookup name = some id ↔ graph.name? id = some name := by
  rw [lookup, Catalog.get?_eq_some_iff, h, List.mem_map, name?_eq]
  constructor
  · rintro ⟨⟨other, i⟩, hmem, hentry⟩
    obtain ⟨rfl, rfl⟩ := Prod.mk.inj hentry
    exact List.mem_zipIdx_iff_getElem?.1 hmem
  · intro hname
    exact ⟨(name, id.index), List.mem_zipIdx_iff_getElem?.2 hname, rfl⟩

/-- A name has a handle iff it is the name of a class. -/
theorem lookup_eq_none_iff (h : graph.Aligned) : graph.lookup name = none ↔ name ∉ graph.names := by
  rw [lookup, ← keys_of_aligned h, ← Catalog.get?_isSome_iff, Option.not_isSome_iff_eq_none]

/-! ## One step of loading -/

/-- What looking names up does to a graph. -/
structure Loads (graph : ClassGraph) (found : List String) (later : ClassGraph) : Prop where
  /-- The map is in step with the classes. -/
  aligned : later.Aligned
  /-- The root stays where it is. -/
  rootId : later.rootId = graph.rootId
  /-- The classes are those there were, and each new name once. -/
  names : later.names = graph.names ++ firstsAfter graph.names found

theorem Aligned.loads (h : graph.Aligned) : graph.Loads [] graph :=
  ⟨h, rfl, (List.append_nil _).symm⟩

theorem Loads.trans {found more : List String} (h : graph.Loads found later)
    (h' : later.Loads more last) : graph.Loads (found ++ more) last where
  aligned := h'.aligned
  rootId := h'.rootId.trans h.rootId
  names := by rw [h'.names, h.names, append_firstsAfter_append]

theorem aligned_empty : empty.Aligned := rfl

theorem names_withClass (graph : ClassGraph) (name : String) :
    (graph.withClass name).names = graph.names ++ [name] := List.map_append

/-- A class that is added gets the next handle, in the map too. -/
theorem aligned_withClass (h : graph.Aligned) (hnew : name ∉ graph.names) :
    (graph.withClass name).Aligned := by
  have hkey : name ∉ graph.byName.keys := by rwa [keys_of_aligned h]
  have hentries : (graph.withClass name).byName.entries =
      graph.byName.entries ++ [(name, ⟨graph.nodes.length⟩)] := by
    show (graph.byName.put name _).entries = _
    rw [Catalog.put, if_neg hkey, Catalog.entries_insert_of_not_mem _ hkey]
  -- The position of the new name is the number of classes, which is the handle in the map.
  rw [Aligned, hentries, h, names_withClass, List.zipIdx_append, List.map_append, Nat.zero_add,
    length_names]
  rfl

/-- Looking up a name changes the graph only if the name is new. -/
theorem fst_intern (h : graph.Aligned) (name : String) :
    (graph.intern name).1 = if name ∈ graph.names then graph else graph.withClass name := by
  unfold intern
  cases hlookup : graph.lookup name with
  | none => rw [if_neg ((lookup_eq_none_iff h).1 hlookup)]
  | some id =>
    rw [lookup_eq_some_iff h, name?_eq] at hlookup
    rw [if_pos (List.mem_of_getElem? hlookup)]

/-- A name that is looked up is added if it is new. -/
theorem loads_intern (h : graph.Aligned) (name : String) :
    graph.Loads [name] (graph.intern name).1 := by
  rw [fst_intern h]
  split
  · next hmem =>
    refine ⟨h, rfl, ?_⟩
    rw [firstsAfter_cons_of_mem hmem]
    exact h.loads.names
  · next hnew =>
    refine ⟨aligned_withClass h hnew, rfl, ?_⟩
    rw [names_withClass, firstsAfter_cons_of_not_mem hnew]
    rfl

theorem loads_internAll (h : graph.Aligned) (found : List String) :
    graph.Loads found (graph.internAll found).1 := by
  induction found generalizing graph with
  | nil => exact h.loads
  | cons name found ih =>
    -- First one name is looked up, then the others in the graph that it leaves.
    have hfirst := loads_intern h name
    exact hfirst.trans (ih hfirst.aligned)

/-- Links change no name. -/
theorem names_link (graph : ClassGraph) (id : ClassId) (superclass : Option ClassId)
    (interfaces : List ClassId) : (graph.link id superclass interfaces).names = graph.names := by
  rw [names, link, names]
  refine List.ext_getElem? fun i => ?_
  rw [List.getElem?_map, List.getElem?_map, List.getElem?_modify]
  split <;> cases graph.nodes[i]? <;> rfl

/-- Links change nothing that is looked up. -/
theorem loads_link (h : graph.Aligned) (id : ClassId) (superclass : Option ClassId)
    (interfaces : List ClassId) : graph.Loads [] (graph.link id superclass interfaces) where
  aligned := by
    rw [Aligned, names_link]
    exact h
  rootId := rfl
  names := (names_link graph id superclass interfaces).trans h.loads.names

/-- The graph of a root alone has its name, under the first handle. -/
theorem ofRoot_spec (root : String) :
    (ofRoot root).Aligned ∧ (ofRoot root).rootId = ClassGraph.root ∧
      (ofRoot root).names = firsts [root] := by
  have hloads := loads_intern aligned_empty root
  exact ⟨hloads.aligned, rfl, hloads.names⟩

/-- The name of a type stands at its own position. -/
theorem getElem?_names (graph : ClassGraph) (t : Fin graph.size) :
    graph.names[t.val]? = some (graph.types.name t) := by
  rw [names, List.getElem?_map, List.getElem?_eq_getElem t.isLt]
  rfl

/-- Classes with distinct names are distinct types. -/
theorem injective_name (h : graph.names.Nodup) : Function.Injective graph.types.name := by
  intro s t hname
  have hs := graph.getElem?_names s
  have ht := graph.getElem?_names t
  rw [← hname] at ht
  have hlt : s.val < graph.names.length := (List.getElem?_eq_some_iff.1 hs).1
  exact Fin.ext ((List.getElem?_inj hlt h).1 (hs.trans ht.symm))

end ClassGraph

open ClassGraph

/-- The names that a declared class mentions. -/
def classNames (name : String) (declared : DeclaredClass) : List String :=
  name :: (declared.superclass.toList ++ declared.interfaces)

/-- The class that a declared entity mentions, if its object is looked at. -/
def entityNames (entity : DeclaredEntity) : List String :=
  if entity.inaccessible = true ∨ entity.failure ≠ none then [] else entity.className.toList

/-- All class names that declarations mention, in the order in which they are looked up. -/
def mentioned (declared : Declarations) : List String :=
  declared.root :: (declared.classes.keys ++
    (declared.classes.entries.flatMap fun entry => classNames entry.1 entry.2) ++
      declared.entities.flatMap entityNames)

theorem loads_declareClass {graph : ClassGraph} (h : graph.Aligned) (name : String)
    (declared : DeclaredClass) :
    graph.Loads (classNames name declared) (declareClass graph name declared) := by
  have hname := loads_intern h name
  have hsuperclass := loads_internAll hname.aligned declared.superclass.toList
  have hinterfaces := loads_internAll hsuperclass.aligned declared.interfaces
  have hlink := loads_link hinterfaces.aligned (graph.intern name).2
    ((graph.intern name).1.internAll declared.superclass.toList).2.head?
    (((graph.intern name).1.internAll declared.superclass.toList).1.internAll
      declared.interfaces).2
  -- Three look-ups, one in the graph that the other leaves; the links then add nothing.
  have hall := (hname.trans (hsuperclass.trans hinterfaces)).trans hlink
  rw [List.append_nil] at hall
  exact hall

theorem loads_foldl_declareClass {graph : ClassGraph} (h : graph.Aligned)
    (entries : List (String × DeclaredClass)) :
    graph.Loads (entries.flatMap fun entry => classNames entry.1 entry.2)
      (entries.foldl (fun graph entry => declareClass graph entry.1 entry.2) graph) := by
  induction entries generalizing graph with
  | nil => exact h.loads
  | cons entry entries ih =>
    have hfirst := loads_declareClass h entry.1 entry.2
    exact hfirst.trans (ih hfirst.aligned)

theorem loads_outcome {graph : ClassGraph} (h : graph.Aligned) (entity : DeclaredEntity) :
    graph.Loads (entityNames entity) (outcome graph entity).1 := by
  unfold outcome entityNames
  by_cases haccess : entity.inaccessible = true
  · rw [if_pos haccess, if_pos (Or.inl haccess)]
    exact h.loads
  · rw [if_neg haccess]
    cases hfailure : entity.failure with
    | some failure =>
      rw [if_pos (Or.inr (Option.some_ne_none failure))]
      exact h.loads
    | none =>
      rw [if_neg (by simp [haccess])]
      cases entity.className with
      | none => exact h.loads
      | some name => exact loads_intern h name

theorem loads_declareEntities {graph : ClassGraph} (h : graph.Aligned)
    (entities : List DeclaredEntity) :
    graph.Loads (entities.flatMap entityNames) (declareEntities graph entities).1 := by
  induction entities generalizing graph with
  | nil => exact h.loads
  | cons entity entities ih =>
    have hfirst := loads_outcome h entity
    exact hfirst.trans (ih hfirst.aligned)

/-- The four phases together: the names that the declarations mention are looked up in a graph that
has only the root yet. -/
theorem loads_ofDeclarations {declared : Declarations} {snapshot : Snapshot}
    (h : ofDeclarations declared = .ok snapshot) :
    (ofRoot declared.root).Loads (mentioned declared).tail snapshot.classes := by
  obtain ⟨-, -, rfl⟩ := ofDeclarations_eq_ok_iff.1 h
  -- Each phase goes on with the aligned graph that the one before it leaves.
  have hkeys := loads_internAll (ofRoot_spec declared.root).1 declared.classes.keys
  have hclasses := loads_foldl_declareClass hkeys.aligned declared.classes.entries
  have hentities := loads_declareEntities hclasses.aligned declared.entities
  exact (hkeys.trans hclasses).trans hentities

/-- The map of a snapshot's graph is in step with its classes. -/
theorem aligned_ofDeclarations {declared : Declarations} {snapshot : Snapshot}
    (h : ofDeclarations declared = .ok snapshot) : snapshot.classes.Aligned :=
  (loads_ofDeclarations h).aligned

/-- The root of a snapshot's graph has the first handle. -/
theorem rootId_ofDeclarations {declared : Declarations} {snapshot : Snapshot}
    (h : ofDeclarations declared = .ok snapshot) : snapshot.classes.rootId = ClassGraph.root :=
  (loads_ofDeclarations h).rootId

/-- The classes of a snapshot are the names that its declarations mention, each once. -/
theorem names_ofDeclarations {declared : Declarations} {snapshot : Snapshot}
    (h : ofDeclarations declared = .ok snapshot) :
    snapshot.classes.names = firsts (mentioned declared) := by
  -- The root is the first name that is looked up.
  rw [(loads_ofDeclarations h).names, (ofRoot_spec declared.root).2.2]
  exact append_firstsAfter_append [] [declared.root] (mentioned declared).tail

/-- No two classes of a snapshot have one name. -/
theorem nodup_names_ofDeclarations {declared : Declarations} {snapshot : Snapshot}
    (h : ofDeclarations declared = .ok snapshot) : snapshot.classes.names.Nodup :=
  (aligned_ofDeclarations h).nodup

/-- Unless a name has a slash, the classes of a snapshot have distinct source paths. -/
theorem injective_sourcePath_ofDeclarations {declared : Declarations} {snapshot : Snapshot}
    (h : ofDeclarations declared = .ok snapshot)
    (hslash : ∀ name ∈ snapshot.classes.names, '/' ∉ name.toList) :
    Function.Injective snapshot.classes.types.sourcePath := by
  refine snapshot.classes.types.injective_sourcePath
    (injective_name (nodup_names_ofDeclarations h)) fun t => ?_
  exact hslash _ (List.mem_map_of_mem (List.get_mem _ t))

end RegistrySchema.Snapshot

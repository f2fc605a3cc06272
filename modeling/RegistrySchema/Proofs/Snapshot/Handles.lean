import RegistrySchema.Proofs.EntityWalk
import RegistrySchema.Proofs.Snapshot.Entities

/-!
# The handles of a snapshot's classes

A handle is a position in the list of classes, so it is good for anything only if there is a class
at that position. Handles come from five places: the root has one, a look-up by name finds one, the
links of a class are handles, and the factory answers with the handle of an object's class. Each
of them leads to a class (`Obtainable.node?_eq_some`), because links never lead out of the graph
and an object's class was looked up when the entity was declared.

The classes stand in the order in which the declarations first mention them
(`names_eq_firsts_classNames`).
-/

namespace RegistrySchema.Snapshot

open ClassGraph

/-! ## The order of the classes -/

/-- The classes that a declared class is linked to. -/
def DeclaredClass.linkNames (declared : DeclaredClass) : List String :=
  declared.superclass.toList ++ declared.interfaces

/-- The class of the object that is made of an entity. -/
def DeclaredEntity.madeClass? (entity : DeclaredEntity) : Option String :=
  EntityWalk.object? entity.answer

/-- The class names of declarations: the root, the declared classes, the links of each of these
classes, and the classes of the objects that are made. -/
def Declarations.classNames (declared : Declarations) : List String :=
  declared.root :: (declared.classes.keys ++
    (declared.classes.entries.flatMap fun entry => entry.2.linkNames) ++
      declared.entities.filterMap DeclaredEntity.madeClass?)

theorem entityNames_eq_toList (entity : DeclaredEntity) :
    entityNames entity = entity.madeClass?.toList := by
  unfold entityNames DeclaredEntity.madeClass? DeclaredEntity.answer
  by_cases hwithheld : entity.inaccessible = true
  · rw [if_pos (Or.inl hwithheld), if_pos hwithheld]
    rfl
  · rw [if_neg hwithheld]
    cases hfailure : entity.failure with
    | some failure =>
      rw [if_pos (Or.inr (Option.some_ne_none failure))]
      rfl
    | none =>
      rw [if_neg (by simp [hwithheld])]
      rfl

/-- The name of a class need not be mentioned again with its links. -/
theorem firstsAfter_flatMap_classNames {entries : List (String × DeclaredClass)}
    {seen : List String} (hseen : ∀ entry ∈ entries, entry.1 ∈ seen) (rest : List String) :
    firstsAfter seen ((entries.flatMap fun entry => classNames entry.1 entry.2) ++ rest) =
      firstsAfter seen ((entries.flatMap fun entry => entry.2.linkNames) ++ rest) := by
  induction entries generalizing seen with
  | nil => rfl
  | cons entry entries ih =>
    obtain ⟨hentry, hentries⟩ := List.forall_mem_cons.1 hseen
    rw [List.flatMap_cons, List.flatMap_cons, List.append_assoc, List.append_assoc]
    show firstsAfter seen (entry.1 :: (entry.2.linkNames ++ _)) = _
    -- After the links of one class, still more has been seen.
    rw [firstsAfter_cons_of_mem hentry, firstsAfter_append,
      ih fun other hother => List.mem_append_right _ (hentries other hother), ← firstsAfter_append]

/-- The classes of a snapshot are those that the declarations mention, each once and in the order
of first mention. -/
theorem names_eq_firsts_classNames {declared : Declarations} {snapshot : Snapshot}
    (h : ofDeclarations declared = .ok snapshot) :
    snapshot.classes.names = firsts declared.classNames := by
  have hentities : declared.entities.flatMap entityNames =
      declared.entities.filterMap DeclaredEntity.madeClass? := by
    rw [List.filterMap_eq_flatMap_toList]
    exact List.flatMap_congr fun entity _ => entityNames_eq_toList entity
  rw [names_ofDeclarations h, mentioned, Declarations.classNames, hentities, firsts, firsts,
    firstsAfter_cons_of_not_mem List.not_mem_nil, firstsAfter_cons_of_not_mem List.not_mem_nil]
  -- What follows the keys is looked at with all keys seen.
  have hkeys : ∀ entry ∈ declared.classes.entries,
      entry.1 ∈ firstsAfter [declared.root] declared.classes.keys ++ [declared.root] := by
    intro entry hentry
    by_cases hroot : entry.1 ∈ [declared.root]
    · exact List.mem_append_right _ hroot
    · exact List.mem_append_left _ (mem_firstsAfter.2 ⟨List.mem_map_of_mem hentry, hroot⟩)
  rw [List.append_assoc, List.append_assoc, firstsAfter_append,
    firstsAfter_flatMap_classNames hkeys, ← firstsAfter_append]

/-! ## Names and handles -/

/-- A handle within bounds has a class. -/
theorem ClassGraph.exists_node?_of_lt {graph : ClassGraph} {id : ClassId}
    (h : id.index < graph.names.length) : ∃ node, graph.node? id = some node := by
  rw [length_names] at h
  exact ⟨_, List.getElem?_eq_getElem h⟩

/-- The class of a handle is one of the graph's. -/
theorem ClassGraph.mem_of_node? {graph : ClassGraph} {id : ClassId} {node : ClassNode}
    (h : graph.node? id = some node) : node ∈ graph.nodes := List.mem_of_getElem? h

/-- A handle within bounds has a name. -/
theorem ClassGraph.exists_name?_of_lt {graph : ClassGraph} {id : ClassId}
    (h : id.index < graph.names.length) : ∃ name, graph.name? id = some name := by
  obtain ⟨node, hnode⟩ := exists_node?_of_lt h
  exact ⟨node.name, by rw [name?, hnode, Option.map_some]⟩

/-- Each interface of a class has its name, none left out. -/
theorem ClassGraph.map_name?_interfaces {graph : ClassGraph} (hs : graph.Sound) {node : ClassNode}
    (hnode : node ∈ graph.nodes) :
    node.interfaces.map graph.name? = (graph.links node.name).interfaces.map some := by
  rw [links_of_mem hs.nodup hnode]
  have hnames : ∀ id ∈ node.interfaces, ∃ name, graph.name? id = some name :=
    fun id hid => exists_name?_of_lt (hs.interfaces_lt node hnode id hid)
  show _ = (node.interfaces.filterMap graph.name?).map some
  generalize node.interfaces = ids at hnames
  induction ids with
  | nil => rfl
  | cons id ids ih =>
    obtain ⟨⟨name, hname⟩, hnames⟩ := List.forall_mem_cons.1 hnames
    rw [List.map_cons, ih hnames, List.filterMap_cons_some hname, List.map_cons, hname]

/-- The superclass of a class has its name. -/
theorem ClassGraph.map_name?_superclass {graph : ClassGraph} (hs : graph.Sound) {node : ClassNode}
    (hnode : node ∈ graph.nodes) :
    node.superclass.map graph.name? = (graph.links node.name).superclass.map some := by
  rw [links_of_mem hs.nodup hnode]
  show _ = (node.superclass.bind graph.name?).map some
  cases hsuper : node.superclass with
  | none => rfl
  | some id =>
    obtain ⟨name, hname⟩ := exists_name?_of_lt (hs.superclass_lt node hnode id hsuper)
    rw [Option.map_some, Option.bind_some, hname, Option.map_some]

/-- A declared class has a handle, and the superclass and the interfaces that are declared, in their
order and with repetitions. -/
theorem exists_node_of_declared {declared : Declarations} {snapshot : Snapshot}
    (h : ofDeclarations declared = .ok snapshot) {name : String} {links : DeclaredClass}
    (hget : declared.classes.get? name = some links) :
    ∃ id node, snapshot.classes.lookup name = some id ∧ snapshot.classes.node? id = some node ∧
      node.superclass.map snapshot.classes.name? = links.superclass.map some ∧
      node.interfaces.map snapshot.classes.name? = links.interfaces.map some := by
  have hsound := sound_ofDeclarations h
  -- A declared name is mentioned, so it has a class.
  have hkey : name ∈ declared.classes.keys := Catalog.get?_isSome_iff.1 (by rw [hget]; rfl)
  have hmem : name ∈ snapshot.classes.names := by
    rw [names_eq_firsts_classNames h, mem_firsts]
    exact List.mem_cons_of_mem _ (List.mem_append_left _ (List.mem_append_left _ hkey))
  obtain ⟨id, hid⟩ := Option.ne_none_iff_exists'.1
    (mt (lookup_eq_none_iff hsound.aligned).1 (not_not.2 hmem))
  obtain ⟨node, hnode, rfl⟩ := Option.map_eq_some_iff.1 ((lookup_eq_some_iff hsound.aligned).1 hid)
  have hdeclared : snapshot.classes.links node.name = links := by
    rw [links_ofDeclarations h, linksOf, hget, Option.getD_some]
  refine ⟨id, node, hid, hnode, ?_, ?_⟩
  · rw [map_name?_superclass hsound (mem_of_node? hnode), hdeclared]
  · rw [map_name?_interfaces hsound (mem_of_node? hnode), hdeclared]

/-- A class that is only mentioned has no superclass and no interfaces. -/
theorem leaf_of_not_declared {declared : Declarations} {snapshot : Snapshot}
    (h : ofDeclarations declared = .ok snapshot) {id : ClassId} {node : ClassNode}
    (hnode : snapshot.classes.node? id = some node) (hkey : node.name ∉ declared.classes.keys) :
    node.superclass = none ∧ node.interfaces = [] := by
  have hsound := sound_ofDeclarations h
  have hnone : declared.classes.get? node.name = none :=
    Option.not_isSome_iff_eq_none.1 (mt Catalog.get?_isSome_iff.1 hkey)
  have hblank : snapshot.classes.links node.name = DeclaredClass.blank := by
    rw [links_ofDeclarations h, linksOf, hnone, Option.getD_none]
  have hsuperclass := map_name?_superclass hsound (mem_of_node? hnode)
  have hinterfaces := map_name?_interfaces hsound (mem_of_node? hnode)
  rw [hblank] at hsuperclass hinterfaces
  exact ⟨Option.map_eq_none_iff.1 hsuperclass, List.map_eq_nil_iff.1 hinterfaces⟩

/-- The handle as it is kept, in 32 bits. -/
def ClassId.word (id : ClassId) : UInt32 := UInt32.ofNat id.index

/-- In a graph of fewer classes than there are words, a handle is kept as it is. -/
theorem ClassGraph.toNat_word {graph : ClassGraph} (hcount : graph.names.length < UInt32.size)
    {id : ClassId} {node : ClassNode} (hnode : graph.node? id = some node) :
    id.word.toNat = id.index := by
  have hlt : id.index < graph.nodes.length := (List.getElem?_eq_some_iff.1 hnode).1
  rw [length_names] at hcount
  exact UInt32.toNat_ofNat_of_lt' (Nat.lt_trans hlt hcount)

/-! ## Objects -/

/-- The handle of an object's class is one of the graph in which it was looked up. -/
theorem index_lt_of_outcome_eq_made {graph : ClassGraph} (hs : graph.Sound)
    {entity : DeclaredEntity} {id : ClassId} (h : (outcome graph entity).2 = .made id) :
    id.index < (outcome graph entity).1.names.length := by
  unfold outcome at h ⊢
  split at h
  · cases h
  · next hopen =>
    rw [if_neg hopen]
    split at h
    · cases h
    · next name hfailure hclass =>
      cases h
      exact index_lt_of_name? (name?_intern hs name)
    · cases h

/-- What is made is of a class of the graph. -/
theorem index_lt_of_mem_declareEntities {graph : ClassGraph} (hs : graph.Sound)
    {entities : List DeclaredEntity} {entry : EntityEntry} {id : ClassId}
    (hentry : entry ∈ (declareEntities graph entities).2) (hmade : entry.outcome = .made id) :
    id.index < (declareEntities graph entities).1.names.length := by
  induction entities generalizing graph with
  | nil => cases hentry
  | cons entity entities ih =>
    have hfirst := extends_outcome hs entity
    have hrest := extends_declareEntities hfirst.sound entities
    rw [declareEntities_cons] at hentry ⊢
    rcases List.mem_cons.1 hentry with rfl | hentry
    · exact Nat.lt_of_lt_of_le (index_lt_of_outcome_eq_made hs hmade) hrest.names.length_le
    · exact ih hfirst.sound hentry

/-- An object that the factory of a snapshot makes is of a class of the snapshot. -/
theorem index_lt_of_create {declared : Declarations} {snapshot : Snapshot}
    (h : ofDeclarations declared = .ok snapshot) {kind : Identifier} {id : ClassId}
    (hmade : snapshot.create kind = .ok (some id)) : id.index < snapshot.classes.names.length := by
  unfold create at hmade
  split at hmade
  · cases hmade
  · next entry hfind =>
    have hentry := List.mem_of_find?_eq_some hfind
    split at hmade
    · next found houtcome =>
      cases hmade
      obtain ⟨-, -, rfl⟩ := ofDeclarations_eq_ok_iff.1 h
      exact index_lt_of_mem_declareEntities (declareClasses_spec _ _).1 hentry houtcome
    all_goals cases hmade

/-! ## Handles that can be had -/

/-- The handles that can be got from a snapshot. -/
inductive Obtainable (snapshot : Snapshot) : ClassId → Prop
  /-- The handle of the root. -/
  | root : Obtainable snapshot snapshot.classes.rootId
  /-- A handle that a look-up finds. -/
  | lookup {name : String} {id : ClassId} :
      snapshot.classes.lookup name = some id → Obtainable snapshot id
  /-- The superclass of a class. -/
  | superclass {id above : ClassId} {node : ClassNode} : Obtainable snapshot id →
      snapshot.classes.node? id = some node → node.superclass = some above →
      Obtainable snapshot above
  /-- An interface of a class. -/
  | interfaces {id other : ClassId} {node : ClassNode} : Obtainable snapshot id →
      snapshot.classes.node? id = some node → other ∈ node.interfaces → Obtainable snapshot other
  /-- The class of an object that the factory makes. -/
  | made {kind : Identifier} {id : ClassId} :
      snapshot.create kind = .ok (some id) → Obtainable snapshot id

/-- Whatever handle can be had, there is a class for it. -/
theorem Obtainable.node?_eq_some {declared : Declarations} {snapshot : Snapshot}
    (h : ofDeclarations declared = .ok snapshot) {id : ClassId} (hid : Obtainable snapshot id) :
    ∃ node, snapshot.classes.node? id = some node := by
  have hsound := sound_ofDeclarations h
  refine exists_node?_of_lt ?_
  cases hid with
  | root => exact index_lt_of_name? (name?_rootId_ofDeclarations h)
  | lookup hlookup => exact index_lt_of_name? ((lookup_eq_some_iff hsound.aligned).1 hlookup)
  | superclass _ hnode habove => exact hsound.superclass_lt _ (mem_of_node? hnode) _ habove
  | interfaces _ hnode hother => exact hsound.interfaces_lt _ (mem_of_node? hnode) _ hother
  | made hmade => exact index_lt_of_create h hmade

end RegistrySchema.Snapshot

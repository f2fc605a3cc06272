import Mathlib.Logic.Function.Basic
import RegistrySchema.Proofs.Catalog
import RegistrySchema.Proofs.Snapshot.ClassNames

/-!
# The links of a snapshot's classes

A class graph says what each class extends and declares by handles, and handles depend on the order
in which names were first met. Read by names again, the links are just what was declared: a name
that was looked up keeps its handle, a new one starts without links, and declaring a class sets its
own links only.

So the graph of a snapshot *realizes* its declarations (`realizes_ofDeclarations`): names tell
types apart, the root is the type with the root's name, and interfaces and superclass of a type
have the names that the declaration of its class lists. A class without a declaration has none.
What carries this through loading is that a graph is `Sound`: its map of names is in step with the
classes, and no link leads out of it.
-/

namespace RegistrySchema

/-- What is seen of a graph by names: which declared links it has. -/
structure TypeGraph.Realizes {τ : Type} (graph : TypeGraph τ) (root : String)
    (links : String → Snapshot.DeclaredClass) : Prop where
  /-- Names tell types apart. -/
  injective : Function.Injective graph.name
  /-- The root is known by its name. -/
  isRoot : ∀ t, graph.isRoot t = true ↔ graph.name t = root
  /-- The names of the interfaces. -/
  interfaces : ∀ t, (graph.interfaces t).map graph.name = (links (graph.name t)).interfaces
  /-- The name of the superclass. -/
  superclass : ∀ t, (graph.superclass t).map graph.name = (links (graph.name t)).superclass

namespace Snapshot

/-- What is known of a class that is named but not declared. -/
def DeclaredClass.blank : DeclaredClass := ⟨none, []⟩

/-- The links that declarations give to a name. -/
def linksOf (classes : Catalog String DeclaredClass) (name : String) : DeclaredClass :=
  (classes.get? name).getD DeclaredClass.blank

namespace ClassGraph

/-- The links of a class by names. -/
def nodeLinks (graph : ClassGraph) (node : ClassNode) : DeclaredClass :=
  ⟨node.superclass.bind graph.name?, node.interfaces.filterMap graph.name?⟩

/-- The links of a name. -/
def links (graph : ClassGraph) (name : String) : DeclaredClass :=
  ((graph.nodes.find? fun node => node.name = name).map graph.nodeLinks).getD DeclaredClass.blank

/-- The map is in step with the classes, and links lead to classes of the graph. -/
structure Sound (graph : ClassGraph) : Prop where
  /-- The map leads from each name to its handle. -/
  aligned : graph.Aligned
  /-- Superclasses are classes of the graph. -/
  superclass_lt : ∀ node ∈ graph.nodes, ∀ id ∈ node.superclass, id.index < graph.names.length
  /-- Interfaces are classes of the graph. -/
  interfaces_lt : ∀ node ∈ graph.nodes, ∀ id ∈ node.interfaces, id.index < graph.names.length

/-- No two classes have one name. -/
theorem Sound.nodup {graph : ClassGraph} (hs : graph.Sound) : graph.names.Nodup := hs.aligned.nodup

/-! ## Handles and names -/

/-- A handle keeps its name when classes are added. -/
theorem name?_of_isPrefix {graph later : ClassGraph} (h : graph.names <+: later.names)
    {id : ClassId} (hid : id.index < graph.names.length) : later.name? id = graph.name? id := by
  obtain ⟨added, hadded⟩ := h
  rw [name?_eq, name?_eq, ← hadded, List.getElem?_append_left hid]

theorem index_lt_of_name? {graph : ClassGraph} {id : ClassId} {name : String}
    (h : graph.name? id = some name) : id.index < graph.names.length := by
  rw [name?_eq] at h
  exact (List.getElem?_eq_some_iff.1 h).1

theorem getElem_of_name? {graph : ClassGraph} {id : ClassId} {name : String}
    (h : graph.name? id = some name) :
    ∃ hlt : id.index < graph.nodes.length, graph.nodes[id.index].name = name := by
  obtain ⟨node, hnode, rfl⟩ := Option.map_eq_some_iff.1 h
  obtain ⟨hlt, rfl⟩ := List.getElem?_eq_some_iff.1 hnode
  exact ⟨hlt, rfl⟩

/-- Another handle is another name. -/
theorem name_ne_of_index_ne {graph : ClassGraph} (hnodup : graph.names.Nodup) {i j : Nat}
    (hi : i < graph.nodes.length) (hj : j < graph.nodes.length) (hne : i ≠ j) :
    graph.nodes[i].name ≠ graph.nodes[j].name := by
  intro hname
  have hnode : graph.nodes[i] = graph.nodes[j] :=
    List.inj_on_of_nodup_map hnodup (List.getElem_mem hi) (List.getElem_mem hj) hname
  exact hne ((hnodup.of_map _).getElem_inj_iff.1 hnode)

theorem name?_eq_some_of_isPrefix {graph later : ClassGraph} (h : graph.names <+: later.names)
    {id : ClassId} {name : String} (hid : graph.name? id = some name) :
    later.name? id = some name := by
  rw [name?_of_isPrefix h (index_lt_of_name? hid), hid]

theorem map_name?_of_isPrefix {graph later : ClassGraph} (h : graph.names <+: later.names)
    {ids : List ClassId} {found : List String} (hids : ids.map graph.name? = found.map some) :
    ids.map later.name? = found.map some := by
  rw [← hids]
  refine List.map_congr_left fun id hid => ?_
  obtain ⟨name, -, hname⟩ := List.mem_map.1 (hids ▸ List.mem_map_of_mem hid)
  rw [← hname, name?_eq_some_of_isPrefix h hname.symm]

theorem index_lt_of_map_name? {graph : ClassGraph} {ids : List ClassId} {found : List String}
    (hids : ids.map graph.name? = found.map some) : ∀ id ∈ ids, id.index < graph.names.length := by
  intro id hid
  obtain ⟨name, -, hname⟩ := List.mem_map.1 (hids ▸ List.mem_map_of_mem hid)
  exact index_lt_of_name? hname.symm

/-- Handles of names lead back to these names. -/
theorem filterMap_name? {graph : ClassGraph} {ids : List ClassId} {found : List String}
    (hids : ids.map graph.name? = found.map some) : ids.filterMap graph.name? = found := by
  have hfilter : ids.filterMap graph.name? = (ids.map graph.name?).filterMap id := by
    rw [List.filterMap_map]
    rfl
  rw [hfilter, hids, List.filterMap_map]
  exact List.filterMap_some

/-- The handle of a name that may be missing leads back to it. -/
theorem head?_bind_name? {graph : ClassGraph} {ids : List ClassId} {found : Option String}
    (hids : ids.map graph.name? = found.toList.map some) : ids.head?.bind graph.name? = found := by
  cases found with
  | none =>
    rw [List.map_eq_nil_iff.1 hids]
    rfl
  | some name =>
    obtain ⟨id, rfl, hid⟩ := List.map_eq_singleton_iff.1 hids
    exact hid

/-- The position of a handle is the type with the handle's name. -/
theorem map_name_position? (graph : ClassGraph) (id : ClassId) :
    (graph.position? id).map graph.types.name = graph.name? id := by
  unfold position?
  split
  · next h =>
    rw [name?, node?, List.getElem?_eq_getElem h]
    rfl
  · next h =>
    rw [name?, node?, List.getElem?_eq_none (Nat.le_of_not_lt h)]
    rfl

/-! ## The links of one graph -/

theorem links_of_mem {graph : ClassGraph} (hnodup : graph.names.Nodup) {node : ClassNode}
    (hnode : node ∈ graph.nodes) : graph.links node.name = graph.nodeLinks node := by
  have hfind : graph.nodes.find? (fun other => other.name = node.name) = some node :=
    find?_eq_some_of_nodup_map ClassNode.name hnodup hnode
  rw [links, hfind]
  rfl

theorem links_of_not_mem {graph : ClassGraph} {name : String} (h : name ∉ graph.names) :
    graph.links name = DeclaredClass.blank := by
  have hfind : graph.nodes.find? (fun node => node.name = name) = none := by
    refine List.find?_eq_none.2 fun node hnode hname => h ?_
    exact List.mem_map.2 ⟨node, hnode, of_decide_eq_true hname⟩
  rw [links, hfind]
  rfl

/-- The links of a class stay the same when classes are added. -/
theorem nodeLinks_of_isPrefix {graph later : ClassGraph} (hs : graph.Sound)
    (h : graph.names <+: later.names) {node : ClassNode} (hnode : node ∈ graph.nodes) :
    later.nodeLinks node = graph.nodeLinks node := by
  have hsuperclass : node.superclass.bind later.name? = node.superclass.bind graph.name? :=
    Option.bind_congr fun id hid => name?_of_isPrefix h (hs.superclass_lt node hnode id hid)
  have hinterfaces : node.interfaces.filterMap later.name? =
      node.interfaces.filterMap graph.name? :=
    List.filterMap_congr fun id hid => name?_of_isPrefix h (hs.interfaces_lt node hnode id hid)
  rw [nodeLinks, nodeLinks, hsuperclass, hinterfaces]

/-- A sound graph realizes its links, its root being the class with the root's name. -/
theorem realizes_types {graph : ClassGraph} (hs : graph.Sound) {root : String}
    (hroot : graph.name? graph.rootId = some root) : graph.types.Realizes root graph.links where
  injective := injective_name hs.nodup
  isRoot t := by
    rw [name?_eq] at hroot
    have hlt := (List.getElem?_eq_some_iff.1 hroot).1
    show decide (t.val = graph.rootId.index) = true ↔ _
    rw [decide_eq_true_iff]
    constructor
    · intro hindex
      have hname := graph.getElem?_names t
      rw [hindex, hroot] at hname
      exact (Option.some.inj hname).symm
    · -- No name stands twice, so the name of the root stands at its handle only.
      rintro rfl
      exact ((List.getElem?_inj hlt hs.nodup).1 (hroot.trans (graph.getElem?_names t).symm)).symm
  interfaces t := by
    rw [show graph.types.name t = (graph.nodes.get t).name from rfl,
      links_of_mem hs.nodup (List.get_mem _ t)]
    show List.map graph.types.name (List.filterMap _ _) = List.filterMap _ _
    rw [List.map_filterMap]
    exact List.filterMap_congr fun id _ => graph.map_name_position? id
  superclass t := by
    rw [show graph.types.name t = (graph.nodes.get t).name from rfl,
      links_of_mem hs.nodup (List.get_mem _ t)]
    show Option.map graph.types.name (Option.bind _ _) = Option.bind _ _
    rw [Option.map_bind]
    exact Option.bind_congr fun id _ => graph.map_name_position? id

/-! ## Adding classes -/

/-- A graph with classes added that have no links. -/
structure Extends (graph later : ClassGraph) : Prop where
  /-- The later graph is sound. -/
  sound : later.Sound
  /-- The classes that there were keep their handles. -/
  names : graph.names <+: later.names
  /-- No links are new. -/
  links : later.links = graph.links

theorem Sound.extends {graph : ClassGraph} (hs : graph.Sound) : graph.Extends graph :=
  ⟨hs, List.prefix_refl _, rfl⟩

theorem Extends.trans {graph later last : ClassGraph} (h : graph.Extends later)
    (h' : later.Extends last) : graph.Extends last :=
  ⟨h'.sound, h.names.trans h'.names, h'.links.trans h.links⟩

theorem isPrefix_names_withClass (graph : ClassGraph) (name : String) :
    graph.names <+: (graph.withClass name).names := ⟨[name], (graph.names_withClass name).symm⟩

theorem sound_withClass {graph : ClassGraph} (hs : graph.Sound) {name : String}
    (hnew : name ∉ graph.names) : (graph.withClass name).Sound := by
  have hle := (graph.isPrefix_names_withClass name).length_le
  refine ⟨aligned_withClass hs.aligned hnew, fun node hnode id hid => ?_,
    fun node hnode id hid => ?_⟩
  · rcases List.mem_append.1 hnode with hold | hadded
    · exact Nat.lt_of_lt_of_le (hs.superclass_lt node hold id hid) hle
    · obtain rfl := List.mem_singleton.1 hadded
      cases hid
  · rcases List.mem_append.1 hnode with hold | hadded
    · exact Nat.lt_of_lt_of_le (hs.interfaces_lt node hold id hid) hle
    · obtain rfl := List.mem_singleton.1 hadded
      cases hid

/-- A class that is added has no links, and those of the others stay. -/
theorem links_withClass {graph : ClassGraph} (hs : graph.Sound) {name : String}
    (hnew : name ∉ graph.names) : (graph.withClass name).links = graph.links := by
  have hnodup := (sound_withClass hs hnew).nodup
  funext other
  by_cases hother : other ∈ graph.names
  · obtain ⟨node, hnode, rfl⟩ := List.mem_map.1 hother
    rw [links_of_mem hs.nodup hnode, links_of_mem hnodup (List.mem_append_left _ hnode),
      nodeLinks_of_isPrefix hs (graph.isPrefix_names_withClass name) hnode]
  · rw [links_of_not_mem hother]
    by_cases hname : other = name
    · rw [hname]
      exact links_of_mem hnodup (List.mem_append_right _ (List.mem_singleton_self _))
    · refine links_of_not_mem ?_
      rw [names_withClass, List.mem_append, List.mem_singleton]
      exact not_or.2 ⟨hother, hname⟩

/-- Looking up a name adds a class without links, if any. -/
theorem extends_intern {graph : ClassGraph} (hs : graph.Sound) (name : String) :
    graph.Extends (graph.intern name).1 := by
  rw [fst_intern hs.aligned]
  split
  · exact hs.extends
  · next hnew =>
    exact ⟨sound_withClass hs hnew, graph.isPrefix_names_withClass name, links_withClass hs hnew⟩

/-- A name that is looked up has the handle that is returned. -/
theorem name?_intern {graph : ClassGraph} (hs : graph.Sound) (name : String) :
    (graph.intern name).1.name? (graph.intern name).2 = some name := by
  unfold intern
  cases hlookup : graph.lookup name with
  | some id => exact (lookup_eq_some_iff hs.aligned).1 hlookup
  | none =>
    -- The new class stands last, at the position that is its handle.
    show (graph.withClass name).name? _ = _
    rw [name?_eq, names_withClass, ← length_names, List.getElem?_concat_length]

theorem internAll_cons (graph : ClassGraph) (name : String) (found : List String) :
    graph.internAll (name :: found) =
      (((graph.intern name).1.internAll found).1,
        (graph.intern name).2 :: ((graph.intern name).1.internAll found).2) := rfl

theorem extends_internAll {graph : ClassGraph} (hs : graph.Sound) (found : List String) :
    graph.Extends (graph.internAll found).1 := by
  induction found generalizing graph with
  | nil => exact hs.extends
  | cons name found ih =>
    have hfirst := extends_intern hs name
    exact hfirst.trans (ih hfirst.sound)

/-- Names that are looked up have the handles that are returned. -/
theorem map_name?_internAll {graph : ClassGraph} (hs : graph.Sound) (found : List String) :
    (graph.internAll found).2.map (graph.internAll found).1.name? = found.map some := by
  induction found generalizing graph with
  | nil => rfl
  | cons name found ih =>
    have hfirst := extends_intern hs name
    have hrest := extends_internAll hfirst.sound found
    rw [internAll_cons, List.map_cons, ih hfirst.sound,
      name?_eq_some_of_isPrefix hrest.names (name?_intern hs name), List.map_cons]

/-! ## Declaring classes -/

theorem name?_link (graph : ClassGraph) (id : ClassId) (superclass : Option ClassId)
    (interfaces : List ClassId) : (graph.link id superclass interfaces).name? = graph.name? := by
  funext other
  rw [name?_eq, name?_eq, names_link]

theorem nodeLinks_link (graph : ClassGraph) (id : ClassId) (superclass : Option ClassId)
    (interfaces : List ClassId) (node : ClassNode) :
    (graph.link id superclass interfaces).nodeLinks node = graph.nodeLinks node := by
  rw [nodeLinks, nodeLinks, name?_link]

/-- Links that lead to classes of the graph leave it sound. -/
theorem sound_link {graph : ClassGraph} (hs : graph.Sound) (id : ClassId)
    {superclass : Option ClassId} {interfaces : List ClassId}
    (hsuperclass : ∀ other ∈ superclass, other.index < graph.names.length)
    (hinterfaces : ∀ other ∈ interfaces, other.index < graph.names.length) :
    (graph.link id superclass interfaces).Sound := by
  have hnode : ∀ node ∈ (graph.link id superclass interfaces).nodes,
      node ∈ graph.nodes ∨ node.superclass = superclass ∧ node.interfaces = interfaces := by
    intro node hnode
    obtain ⟨i, hi, rfl⟩ := List.mem_iff_getElem.1 hnode
    rw [link, List.length_modify] at hi
    simp only [link, List.getElem_modify]
    split
    · exact Or.inr ⟨rfl, rfl⟩
    · exact Or.inl (List.getElem_mem hi)
  refine ⟨(loads_link hs.aligned id superclass interfaces).aligned, ?_, ?_⟩
  · intro node hmem other hother
    rw [names_link]
    rcases hnode node hmem with hold | ⟨hlinks, -⟩
    · exact hs.superclass_lt node hold other hother
    · exact hsuperclass other (hlinks ▸ hother)
  · intro node hmem other hother
    rw [names_link]
    rcases hnode node hmem with hold | ⟨-, hlinks⟩
    · exact hs.interfaces_lt node hold other hother
    · exact hinterfaces other (hlinks ▸ hother)

/-- Linking a class sets its own links and no others. -/
theorem links_link {graph : ClassGraph} (hs : graph.Sound) {id : ClassId} {name : String}
    (hid : graph.name? id = some name) (superclass : Option ClassId) (interfaces : List ClassId) :
    (graph.link id superclass interfaces).links =
      Function.update graph.links name
        ⟨superclass.bind graph.name?, interfaces.filterMap graph.name?⟩ := by
  have hnodup : (graph.link id superclass interfaces).names.Nodup := by
    rw [names_link]
    exact hs.nodup
  obtain ⟨hlt, rfl⟩ := getElem_of_name? hid
  -- A name is that of the linked class, that of another class, or that of none.
  funext other
  by_cases hother : other ∈ graph.names
  · obtain ⟨node, hnode, rfl⟩ := List.mem_map.1 hother
    obtain ⟨i, hi, rfl⟩ := List.mem_iff_getElem.1 hnode
    have hi' : i < (graph.link id superclass interfaces).nodes.length := by
      rwa [link, List.length_modify]
    have hlinked := links_of_mem hnodup (List.getElem_mem hi')
    rw [nodeLinks_link] at hlinked
    by_cases hindex : id.index = i
    · subst hindex
      rw [Function.update_self]
      simpa [link, List.getElem_modify, nodeLinks] using hlinked
    · rw [Function.update_of_ne (name_ne_of_index_ne hs.nodup hi hlt (Ne.symm hindex)),
        links_of_mem hs.nodup (List.getElem_mem hi)]
      simpa [link, List.getElem_modify, hindex] using hlinked
  · have hne : other ≠ graph.nodes[id.index].name := by
      rintro rfl
      exact hother (List.mem_map_of_mem (List.getElem_mem hlt))
    rw [Function.update_of_ne hne, links_of_not_mem hother]
    refine links_of_not_mem ?_
    rwa [names_link]

end ClassGraph

open ClassGraph

/-- Declaring a class sets the links of its name. -/
theorem declareClass_spec {graph : ClassGraph} (hs : graph.Sound) (name : String)
    (declared : DeclaredClass) :
    (declareClass graph name declared).Sound ∧
      (declareClass graph name declared).links = Function.update graph.links name declared := by
  -- Three look-ups, one in the graph that the other leaves, and then the links.
  have hname := extends_intern hs name
  have hsuperclass := extends_internAll hname.sound declared.superclass.toList
  have hinterfaces := extends_internAll hsuperclass.sound declared.interfaces
  have hid := name?_eq_some_of_isPrefix (hsuperclass.trans hinterfaces).names (name?_intern hs name)
  have hids := map_name?_of_isPrefix hinterfaces.names
    (map_name?_internAll hname.sound declared.superclass.toList)
  have hids' := map_name?_internAll hsuperclass.sound declared.interfaces
  have hlinks := (hname.trans (hsuperclass.trans hinterfaces)).links
  have hdeclare : declareClass graph name declared =
      (((graph.intern name).1.internAll declared.superclass.toList).1.internAll
        declared.interfaces).1.link (graph.intern name).2
        ((graph.intern name).1.internAll declared.superclass.toList).2.head?
        (((graph.intern name).1.internAll declared.superclass.toList).1.internAll
          declared.interfaces).2 := rfl
  rw [hdeclare]
  generalize ((graph.intern name).1.internAll declared.superclass.toList).1.internAll
    declared.interfaces = result at *
  generalize ((graph.intern name).1.internAll declared.superclass.toList).2 = ids at *
  refine ⟨sound_link hinterfaces.sound _ (fun id hid => ?_) (index_lt_of_map_name? hids'), ?_⟩
  · exact index_lt_of_map_name? hids id (List.mem_of_mem_head? hid)
  · rw [links_link hinterfaces.sound hid, hlinks, head?_bind_name? hids, filterMap_name? hids']

/-- Declaring classes with distinct names sets the links of each of these names. -/
theorem foldl_declareClass_spec {entries : List (String × DeclaredClass)}
    (hnodup : (entries.map Prod.fst).Nodup) {graph : ClassGraph} (hs : graph.Sound) :
    (entries.foldl (fun graph entry => declareClass graph entry.1 entry.2) graph).Sound ∧
      ∀ name, (entries.foldl (fun graph entry => declareClass graph entry.1 entry.2) graph).links
          name =
        ((entries.find? fun entry => entry.1 = name).map Prod.snd).getD (graph.links name) := by
  induction entries generalizing graph with
  | nil => exact ⟨hs, fun _ => rfl⟩
  | cons entry entries ih =>
    obtain ⟨hnew, hnodup⟩ := List.nodup_cons.1 hnodup
    obtain ⟨hsound, hlinks⟩ := declareClass_spec hs entry.1 entry.2
    obtain ⟨hsound', hlinks'⟩ := ih hnodup hsound
    refine ⟨hsound', fun name => ?_⟩
    rw [List.foldl_cons, hlinks', hlinks]
    by_cases hname : entry.1 = name
    · -- The name is not declared again.
      subst hname
      have hnone : entries.find? (fun other => other.1 = entry.1) = none := by
        refine List.find?_eq_none.2 fun other hother hsame => hnew ?_
        exact List.mem_map.2 ⟨other, hother, of_decide_eq_true hsame⟩
      rw [hnone, List.find?_cons_of_pos (by simp), Function.update_self]
      rfl
    · rw [List.find?_cons_of_neg (by simpa using hname), Function.update_of_ne (Ne.symm hname)]

/-- The root alone has no links. -/
theorem sound_ofRoot (root : String) : (ofRoot root).Sound := by
  refine ⟨(ofRoot_spec root).1, ?_, ?_⟩
  all_goals
    intro node hnode id hid
    obtain rfl := List.mem_singleton.1 hnode
    cases hid

theorem links_ofRoot (root name : String) : (ofRoot root).links name = DeclaredClass.blank := by
  by_cases hname : name = root
  · rw [hname]
    exact links_of_mem (sound_ofRoot root).nodup (List.mem_singleton_self _)
  · refine links_of_not_mem ?_
    rw [(ofRoot_spec root).2.2]
    exact fun hmem => hname (List.mem_singleton.1 hmem)

/-- The graph of declared classes has the links that are declared. -/
theorem declareClasses_spec (root : String) (classes : Catalog String DeclaredClass) :
    (declareClasses root classes).Sound ∧
      (declareClasses root classes).links = linksOf classes := by
  have hkeys := extends_internAll (sound_ofRoot root) classes.keys
  obtain ⟨hsound, hlinks⟩ := foldl_declareClass_spec classes.nodup hkeys.sound
  refine ⟨hsound, funext fun name => (hlinks name).trans ?_⟩
  rw [hkeys.links, links_ofRoot]
  rfl

/-- Entities add no links. -/
theorem extends_outcome {graph : ClassGraph} (hs : graph.Sound) (entity : DeclaredEntity) :
    graph.Extends (outcome graph entity).1 := by
  unfold outcome
  split
  · exact hs.extends
  · split
    · exact hs.extends
    · next name _ _ => exact extends_intern hs name
    · exact hs.extends

theorem declareEntities_cons (graph : ClassGraph) (entity : DeclaredEntity)
    (entities : List DeclaredEntity) :
    declareEntities graph (entity :: entities) =
      ((declareEntities (outcome graph entity).1 entities).1,
        ⟨entity.id, (outcome graph entity).2⟩ ::
          (declareEntities (outcome graph entity).1 entities).2) := rfl

theorem extends_declareEntities {graph : ClassGraph} (hs : graph.Sound)
    (entities : List DeclaredEntity) : graph.Extends (declareEntities graph entities).1 := by
  induction entities generalizing graph with
  | nil => exact hs.extends
  | cons entity entities ih =>
    have hfirst := extends_outcome hs entity
    exact hfirst.trans (ih hfirst.sound)

/-- The class graph of a snapshot has distinct names and no dangling links. -/
theorem sound_ofDeclarations {declared : Declarations} {snapshot : Snapshot}
    (h : ofDeclarations declared = .ok snapshot) : snapshot.classes.Sound := by
  obtain ⟨-, -, rfl⟩ := ofDeclarations_eq_ok_iff.1 h
  exact (extends_declareEntities (declareClasses_spec _ _).1 declared.entities).sound

/-- By names, the links of a snapshot's classes are those that are declared. -/
theorem links_ofDeclarations {declared : Declarations} {snapshot : Snapshot}
    (h : ofDeclarations declared = .ok snapshot) :
    snapshot.classes.links = linksOf declared.classes := by
  obtain ⟨hsound, hlinks⟩ := declareClasses_spec declared.root declared.classes
  obtain ⟨-, -, rfl⟩ := ofDeclarations_eq_ok_iff.1 h
  exact (extends_declareEntities hsound declared.entities).links.trans hlinks

/-- The handle of the root is that of the root's name, which comes first. -/
theorem name?_rootId_ofDeclarations {declared : Declarations} {snapshot : Snapshot}
    (h : ofDeclarations declared = .ok snapshot) :
    snapshot.classes.name? snapshot.classes.rootId = some declared.root := by
  rw [rootId_ofDeclarations h, name?_eq, names_ofDeclarations h]
  rfl

/-- The types of a snapshot have the names and links that its declarations give them. -/
theorem realizes_ofDeclarations {declared : Declarations} {snapshot : Snapshot}
    (h : ofDeclarations declared = .ok snapshot) :
    snapshot.classes.types.Realizes declared.root (linksOf declared.classes) := by
  rw [← links_ofDeclarations h]
  exact realizes_types (sound_ofDeclarations h) (name?_rootId_ofDeclarations h)

end Snapshot

end RegistrySchema

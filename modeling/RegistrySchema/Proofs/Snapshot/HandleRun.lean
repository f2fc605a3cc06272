import RegistrySchema.Extraction
import RegistrySchema.Proofs.Snapshot.Handles

/-!
# Extracting by handles

A class graph answers questions about handles, and a question about a handle without a class has no
answer: it ends the run. Here an extraction is run in this way, on the handles as they are stored,
and every question can fail. For a snapshot it never does, and it finds what the extraction over
the types of the snapshot finds (`Extraction.ofHandles_eq_ok`), where links that lead nowhere could
not even be seen.

A type is a position with a class, so it has a handle, and in a graph without dangling links the
links of a class are the handles of the links of its type. From there on the two runs go side by
side.
-/

namespace RegistrySchema

namespace Snapshot

namespace ClassGraph

/-! ## Questions about handles -/

/-- The class of a handle. A handle without a class is an error of its own. -/
def ask (graph : ClassGraph) (id : ClassId) : Except ClassId ClassNode :=
  match graph.node? id with
  | some node => .ok node
  | none => .error id

/-- The handles that have a class. -/
def handles (graph : ClassGraph) : List ClassId := (List.range graph.size).map ClassId.mk

theorem mem_handles_of_node? {graph : ClassGraph} {id : ClassId} {node : ClassNode}
    (h : graph.node? id = some node) : id ∈ graph.handles :=
  List.mem_map.2 ⟨id.index, List.mem_range.2 (List.getElem?_eq_some_iff.1 h).1, rfl⟩

/-- The way up from a class by handles, given the handles met so far. -/
def climbHandles (graph : ClassGraph) (met : List ClassId) :
    Option ClassId → Except ClassId (List ClassId)
  | none => .ok []
  | some id =>
    if id = graph.rootId ∨ id ∈ met then .ok []
    else
      match _h : graph.node? id with
      | none => .error id
      | some node => do
        let found := firstsAfter (id :: met) node.interfaces
        let above ← climbHandles graph (found ++ id :: met) node.superclass
        return id :: found ++ above
  termination_by (TypeGraph.unmetIn met graph.handles).length
  decreasing_by
    rename_i hgo
    exact TypeGraph.length_unmetIn_lt (fun hmem => hgo (Or.inr hmem)) (by simp)
      (fun other hother => by simp [hother]) (mem_handles_of_node? _h)

/-- The handles of the ancestors of a class. -/
def ancestorHandles (graph : ClassGraph) (id : ClassId) : Except ClassId (List ClassId) := do
  let node ← graph.ask id
  let found := firstsAfter [id] node.interfaces
  let above ← graph.climbHandles (found ++ [id]) node.superclass
  return found ++ above

/-- The source path of the class of a handle. -/
def pathOfHandle (graph : ClassGraph) (id : ClassId) : Except ClassId SourcePath := do
  let node ← graph.ask id
  return SourcePath.ofQualifiedName node.name

/-- The source paths of the ancestors, each once. -/
def lineageOfHandle (graph : ClassGraph) (id : ClassId) : Except ClassId (List SourcePath) := do
  let above ← graph.ancestorHandles id
  let paths ← above.mapM graph.pathOfHandle
  return firsts paths

/-- Enter the class of a handle with its lineage, which is asked for only if the class is new. -/
def enterHandle (graph : ClassGraph) (table : ClassTable) (id : ClassId) :
    Except ClassId ClassTable := do
  let path ← graph.pathOfHandle id
  if table.contains path then return table
  else
    let lineage ← graph.lineageOfHandle id
    return table.insert path lineage

/-- Enter the class of a handle and then its ancestors. -/
def collectHandle (graph : ClassGraph) (table : ClassTable) (id : ClassId) :
    Except ClassId ClassTable := do
  let above ← graph.ancestorHandles id
  let path ← graph.pathOfHandle id
  let lineage ← graph.lineageOfHandle id
  above.foldlM graph.enterHandle (table.insert path lineage)

end ClassGraph

/-- Take in the factory's answer for a kind, an object being of the class of a handle. -/
def receiveHandle (snapshot : Snapshot) (settings : Settings) (walk : EntityWalk)
    (kind : Identifier) : Except SpawnError (Option ClassId) → Except ClassId EntityWalk
  | .error err => return walk.receive snapshot.classes.types settings kind (.error err)
  | .ok none => return walk.receive snapshot.classes.types settings kind (.ok none)
  | .ok (some id) => do
    let classes ← snapshot.classes.collectHandle walk.classes id
    let path ← snapshot.classes.pathOfHandle id
    return { walk with records := walk.records ++ [⟨settings.kindName kind, some path⟩], classes }

/-- Take in one registry entry, asking about handles. -/
def visitHandle (snapshot : Snapshot) (settings : Settings) (walk : EntityWalk) :
    Except AccessError Identifier → Except ClassId EntityWalk
  | .error err => return walk.skip ("skipping entity entry: " ++ err.message)
  | .ok kind =>
    if kind = settings.player then
      return walk.skip ("skipping player kind `" ++ kind.text ++ "`")
    else
      snapshot.receiveHandle settings
        { walk with requests := walk.requests ++ [(kind, settings.world)] } kind
        (snapshot.create kind)

/-- The walk over the entity kinds of a snapshot by handles. -/
def walkHandles (snapshot : Snapshot) (settings : Settings) : Except ClassId EntityWalk := do
  let walk ← snapshot.entityRegistry.foldlM (snapshot.visitHandle settings) EntityWalk.empty
  return walk.finish

end Snapshot

/-- Extract from a snapshot by handles. -/
def Extraction.ofHandles (snapshot : Snapshot) (settings : Settings) :
    Except Snapshot.ClassId Extraction := do
  let entities ← snapshot.walkHandles settings
  return ofWalks (BlockWalk.run Overrides.wellKnown settings Catalog.empty snapshot.blocks) entities

namespace Snapshot

/-! ## Types and their handles -/

namespace ClassGraph

variable {graph : ClassGraph}

/-- The handle of a type. -/
def handle (t : Fin graph.size) : ClassId := ⟨t.val⟩

theorem handle_injective : Function.Injective (@handle graph) := by
  intro s t h
  exact Fin.ext (congrArg ClassId.index h)

theorem ask_handle (t : Fin graph.size) : graph.ask (handle t) = .ok (graph.nodes.get t) := by
  rw [ask, node?, handle, List.getElem?_eq_getElem t.isLt]
  rfl

/-- A handle within bounds is that of its position. -/
theorem map_handle_position? {id : ClassId} (h : id.index < graph.names.length) :
    (graph.position? id).map handle = some id := by
  have hsize : id.index < graph.size := by rwa [length_names] at h
  rw [position?, dif_pos hsize]
  rfl

/-- The interfaces of a class are the handles of the interfaces of its type. -/
theorem interfaces_get (hs : graph.Sound) (t : Fin graph.size) :
    (graph.nodes.get t).interfaces = (graph.types.interfaces t).map handle := by
  have hlt := hs.interfaces_lt _ (List.get_mem graph.nodes t)
  -- None of the interfaces is dropped on the way to positions.
  calc (graph.nodes.get t).interfaces
      = (graph.nodes.get t).interfaces.filterMap some := List.filterMap_some.symm
    _ = (graph.nodes.get t).interfaces.filterMap fun id => (graph.position? id).map handle :=
        List.filterMap_congr fun id hid => (map_handle_position? (hlt id hid)).symm
    _ = (graph.types.interfaces t).map handle := List.map_filterMap.symm

/-- The superclass of a class is the handle of the superclass of its type. -/
theorem superclass_get (hs : graph.Sound) (t : Fin graph.size) :
    (graph.nodes.get t).superclass = (graph.types.superclass t).map handle := by
  have hlt := hs.superclass_lt _ (List.get_mem graph.nodes t)
  calc (graph.nodes.get t).superclass
      = (graph.nodes.get t).superclass.bind some := (Option.bind_fun_some _).symm
    _ = (graph.nodes.get t).superclass.bind fun id => (graph.position? id).map handle :=
        Option.bind_congr fun id hid => (map_handle_position? (hlt id hid)).symm
    _ = (graph.types.superclass t).map handle := Option.map_bind.symm

theorem isRoot_iff (t : Fin graph.size) :
    graph.types.isRoot t = true ↔ handle t = graph.rootId := by
  show decide (t.val = graph.rootId.index) = true ↔ _
  rw [decide_eq_true_iff]
  exact ⟨fun h => congrArg ClassId.mk h, fun h => congrArg ClassId.index h⟩

/-- What is new among the interfaces of a class, by handles and by types. -/
theorem firstsAfter_interfaces_get (hs : graph.Sound) (met : List (Fin graph.size))
    (t : Fin graph.size) :
    firstsAfter (met.map handle) (graph.nodes.get t).interfaces =
      (firstsAfter met (graph.types.interfaces t)).map handle := by
  rw [interfaces_get hs, firstsAfter_map handle_injective]

/-- One step of a walk upwards by handles. -/
theorem climbHandles_of_node? {met : List ClassId} {id : ClassId} {node : ClassNode}
    (hgo : ¬ (id = graph.rootId ∨ id ∈ met)) (hnode : graph.node? id = some node) :
    graph.climbHandles met (some id) =
      (graph.climbHandles (firstsAfter (id :: met) node.interfaces ++ id :: met)
        node.superclass).map
          fun above => id :: firstsAfter (id :: met) node.interfaces ++ above := by
  rw [climbHandles, if_neg hgo]
  split
  · next hnone => exact absurd (hnode.symm.trans hnone) (Option.some_ne_none node)
  · next other hother =>
    obtain rfl : node = other := Option.some.inj (hnode.symm.trans hother)
    dsimp only
    cases graph.climbHandles (firstsAfter (id :: met) node.interfaces ++ id :: met)
      node.superclass <;> rfl

/-! ## The two runs side by side -/

/-- Walks upwards by handles and by types meet the same classes. -/
theorem climbHandles_eq_ok (hs : graph.Sound) (met : List (Fin graph.size))
    (start : Option (Fin graph.size)) :
    graph.climbHandles (met.map handle) (start.map handle) =
      .ok ((graph.types.climb met start).map handle) := by
  induction met, start using TypeGraph.climb.induct graph.types with
  | case1 met => rw [Option.map_none, climbHandles, TypeGraph.climb, List.map_nil]
  | case2 met t hstop =>
    have hstop' : handle t = graph.rootId ∨ handle t ∈ met.map handle :=
      hstop.imp (isRoot_iff t).1 List.mem_map_of_mem
    rw [Option.map_some, climbHandles, if_pos hstop', TypeGraph.climb, if_pos hstop, List.map_nil]
  | case3 met t hgo ih =>
    have hgo' : ¬ (handle t = graph.rootId ∨ handle t ∈ met.map handle) := by
      rw [List.mem_map_of_injective handle_injective, ← isRoot_iff]
      exact hgo
    have hnode : graph.node? (handle t) = some (graph.nodes.get t) :=
      List.getElem?_eq_getElem t.isLt
    rw [Option.map_some, climbHandles_of_node? hgo' hnode, ← List.map_cons,
      firstsAfter_interfaces_get hs, superclass_get hs, ← List.map_append, ih, TypeGraph.climb,
      if_neg hgo, List.map_append, List.map_cons]
    rfl

/-- The ancestors by handles are the handles of the ancestors. -/
theorem ancestorHandles_eq_ok (hs : graph.Sound) (t : Fin graph.size) :
    graph.ancestorHandles (handle t) = .ok ((graph.types.ancestors t).map handle) := by
  have hfound := firstsAfter_interfaces_get hs [t] t
  have hclimb := climbHandles_eq_ok hs (firstsAfter [t] (graph.types.interfaces t) ++ [t])
    (graph.types.superclass t)
  rw [List.map_singleton] at hfound
  rw [List.map_append, List.map_singleton] at hclimb
  rw [ancestorHandles, ask_handle, TypeGraph.ancestors, List.map_append]
  show (do
    let above ← graph.climbHandles (firstsAfter [handle t] (graph.nodes.get t).interfaces ++
      [handle t]) (graph.nodes.get t).superclass
    return firstsAfter [handle t] (graph.nodes.get t).interfaces ++ above) = _
  rw [hfound, superclass_get hs, hclimb]
  rfl

theorem pathOfHandle_eq_ok (t : Fin graph.size) :
    graph.pathOfHandle (handle t) = .ok (graph.types.sourcePath t) := by
  rw [pathOfHandle, ask_handle]
  rfl

theorem lineageOfHandle_eq_ok (hs : graph.Sound) (t : Fin graph.size) :
    graph.lineageOfHandle (handle t) = .ok (graph.types.lineage t) := by
  have hpaths : ((graph.types.ancestors t).map handle).mapM graph.pathOfHandle =
      .ok ((graph.types.ancestors t).map graph.types.sourcePath) := by
    rw [List.mapM_map, show graph.pathOfHandle ∘ handle = fun t => pure (graph.types.sourcePath t)
      from funext pathOfHandle_eq_ok]
    exact List.mapM_pure
  rw [lineageOfHandle, ancestorHandles_eq_ok hs]
  show (do
    let paths ← ((graph.types.ancestors t).map handle).mapM graph.pathOfHandle
    return firsts paths) = _
  rw [hpaths]
  rfl

/-- A class that is known already is left as it is, as by an insertion. -/
theorem enterHandle_eq_ok (hs : graph.Sound) (table : ClassTable) (t : Fin graph.size) :
    graph.enterHandle table (handle t) = .ok (ClassTable.enter graph.types table t) := by
  rw [enterHandle, pathOfHandle_eq_ok, lineageOfHandle_eq_ok hs]
  show (if table.contains (graph.types.sourcePath t) = true then Except.ok table
    else Except.ok (table.insert (graph.types.sourcePath t) (graph.types.lineage t))) = _
  split
  · next hknown =>
    rw [ClassTable.enter, Catalog.insert_of_mem _ (of_decide_eq_true hknown)]
  · rfl

theorem collectHandle_eq_ok (hs : graph.Sound) (table : ClassTable) (t : Fin graph.size) :
    graph.collectHandle table (handle t) = .ok (ClassTable.collect graph.types table t) := by
  rw [collectHandle, ancestorHandles_eq_ok hs, pathOfHandle_eq_ok, lineageOfHandle_eq_ok hs]
  show ((graph.types.ancestors t).map handle).foldlM graph.enterHandle
    (ClassTable.enter graph.types table t) = _
  rw [List.foldlM_map, show (fun table t => graph.enterHandle table (handle t)) =
    fun table t => pure (ClassTable.enter graph.types table t) from
      funext fun table => funext fun t => enterHandle_eq_ok hs table t]
  exact List.foldlM_pure

end ClassGraph

open ClassGraph

variable {declared : Declarations} {snapshot : Snapshot}

/-- The factory by handles makes the handles of what the factory makes. -/
theorem create_eq_map_factory (h : ofDeclarations declared = .ok snapshot)
    (kind world : Identifier) :
    snapshot.create kind = (snapshot.factory kind world).map (Option.map handle) := by
  rw [factory]
  cases hmade : snapshot.create kind with
  | error err => rfl
  | ok id? =>
    cases id? with
    | none => rfl
    | some id => exact congrArg Except.ok (map_handle_position? (index_lt_of_create h hmade)).symm

theorem receiveHandle_eq_ok (hs : snapshot.classes.Sound) (settings : Settings)
    (walk : EntityWalk) (kind : Identifier)
    (answer : Except SpawnError (Option (Fin snapshot.classes.size))) :
    snapshot.receiveHandle settings walk kind (answer.map (Option.map handle)) =
      .ok (walk.receive snapshot.classes.types settings kind answer) := by
  rcases answer with err | _ | t
  · rfl
  · rfl
  · show snapshot.receiveHandle settings walk kind (.ok (some (handle t))) = _
    rw [receiveHandle, collectHandle_eq_ok hs, pathOfHandle_eq_ok]
    rfl

theorem visitHandle_eq_ok (h : ofDeclarations declared = .ok snapshot) (settings : Settings)
    (walk : EntityWalk) (entry : Except AccessError Identifier) :
    snapshot.visitHandle settings walk entry =
      .ok (EntityWalk.visit snapshot.classes.types snapshot.factory settings walk entry) := by
  cases entry with
  | error err => rfl
  | ok kind =>
    rw [visitHandle, EntityWalk.visit]
    split
    · rfl
    · rw [create_eq_map_factory h kind settings.world,
        receiveHandle_eq_ok (sound_ofDeclarations h)]

/-- The walk by handles asks about no handle without a class. -/
theorem walkHandles_eq_ok (h : ofDeclarations declared = .ok snapshot) (settings : Settings) :
    snapshot.walkHandles settings =
      .ok (EntityWalk.run snapshot.classes.types snapshot.factory settings
        snapshot.entityRegistry) := by
  rw [walkHandles, show snapshot.visitHandle settings = fun walk entry =>
    pure (EntityWalk.visit snapshot.classes.types snapshot.factory settings walk entry) from
      funext fun walk => funext fun entry => visitHandle_eq_ok h settings walk entry,
    List.foldlM_pure]
  rfl

end Snapshot

open Snapshot

/-- Extracting by handles asks about no handle without a class, and finds the same. -/
theorem Extraction.ofHandles_eq_ok {declared : Declarations} {snapshot : Snapshot}
    (h : ofDeclarations declared = .ok snapshot) (settings : Settings) :
    ofHandles snapshot settings = .ok (ofSnapshot snapshot settings) := by
  rw [ofHandles, walkHandles_eq_ok h]
  rfl

namespace Snapshot

open ClassGraph

/-! ## The class graph of a snapshot -/

/-- The class graph of a snapshot. Its classes have distinct names and stand in the order in which
the declarations first mention them; the map that is kept beside them has exactly these names, each
with its handle, so that looking a name up and reading the name of a handle undo each other; a
declared class has the superclass and the interfaces that are declared, in their order and with
repetitions, and any other class has none; the handle that is kept for the root is the first one,
and has its name. So every handle that can be had is that of a class, and no run by handles ends
with a question that has no answer. -/
theorem classes_ofDeclarations {declared : Declarations} {snapshot : Snapshot}
    (h : ofDeclarations declared = .ok snapshot)
    (hcount : (firsts declared.classNames).length < UInt32.size) :
    let graph := snapshot.classes
    (graph.names.Nodup ∧ graph.names = firsts declared.classNames) ∧
      graph.byName.entries = (graph.names.zipIdx.map fun entry => (entry.1, ⟨entry.2⟩)) ∧
      (∀ name id, graph.lookup name = some id ↔ graph.name? id = some name) ∧
      (∀ name links, declared.classes.get? name = some links →
        ∃ id node, graph.lookup name = some id ∧ graph.node? id = some node ∧
          node.superclass.map graph.name? = links.superclass.map some ∧
          node.interfaces.map graph.name? = links.interfaces.map some) ∧
      (∀ id node, graph.node? id = some node → node.name ∉ declared.classes.keys →
        node.superclass = none ∧ node.interfaces = []) ∧
      (graph.rootId = ⟨0⟩ ∧ graph.name? graph.rootId = some declared.root) ∧
      (∀ id, Obtainable snapshot id →
        ∃ node, graph.ask id = .ok node ∧ id.word.toNat = id.index) ∧
      ∀ settings, Extraction.ofHandles snapshot settings =
        .ok (Extraction.ofSnapshot snapshot settings) := by
  intro graph
  have haligned : graph.Aligned := aligned_ofDeclarations h
  have hnames : graph.names = firsts declared.classNames := names_eq_firsts_classNames h
  refine ⟨⟨haligned.nodup, hnames⟩, haligned, fun _ _ => lookup_eq_some_iff haligned,
    fun _ _ hget => exists_node_of_declared h hget,
    fun _ _ hnode hkey => leaf_of_not_declared h hnode hkey,
    ⟨rootId_ofDeclarations h, name?_rootId_ofDeclarations h⟩, ?_, Extraction.ofHandles_eq_ok h⟩
  -- What can be had has a class, so its handle is small enough to be kept as it is.
  intro id hid
  obtain ⟨node, hnode⟩ := hid.node?_eq_some h
  refine ⟨node, ?_, toNat_word (hnames ▸ hcount) hnode⟩
  rw [ask, hnode]

/-- Classes that mention themselves, each other and a name without a declaration, one interface
twice, and the root as a declared class; one entity's class is not looked at. -/
def declaredKnotted : Declarations where
  blocks := []
  entities := [⟨⟨"minecraft", "pig"⟩, some "host.Pig", none, false⟩,
    ⟨⟨"minecraft", "ghost"⟩, some "host.Ghost", some .access, false⟩,
    ⟨⟨"minecraft", "cow"⟩, some "host.Cow", none, false⟩]
  classes := ⟨[("host.Cow", ⟨some "host.Animal", ["host.Named", "host.Cow", "host.Named"]⟩),
    ("host.Root", ⟨some "host.Root", ["host.Cow"]⟩)], by decide⟩
  root := "host.Root"

/-- The root has the first handle though it is declared last, and the class of the pig the last. -/
theorem classes_ofDeclarations_knotted :
    ∃ snapshot, ofDeclarations declaredKnotted = .ok snapshot ∧
      (firsts declaredKnotted.classNames).length < UInt32.size ∧
      snapshot.classes.names =
        ["host.Root", "host.Cow", "host.Animal", "host.Named", "host.Pig"] ∧
      snapshot.classes.byName.entries = [("host.Root", ⟨0⟩), ("host.Cow", ⟨1⟩),
        ("host.Animal", ⟨2⟩), ("host.Named", ⟨3⟩), ("host.Pig", ⟨4⟩)] ∧
      (snapshot.classes.rootId = ⟨0⟩ ∧ snapshot.classes.lookup "host.Root" = some ⟨0⟩ ∧
        snapshot.classes.lookup "host.Ghost" = none) ∧
      (∃ id node, snapshot.classes.lookup "host.Cow" = some id ∧
        snapshot.classes.node? id = some node ∧
        node.interfaces.map snapshot.classes.name? =
          [some "host.Named", some "host.Cow", some "host.Named"]) ∧
      (∃ node, snapshot.classes.ask ⟨4⟩ = .ok node) ∧
      Extraction.ofHandles snapshot {} = .ok (Extraction.ofSnapshot snapshot {}) := by
  have hload : ofDeclarations declaredKnotted = .ok (ofDistinct declaredKnotted) := rfl
  have hcount : (firsts declaredKnotted.classNames).length < UInt32.size := by decide +kernel
  have hpig : (ofDistinct declaredKnotted).create ⟨"minecraft", "pig"⟩ = .ok (some ⟨4⟩) := by
    decide +kernel
  obtain ⟨⟨-, hnames⟩, hmap, hlookup, hlinks, -, ⟨hrootId, hroot⟩, hhandles, hrun⟩ :=
    classes_ofDeclarations hload hcount
  have hlist : (ofDistinct declaredKnotted).classes.names =
      ["host.Root", "host.Cow", "host.Animal", "host.Named", "host.Pig"] :=
    hnames.trans (by decide +kernel)
  have hghost : (ofDistinct declaredKnotted).classes.lookup "host.Ghost" = none := by
    decide +kernel
  obtain ⟨id, node, hid, hnode, -, hinterfaces⟩ := hlinks "host.Cow" _ rfl
  obtain ⟨pig, hasked, -⟩ := hhandles _ (.made hpig)
  rw [hrootId] at hroot
  rw [hlist] at hmap
  exact ⟨_, hload, hcount, hlist, hmap, ⟨hrootId, (hlookup _ _).2 hroot, hghost⟩,
    ⟨id, node, hid, hnode, hinterfaces⟩, ⟨pig, hasked⟩, hrun {}⟩

end Snapshot

end RegistrySchema

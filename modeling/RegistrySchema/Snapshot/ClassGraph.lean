import RegistrySchema.Catalog
import RegistrySchema.Host

/-!
# The class graph of a snapshot

The classes of a snapshot with their links, each class under a handle: its position in the order
in which the names were first met. A map beside the classes finds the handle of a name, and the
handle of the root is kept. A class that is named but never declared has no links.
-/

namespace RegistrySchema.Snapshot

/-- A handle of a class. -/
structure ClassId where
  /-- The position of the class. -/
  index : Nat
  deriving DecidableEq, Inhabited, Repr

/-- A class. -/
structure ClassNode where
  /-- Its qualified name. -/
  name : String
  /-- Its superclass. -/
  superclass : Option ClassId
  /-- The interfaces that it declares. -/
  interfaces : List ClassId
  deriving DecidableEq, Inhabited, Repr

/-- The classes, with what is kept to find them. -/
structure ClassGraph where
  /-- The classes in the order of their handles. -/
  nodes : List ClassNode
  /-- The handles by name. -/
  byName : Catalog String ClassId
  /-- The handle of the root class. -/
  rootId : ClassId
  deriving DecidableEq, Inhabited

namespace ClassGraph

/-- The first handle. -/
def root : ClassId := ⟨0⟩

/-- The graph without classes. -/
def empty : ClassGraph := ⟨[], Catalog.empty, root⟩

/-- Number of classes. -/
def size (graph : ClassGraph) : Nat := graph.nodes.length

/-- The class of a handle. -/
def node? (graph : ClassGraph) (id : ClassId) : Option ClassNode := graph.nodes[id.index]?

/-- The handle of a name, by the map. -/
def lookup (graph : ClassGraph) (name : String) : Option ClassId := graph.byName.get? name

/-- The graph with one class more, without links and under the next handle. -/
def withClass (graph : ClassGraph) (name : String) : ClassGraph :=
  { graph with
    nodes := graph.nodes ++ [⟨name, none, []⟩]
    byName := graph.byName.put name ⟨graph.nodes.length⟩ }

/-- The handle of a name, which is added without links if it is new. -/
def intern (graph : ClassGraph) (name : String) : ClassGraph × ClassId :=
  match graph.lookup name with
  | some id => (graph, id)
  | none => (graph.withClass name, ⟨graph.nodes.length⟩)

/-- The handles of names, one after the other. -/
def internAll (graph : ClassGraph) : List String → ClassGraph × List ClassId
  | [] => (graph, [])
  | name :: names =>
    let (graph, id) := graph.intern name
    let (graph, ids) := graph.internAll names
    (graph, id :: ids)

/-- Give a class its links. -/
def link (graph : ClassGraph) (id : ClassId) (superclass : Option ClassId)
    (interfaces : List ClassId) : ClassGraph :=
  { graph with
    nodes := graph.nodes.modify id.index fun node => { node with superclass, interfaces } }

/-- The graph of a root alone. -/
def ofRoot (name : String) : ClassGraph :=
  let (graph, id) := empty.intern name
  { graph with rootId := id }

/-- The qualified name of a handle. A handle of another graph may have none. -/
def name? (graph : ClassGraph) (id : ClassId) : Option String := (graph.node? id).map ClassNode.name

/-- The wording for a handle without a class. -/
def foreignMessage (id : ClassId) : String :=
  "ClassGraph: class ClassId(" ++ toString id.index
    ++ ") not found (ids are only handed out by the graph that owns them)"

/-- The position of a handle, if it is a handle of the graph. -/
def position? (graph : ClassGraph) (id : ClassId) : Option (Fin graph.size) :=
  if h : id.index < graph.size then some ⟨id.index, h⟩ else none

/-- The graph as a system of types. -/
def types (graph : ClassGraph) : TypeGraph (Fin graph.size) where
  types := List.finRange graph.size
  mem_types := List.mem_finRange
  name t := (graph.nodes.get t).name
  interfaces t := (graph.nodes.get t).interfaces.filterMap graph.position?
  superclass t := (graph.nodes.get t).superclass.bind graph.position?
  isRoot t := t.val = graph.rootId.index

end ClassGraph

end RegistrySchema.Snapshot

import RegistrySchema.Snapshot.ClassGraph
import RegistrySchema.Snapshot.Decode

/-!
# Snapshots

A snapshot as a host: a registry of block kinds, a registry of entity kinds with a factory, and
a graph of classes. No kind may be declared twice; blocks are looked at before entities.
-/

namespace RegistrySchema.Snapshot

/-- What becomes of an attempt to make an entity. -/
inductive Outcome where
  /-- An object of a class. -/
  | made (source : ClassId)
  /-- No object. -/
  | empty
  /-- A failure. -/
  | fails (failure : SpawnFailure)
  /-- The registry withholds the kind. -/
  | inaccessible
  deriving DecidableEq, Inhabited, Repr

/-- An entity kind with its outcome. -/
structure EntityEntry where
  /-- The kind. -/
  kind : Identifier
  /-- Its outcome. -/
  outcome : Outcome
  deriving DecidableEq, Inhabited, Repr

/-- Why a snapshot is refused. -/
inductive LoadError where
  /-- Its text cannot be decoded. -/
  | document (err : DecodeError)
  /-- A block kind is declared again. -/
  | duplicateBlock (id : Identifier)
  /-- An entity kind is declared again. -/
  | duplicateEntity (id : Identifier)
  deriving DecidableEq, Inhabited, Repr

/-- The wording of a refusal. -/
def LoadError.message : LoadError → String
  | document err => "snapshot JSON parse error: " ++ err.message
  | duplicateBlock id => "block kind `" ++ id.text ++ "` is declared twice"
  | duplicateEntity id => "entity kind `" ++ id.text ++ "` is declared twice"

end RegistrySchema.Snapshot

namespace RegistrySchema

open Snapshot

/-- A captured registry. -/
structure Snapshot where
  /-- The block registry. -/
  blocks : Registry BlockKind
  /-- The entity kinds with their outcomes. -/
  entities : List EntityEntry
  /-- The classes. -/
  classes : ClassGraph

namespace Snapshot

/-- The first member that occurs earlier in a list, given what came before. -/
def firstRepeat? {α : Type} [DecidableEq α] (seen : List α) : List α → Option α
  | [] => none
  | x :: xs => if x ∈ seen then some x else firstRepeat? (x :: seen) xs

/-- Link a declared class to its superclass and interfaces, adding names that are new. -/
def declareClass (graph : ClassGraph) (name : String) (declared : DeclaredClass) : ClassGraph :=
  let (graph, id) := graph.intern name
  let (graph, superclass) := graph.internAll declared.superclass.toList
  let (graph, interfaces) := graph.internAll declared.interfaces
  graph.link id superclass.head? interfaces

/-- The graph of declared classes: the root, the declared names, then the links of each class. -/
def declareClasses (root : String) (classes : Catalog String DeclaredClass) : ClassGraph :=
  classes.entries.foldl (fun graph entry => declareClass graph entry.1 entry.2)
    ((ClassGraph.ofRoot root).internAll classes.keys).1

/-- The outcome of an entity kind; the class of its object is added if it is new. -/
def outcome (graph : ClassGraph) (entity : DeclaredEntity) : ClassGraph × Outcome :=
  if entity.inaccessible then (graph, .inaccessible)
  else
    match entity.failure, entity.className with
    | some failure, _ => (graph, .fails failure)
    | none, some name =>
      let (graph, id) := graph.intern name
      (graph, .made id)
    | none, none => (graph, .empty)

/-- The entity kinds with their outcomes. -/
def declareEntities (graph : ClassGraph) : List DeclaredEntity → ClassGraph × List EntityEntry
  | [] => (graph, [])
  | entity :: entities =>
    let (graph, found) := outcome graph entity
    let (graph, entries) := declareEntities graph entities
    (graph, ⟨entity.id, found⟩ :: entries)

/-- The snapshot that declarations make, if no kind is declared twice. -/
def ofDeclarations (declared : Declarations) : Except LoadError Snapshot :=
  match firstRepeat? [] (declared.blocks.map DeclaredBlock.id) with
  | some id => .error (.duplicateBlock id)
  | none =>
    match firstRepeat? [] (declared.entities.map DeclaredEntity.id) with
    | some id => .error (.duplicateEntity id)
    | none =>
      let graph := declareClasses declared.root declared.classes
      let (classes, entities) := declareEntities graph declared.entities
      .ok { blocks := declared.blocks.map DeclaredBlock.entry, entities, classes }

/-- The snapshot in a text. -/
def ofText (text : String) : Except LoadError Snapshot :=
  match Decode.document (Json.Document.ofText text) with
  | .error err => .error (.document err)
  | .ok declared => ofDeclarations declared

/-- The entity registry. -/
def entityRegistry (snapshot : Snapshot) : Registry Identifier :=
  snapshot.entities.map fun entry =>
    match entry.outcome with
    | .inaccessible => .error ⟨entry.kind.text, "field is not an entity type"⟩
    | _ => .ok entry.kind

/-- What becomes of an attempt to make a kind. -/
def create (snapshot : Snapshot) (kind : Identifier) : Except SpawnError (Option ClassId) :=
  match snapshot.entities.find? fun entry => entry.kind = kind with
  | none => .error ⟨.access, kind⟩
  | some entry =>
    match entry.outcome with
    | .made id => .ok (some id)
    | .empty => .ok none
    | .fails failure => .error ⟨failure, kind⟩
    | .inaccessible => .error ⟨.access, kind⟩

/-- The factory. It makes the same in every world. -/
def factory (snapshot : Snapshot) : Factory (Fin snapshot.classes.size) := fun kind _ =>
  (snapshot.create kind).map fun id? => id?.bind snapshot.classes.position?

end Snapshot

end RegistrySchema

import Mathlib.Logic.Relation
import RegistrySchema.Extraction
import RegistrySchema.Proofs.Snapshot.Likeness

/-!
# Declarations of classes that make no difference

An extraction sees of the declared classes only what can be reached from the classes of entities,
and only by names. Four changes leave that as it is: another order, a declaration of a class that
cannot be reached, a declaration that says nothing, and the root left out as a superclass. So any
number of such changes, made or undone, leaves the extraction as it is
(`Extraction.ofSnapshot_eq_of_classEdits`), although classes get other handles by them.

A single change keeps the followed links on the reached names (`agree_of_classEdit`); this is an
equivalence, hence kept by all of them together; and links that agree so far are alike.
-/

namespace RegistrySchema

namespace Snapshot

/-- The names that links lead to, starting from some names. -/
inductive Reached (links : String → DeclaredClass) (heads : List String) : String → Prop
  /-- A name to start from. -/
  | head {name : String} : name ∈ heads → Reached links heads name
  /-- The superclass of a name. -/
  | superclass {name above : String} : Reached links heads name →
      above ∈ (links name).superclass → Reached links heads above
  /-- An interface of a name. -/
  | interfaces {name other : String} : Reached links heads name →
      other ∈ (links name).interfaces → Reached links heads other

/-- The classes of the declared entities. -/
def Declarations.heads (declared : Declarations) : List String :=
  declared.entities.filterMap DeclaredEntity.className

/-- A change of the declared classes that cannot be seen from some names. -/
inductive ClassEdit (root : String) (heads : List String) :
    Catalog String DeclaredClass → Catalog String DeclaredClass → Prop
  /-- The declarations are put into another order. -/
  | reorder {classes classes' : Catalog String DeclaredClass} :
      classes.entries.Perm classes'.entries → ClassEdit root heads classes classes'
  /-- A class is declared that cannot be reached. -/
  | addUnreached {classes : Catalog String DeclaredClass} (name : String)
      (declared : DeclaredClass) : ¬ Reached (linksOf classes) heads name →
      ClassEdit root heads classes (classes.insert name declared)
  /-- A class without a declaration gets one that says nothing. -/
  | declareBlank {classes : Catalog String DeclaredClass} (name : String) :
      ClassEdit root heads classes (classes.insert name DeclaredClass.blank)
  /-- The root is no longer given as a superclass. -/
  | omitRoot {classes : Catalog String DeclaredClass} (name : String) (interfaces : List String) :
      classes.get? name = some ⟨some root, interfaces⟩ →
      ClassEdit root heads classes (classes.put name ⟨none, interfaces⟩)

/-! ## Reached names -/

/-- Names outside a list that holds the heads and is closed under links are not reached. -/
theorem Reached.mem_of_closed {links : String → DeclaredClass} {heads closed : List String}
    (hheads : ∀ name ∈ heads, name ∈ closed)
    (hlinks : ∀ name ∈ closed,
      ∀ other ∈ (links name).superclass.toList ++ (links name).interfaces, other ∈ closed)
    {name : String} (h : Reached links heads name) : name ∈ closed := by
  induction h with
  | head hname => exact hheads _ hname
  | superclass _ habove ih =>
    exact hlinks _ ih _ (List.mem_append_left _ (Option.mem_toList.2 habove))
  | interfaces _ hother ih => exact hlinks _ ih _ (List.mem_append_right _ hother)

/-- Following fewer links reaches fewer names. -/
theorem Reached.of_followed {root : String} {links : String → DeclaredClass} {heads : List String}
    {name : String} (h : Reached (fun name => (links name).followed root) heads name) :
    Reached links heads name := by
  induction h with
  | head hname => exact Reached.head hname
  | superclass _ habove ih => exact Reached.superclass ih (Option.mem_filter_iff.1 habove).1
  | interfaces _ hother ih => exact Reached.interfaces ih hother

/-- Links that are the same on all names that they reach. -/
def Agree (heads : List String) (links links' : String → DeclaredClass) : Prop :=
  ∀ name, Reached links heads name → links name = links' name

theorem Agree.reached {heads : List String} {links links' : String → DeclaredClass}
    (h : Agree heads links links') {name : String} (hname : Reached links heads name) :
    Reached links' heads name := by
  induction hname with
  | head hname => exact Reached.head hname
  | superclass hname habove ih => exact Reached.superclass ih (h _ hname ▸ habove)
  | interfaces hname hother ih => exact Reached.interfaces ih (h _ hname ▸ hother)

/-- The names that are reached are the same, too. -/
theorem Agree.reached_of_reached {heads : List String} {links links' : String → DeclaredClass}
    (h : Agree heads links links') {name : String} (hname : Reached links' heads name) :
    Reached links heads name := by
  induction hname with
  | head hname => exact Reached.head hname
  | superclass _ habove ih => exact Reached.superclass ih (h _ ih ▸ habove)
  | interfaces _ hother ih => exact Reached.interfaces ih (h _ ih ▸ hother)

theorem Agree.symm {heads : List String} {links links' : String → DeclaredClass}
    (h : Agree heads links links') : Agree heads links' links :=
  fun _ hname => (h _ (h.reached_of_reached hname)).symm

theorem Agree.trans {heads : List String} {links links' links'' : String → DeclaredClass}
    (h : Agree heads links links') (h' : Agree heads links' links'') : Agree heads links links'' :=
  fun _ hname => (h _ hname).trans (h' _ (h.reached hname))

/-! ## Changes -/

/-- A change keeps what is followed from the heads. -/
theorem agree_of_classEdit {root : String} {heads : List String}
    {classes classes' : Catalog String DeclaredClass} (h : ClassEdit root heads classes classes') :
    Agree heads (fun name => (linksOf classes name).followed root)
      (fun name => (linksOf classes' name).followed root) := by
  intro name hname
  show (linksOf classes name).followed root = (linksOf classes' name).followed root
  cases h with
  | reorder hperm => rw [linksOf, linksOf, Catalog.get?_of_perm hperm]
  | addUnreached added declared hunreached =>
    -- A followed link is a link, so what is followed stays away from the new class.
    have hne : added ≠ name := by
      rintro rfl
      exact hunreached hname.of_followed
    rw [linksOf, linksOf, Catalog.get?_insert, if_neg hne, Option.or_none]
  | declareBlank added =>
    rw [linksOf, linksOf, Catalog.get?_insert]
    -- Without a declaration, a name has the links that a blank one gives it.
    cases classes.get? name with
    | some declared => rw [Option.some_or]
    | none => split <;> rfl
  | omitRoot changed interfaces hchanged =>
    rw [linksOf, linksOf, Catalog.get?_put]
    split
    · next heq =>
      rw [← heq, hchanged]
      simp [DeclaredClass.followed, Option.filter]
    · rfl

/-- Any number of changes, made or undone, keeps it. -/
theorem agree_of_eqvGen {root : String} {heads : List String}
    {classes classes' : Catalog String DeclaredClass}
    (h : Relation.EqvGen (ClassEdit root heads) classes classes') :
    Agree heads (fun name => (linksOf classes name).followed root)
      (fun name => (linksOf classes' name).followed root) := by
  induction h with
  | rel classes classes' hedit => exact agree_of_classEdit hedit
  | refl classes => exact fun _ _ => rfl
  | symm classes classes' _ ih => exact ih.symm
  | trans classes classes' classes'' _ _ ih ih' => exact ih.trans ih'

/-- Links that agree so far as they are followed are alike on the names that are reached. -/
theorem Agree.alike {root : String} {heads : List String} {links links' : String → DeclaredClass}
    (h : Agree heads (fun name => (links name).followed root)
      (fun name => (links' name).followed root)) :
    Alike root (Reached (fun name => (links name).followed root) heads) links links' where
  eq hname := h _ hname
  superclass hname _ habove := Reached.superclass hname habove
  interfaces hname _ hother := Reached.interfaces hname hother

end Snapshot

open Snapshot

namespace Extraction

/-- Snapshots with the same blocks and entities, whose classes agree from the entities on, have the
same extraction. -/
theorem ofSnapshot_eq_of_agree {declared declared' : Declarations} {snapshot snapshot' : Snapshot}
    (h : ofDeclarations declared = .ok snapshot) (h' : ofDeclarations declared' = .ok snapshot')
    (hblocks : declared'.blocks = declared.blocks)
    (hentities : declared'.entities = declared.entities) (hroot : declared'.root = declared.root)
    (hagree : Agree declared.heads
      (fun name => (linksOf declared.classes name).followed declared.root)
      (fun name => (linksOf declared'.classes name).followed declared.root)) (settings : Settings) :
    ofSnapshot snapshot' settings = ofSnapshot snapshot settings := by
  have hwalks : snapshot'.blocks = snapshot.blocks := by
    rw [blocks_ofDeclarations h, blocks_ofDeclarations h', hblocks]
  -- The handles of the graphs differ, but an effect has none.
  have heffects : snapshot'.entityRegistry.map
        (EntityWalk.effect snapshot'.classes.types snapshot'.factory settings) =
      snapshot.entityRegistry.map
        (EntityWalk.effect snapshot.classes.types snapshot.factory settings) := by
    rw [entityRegistry_ofDeclarations h, entityRegistry_ofDeclarations h', hentities, List.map_map,
      List.map_map]
    refine List.map_congr_left fun entity hentity => ?_
    refine (effect_entry_eq h h' hroot hagree.alike settings hentity (hentities ▸ hentity) ?_).symm
    exact fun name hname => Reached.head (List.mem_filterMap.2 ⟨entity, hentity, hname⟩)
  rw [ofSnapshot, ofSnapshot, ofHost, ofHost, EntityWalk.run_eq_foldl_add,
    EntityWalk.run_eq_foldl_add, heffects, hwalks]

/-- Changes of the declared classes that cannot be seen from the entities leave the snapshot
accepted, and its extraction as it was, whatever the settings. -/
theorem ofSnapshot_eq_of_classEdits {declared : Declarations} {snapshot : Snapshot}
    (hload : ofDeclarations declared = .ok snapshot) {classes : Catalog String DeclaredClass}
    (hedits : Relation.EqvGen (ClassEdit declared.root declared.heads) declared.classes classes) :
    ∃ other, ofDeclarations { declared with classes } = .ok other ∧
      ∀ settings, ofSnapshot other settings = ofSnapshot snapshot settings ∧
        (ofSnapshot other settings).reportBytes = (ofSnapshot snapshot settings).reportBytes := by
  obtain ⟨hblocks, hentities, -⟩ := ofDeclarations_eq_ok_iff.1 hload
  have hother : ofDeclarations { declared with classes } =
      .ok (ofDistinct { declared with classes }) :=
    ofDeclarations_eq_ok_iff.2 ⟨hblocks, hentities, rfl⟩
  refine ⟨_, hother, fun settings => ?_⟩
  have heq := ofSnapshot_eq_of_agree hload hother rfl rfl rfl (agree_of_eqvGen hedits) settings
  exact ⟨heq, congrArg reportBytes heq⟩

/-- A kind whose class extends another one. -/
def declaredPasture : Declarations where
  blocks := []
  entities := [⟨⟨"minecraft", "cow"⟩, some "host.Cow", none, false⟩]
  classes := ⟨[("host.Cow", ⟨some "host.Animal", ["host.Named"]⟩),
    ("host.Animal", ⟨some "java.lang.Object", []⟩)], by decide⟩
  root := defaultRoot

/-- Classes that say the same of the kind. -/
def pastureRearranged : Catalog String DeclaredClass :=
  ⟨[("host.Pig", ⟨some "host.Cow", []⟩), ("host.Named", DeclaredClass.blank),
    ("host.Animal", DeclaredClass.blank), ("host.Cow", ⟨some "host.Animal", ["host.Named"]⟩)],
    by decide⟩

/-- All four changes are made, and the class of the cow has another handle. -/
theorem ofSnapshot_eq_of_classEdits_pasture :
    Relation.EqvGen (ClassEdit declaredPasture.root declaredPasture.heads) declaredPasture.classes
        pastureRearranged ∧
      ∃ snapshot other, ofDeclarations declaredPasture = .ok snapshot ∧
        ofDeclarations { declaredPasture with classes := pastureRearranged } = .ok other ∧
        snapshot.classes.lookup "host.Cow" ≠ other.classes.lookup "host.Cow" ∧
        (ofSnapshot snapshot {}).schema.classes.size = 3 ∧
        (ofSnapshot other {}).reportBytes = (ofSnapshot snapshot {}).reportBytes := by
  have hedits : Relation.EqvGen (ClassEdit declaredPasture.root declaredPasture.heads)
      declaredPasture.classes pastureRearranged := by
    refine .trans _ _ _ (.rel _ _ (.omitRoot "host.Animal" [] rfl)) ?_
    refine .trans _ _ _ (.rel _ _ (.declareBlank "host.Named")) ?_
    refine .trans _ _ _ (.rel _ _ (.addUnreached "host.Pig" ⟨some "host.Cow", []⟩ ?_)) ?_
    · intro hreached
      have hmem : "host.Pig" ∈ ["host.Cow", "host.Animal", "host.Named"] :=
        hreached.mem_of_closed (by decide +kernel) (by decide +kernel)
      exact absurd hmem (by decide)
    · exact .rel _ _ (.reorder (by decide +kernel))
  have hload : ofDeclarations declaredPasture = .ok (ofDistinct declaredPasture) := rfl
  obtain ⟨other, hother, heq⟩ := ofSnapshot_eq_of_classEdits hload hedits
  refine ⟨hedits, _, other, hload, hother, ?_, by decide +kernel, (heq {}).2⟩
  obtain rfl := Except.ok.inj hother
  decide +kernel

end Extraction

end RegistrySchema

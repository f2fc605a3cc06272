import RegistrySchema.Proofs.EntityWalk
import RegistrySchema.Proofs.Snapshot.Entities

/-!
# Snapshots that a walk cannot tell apart

A walk reads of a class which superclass it has, unless that is the root, and which interfaces. Two
families of links are *alike* on some names if these are the same there and lead to such names
again. Graphs that realize alike links are bisimilar under equality of names, so an entity that
both snapshots declare, with a class among those names, has one effect in both
(`effect_entry_eq`). Handles, and all that the snapshots declare besides, do not matter.
-/

namespace RegistrySchema.Snapshot

/-- The links that a walk follows: a superclass that is the root is none. -/
def DeclaredClass.followed (root : String) (declared : DeclaredClass) : DeclaredClass :=
  { declared with superclass := declared.superclass.filter fun name => name ≠ root }

/-- Links that are followed alike from some names, and lead from these to some of them. -/
structure Alike (root : String) (P : String → Prop) (links links' : String → DeclaredClass) :
    Prop where
  /-- The links are the same. -/
  eq : ∀ {name}, P name → (links name).followed root = (links' name).followed root
  /-- They lead to superclasses of this sort. -/
  superclass : ∀ {name}, P name → ∀ above ∈ ((links name).followed root).superclass, P above
  /-- They lead to interfaces of this sort. -/
  interfaces : ∀ {name}, P name → ∀ other ∈ (links name).interfaces, P other

/-- Where a walk goes on, by names. -/
theorem map_name_proper {τ : Type} {graph : TypeGraph τ}
    {root : String} {links : String → DeclaredClass} (h : graph.Realizes root links) (t : τ) :
    (graph.proper (graph.superclass t)).map graph.name =
      ((links (graph.name t)).followed root).superclass := by
  rw [DeclaredClass.followed, ← h.superclass, TypeGraph.proper]
  cases graph.superclass t with
  | none => rfl
  | some c =>
    by_cases hroot : graph.name c = root
    · have hc := (h.isRoot c).2 hroot
      simp [Option.filter, hc, hroot]
    · have hc := eq_false_of_ne_true (mt (h.isRoot c).1 hroot)
      simp [Option.filter, hc, hroot]

/-- Graphs that realize alike links are bisimilar, types with one name being counterparts. -/
theorem bisimulation_of_alike {τ σ : Type} {graph : TypeGraph τ} {other : TypeGraph σ}
    {root : String} {P : String → Prop} {links links' : String → DeclaredClass}
    (hgraph : graph.Realizes root links) (hother : other.Realizes root links')
    (h : Alike root P links links') :
    graph.Bisimulation other fun t s => graph.name t = other.name s ∧ P (graph.name t) where
  biUnique := by
    constructor
    · rintro t t' s ⟨hts, -⟩ ⟨hts', -⟩
      exact hgraph.injective (hts.trans hts'.symm)
    · rintro t s s' ⟨hts, -⟩ ⟨hts', -⟩
      exact hother.injective (hts.symm.trans hts')
  name hts := hts.1
  interfaces := by
    rintro t s ⟨hname, ht⟩
    have hlinks := congrArg DeclaredClass.interfaces (h.eq ht)
    refine forall₂_of_map_eq_map ?_ ?_
    · rw [hgraph.interfaces, hother.interfaces, ← hname]
      exact hlinks
    · rw [hgraph.interfaces]
      exact h.interfaces ht
  superclass := by
    rintro t s ⟨hname, ht⟩
    refine rel_of_map_eq_map ?_ ?_
    · rw [map_name_proper hgraph, map_name_proper hother, ← hname, h.eq ht]
    · rw [map_name_proper hgraph]
      exact h.superclass ht

/-- Answers with counterparts have one effect. -/
theorem answerEffect_eq {τ σ : Type} [DecidableEq τ] [DecidableEq σ] {graph : TypeGraph τ}
    {other : TypeGraph σ} {P : String → Prop}
    (h : graph.Bisimulation other fun t s => graph.name t = other.name s ∧ P (graph.name t))
    (settings : Settings) (kind : Identifier) {answer : Except SpawnError (Option τ)}
    {answer' : Except SpawnError (Option σ)}
    (hname : answer.map (Option.map graph.name) = answer'.map (Option.map other.name))
    (hP : ∀ name, answer.map (Option.map graph.name) = .ok (some name) → P name) :
    EntityWalk.answerEffect graph settings kind answer =
      EntityWalk.answerEffect other settings kind answer' := by
  cases answer with
  | error err =>
    cases answer' with
    | error err' =>
      obtain rfl := Except.error.inj hname
      rfl
    | ok found' => cases hname
  | ok found =>
    cases answer' with
    | error err' => cases hname
    | ok found' =>
      have hrel := rel_of_map_eq_map (P := P) (Except.ok.inj hname) fun name hmem =>
        hP name (congrArg Except.ok hmem)
      cases hrel with
      | none => rfl
      | some hts =>
        rw [EntityWalk.answerEffect, EntityWalk.answerEffect, h.sourcePath hts, h.offers hts]

/-- An entity that two snapshots declare has one effect in walks over both, if what is declared of
classes is alike from its class on. -/
theorem effect_entry_eq {declared declared' : Declarations} {snapshot snapshot' : Snapshot}
    (h : ofDeclarations declared = .ok snapshot) (h' : ofDeclarations declared' = .ok snapshot')
    (hroot : declared'.root = declared.root) {P : String → Prop}
    (halike : Alike declared.root P (linksOf declared.classes) (linksOf declared'.classes))
    (settings : Settings) {entity : DeclaredEntity} (hentity : entity ∈ declared.entities)
    (hentity' : entity ∈ declared'.entities) (hP : ∀ name ∈ entity.className, P name) :
    EntityWalk.effect snapshot.classes.types snapshot.factory settings entity.entry =
      EntityWalk.effect snapshot'.classes.types snapshot'.factory settings entity.entry := by
  have hbisimulation := bisimulation_of_alike (realizes_ofDeclarations h)
    (hroot ▸ realizes_ofDeclarations h') halike
  -- Both factories answer with what is declared of the entity, by name.
  have hanswer := factory_ofDeclarations h hentity settings.world
  have hanswer' := factory_ofDeclarations h' hentity' settings.world
  unfold DeclaredEntity.entry
  split
  · rfl
  · rw [EntityWalk.effect, EntityWalk.effect]
    split
    · rfl
    · refine answerEffect_eq hbisimulation settings entity.id (hanswer.trans hanswer'.symm) ?_
      intro name hname
      rw [hanswer, DeclaredEntity.answer] at hname
      split at hname
      · cases hname
      · split at hname
        · cases hname
        · exact hP name (Except.ok.inj hname)

end RegistrySchema.Snapshot

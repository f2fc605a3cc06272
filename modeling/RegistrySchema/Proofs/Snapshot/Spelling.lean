import RegistrySchema.Proofs.EntityWalk
import RegistrySchema.Proofs.Snapshot.Decoding
import RegistrySchema.Proofs.Snapshot.Kinds

/-!
# Spellings of kinds

A kind is written with its namespace or, if that is the default one, without it. Both spellings are
read as one identifier, and no other two texts are (`Identifier.parse_eq_parse_iff`). All that asks
whether two kinds are the same can therefore be said of the texts that spell them: which
declarations are refused, what the factory finds under a text and which kind is the player
(`spelling_spec`).
-/

namespace RegistrySchema

open Identifier (parse completed)

/-- The factory is asked for what a text spells iff the registry hands that out and the player is
spelled otherwise. -/
theorem EntityWalk.parse_mem_requests_iff {τ : Type} [DecidableEq τ] (graph : TypeGraph τ)
    (factory : Factory τ) {settings : Settings} (registry : Registry Identifier) {s t : String}
    (hplayer : settings.player = parse t) :
    (parse s, settings.world) ∈ (run graph factory settings registry).requests ↔
      .ok (parse s) ∈ registry ∧ completed s ≠ completed t := by
  rw [requests_run, List.mem_map]
  simp only [Prod.mk.injEq, and_true, exists_eq_right]
  rw [mem_asked_iff, hplayer, ne_eq, Identifier.parse_eq_parse_iff]

namespace Snapshot

/-- Declarations whose kinds are spelled by texts, in order. -/
structure Spelled (declared : Declarations) (blocks entities : List String) : Prop where
  /-- The spellings of the block kinds. -/
  blocks : declared.blocks.map DeclaredBlock.id = blocks.map parse
  /-- The spellings of the entity kinds. -/
  entities : declared.entities.map DeclaredEntity.id = entities.map parse

/-- The declarations in a text have spellings. -/
theorem exists_spelled_of_ofText {text : String} {snapshot : Snapshot}
    (h : ofText text = .ok snapshot) :
    ∃ declared blocks entities,
      ofDeclarations declared = .ok snapshot ∧ Spelled declared blocks entities := by
  obtain ⟨declared, hload, hblocks, hentities⟩ := exists_declarations_of_ofText h
  -- No namespace has a colon, so the written forms will do.
  refine ⟨declared, declared.blocks.map fun block => block.id.text,
    declared.entities.map fun entity => entity.id.text, hload, ?_, ?_⟩
  · rw [List.map_map]
    apply List.map_congr_left
    intro block hblock
    exact (Identifier.parse_text (hblocks block hblock)).symm
  · rw [List.map_map]
    apply List.map_congr_left
    intro entity hentity
    exact (Identifier.parse_text (hentities entity hentity)).symm

variable {declared : Declarations} {blocks entities : List String} {snapshot : Snapshot}

/-- Declarations are refused exactly if two spellings of blocks, or two of entities, are the same
once the default namespace is added. -/
theorem Spelled.exists_ofDeclarations_iff (hs : Spelled declared blocks entities) :
    (∃ snapshot, ofDeclarations declared = .ok snapshot) ↔
      (blocks.map completed).Nodup ∧ (entities.map completed).Nodup := by
  rw [← Identifier.nodup_map_parse_iff, ← Identifier.nodup_map_parse_iff, ← hs.blocks,
    ← hs.entities]
  simp [ofDeclarations_eq_ok_iff]

/-- Under another spelling of a declared kind, the factory finds what was declared of it. -/
theorem Spelled.create_of_spelling (hs : Spelled declared blocks entities)
    (h : ofDeclarations declared = .ok snapshot) {i : Nat} {s t : String}
    (hspelling : entities[i]? = some s) (hst : completed s = completed t) :
    ∃ entity, declared.entities[i]? = some entity ∧
      (snapshot.create (parse t)).map (Option.map snapshot.classes.name?) =
        entity.answer.map (Option.map some) := by
  have hid : (declared.entities.map DeclaredEntity.id)[i]? = some (parse s) := by
    rw [hs.entities, List.getElem?_map, hspelling, Option.map_some]
  rw [List.getElem?_map] at hid
  obtain ⟨entity, hentity, hid⟩ := Option.map_eq_some_iff.1 hid
  refine ⟨entity, hentity, ?_⟩
  -- The kind at this place is the one that is asked for, in another spelling.
  rw [← Identifier.parse_eq_parse_iff.2 hst, ← hid]
  exact create_ofDeclarations h (List.mem_of_getElem? hentity)

/-- Under a text that spells no declared kind, the factory finds nothing. -/
theorem Spelled.create_of_no_spelling (hs : Spelled declared blocks entities)
    (h : ofDeclarations declared = .ok snapshot) {t : String}
    (ht : completed t ∉ entities.map completed) :
    snapshot.create (parse t) = .error ⟨.access, parse t⟩ := by
  apply create_eq_error_of_not_mem h
  rw [hs.entities, Identifier.parse_mem_map_parse_iff]
  exact ht

/-- The written form of an identifier is read as the identifier iff its namespace has no colon.
A text with a colon is its own written form once it is read, one without gets the default namespace,
and the written form is read alike. So two texts are read alike iff they are the same once the
default namespace is added; and by that alone kinds are told apart where snapshots declare them, as
every text that holds a snapshot does, where the factory looks for one of them, and where a walk
leaves out the player. -/
theorem spelling_spec :
    (∀ space path, parse (Identifier.text ⟨space, path⟩) = ⟨space, path⟩ ↔
        ':' ∉ space.toList) ∧
      (∀ s, (parse s).text = if ':' ∈ s.toList then s else "minecraft:" ++ s) ∧
      (∀ s, parse (parse s).text = parse s) ∧
      (∀ s t, parse s = parse t ↔ completed s = completed t) ∧
      (∀ text snapshot, ofText text = .ok snapshot → ∃ declared blocks entities,
        ofDeclarations declared = .ok snapshot ∧ Spelled declared blocks entities) ∧
      (∀ declared blocks entities, Spelled declared blocks entities →
        ((∃ snapshot, ofDeclarations declared = .ok snapshot) ↔
          (blocks.map completed).Nodup ∧ (entities.map completed).Nodup) ∧
        ∀ snapshot, ofDeclarations declared = .ok snapshot → ∀ t,
          (∀ (i : Nat) s, entities[i]? = some s → completed s = completed t →
            ∃ entity, declared.entities[i]? = some entity ∧
              (snapshot.create (parse t)).map (Option.map snapshot.classes.name?) =
                entity.answer.map (Option.map some)) ∧
          (completed t ∉ entities.map completed →
            snapshot.create (parse t) = .error ⟨.access, parse t⟩)) ∧
      ∀ (τ : Type) [DecidableEq τ] (graph : TypeGraph τ) (factory : Factory τ)
        (settings : Settings) (registry : Registry Identifier) (s t : String),
        settings.player = parse t →
          ((parse s, settings.world) ∈ (EntityWalk.run graph factory settings registry).requests ↔
            .ok (parse s) ∈ registry ∧ completed s ≠ completed t) := by
  refine ⟨fun _ _ => Identifier.parse_text_iff, fun s => ?_, fun s => ?_,
    fun _ _ => Identifier.parse_eq_parse_iff, fun _ _ => exists_spelled_of_ofText, ?_, ?_⟩
  · have hdefault : Identifier.defaultSpace ++ ":" = "minecraft:" := by decide
    rw [Identifier.text_parse, completed, hdefault]
  · exact Identifier.parse_text (Identifier.colon_not_mem_space_parse s)
  · intro declared blocks entities hs
    refine ⟨hs.exists_ofDeclarations_iff, fun snapshot h t => ⟨?_, ?_⟩⟩
    · intro i s hspelling hst
      exact hs.create_of_spelling h hspelling hst
    · intro ht
      exact hs.create_of_no_spelling h ht
  · intro τ _ graph factory settings registry s t hplayer
    exact EntityWalk.parse_mem_requests_iff graph factory registry hplayer

/-- A kind is found and left out under either spelling; a namespace is never added to a text that
has a colon. -/
theorem spelling_spec_pig :
    parse "pig" = parse "minecraft:pig" ∧
      parse ":pig" ≠ parse "pig" ∧
      (∃ snapshot, ofDeclarations declaredKinds = .ok snapshot ∧
        (snapshot.create (parse "minecraft:pig")).map (Option.map snapshot.classes.name?) =
          .ok (some (some "host.Pig")) ∧
        snapshot.create (parse ":pig") = .error ⟨.access, ⟨"", "pig"⟩⟩ ∧
        (parse "minecraft:pig", parse "overworld") ∉
          (EntityWalk.run snapshot.classes.types snapshot.factory { player := parse "pig" }
            snapshot.entityRegistry).requests) := by
  obtain ⟨-, -, -, hread, -, hdeclared, hplayer⟩ := spelling_spec
  have hs : Spelled declaredKinds ["stone", "create:cog"]
      ["pig", "minecraft:ghost", "stone", "bare"] :=
    ⟨by decide, by decide⟩
  obtain ⟨hload, hcreate⟩ := hdeclared _ _ _ hs
  obtain ⟨snapshot, h⟩ := hload.2 ⟨by decide, by decide⟩
  obtain ⟨entity, hentity, hpig⟩ := (hcreate snapshot h "minecraft:pig").1 0 "pig" rfl (by decide)
  obtain rfl : declaredKinds.entities[0] = entity := Option.some.inj hentity
  refine ⟨(hread _ _).2 (by decide), fun hsame => ?_, snapshot, h, hpig,
    (hcreate snapshot h ":pig").2 (by decide), fun hmem => ?_⟩
  · exact absurd ((hread _ _).1 hsame) (by decide)
  · obtain ⟨-, hne⟩ := (hplayer _ snapshot.classes.types snapshot.factory _
      snapshot.entityRegistry "minecraft:pig" "pig" rfl).1 hmem
    exact hne (by decide)

end Snapshot

end RegistrySchema

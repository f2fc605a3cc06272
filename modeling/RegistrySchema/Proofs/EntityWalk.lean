import RegistrySchema.EntityWalk
import RegistrySchema.Proofs.ClassTable

/-!
# What a walk over entity kinds finds

A walk adds up what its entries do. The *effect* of an entry does not depend on the walk so far: a
withheld entry, the player and a kind that the factory refuses leave a note in the log and no more;
any other kind makes one record, and in addition either a warning or offers to the class table.

* `run_eq_sum` says that a run is the sum of the effects, so that all results of a run are read off
  them, entry by entry.
* `run_accounts_for_entries` is the account of a whole run. On the one hand every entry has one
  record or one note; on the other the requests, the records, the warnings and the class table
  follow from the factory's answers for the kinds that are handed out, the player left aside.
-/

namespace RegistrySchema.EntityWalk

variable {τ : Type} [DecidableEq τ]

/-- The kinds that the factory is asked for. -/
def asked (settings : Settings) (registry : Registry Identifier) : List Identifier :=
  (registry.filterMap Except.toOption).filter fun kind => decide (kind ≠ settings.player)

/-- The record that an answer makes: none for a refusal, one without a class for no object. -/
def answerRecord? (graph : TypeGraph τ) (settings : Settings) (kind : Identifier) :
    Except SpawnError (Option τ) → Option EntityRecord
  | .error _ => none
  | .ok object? => some ⟨settings.kindName kind, object?.map graph.sourcePath⟩

/-- The type of the object that an answer hands out. -/
def object? : Except SpawnError (Option τ) → Option τ
  | .error _ => none
  | .ok object? => object?

/-- The types of all objects that are made over a registry. -/
def objects (factory : Factory τ) (settings : Settings) (registry : Registry Identifier) :
    List τ :=
  (asked settings registry).filterMap fun kind => object? (factory kind settings.world)

/-! ## Effects -/

/-- What one registry entry does to a walk. -/
structure Effect where
  /-- What the factory is asked for. -/
  requests : List (Identifier × Identifier) := []
  /-- The records made. -/
  records : List EntityRecord := []
  /-- The classes offered to the table, with their lineages. -/
  offers : List (SourcePath × List SourcePath) := []
  /-- The warnings given. -/
  diagnostics : List Diagnostic := []
  /-- What is said about skipping it. -/
  notes : List String := []

/-- The warning about a kind without an object, which names the kind. -/
def emptyWarning (name : String) : Diagnostic where
  kind := .instantiationEmpty
  span := none
  message := "entity kind `" ++ name ++ "` produced no instance"
  hints := []

/-- A note in the log. -/
def noteEntry (message : String) : Log.Entry := ⟨.debug, .entities, message⟩

/-- The effect of the factory's answer for a kind. -/
def answerEffect (graph : TypeGraph τ) (settings : Settings) (kind : Identifier) :
    Except SpawnError (Option τ) → Effect
  | .error err =>
    { requests := [(kind, settings.world)]
      notes := ["skipping entity kind `" ++ kind.text ++ "`: " ++ err.message] }
  | .ok none =>
    { requests := [(kind, settings.world)]
      records := [⟨settings.kindName kind, none⟩]
      diagnostics := [emptyWarning (settings.kindName kind)] }
  | .ok (some t) =>
    { requests := [(kind, settings.world)]
      records := [⟨settings.kindName kind, some (graph.sourcePath t)⟩]
      offers := ClassTable.offers graph t }

/-- The effect of an entry. -/
def effect (graph : TypeGraph τ) (factory : Factory τ) (settings : Settings) :
    Except AccessError Identifier → Effect
  | .error err => { notes := ["skipping entity entry: " ++ err.message] }
  | .ok kind =>
    if kind = settings.player then { notes := ["skipping player kind `" ++ kind.text ++ "`"] }
    else answerEffect graph settings kind (factory kind settings.world)

/-- A walk with one effect more. -/
def add (walk : EntityWalk) (effect : Effect) : EntityWalk where
  records := walk.records ++ effect.records
  classes := effect.offers.foldl (fun table entry => table.insert entry.1 entry.2) walk.classes
  diagnostics := walk.diagnostics ++ effect.diagnostics
  requests := walk.requests ++ effect.requests
  log := walk.log ++ effect.notes.map noteEntry

/-- Every entry makes a record or leaves a note, and not both. -/
theorem length_records_add_length_notes (graph : TypeGraph τ) (factory : Factory τ)
    (settings : Settings) (entry : Except AccessError Identifier) :
    (effect graph factory settings entry).records.length +
      (effect graph factory settings entry).notes.length = 1 := by
  cases entry with
  | error err => rfl
  | ok kind =>
    by_cases hplayer : kind = settings.player
    · rw [effect, if_pos hplayer]
      rfl
    · rw [effect, if_neg hplayer]
      rcases factory kind settings.world with err | _ | t <;> rfl

/-! ## Runs -/

/-- A diagnostic about a name, of the kind for missing objects, is the warning. -/
theorem about_eq_emptyWarning (name : String) :
    (Diagnostic.ofKind .instantiationEmpty).about name = emptyWarning name :=
  Diagnostic.about_ofKind .instantiationEmpty name

theorem receive_eq_add (graph : TypeGraph τ) (settings : Settings) (walk : EntityWalk)
    (kind : Identifier) (answer : Except SpawnError (Option τ)) :
    { walk with requests := walk.requests ++ [(kind, settings.world)] }.receive graph settings kind
        answer =
      walk.add (answerEffect graph settings kind answer) := by
  rcases answer with err | _ | t
  · simp [receive, add, answerEffect, skip, noteEntry]
  · simp [receive, add, answerEffect, about_eq_emptyWarning]
  · have hcollect := ClassTable.foldl_collect_eq_foldl_insert graph [t] walk.classes
    rw [List.foldl_cons, List.foldl_nil, List.flatMap_singleton] at hcollect
    simp [receive, add, answerEffect, hcollect]

/-- Taking in an entry adds its effect. -/
theorem visit_eq_add (graph : TypeGraph τ) (factory : Factory τ) (settings : Settings)
    (walk : EntityWalk) (entry : Except AccessError Identifier) :
    visit graph factory settings walk entry = walk.add (effect graph factory settings entry) := by
  cases entry with
  | error err => simp [visit, add, effect, skip, noteEntry]
  | ok kind =>
    by_cases hplayer : kind = settings.player
    · simp [visit, add, effect, hplayer, skip, noteEntry]
    · rw [visit, if_neg hplayer, effect, if_neg hplayer, receive_eq_add]

/-- The sum of effects, result by result. -/
theorem foldl_add (effects : List Effect) (walk : EntityWalk) :
    effects.foldl add walk =
      { records := walk.records ++ effects.flatMap Effect.records
        classes := (effects.flatMap Effect.offers).foldl
          (fun table entry => table.insert entry.1 entry.2) walk.classes
        diagnostics := walk.diagnostics ++ effects.flatMap Effect.diagnostics
        requests := walk.requests ++ effects.flatMap Effect.requests
        log := walk.log ++ (effects.flatMap Effect.notes).map noteEntry } := by
  induction effects generalizing walk with
  | nil => simp
  | cons effect effects ih =>
    rw [List.foldl_cons, ih]
    simp only [add, List.flatMap_cons, List.foldl_append, List.map_append, List.append_assoc]

/-- A run is the sum of the effects of its entries, with a summary. -/
theorem run_eq_foldl_add (graph : TypeGraph τ) (factory : Factory τ) (settings : Settings)
    (registry : Registry Identifier) :
    run graph factory settings registry =
      ((registry.map (effect graph factory settings)).foldl add empty).finish := by
  have hfold : ∀ walk : EntityWalk, registry.foldl (visit graph factory settings) walk =
      (registry.map (effect graph factory settings)).foldl add walk := by
    induction registry with
    | nil => intro walk; rfl
    | cons entry registry ih =>
      intro walk
      rw [List.foldl_cons, ih, visit_eq_add, List.map_cons, List.foldl_cons]
  rw [run, hfold]

/-- All that a run finds, effect by effect. -/
theorem run_eq_sum (graph : TypeGraph τ) (factory : Factory τ) (settings : Settings)
    (registry : Registry Identifier) :
    let effects := registry.map (effect graph factory settings)
    run graph factory settings registry =
      finish
        { records := effects.flatMap Effect.records
          classes := (effects.flatMap Effect.offers).foldl
            (fun table entry => table.insert entry.1 entry.2) Catalog.empty
          diagnostics := effects.flatMap Effect.diagnostics
          requests := effects.flatMap Effect.requests
          log := (effects.flatMap Effect.notes).map noteEntry } := by
  rw [run_eq_foldl_add, foldl_add]
  rfl

/-! ## What is asked and answered -/

/-- What one registry entry adds to the kinds that are asked for. -/
theorem asked_cons (settings : Settings) (entry : Except AccessError Identifier)
    (registry : Registry Identifier) :
    asked settings (entry :: registry) = asked settings [entry] ++ asked settings registry := by
  rw [asked, asked, asked, ← List.filter_append, ← List.filterMap_append, List.singleton_append]

theorem asked_eq_flatMap (settings : Settings) (registry : Registry Identifier) :
    asked settings registry = registry.flatMap fun entry => asked settings [entry] := by
  induction registry with
  | nil => rfl
  | cons entry registry ih => rw [asked_cons, ih, List.flatMap_cons]

/-- The kinds that are asked for are those handed out, but for the player. -/
theorem mem_asked_iff {settings : Settings} {registry : Registry Identifier} {kind : Identifier} :
    kind ∈ asked settings registry ↔ .ok kind ∈ registry ∧ kind ≠ settings.player := by
  have htoOption : ∀ entry : Except AccessError Identifier,
      entry.toOption = some kind ↔ entry = .ok kind := by
    rintro (err | found)
    · exact ⟨fun h => (nomatch h), fun h => (nomatch h)⟩
    · exact ⟨fun h => congrArg Except.ok (Option.some.inj h), fun h => h ▸ rfl⟩
  rw [asked, List.mem_filter, List.mem_filterMap, decide_eq_true_iff]
  simp only [htoOption, exists_eq_right]

omit [DecidableEq τ] in
/-- The objects are those that the factory makes of the kinds that it is asked for. -/
theorem mem_objects_iff {factory : Factory τ} {settings : Settings}
    {registry : Registry Identifier} {t : τ} :
    t ∈ objects factory settings registry ↔
      ∃ kind, .ok kind ∈ registry ∧ kind ≠ settings.player ∧
        factory kind settings.world = .ok (some t) := by
  have hobject : ∀ answer : Except SpawnError (Option τ),
      object? answer = some t ↔ answer = .ok (some t) := by
    rintro (err | found)
    · exact ⟨fun h => (nomatch h), fun h => (nomatch h)⟩
    · exact ⟨fun h => congrArg Except.ok h, fun h => Except.ok.inj h⟩
  simp only [objects, List.mem_filterMap, mem_asked_iff, hobject, and_assoc]

/-- An entry is passed over, or the factory is asked for its kind and answers. -/
theorem effect_cases (graph : TypeGraph τ) (factory : Factory τ) (settings : Settings)
    (entry : Except AccessError Identifier) :
    (asked settings [entry] = [] ∧
        ∃ note, effect graph factory settings entry = { notes := [note] }) ∨
      ∃ kind, asked settings [entry] = [kind] ∧
        effect graph factory settings entry =
          answerEffect graph settings kind (factory kind settings.world) := by
  cases entry with
  | error err => exact Or.inl ⟨rfl, _, rfl⟩
  | ok kind =>
    by_cases hplayer : kind = settings.player
    · exact Or.inl ⟨by simp [asked, Except.toOption, hplayer], _, if_pos hplayer⟩
    · refine Or.inr ⟨kind, by simp [asked, Except.toOption, hplayer], ?_⟩
      rw [effect, if_neg hplayer]

/-- What the effects have of one sort, if an answer settles it and a note has none of it. -/
theorem flatMap_effect {β : Type} (graph : TypeGraph τ) (factory : Factory τ)
    (settings : Settings) (registry : Registry Identifier) (part : Effect → List β)
    (hnote : ∀ note, part { notes := [note] } = []) :
    (registry.map (effect graph factory settings)).flatMap part =
      (asked settings registry).flatMap fun kind =>
        part (answerEffect graph settings kind (factory kind settings.world)) := by
  rw [List.flatMap_map, asked_eq_flatMap, List.flatMap_assoc]
  refine List.flatMap_congr fun entry _ => ?_
  rcases effect_cases graph factory settings entry with
    ⟨hasked, note, hpart⟩ | ⟨kind, hasked, hpart⟩
  · rw [hpart, hnote, hasked]
    rfl
  · rw [hpart, hasked, List.flatMap_singleton]

/-- The records of a run: one for each answer that is not a refusal, in registry order. -/
theorem records_run (graph : TypeGraph τ) (factory : Factory τ) (settings : Settings)
    (registry : Registry Identifier) :
    (run graph factory settings registry).records =
      (asked settings registry).filterMap fun kind =>
        answerRecord? graph settings kind (factory kind settings.world) := by
  have hrecords : ∀ (kind : Identifier) (answer : Except SpawnError (Option τ)),
      (answerEffect graph settings kind answer).records =
        (answerRecord? graph settings kind answer).toList := by
    rintro kind (err | _ | t) <;> rfl
  rw [run_eq_sum]
  show List.flatMap Effect.records _ = _
  rw [flatMap_effect _ _ _ _ _ fun _ => rfl, List.filterMap_eq_flatMap_toList]
  exact List.flatMap_congr fun kind _ => hrecords kind _

/-- The class table of a run: the types of the objects, collected in registry order. -/
theorem classes_run (graph : TypeGraph τ) (factory : Factory τ) (settings : Settings)
    (registry : Registry Identifier) :
    (run graph factory settings registry).classes =
      ClassTable.collectAll graph (objects factory settings registry) := by
  have hoffers : ∀ (kind : Identifier) (answer : Except SpawnError (Option τ)),
      (answerEffect graph settings kind answer).offers =
        (object? answer).toList.flatMap (ClassTable.offers graph) := by
    rintro kind (err | _ | t)
    · rfl
    · rfl
    · exact (List.flatMap_singleton (ClassTable.offers graph) t).symm
  rw [run_eq_sum]
  show (List.flatMap Effect.offers _).foldl _ Catalog.empty = _
  rw [ClassTable.collectAll, ClassTable.foldl_collect_eq_foldl_insert,
    flatMap_effect _ _ _ _ _ fun _ => rfl, objects, List.filterMap_eq_flatMap_toList,
    List.flatMap_assoc]
  simp only [hoffers]

/-- The requests of a run: each kind that is handed out, but the player, in registry order. -/
theorem requests_run (graph : TypeGraph τ) (factory : Factory τ) (settings : Settings)
    (registry : Registry Identifier) :
    (run graph factory settings registry).requests =
      (asked settings registry).map fun kind => (kind, settings.world) := by
  have hrequests : ∀ (kind : Identifier) (answer : Except SpawnError (Option τ)),
      (answerEffect graph settings kind answer).requests = [(kind, settings.world)] := by
    rintro kind (err | _ | t) <;> rfl
  rw [run_eq_sum]
  show List.flatMap Effect.requests _ = _
  rw [flatMap_effect _ _ _ _ _ fun _ => rfl, List.map_eq_flatMap]
  simp only [hrequests]

/-- The warnings of a run: one for each record without a class. -/
theorem diagnostics_run (graph : TypeGraph τ) (factory : Factory τ) (settings : Settings)
    (registry : Registry Identifier) :
    (run graph factory settings registry).diagnostics =
      ((run graph factory settings registry).records.filter
        fun found => decide (found.source = none)).map fun found => emptyWarning found.name := by
  have hdiagnostics : ∀ entry : Except AccessError Identifier,
      (effect graph factory settings entry).diagnostics =
        ((effect graph factory settings entry).records.filter
          fun found => decide (found.source = none)).map fun found => emptyWarning found.name := by
    intro entry
    rcases effect_cases graph factory settings entry with ⟨-, note, hpart⟩ | ⟨kind, -, hpart⟩
    · rw [hpart]
      rfl
    · rw [hpart]
      rcases factory kind settings.world with err | _ | t <;> rfl
  rw [run_eq_sum]
  show List.flatMap Effect.diagnostics _ = (List.filter _ (List.flatMap _ _)).map _
  rw [List.filter_flatMap, List.map_flatMap, List.flatMap_map,
    List.flatMap_map]
  exact List.flatMap_congr fun entry _ => hdiagnostics entry

/-- The class of a record is that of an object which was made. -/
theorem exists_object_of_source (graph : TypeGraph τ) (factory : Factory τ) (settings : Settings)
    (registry : Registry Identifier) {found : EntityRecord}
    (hfound : found ∈ (run graph factory settings registry).records) {path : SourcePath}
    (hpath : found.source = some path) :
    ∃ t ∈ objects factory settings registry, graph.sourcePath t = path := by
  rw [records_run] at hfound
  obtain ⟨kind, hkind, hrecord⟩ := List.mem_filterMap.1 hfound
  cases hanswer : factory kind settings.world with
  | error err =>
    rw [hanswer] at hrecord
    cases hrecord
  | ok object =>
    rw [hanswer] at hrecord
    cases hrecord
    obtain ⟨t, rfl, rfl⟩ := Option.map_eq_some_iff.1 hpath
    exact ⟨t, List.mem_filterMap.2 ⟨kind, hkind, by rw [hanswer]; rfl⟩, rfl⟩

/-! ## The account of a run -/

/-- What becomes of all entries of a registry. The factory is asked once for each kind that is
handed out, in registry order and always for the world of the settings, but never for the player.
Every entry has either one record or one note in the log, where a summary follows. The records are
those of the factory's answers, with the class of the object if there is one; each record without
a class has a warning with its name, and there are no others; and the class table is that of the
objects. -/
theorem run_accounts_for_entries (graph : TypeGraph τ) (factory : Factory τ) (settings : Settings)
    (registry : Registry Identifier) :
    let walk := run graph factory settings registry
    let effects := registry.map (effect graph factory settings)
    walk.requests = (asked settings registry).map (fun kind => (kind, settings.world)) ∧
      (∀ request ∈ walk.requests, request.1 ≠ settings.player) ∧
      walk.records = effects.flatMap Effect.records ∧
      walk.log = (effects.flatMap Effect.notes).map noteEntry ++
        [⟨.info, .entities, "walked " ++ toString walk.records.length ++ " entity kinds, "
          ++ toString walk.classes.size ++ " classes"⟩] ∧
      (∀ effect ∈ effects, effect.records.length + effect.notes.length = 1) ∧
      walk.records = (asked settings registry).filterMap (fun kind =>
        answerRecord? graph settings kind (factory kind settings.world)) ∧
      walk.diagnostics = (walk.records.filter fun found => decide (found.source = none)).map
        (fun found =>
          { kind := .instantiationEmpty
            span := none
            message := "entity kind `" ++ found.name ++ "` produced no instance"
            hints := [] }) ∧
      walk.classes = ClassTable.collectAll graph (objects factory settings registry) := by
  intro walk effects
  have hwalk : walk = _ := run_eq_sum graph factory settings registry
  have hrequests : walk.requests = _ := requests_run graph factory settings registry
  refine ⟨hrequests, ?_, ?_, ?_, ?_, records_run graph factory settings registry,
    diagnostics_run graph factory settings registry, classes_run graph factory settings registry⟩
  · intro request hrequest
    rw [hrequests] at hrequest
    obtain ⟨kind, hkind, rfl⟩ := List.mem_map.1 hrequest
    exact of_decide_eq_true (List.mem_filter.1 hkind).2
  · rw [hwalk]
    rfl
  · rw [hwalk]
    rfl
  · intro effect heffect
    obtain ⟨entry, -, rfl⟩ := List.mem_map.1 heffect
    exact length_records_add_length_notes graph factory settings entry

/-- One entry of each sort, and a second object of the first one's type. -/
def mixedRegistry : Registry Identifier :=
  [.ok ⟨"minecraft", "cow"⟩, .ok ⟨"minecraft", "player"⟩, .error ⟨"minecraft:egg", "not an entity"⟩,
    .ok ⟨"minecraft", "marker"⟩, .ok ⟨"minecraft", "boat"⟩, .ok ⟨"mod", "cow"⟩]

/-- Makes cows, has nothing for a marker and refuses all else, the player included. -/
def cowsOnly : Factory (Fin 5) := fun kind _ =>
  if kind.path = "cow" then .ok TypeGraph.entwined.types.head?
  else if kind.path = "marker" then .ok none
  else .error ⟨.typeMismatch, kind⟩

/-- Three of the entries are skipped, one of them after a request. -/
theorem run_accounts_for_entries_mixed :
    let walk := run TypeGraph.entwined cowsOnly {} mixedRegistry
    walk.requests.map (fun request => request.1.text) =
        ["minecraft:cow", "minecraft:marker", "minecraft:boat", "mod:cow"] ∧
      (⟨"minecraft", "boat"⟩ : Identifier) ≠ Settings.player {} ∧
      walk.records = [⟨"cow", some ⟨"host/Cow.java"⟩⟩, ⟨"marker", none⟩,
        ⟨"mod:cow", some ⟨"host/Cow.java"⟩⟩] ∧
      walk.diagnostics =
        [⟨.instantiationEmpty, none, "entity kind `marker` produced no instance", []⟩] ∧
      walk.classes = ClassTable.collectAll TypeGraph.entwined [0, 0] ∧
      (walk.log.filter fun entry => decide (entry.level = .debug)) =
        ["skipping player kind `minecraft:player`",
          "skipping entity entry: cannot access registry entry `minecraft:egg`: not an entity",
          "skipping entity kind `minecraft:boat`: instance of `minecraft:boat` has an unexpected " ++
            "type"].map noteEntry := by
  intro walk
  obtain ⟨hrequests, hplayer, -, hlog, -, hrecords, hwarnings, hclasses⟩ :=
    run_accounts_for_entries TypeGraph.entwined cowsOnly {} mixedRegistry
  have hboat : ((⟨"minecraft", "boat"⟩ : Identifier), Settings.world {}) ∈ walk.requests := by
    rw [hrequests]
    decide
  have hfound : walk.records = [⟨"cow", some ⟨"host/Cow.java"⟩⟩, ⟨"marker", none⟩,
      ⟨"mod:cow", some ⟨"host/Cow.java"⟩⟩] := by
    rw [hrecords]
    decide +kernel
  refine ⟨by rw [hrequests]; decide +kernel, hplayer _ hboat, hfound, ?_, hclasses, ?_⟩
  · rw [hwarnings, hfound]
    rfl
  · rw [hlog]
    decide +kernel

end RegistrySchema.EntityWalk

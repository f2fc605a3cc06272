import Mathlib.SetTheory.Cardinal.Finite
import RegistrySchema.Proofs.EntityWalk

/-!
# The walk over entity kinds, step by step

The way up from a type follows superclasses, and the host's graph may have cycles of them. Here the
walk is a machine that does a bounded amount of work in one step: it goes up by one class, turns to
the next ancestor of a collected type, or turns to the next registry entry. Nothing is known of a
machine beforehand that would make it stop. All three parts do (`EntityWalk.run_ends`), after a
number of steps that only depends on the number of types and of registry entries, and what they
have then is what the walk finds.

The way up carries the argument. The types that were met are pairwise distinct, and each step up
meets at least one more, so there are no more steps than types.
-/

namespace RegistrySchema

/-! ## Machines -/

section Machine

variable {σ ρ : Type} {step : σ → Option σ} {m n : Nat} {s t u : σ}

/-- A machine gets from a state to another in at most so many steps. -/
inductive Within (step : σ → Option σ) : Nat → σ → σ → Prop
  /-- It stays where it is. -/
  | stay {bound : Nat} (s : σ) : Within step bound s s
  /-- It goes on after a step. -/
  | next {bound : Nat} {s t u : σ} (hstep : step s = some t) (hrest : Within step bound t u) :
      Within step (bound + 1) s u

theorem Within.one (h : step s = some t) : Within step 1 s t := .next h (.stay t)

theorem Within.mono (h : Within step m s t) (hle : m ≤ n) : Within step n s t := by
  induction h generalizing n with
  | stay s => exact .stay s
  | next hstep _ ih =>
    obtain ⟨k, rfl⟩ := Nat.exists_eq_add_of_le hle
    rw [Nat.add_right_comm]
    exact .next hstep (ih (Nat.le_add_right _ k))

theorem Within.trans (h : Within step m s t) (hmore : Within step n t u) :
    Within step (m + n) s u := by
  induction h with
  | stay s => exact hmore.mono (Nat.le_add_left n _)
  | next hstep _ ih =>
    rw [Nat.add_right_comm]
    exact .next hstep (ih hmore)

/-- A machine that does the steps of another gets as far. -/
theorem Within.map {other : ρ → Option ρ} (f : σ → ρ)
    (hf : ∀ a b, step a = some b → other (f a) = some (f b)) (h : Within step n s t) :
    Within other n (f s) (f t) := by
  induction h with
  | stay s => exact .stay (f s)
  | next hstep _ ih => exact .next (hf _ _ hstep) ih

/-- A machine comes to rest in a state after at most so many steps. -/
def Ends (step : σ → Option σ) (bound : Nat) (s last : σ) : Prop :=
  Within step bound s last ∧ step last = none

end Machine

variable {τ : Type} [DecidableEq τ]

/-! ## The way up -/

/-- New members, each once, in front of what was seen. -/
theorem nodup_firstsAfter_append {seen : List τ} (h : seen.Nodup) (xs : List τ) :
    (firstsAfter seen xs ++ seen).Nodup := by
  refine List.nodup_append.2 ⟨nodup_firstsAfter seen xs, h, fun x hx y hy hxy => ?_⟩
  exact (mem_firstsAfter.1 hx).2 (hxy ▸ hy)

omit [DecidableEq τ] in
/-- Distinct types are not more than there are. -/
theorem TypeGraph.length_le_card (graph : TypeGraph τ) {ts : List τ} (h : ts.Nodup) :
    ts.length ≤ Nat.card τ := by
  classical
  have : Fintype τ := ⟨graph.types.toFinset, fun t => List.mem_toFinset.2 (graph.mem_types t)⟩
  rw [Nat.card_eq_fintype_card]
  exact h.length_le_card

/-- No type has all types for ancestors. -/
theorem TypeGraph.length_ancestors_lt (graph : TypeGraph τ) (t : τ) :
    (graph.ancestors t).length < Nat.card τ :=
  graph.length_le_card
    (List.nodup_cons.2 ⟨graph.not_mem_ancestors_self t, graph.nodup_ancestors t⟩)

/-- Where the way up from a type stands. -/
structure Ascent (τ : Type) where
  /-- The ancestors found. -/
  found : List τ
  /-- The types met. -/
  met : List τ
  /-- The class to go to, unless the way ends. -/
  next : Option τ

namespace Ascent

/-- The way up from a type, when its own interfaces have been found. -/
def start (graph : TypeGraph τ) (t : τ) : Ascent τ where
  found := firstsAfter [t] (graph.interfaces t)
  met := firstsAfter [t] (graph.interfaces t) ++ [t]
  next := graph.superclass t

/-- Go to a class. The way ends at the root and at a class that was met. -/
def enter (graph : TypeGraph τ) (ascent : Ascent τ) (c : τ) : Ascent τ :=
  if graph.isRoot c = true ∨ c ∈ ascent.met then { ascent with next := none }
  else
    -- Interfaces count as met: a class that was an interface further down ends the way, too.
    { found := ascent.found ++ c :: firstsAfter (c :: ascent.met) (graph.interfaces c)
      met := firstsAfter (c :: ascent.met) (graph.interfaces c) ++ c :: ascent.met
      next := graph.superclass c }

/-- One step up, if the way goes on. -/
def step (graph : TypeGraph τ) (ascent : Ascent τ) : Option (Ascent τ) :=
  ascent.next.map (ascent.enter graph)

/-- What is found in the end. -/
def outcome (graph : TypeGraph τ) (ascent : Ascent τ) : List τ :=
  ascent.found ++ graph.climb ascent.met ascent.next

/-- A step does not change what is found in the end. -/
theorem outcome_enter (graph : TypeGraph τ) {ascent : Ascent τ} {c : τ}
    (hnext : ascent.next = some c) :
    (ascent.enter graph c).outcome graph = ascent.outcome graph := by
  rw [outcome, outcome, hnext, enter, TypeGraph.climb]
  split
  · rw [TypeGraph.climb]
  · simp only [List.append_assoc, List.cons_append]

/-- A step up meets a class that is new, and keeps the types met distinct. -/
theorem nodup_met_enter (graph : TypeGraph τ) {ascent : Ascent τ} {c : τ}
    (hnodup : ascent.met.Nodup) (hgo : ¬ (graph.isRoot c = true ∨ c ∈ ascent.met)) :
    (ascent.enter graph c).met.Nodup ∧ ascent.met.length < (ascent.enter graph c).met.length := by
  have hnew : (c :: ascent.met).Nodup := List.nodup_cons.2 ⟨fun hc => hgo (Or.inr hc), hnodup⟩
  rw [enter, if_neg hgo]
  refine ⟨nodup_firstsAfter_append hnew _, ?_⟩
  rw [List.length_append, List.length_cons]
  omega

/-- The way up comes to rest at the next step if there is no class to go to, or none that is new. -/
theorem exists_ends_of_stop (graph : TypeGraph τ) {ascent : Ascent τ}
    (hstop : ∀ c ∈ ascent.next, graph.isRoot c = true ∨ c ∈ ascent.met) :
    ∃ last, Ends (step graph) 1 ascent last ∧ last.found = ascent.outcome graph := by
  cases hnext : ascent.next with
  | none =>
    have hrest : step graph ascent = none := by rw [step, hnext, Option.map_none]
    refine ⟨ascent, ⟨.stay ascent, hrest⟩, ?_⟩
    rw [outcome, hnext, TypeGraph.climb, List.append_nil]
  | some c =>
    have henter : ascent.enter graph c = { ascent with next := none } := if_pos (hstop c hnext)
    have hstep : step graph ascent = some (ascent.enter graph c) := by
      rw [step, hnext, Option.map_some]
    refine ⟨ascent.enter graph c, ⟨.one hstep, by rw [henter, step, Option.map_none]⟩, ?_⟩
    rw [← outcome_enter graph hnext, outcome, henter, TypeGraph.climb, List.append_nil]

/-- The way up comes to rest. With `k` types that were not met, it does so after at most `k` steps
up and one that finds its end. -/
theorem exists_ends (graph : TypeGraph τ) (k : Nat) (ascent : Ascent τ)
    (hnodup : ascent.met.Nodup) (hleft : Nat.card τ ≤ ascent.met.length + k) :
    ∃ last, Ends (step graph) (k + 1) ascent last ∧ last.found = ascent.outcome graph := by
  -- By induction on the number of types that were not met, of which each step up takes one or more.
  induction k using Nat.strongRecOn generalizing ascent with
  | ind k ih =>
    by_cases hstop : ∀ c ∈ ascent.next, graph.isRoot c = true ∨ c ∈ ascent.met
    · obtain ⟨last, ⟨hlast, hrest⟩, hfound⟩ := exists_ends_of_stop graph hstop
      exact ⟨last, ⟨hlast.mono (Nat.le_add_left 1 k), hrest⟩, hfound⟩
    · -- The way goes on to a new class, so not all types were met.
      simp only [not_forall] at hstop
      obtain ⟨c, hnext, hgo⟩ := hstop
      have hstep : step graph ascent = some (ascent.enter graph c) := by
        rw [step, hnext, Option.map_some]
      obtain ⟨hnodup', hmore⟩ := nodup_met_enter graph hnodup hgo
      have hall := graph.length_le_card hnodup'
      obtain ⟨j, rfl⟩ : ∃ j, k = j + 1 := Nat.exists_eq_add_one.2 (by omega)
      obtain ⟨last, ⟨hlast, hrest⟩, hfound⟩ :=
        ih j (Nat.lt_succ_self j) (ascent.enter graph c) hnodup' (by omega)
      exact ⟨last, ⟨.next hstep hlast, hrest⟩, hfound.trans (outcome_enter graph hnext)⟩

/-- The way up from a type takes no more steps than there are types, and finds the ancestors. -/
theorem exists_ends_start (graph : TypeGraph τ) (t : τ) :
    ∃ last, Ends (step graph) (Nat.card τ) (start graph t) last ∧
      last.found = graph.ancestors t := by
  have hnodup : (start graph t).met.Nodup :=
    nodup_firstsAfter_append (List.nodup_singleton t) (graph.interfaces t)
  have hsome : 1 ≤ (start graph t).met.length := by
    rw [start, List.length_append, List.length_singleton]
    omega
  have hcard := graph.length_ancestors_lt t
  obtain ⟨last, hlast, hfound⟩ :=
    exists_ends graph (Nat.card τ - 1) (start graph t) hnodup (by omega)
  rw [Nat.sub_add_cancel (Nat.one_le_of_lt hcard)] at hlast
  exact ⟨last, hlast, hfound⟩

end Ascent

/-! ## Collecting a type -/

/-- Where collecting a type stands. -/
inductive Collection (τ : Type) where
  /-- On the way up from the type. -/
  | own (table : ClassTable) (t : τ) (ascent : Ascent τ)
  /-- Before the next of its ancestors. -/
  | between (table : ClassTable) (others : List τ)
  /-- On the way up from one of its ancestors. -/
  | other (table : ClassTable) (others : List τ) (t : τ) (ascent : Ascent τ)

namespace Collection

/-- The table so far. -/
def table : Collection τ → ClassTable
  | own table _ _ => table
  | between table _ => table
  | other table _ _ _ => table

/-- Collecting a type begins with its way up. -/
def start (graph : TypeGraph τ) (table : ClassTable) (t : τ) : Collection τ :=
  own table t (.start graph t)

/-- The table with the entry of a type, when its way up has ended. -/
def conclude (graph : TypeGraph τ) (table : ClassTable) (t : τ) (ascent : Ascent τ) : ClassTable :=
  table.insert (graph.sourcePath t) (firsts (ascent.found.map graph.sourcePath))

/-- One step of collecting a type, if there is something left to do. -/
def step (graph : TypeGraph τ) : Collection τ → Option (Collection τ)
  | own table t ascent =>
    -- The ancestors are all found before the first of them is entered.
    match ascent.step graph with
    | some next => some (own table t next)
    | none => some (between (conclude graph table t ascent) ascent.found)
  | between _ [] => none
  | between table (t :: others) =>
    -- There is no way up from an ancestor that has an entry.
    if table.contains (graph.sourcePath t) then some (between table others)
    else some (other table others t (.start graph t))
  | other table others t ascent =>
    match ascent.step graph with
    | some next => some (other table others t next)
    | none => some (between (conclude graph table t ascent) others)

variable (graph : TypeGraph τ) (table : ClassTable)

/-- The way up from the type, and its entry. -/
theorem within_own (t : τ) :
    Within (step graph) (Nat.card τ + 1) (start graph table t)
      (between (ClassTable.enter graph table t) (graph.ancestors t)) := by
  obtain ⟨last, ⟨hlast, hrest⟩, hfound⟩ := Ascent.exists_ends_start graph t
  have hup : Within (step graph) (Nat.card τ) (start graph table t) (own table t last) :=
    hlast.map (own table t) fun a b hab => by rw [step, hab]
  refine hup.trans (.one ?_)
  rw [step, hrest, conclude, hfound]
  rfl

/-- An ancestor is entered, or was there before. -/
theorem within_between_cons (t : τ) (others : List τ) :
    Within (step graph) (Nat.card τ + 2) (between table (t :: others))
      (between (ClassTable.enter graph table t) others) := by
  by_cases hknown : table.contains (graph.sourcePath t) = true
  · have hstep : step graph (between table (t :: others)) =
        some (between (ClassTable.enter graph table t) others) := by
      rw [step, if_pos hknown, ClassTable.enter, Catalog.insert_of_mem _ (of_decide_eq_true hknown)]
    exact (Within.one hstep).mono (Nat.le_add_left 1 _)
  · obtain ⟨last, ⟨hlast, hrest⟩, hfound⟩ := Ascent.exists_ends_start graph t
    have hup : Within (step graph) (Nat.card τ) (other table others t (.start graph t))
        (other table others t last) :=
      hlast.map (other table others t) fun a b hab => by rw [step, hab]
    have hstart : step graph (between table (t :: others)) =
        some (other table others t (.start graph t)) := by
      rw [step, if_neg hknown]
    have hend : step graph (other table others t last) =
        some (between (ClassTable.enter graph table t) others) := by
      rw [step, hrest, conclude, hfound]
      rfl
    exact .next hstart (hup.trans (.one hend))

/-- The ancestors are entered one after the other. -/
theorem within_between (others : List τ) :
    Within (step graph) (others.length * (Nat.card τ + 2)) (between table others)
      (between (others.foldl (ClassTable.enter graph) table) []) := by
  induction others generalizing table with
  | nil => exact .stay _
  | cons t others ih =>
    rw [List.length_cons, Nat.succ_mul, Nat.add_comm, List.foldl_cons]
    exact (within_between_cons graph table t others).trans (ih _)

/-- Collecting a type comes to rest, with the table that has the type and its ancestors. -/
theorem within_start (t : τ) :
    Within (step graph) (Nat.card τ * (Nat.card τ + 2)) (start graph table t)
      (between (ClassTable.collect graph table t) []) := by
  -- The type and its ancestors are at most all types, each with one way up.
  have hancestors := graph.length_ancestors_lt t
  have hbound : Nat.card τ + 1 + (graph.ancestors t).length * (Nat.card τ + 2) ≤
      Nat.card τ * (Nat.card τ + 2) :=
    calc Nat.card τ + 1 + (graph.ancestors t).length * (Nat.card τ + 2)
        ≤ ((graph.ancestors t).length + 1) * (Nat.card τ + 2) := by rw [Nat.succ_mul]; omega
      _ ≤ Nat.card τ * (Nat.card τ + 2) := Nat.mul_le_mul_right _ hancestors
  exact ((within_own graph table t).trans (within_between graph _ _)).mono hbound

end Collection

/-! ## Walking over a registry -/

/-- Where a walk over entity kinds stands. -/
structure Walker (τ : Type) where
  /-- The entries to come. -/
  todo : Registry Identifier
  /-- What the walk has found. -/
  walk : EntityWalk
  /-- The record of the object at hand, and where collecting its type stands. -/
  busy : Option (EntityRecord × Collection τ)

namespace Walker

/-- A walk begins with all entries to come. -/
def start (registry : Registry Identifier) : Walker τ := ⟨registry, EntityWalk.empty, none⟩

variable (graph : TypeGraph τ) (factory : Factory τ) (settings : Settings)

/-- Turn to an entry. It is settled at once unless there is an object, whose type is collected. -/
def turn (todo : Registry Identifier) (walk : EntityWalk) :
    Except AccessError Identifier → Walker τ
  | .error err => ⟨todo, EntityWalk.visit graph factory settings walk (.error err), none⟩
  | .ok kind =>
    if kind = settings.player then
      ⟨todo, EntityWalk.visit graph factory settings walk (.ok kind), none⟩
    else
      let asked := { walk with requests := walk.requests ++ [(kind, settings.world)] }
      match factory kind settings.world with
      | .ok (some t) =>
        -- The object gets its record when its type is collected.
        ⟨todo, asked, some (⟨settings.kindName kind, some (graph.sourcePath t)⟩,
          .start graph walk.classes t)⟩
      | answer => ⟨todo, asked.receive graph settings kind answer, none⟩

/-- One step of a walk, if there is something left to do. -/
def step : Walker τ → Option (Walker τ)
  | ⟨todo, walk, some (record, collection)⟩ =>
    match collection.step graph with
    | some next => some ⟨todo, walk, some (record, next)⟩
    | none =>
      some ⟨todo, { walk with records := walk.records ++ [record], classes := collection.table },
        none⟩
  | ⟨[], _, none⟩ => none
  | ⟨entry :: todo, walk, none⟩ => some (turn graph factory settings todo walk entry)

/-- The type of an object is collected, and then the object has its record. -/
theorem within_busy (todo : Registry Identifier) (walk : EntityWalk) (record : EntityRecord)
    (t : τ) :
    Within (step graph factory settings) (Nat.card τ * (Nat.card τ + 2) + 1)
      ⟨todo, walk, some (record, .start graph walk.classes t)⟩
      ⟨todo, { walk with
        records := walk.records ++ [record]
        classes := ClassTable.collect graph walk.classes t }, none⟩ := by
  have hcollect : Within (step graph factory settings) (Nat.card τ * (Nat.card τ + 2))
      ⟨todo, walk, some (record, .start graph walk.classes t)⟩
      ⟨todo, walk, some (record, .between (ClassTable.collect graph walk.classes t) [])⟩ :=
    (Collection.within_start graph walk.classes t).map
      (fun collection => (⟨todo, walk, some (record, collection)⟩ : Walker τ))
      fun a b hab => by rw [step, hab]
  exact hcollect.trans (.one rfl)

/-- An entry is settled. -/
theorem within_entry (entry : Except AccessError Identifier) (todo : Registry Identifier)
    (walk : EntityWalk) :
    Within (step graph factory settings) (Nat.card τ * (Nat.card τ + 2) + 2)
      ⟨entry :: todo, walk, none⟩
      ⟨todo, EntityWalk.visit graph factory settings walk entry, none⟩ := by
  refine .next (t := turn graph factory settings todo walk entry) rfl ?_
  cases entry with
  | error err => exact .stay _
  | ok kind =>
    by_cases hplayer : kind = settings.player
    · rw [turn, if_pos hplayer]
      exact .stay _
    · rw [turn, if_neg hplayer, EntityWalk.visit, if_neg hplayer]
      rcases factory kind settings.world with err | _ | t
      · exact .stay _
      · exact .stay _
      · exact within_busy graph factory settings todo _ _ t

/-- The entries are settled one after the other. -/
theorem within_todo (todo : Registry Identifier) (walk : EntityWalk) :
    Within (step graph factory settings) (todo.length * (Nat.card τ * (Nat.card τ + 2) + 2))
      ⟨todo, walk, none⟩
      ⟨[], todo.foldl (EntityWalk.visit graph factory settings) walk, none⟩ := by
  induction todo generalizing walk with
  | nil => exact .stay _
  | cons entry todo ih =>
    rw [List.length_cons, Nat.succ_mul, Nat.add_comm, List.foldl_cons]
    exact (within_entry graph factory settings entry todo walk).trans (ih _)

end Walker

/-- The walk ends on every graph, whatever its superclasses and interfaces are. Let there be `N`
types. The way up from a type goes to a class at most `N` times, the last class included that it
goes no further from, and finds the ancestors, at most `N - 1` of them. Collecting a type goes one
way up for the type and one for each ancestor that the table does not have, so it ends, too, with
the type collected; and so does the walk over a registry, which collects one type for each object
at most. -/
theorem EntityWalk.run_ends (graph : TypeGraph τ) :
    (∀ t, (graph.ancestors t).length < Nat.card τ ∧
      ∃ last, Ends (Ascent.step graph) (Nat.card τ) (.start graph t) last ∧
        last.found = graph.ancestors t) ∧
    (∀ table t, ∃ last,
      Ends (Collection.step graph) (Nat.card τ * (Nat.card τ + 2)) (.start graph table t) last ∧
        last.table = ClassTable.collect graph table t) ∧
    ∀ factory settings registry, ∃ last,
      Ends (Walker.step graph factory settings)
          (registry.length * (Nat.card τ * (Nat.card τ + 2) + 2)) (.start registry) last ∧
        last.walk.finish = run graph factory settings registry := by
  refine ⟨fun t => ⟨graph.length_ancestors_lt t, Ascent.exists_ends_start graph t⟩,
    fun table t => ?_, fun factory settings registry => ?_⟩
  · exact ⟨_, ⟨Collection.within_start graph table t, rfl⟩, rfl⟩
  · exact ⟨_, ⟨Walker.within_todo graph factory settings registry empty, rfl⟩, rfl⟩

end RegistrySchema

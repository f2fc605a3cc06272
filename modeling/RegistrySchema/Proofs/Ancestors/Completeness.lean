import RegistrySchema.Proofs.Ancestors

/-!
# What the ancestors leave out

The walk upwards takes a class that it met before for the sign of a cycle. A class can also have
been met as an interface, declared by the type itself or by a class lower down, and then the walk
ends without a cycle.

* `passed` is the part of the superclass path that the walk gets to see: all of it, or what comes
  before the first class that is declared as an interface lower down.
* `mem_ancestors_iff` says which types are ancestors: those that the type and the passed classes
  declare or are.

So nothing is missing exactly if whatever the rest of the path would add was met anyway. The graph
`doubled`, with a class that is extended and declared as an interface by the same type, shows that
the rest of a path can be missing.
-/

namespace RegistrySchema.TypeGraph

variable {τ : Type} [DecidableEq τ]

/-- The start of a path, up to the first class that is among the interfaces declared so far. -/
def beforeDeclared (graph : TypeGraph τ) (declared : List τ) : List τ → List τ
  | [] => []
  | c :: path =>
    if c ∈ declared then []
    else c :: graph.beforeDeclared (declared ++ graph.interfaces c) path

/-- The superclasses that the walk passes, nearest first. -/
def passed (graph : TypeGraph τ) (t : τ) : List τ :=
  graph.beforeDeclared (graph.interfaces t) (graph.classPath t)

/-! ## The classes that are passed -/

/-- The rest of a path begins with a class that was declared as an interface. -/
theorem eq_append_beforeDeclared (graph : TypeGraph τ) (declared path : List τ) :
    graph.beforeDeclared declared path = path ∨
      ∃ c rest, path = graph.beforeDeclared declared path ++ c :: rest ∧
        (c ∈ declared ∨ ∃ d ∈ graph.beforeDeclared declared path, c ∈ graph.interfaces d) := by
  induction path generalizing declared with
  | nil => exact Or.inl rfl
  | cons c path ih =>
    unfold beforeDeclared
    split
    · next hc => exact Or.inr ⟨c, path, rfl, Or.inl hc⟩
    · rcases ih (declared ++ graph.interfaces c) with hall | ⟨d, rest, hpath, hd⟩
      · exact Or.inl (by rw [hall])
      · refine Or.inr ⟨d, rest, by rw [List.cons_append, ← hpath], ?_⟩
        rw [List.mem_append, or_assoc] at hd
        -- The class was declared before, or here, or by a class further up.
        rcases hd with hd | hd | ⟨e, he, hd⟩
        · exact Or.inl hd
        · exact Or.inr ⟨c, List.mem_cons_self, hd⟩
        · exact Or.inr ⟨e, List.mem_cons_of_mem c he, hd⟩

/-- The walk passes the whole path, or ends below a class that was declared as an interface. -/
theorem passed_eq_or_exists (graph : TypeGraph τ) (t : τ) :
    graph.passed t = graph.classPath t ∨
      ∃ c rest, graph.classPath t = graph.passed t ++ c :: rest ∧
        ∃ d ∈ t :: graph.passed t, c ∈ graph.interfaces d := by
  refine (graph.eq_append_beforeDeclared (graph.interfaces t) (graph.classPath t)).imp_right ?_
  rintro ⟨c, rest, hpath, hc | ⟨d, hd, hc⟩⟩
  · exact ⟨c, rest, hpath, t, List.mem_cons_self, hc⟩
  · exact ⟨c, rest, hpath, d, List.mem_cons_of_mem t hd, hc⟩

/-! ## The walk along the passed classes -/

/-- The way up lists the classes that it passes with their interfaces. What was met are the
classes on the way and the interfaces declared so far, and nothing else. -/
theorem climb_eq_firstsAfter (graph : TypeGraph τ) (met : List τ) (start : Option τ)
    (path declared : List τ) (hmet : ∀ s, s ∈ met ↔ s ∈ path ∨ s ∈ declared) :
    graph.climb met start =
      firstsAfter met
        ((graph.beforeDeclared declared (graph.pathFrom path start)).flatMap
          graph.declaring) := by
  induction met, start using climb.induct graph generalizing path declared with
  | case1 met =>
    rw [climb, pathFrom]
    rfl
  | case2 met c h =>
    rw [climb, if_pos h]
    by_cases hstop : graph.isRoot c = true ∨ c ∈ path
    · rw [pathFrom, if_pos hstop]
      rfl
    · -- The path goes on, but the class was met as an interface.
      have hdeclared : c ∈ declared := by
        obtain ⟨hroot, hpath⟩ := not_or.1 hstop
        exact ((hmet c).1 (h.resolve_left hroot)).resolve_left hpath
      rw [pathFrom, if_neg hstop, beforeDeclared, if_pos hdeclared]
      rfl
  | case3 met c h ih =>
    have hnew : c ∉ met := fun hc => h (Or.inr hc)
    have hdeclared : c ∉ declared := fun hc => hnew ((hmet c).2 (Or.inr hc))
    have hpath : ∀ s ∈ path, s ∈ met := fun s hs => (hmet s).2 (Or.inl hs)
    rw [climb, if_neg h, graph.pathFrom_of_not_mem hpath h, beforeDeclared, if_neg hdeclared,
      List.flatMap_cons, graph.firstsAfter_declaring hnew]
    congr 1
    refine ih (c :: path) (declared ++ graph.interfaces c) fun s => ?_
    simp only [List.mem_append, mem_firstsAfter, List.mem_cons, hmet]
    tauto

/-- The ancestors: the interfaces of the type, then each class that is passed and its interfaces,
each type at its first position. -/
theorem ancestors_eq_firstsAfter (graph : TypeGraph τ) (t : τ) :
    graph.ancestors t =
      firstsAfter [t]
        (graph.interfaces t ++ (graph.passed t).flatMap graph.declaring) := by
  rw [ancestors, firstsAfter_append]
  congr 1
  refine graph.climb_eq_firstsAfter _ _ [t] (graph.interfaces t) fun s => ?_
  simp only [List.mem_append, mem_firstsAfter, List.mem_singleton]
  tauto

/-- What a type declares or is passed with. -/
theorem mem_ancestors_iff (graph : TypeGraph τ) (t s : τ) :
    s ∈ graph.ancestors t ↔
      s ≠ t ∧ (s ∈ graph.interfaces t ∨ ∃ c ∈ graph.passed t, s ∈ graph.declaring c) := by
  rw [ancestors_eq_firstsAfter, mem_firstsAfter, List.mem_append, List.mem_flatMap,
    List.mem_singleton, and_comm]

/-- Which superclasses and interfaces of a type are its ancestors, and when all of them are. The
walk passes the path of superclasses up to the first class, if there is one, that the type or a
passed class declares as an interface; from there on it only has what was met lower down. -/
theorem ancestors_complete_iff (graph : TypeGraph τ) (t : τ) :
    (∀ s, s ∈ graph.ancestors t ↔
        s ≠ t ∧ (s ∈ graph.interfaces t ∨ ∃ c ∈ graph.passed t, s ∈ graph.declaring c)) ∧
      (graph.passed t = graph.classPath t ∨
        ∃ c rest, graph.classPath t = graph.passed t ++ c :: rest ∧
          ∃ d ∈ t :: graph.passed t, c ∈ graph.interfaces d) ∧
      ((∀ s, s ≠ t → (s ∈ graph.interfaces t ∨ ∃ c ∈ graph.classPath t, s ∈ graph.declaring c) →
          s ∈ graph.ancestors t) ↔
        ∀ c ∈ graph.classPath t, c ∉ graph.passed t → ∀ s ∈ graph.declaring c,
          s = t ∨ s ∈ graph.interfaces t ∨ ∃ d ∈ graph.passed t, s ∈ graph.declaring d) := by
  refine ⟨graph.mem_ancestors_iff t, graph.passed_eq_or_exists t, ?_⟩
  constructor
  · intro hall c hc _ s hs
    by_cases hself : s = t
    · exact Or.inl hself
    · have hmem := hall s hself (Or.inr ⟨c, hc, hs⟩)
      exact Or.inr ((graph.mem_ancestors_iff t s).1 hmem).2
  · rintro hrest s hself (hs | ⟨c, hc, hs⟩)
    · exact (graph.mem_ancestors_iff t s).2 ⟨hself, Or.inl hs⟩
    · refine (graph.mem_ancestors_iff t s).2 ⟨hself, ?_⟩
      by_cases hpassed : c ∈ graph.passed t
      · exact Or.inr ⟨c, hpassed, hs⟩
      · exact (hrest c hc hpassed s hs).resolve_left hself

/-- A zombie that extends a mob and declares it as an interface, too. The mob extends an entity. -/
def doubled : TypeGraph (Fin 4) where
  types := [0, 1, 2, 3]
  mem_types := by decide
  name t := ["java.lang.Object", "host.Entity", "host.Mob", "host.Zombie"][t]
  interfaces t := [[], [], [], [2]][t]
  superclass t := [none, some 0, some 1, some 2][t]
  isRoot t := t = 0

/-- There is no cycle above the zombie, yet the entity is not among its ancestors. -/
theorem not_complete_doubled :
    doubled.classPath 3 = [2, 1] ∧ doubled.ancestors 3 = [2] ∧
      ¬ ∀ s, s ≠ 3 →
        (s ∈ doubled.interfaces 3 ∨ ∃ c ∈ doubled.classPath 3, s ∈ doubled.declaring c) →
          s ∈ doubled.ancestors 3 := by
  have hzombie : doubled.superclass 3 = some 2 := rfl
  have hmob : doubled.superclass 2 = some 1 := rfl
  have hentity : doubled.superclass 1 = some 0 := rfl
  have hpath : doubled.classPath 3 = [2, 1] := by
    rw [classPath, hzombie, pathFrom, if_neg (by decide), hmob, pathFrom, if_neg (by decide),
      hentity, pathFrom, if_pos (by decide)]
  have hancestors : doubled.ancestors 3 = [2] := by
    rw [ancestors_eq_firstsAfter, passed, hpath]
    rfl
  refine ⟨hpath, hancestors, fun hall => ?_⟩
  rw [hpath, hancestors] at hall
  exact absurd (hall 1 (by decide) (by decide)) (by decide)

end RegistrySchema.TypeGraph

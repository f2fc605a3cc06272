import Mathlib.Data.List.Forall2

/-!
# Activities that may fail

An activity that is made of others succeeds if each of them does. These facts say what is known of
the parts when the whole has succeeded or failed: of two activities one after the other, of one
activity for each member of a list, and of a state that is taken through a list.
-/

namespace RegistrySchema

variable {α β ε : Type}

/-- One activity after the other succeeds iff both do. -/
theorem bind_eq_ok_iff {first : Except ε α} {next : α → Except ε β} {b : β} :
    first >>= next = .ok b ↔ ∃ a, first = .ok a ∧ next a = .ok b := by
  cases first with
  | error err => simp [bind, Except.bind]
  | ok a => simp [bind, Except.bind]

theorem map_eq_ok_iff {first : Except ε α} {f : α → β} {b : β} :
    first.map f = .ok b ↔ ∃ a, first = .ok a ∧ f a = b := by
  cases first with
  | error err => simp [Except.map]
  | ok a => simp [Except.map]

/-- An activity fails iff it does not succeed. -/
theorem exists_eq_error_iff {first : Except ε α} :
    (∃ err, first = .error err) ↔ ¬ ∃ a, first = .ok a := by
  cases first <;> simp

/-- Going through a list succeeds iff the activity does for every member, and yields what it yields
for each. -/
theorem mapM_eq_ok_iff {f : α → Except ε β} {xs : List α} {ys : List β} :
    xs.mapM f = .ok ys ↔ List.Forall₂ (fun x y => f x = .ok y) xs ys := by
  induction xs generalizing ys with
  | nil =>
    rw [List.mapM_nil, List.forall₂_nil_left_iff]
    change Except.ok [] = Except.ok ys ↔ ys = []
    rw [Except.ok.injEq]
    exact eq_comm
  | cons x xs ih =>
    rw [List.mapM_cons, List.forall₂_cons_left_iff, bind_eq_ok_iff]
    constructor
    · rintro ⟨y, hy, hrest⟩
      obtain ⟨others, hothers, hlast⟩ := bind_eq_ok_iff.1 hrest
      cases hlast
      exact ⟨y, others, hy, ih.1 hothers, rfl⟩
    · rintro ⟨y, others, hy, hothers, rfl⟩
      exact ⟨y, hy, bind_eq_ok_iff.2 ⟨others, ih.2 hothers, rfl⟩⟩

/-- Going through a list fails at the first member for which the activity fails. -/
theorem mapM_eq_error_iff {f : α → Except ε β} {xs : List α} {err : ε} :
    xs.mapM f = .error err ↔ ∃ good x rest, xs = good ++ x :: rest ∧
      (∀ y ∈ good, ∃ z, f y = .ok z) ∧ f x = .error err := by
  induction xs with
  | nil =>
    rw [List.mapM_nil]
    simp [pure, Except.pure]
  | cons x xs ih =>
    rw [List.mapM_cons]
    simp only [List.cons_eq_append_iff]
    cases hx : f x with
    | error found =>
      simp only [bind, Except.bind, Except.error.injEq]
      constructor
      · rintro rfl
        exact ⟨[], x, xs, Or.inl ⟨rfl, rfl⟩, by simp, hx⟩
      · rintro ⟨good, y, rest, ⟨rfl, heq⟩ | ⟨others, rfl, -⟩, hgood, hy⟩
        · rw [List.cons.injEq] at heq
          rw [heq.1, hx] at hy
          exact Except.error.inj hy
        · obtain ⟨z, hz⟩ := hgood x List.mem_cons_self
          rw [hx] at hz
          cases hz
    | ok z =>
      have hrest : (xs.mapM f >>= fun others => pure (z :: others)) = .error err ↔
          xs.mapM f = .error err := by
        cases xs.mapM f <;> simp [bind, Except.bind, pure, Except.pure]
      refine hrest.trans (ih.trans ?_)
      constructor
      · rintro ⟨good, y, rest, rfl, hgood, hy⟩
        refine ⟨x :: good, y, rest, Or.inr ⟨good, rfl, rfl⟩, ?_, hy⟩
        exact List.forall_mem_cons.2 ⟨⟨z, hx⟩, hgood⟩
      · rintro ⟨good, y, rest, ⟨rfl, heq⟩ | ⟨others, rfl, rfl⟩, hgood, hy⟩
        · rw [List.cons.injEq] at heq
          rw [heq.1, hx] at hy
          cases hy
        · exact ⟨others, y, rest, rfl, (List.forall_mem_cons.1 hgood).2, hy⟩

/-- What every step keeps holds in the end, if it holds at the start. -/
theorem foldlM_invariant {I : β → Prop} {step : β → α → Except ε β}
    (hstep : ∀ state x next, I state → step state x = .ok next → I next) {xs : List α}
    {state last : β} (hstate : I state) (h : xs.foldlM step state = .ok last) : I last := by
  induction xs generalizing state with
  | nil =>
    cases h
    exact hstate
  | cons x xs ih =>
    rw [List.foldlM_cons] at h
    obtain ⟨next, hnext, hrest⟩ := bind_eq_ok_iff.1 h
    exact ih (hstep _ _ _ hstate hnext) hrest

theorem foldlM_cons_eq_ok_iff {step : β → α → Except ε β} {x : α} {xs : List α} {state last : β} :
    (x :: xs).foldlM step state = .ok last ↔
      ∃ next, step state x = .ok next ∧ xs.foldlM step next = .ok last := by
  rw [List.foldlM_cons, bind_eq_ok_iff]

theorem foldlM_append_eq_ok_iff {step : β → α → Except ε β} {xs ys : List α} {state last : β} :
    (xs ++ ys).foldlM step state = .ok last ↔
      ∃ next, xs.foldlM step state = .ok next ∧ ys.foldlM step next = .ok last := by
  rw [List.foldlM_append, bind_eq_ok_iff]

theorem foldlM_concat_eq_ok_iff {step : β → α → Except ε β} {xs : List α} {x : α}
    {state last : β} :
    (xs ++ [x]).foldlM step state = .ok last ↔
      ∃ next, xs.foldlM step state = .ok next ∧ step next x = .ok last := by
  rw [foldlM_append_eq_ok_iff]
  simp only [List.foldlM_cons, List.foldlM_nil]
  refine exists_congr fun next => and_congr_right fun _ => ?_
  cases step next x <;> simp [bind, Except.bind, pure, Except.pure]

/-- The order of a list does not matter if two steps that succeed one after the other can change
places. -/
theorem foldlM_eq_ok_of_perm {step : β → α → Except ε β}
    (hswap : ∀ state x y next last, step state x = .ok next → step next y = .ok last →
      ∃ other, step state y = .ok other ∧ step other x = .ok last)
    {xs ys : List α} (hperm : xs.Perm ys) {state last : β}
    (h : xs.foldlM step state = .ok last) : ys.foldlM step state = .ok last := by
  induction hperm generalizing state with
  | nil => exact h
  | cons x _ ih =>
    obtain ⟨next, hnext, hrest⟩ := foldlM_cons_eq_ok_iff.1 h
    exact foldlM_cons_eq_ok_iff.2 ⟨next, hnext, ih hrest⟩
  | swap x y xs =>
    obtain ⟨next, hnext, hrest⟩ := foldlM_cons_eq_ok_iff.1 h
    obtain ⟨second, hsecond, hrest⟩ := foldlM_cons_eq_ok_iff.1 hrest
    obtain ⟨other, hother, hlast⟩ := hswap _ _ _ _ _ hnext hsecond
    exact foldlM_cons_eq_ok_iff.2 ⟨other, hother, foldlM_cons_eq_ok_iff.2 ⟨second, hlast, hrest⟩⟩
  | trans _ _ ih₁ ih₂ => exact ih₂ (ih₁ h)

/-- A step on one member may be replaced by a step on another that does the same. -/
theorem foldlM_replace_eq_ok {step : β → α → Except ε β} {front back : List α} {x y : α}
    {state last : β} (hxy : ∀ state next, step state x = .ok next → step state y = .ok next)
    (h : (front ++ x :: back).foldlM step state = .ok last) :
    (front ++ y :: back).foldlM step state = .ok last := by
  obtain ⟨middle, hfront, hrest⟩ := foldlM_append_eq_ok_iff.1 h
  obtain ⟨next, hnext, hback⟩ := foldlM_cons_eq_ok_iff.1 hrest
  exact foldlM_append_eq_ok_iff.2 ⟨middle, hfront, foldlM_cons_eq_ok_iff.2
    ⟨next, hxy middle next hnext, hback⟩⟩

end RegistrySchema

import Mathlib.Data.List.DropRight
import RegistrySchema.Text.Blank

/-!
# What trimming keeps

Dropping an end is Mathlib's `List.rdropWhile`. A text is kept whole iff its last character is,
and an end is dropped from a text in two parts without looking at the first part, as long as the
first part does not end in a dropped character.
-/

namespace RegistrySchema.Text

/-- Whether a text ends in white space. -/
def endsBlank (cs : List Char) : Bool := cs.getLast?.any isBlank

theorem dropEndWhile_eq_rdropWhile (p : Char → Bool) (cs : List Char) :
    dropEndWhile p cs = cs.rdropWhile p := by
  obtain ⟨tail, htail, hp⟩ := exists_eq_dropEndWhile_append p cs
  -- The text is what is kept followed by dropped characters, and what is kept is kept by both.
  have hdrop : (dropEndWhile p cs ++ tail).rdropWhile p = (dropEndWhile p cs).rdropWhile p := by
    clear htail
    induction tail using List.reverseRecOn with
    | nil => rw [List.append_nil]
    | append_singleton tail c ih =>
      rw [← List.append_assoc, List.rdropWhile_concat_pos _ _ _ (hp c (by simp)),
        ih fun d hd => hp d (by simp [hd])]
  have hkeep : (dropEndWhile p cs).rdropWhile p = dropEndWhile p cs := by
    rw [List.rdropWhile_eq_self_iff]
    intro hne hlast
    rw [getLast?_dropEndWhile (List.getLast?_eq_some_getLast hne)] at hlast
    cases hlast
  conv_rhs => rw [htail]
  rw [hdrop, hkeep]

theorem isPrefix_dropEndWhile (p : Char → Bool) (cs : List Char) : dropEndWhile p cs <+: cs := by
  rw [dropEndWhile_eq_rdropWhile]
  exact List.rdropWhile_prefix p cs

/-- Nothing is dropped iff the text does not end in a character that is. -/
theorem dropEndWhile_eq_self_iff {p : Char → Bool} {cs : List Char} :
    dropEndWhile p cs = cs ↔ ∀ c, cs.getLast? = some c → p c = false :=
  ⟨fun h _ hc => getLast?_dropEndWhile (h.symm ▸ hc), dropEndWhile_eq_self⟩

/-- Behind a character that is kept, all characters are kept. -/
theorem dropEndWhile_append {p : Char → Bool} {cs : List Char}
    (h : ∀ c, cs.getLast? = some c → p c = false) (ds : List Char) :
    dropEndWhile p (cs ++ ds) = cs ++ dropEndWhile p ds := by
  induction ds using List.reverseRecOn with
  | nil => rw [List.append_nil, dropEndWhile_nil, List.append_nil, dropEndWhile_eq_self h]
  | append_singleton ds d ih =>
    rw [dropEndWhile_eq_rdropWhile, dropEndWhile_eq_rdropWhile] at ih ⊢
    rw [← List.append_assoc, List.rdropWhile_concat, List.rdropWhile_concat, ih]
    split <;> simp

/-- Trimming after a part of the blank end is dropped already is trimming. -/
theorem trimEnd_dropEndWhile {p : Char → Bool} (hp : ∀ c, p c = true → isBlank c = true)
    (cs : List Char) : trimEnd (dropEndWhile p cs) = trimEnd cs := by
  obtain ⟨tail, htail, htailp⟩ := exists_eq_dropEndWhile_append p cs
  -- What is dropped first is blank, so trimming the whole text drops it too.
  generalize dropEndWhile p cs = kept at htail
  subst htail
  induction tail using List.reverseRecOn with
  | nil => rw [List.append_nil]
  | append_singleton tail c ih =>
    rw [ih fun d hd => htailp d (by simp [hd]), trimEnd, trimEnd, dropEndWhile_eq_rdropWhile,
      dropEndWhile_eq_rdropWhile, ← List.append_assoc,
      List.rdropWhile_concat_pos _ _ _ (hp c (htailp c (by simp)))]

/-- Trimming changes nothing iff the text does not end in white space. -/
theorem trimEnd_eq_self_iff {cs : List Char} : trimEnd cs = cs ↔ endsBlank cs = false := by
  rw [trimEnd, endsBlank, dropEndWhile_eq_rdropWhile, List.rdropWhile_eq_self_iff]
  cases hlast : cs.getLast? with
  | none => simp [List.getLast?_eq_none_iff.1 hlast]
  | some c =>
    have hne : cs ≠ [] := by
      rintro rfl
      cases hlast
    rw [List.getLast?_eq_some_getLast hne, Option.some.injEq] at hlast
    simp [hne, hlast]

/-- A text that does not end in white space keeps also an end of other blank characters. -/
theorem dropEndWhile_eq_self_of_endsBlank {p : Char → Bool}
    (hp : ∀ c, p c = true → isBlank c = true) {cs : List Char} (h : endsBlank cs = false) :
    dropEndWhile p cs = cs := by
  refine dropEndWhile_eq_self fun c hc => ?_
  rw [endsBlank, hc, Option.any_some] at h
  by_contra hpc
  rw [Bool.not_eq_false] at hpc
  rw [hp c hpc] at h
  cases h

end RegistrySchema.Text

/-!
# Cutting texts

Cutting at the first occurrence of a separator, cutting at every occurrence of a character,
and joining again. `splitOnce sep cs` gives what stands before and after the first occurrence
of `sep`; the facts below say that the two parts and the separator make up the whole text.
-/

namespace RegistrySchema.Text

/-- The rest of `cs` after `lead`, if it begins with `lead`. -/
def dropLead? : List Char → List Char → Option (List Char)
  | [], cs => some cs
  | _ :: _, [] => none
  | l :: lead, c :: cs => if l = c then dropLead? lead cs else none

/-- The parts before and after the first occurrence of `sep`. -/
def splitOnce (sep : List Char) : List Char → Option (List Char × List Char)
  | [] => (dropLead? sep []).map fun after => ([], after)
  | c :: cs =>
    match dropLead? sep (c :: cs) with
    | some after => some ([], after)
    | none => (splitOnce sep cs).map fun parts => (c :: parts.1, parts.2)

/-- The pieces between the occurrences of `sep`; one piece more than there are occurrences. -/
def pieces (sep : Char) : List Char → List (List Char)
  | [] => [[]]
  | c :: cs =>
    if c = sep then [] :: pieces sep cs
    else
      match pieces sep cs with
      | [] => [[c]]
      | first :: others => (c :: first) :: others

/-- The texts one after the other with `sep` between neighbours. -/
def joined (sep : List Char) : List (List Char) → List Char
  | [] => []
  | [item] => item
  | item :: items => item ++ sep ++ joined sep items

/-- The rest of `cs` before `tail`, if it ends with `tail`. -/
def dropTail? (tail cs : List Char) : Option (List Char) :=
  (dropLead? tail.reverse cs.reverse).map List.reverse

theorem dropLead?_eq_some_iff {lead cs rest : List Char} :
    dropLead? lead cs = some rest ↔ cs = lead ++ rest := by
  induction lead generalizing cs with
  | nil => simp [dropLead?]
  | cons l lead ih =>
    cases cs with
    | nil => simp [dropLead?]
    | cons c cs =>
      by_cases hlc : l = c
      · subst hlc; simp [dropLead?, ih]
      · simp [dropLead?, hlc, Ne.symm hlc]

/-- The two parts with the separator between them are the whole text. -/
theorem eq_of_splitOnce {sep cs before after : List Char}
    (h : splitOnce sep cs = some (before, after)) : cs = before ++ sep ++ after := by
  induction cs generalizing before with
  | nil =>
    simp only [splitOnce, Option.map_eq_some_iff, dropLead?_eq_some_iff] at h
    obtain ⟨rest, hrest, heq⟩ := h
    cases heq
    simpa using hrest
  | cons c cs ih =>
    unfold splitOnce at h
    split at h
    · next rest hrest =>
      cases h
      simpa using dropLead?_eq_some_iff.1 hrest
    · obtain ⟨parts, hparts, heq⟩ := Option.map_eq_some_iff.1 h
      cases heq
      simp [ih hparts]

/-- There is always a piece, also of the empty text. -/
theorem pieces_ne_nil (sep : Char) (cs : List Char) : pieces sep cs ≠ [] := by
  cases cs with
  | nil => simp [pieces]
  | cons c cs =>
    unfold pieces
    split
    · simp
    · split <;> simp

/-- The pieces joined by the separator are the whole text. -/
theorem joined_pieces (sep : Char) (cs : List Char) : joined [sep] (pieces sep cs) = cs := by
  induction cs with
  | nil => rfl
  | cons c cs ih =>
    unfold pieces
    split
    · next hc =>
      subst hc
      cases hp : pieces c cs with
      | nil => exact absurd hp (pieces_ne_nil c cs)
      | cons first others => rw [hp] at ih; simp [joined, ih]
    · split
      · next hp => exact absurd hp (pieces_ne_nil sep cs)
      · next first others hp =>
        rw [hp] at ih
        cases others with
        | nil => simp_all [joined]
        | cons second others => simp_all [joined]

end RegistrySchema.Text

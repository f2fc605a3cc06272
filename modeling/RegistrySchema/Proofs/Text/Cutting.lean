import Mathlib.Data.List.Infix
import RegistrySchema.Text.Split

/-!
# Where texts are cut

`splitOnce` cuts at the first occurrence of its separator and at no other place, and `pieces`
undoes `joined` for items that do not hold the separator. All parts are infixes of the text they
are cut from, so what a text does not hold, its parts do not hold either.

* `splitOnce_eq_some_iff`: the cut is at the first occurrence, also if an occurrence overlaps
  the one that is cut away.
* `pieces_joined`: what is joined by a separator is cut into the same items again.
* `pieces_append_sep`: a text may be cut at one separator first and in its parts then.
-/

namespace RegistrySchema.Text

/-! ## Cutting once -/

/-- A text begins with `lead` iff something is left after it. -/
theorem dropLead?_eq_none_iff {lead cs : List Char} :
    dropLead? lead cs = none ↔ ¬ lead <+: cs := by
  constructor
  · rintro h ⟨rest, rfl⟩
    rw [dropLead?_eq_some_iff.2 rfl] at h
    cases h
  · intro h
    rw [Option.eq_none_iff_forall_not_mem]
    intro rest hrest
    exact h ⟨rest, (dropLead?_eq_some_iff.1 hrest).symm⟩

/-- A text cannot be cut iff the separator does not occur in it. -/
theorem splitOnce_eq_none_iff {sep cs : List Char} :
    splitOnce sep cs = none ↔ ¬ sep <:+: cs := by
  induction cs with
  | nil =>
    rw [splitOnce, Option.map_eq_none_iff, dropLead?_eq_none_iff, List.infix_nil, List.prefix_nil]
  | cons c cs ih =>
    rw [List.infix_cons_iff, not_or, ← ih, ← dropLead?_eq_none_iff, splitOnce]
    cases dropLead? sep (c :: cs) with
    | none => simp
    | some rest => simp

/-- An occurrence of `sep` that starts in front of a given one is seen before the last character
of the given one. -/
theorem prefix_append_dropLast_iff {sep : List Char} (hsep : sep ≠ []) (before after : List Char)
    (c : Char) :
    sep <+: c :: (before ++ sep.dropLast) ↔ sep <+: c :: (before ++ sep ++ after) := by
  have hlong : c :: (before ++ sep.dropLast) <+: c :: (before ++ sep ++ after) := by
    refine List.cons_prefix_cons.2 ⟨rfl, ?_⟩
    rw [List.append_assoc]
    exact (List.prefix_append_right_inj before).2 ((List.dropLast_prefix sep).trans
      (List.prefix_append sep after))
  constructor
  · exact fun h => h.trans hlong
  · intro h
    -- Both are prefixes of one text, and the separator is the shorter one.
    refine List.prefix_of_prefix_length_le h hlong ?_
    have hpos := List.length_pos_of_ne_nil hsep
    rw [List.length_cons, List.length_append, List.length_dropLast]
    omega

/-- A character that no occurrence starts at is passed over. -/
theorem splitOnce_cons_eq_some_iff {sep cs before after : List Char} {c d : Char}
    (h : dropLead? sep (c :: cs) = none) :
    splitOnce sep (c :: cs) = some (d :: before, after) ↔
      c = d ∧ splitOnce sep cs = some (before, after) := by
  simp only [splitOnce, h, Option.map_eq_some_iff, Prod.mk.injEq, List.cons.injEq, Prod.exists]
  constructor
  · rintro ⟨_, _, hrest, ⟨rfl, rfl⟩, rfl⟩
    exact ⟨rfl, hrest⟩
  · rintro ⟨rfl, hrest⟩
    exact ⟨before, after, hrest, ⟨rfl, rfl⟩, rfl⟩

/-- The cut is at the first occurrence of the separator: none starts earlier. -/
theorem splitOnce_eq_some_iff {sep cs before after : List Char} (hsep : sep ≠ []) :
    splitOnce sep cs = some (before, after) ↔
      cs = before ++ sep ++ after ∧ ¬ sep <:+: before ++ sep.dropLast := by
  induction cs generalizing before with
  | nil =>
    have hnone : splitOnce sep [] = none := by
      rw [splitOnce_eq_none_iff, List.infix_nil]
      exact hsep
    rw [hnone]
    constructor
    · simp
    · rintro ⟨heq, -⟩
      simp [hsep] at heq
  | cons c cs ih =>
    cases before with
    | nil =>
      -- The separator is longer than what it is without its last character.
      have hshort : ¬ sep <:+: sep.dropLast := by
        intro h
        have hle := h.length_le
        have hpos := List.length_pos_of_ne_nil hsep
        rw [List.length_dropLast] at hle
        omega
      rw [splitOnce, List.nil_append, List.nil_append, and_iff_left hshort,
        ← dropLead?_eq_some_iff]
      cases dropLead? sep (c :: cs) with
      | some rest => simp
      | none => simp
    | cons d before =>
      simp only [List.cons_append, List.cons.injEq]
      rw [List.infix_cons_iff, not_or, prefix_append_dropLast_iff hsep before after]
      -- The first character is passed over only if no occurrence starts at it.
      cases hlead : dropLead? sep (c :: cs) with
      | some rest =>
        simp only [splitOnce, hlead, Option.some.injEq, Prod.mk.injEq, reduceCtorEq, false_and,
          false_iff]
        rintro ⟨⟨rfl, rfl⟩, hfirst, -⟩
        exact hfirst ⟨rest, (dropLead?_eq_some_iff.1 hlead).symm⟩
      | none =>
        rw [splitOnce_cons_eq_some_iff hlead, ih]
        constructor
        · rintro ⟨rfl, rfl, hlater⟩
          exact ⟨⟨rfl, rfl⟩, dropLead?_eq_none_iff.1 hlead, hlater⟩
        · rintro ⟨⟨rfl, rfl⟩, -, hlater⟩
          exact ⟨rfl, rfl, hlater⟩

/-- A separator of one character is cut at iff the first part does not hold it. -/
theorem splitOnce_singleton_eq_some_iff {sep : Char} {cs before after : List Char} :
    splitOnce [sep] cs = some (before, after) ↔ cs = before ++ sep :: after ∧ sep ∉ before := by
  rw [splitOnce_eq_some_iff (by simp), List.append_assoc, List.singleton_append,
    List.dropLast_singleton, List.append_nil, List.singleton_infix_iff]

/-- Both parts of a cut text are infixes of it. -/
theorem infix_of_splitOnce {sep cs before after : List Char}
    (h : splitOnce sep cs = some (before, after)) : before <:+: cs ∧ after <:+: cs := by
  rw [eq_of_splitOnce h]
  refine ⟨?_, (List.suffix_append _ _).isInfix⟩
  rw [List.append_assoc]
  exact (List.prefix_append _ _).isInfix

/-- A text ends with `tail` iff something is left before it. -/
theorem dropTail?_eq_some_iff {tail cs rest : List Char} :
    dropTail? tail cs = some rest ↔ cs = rest ++ tail := by
  rw [dropTail?, Option.map_eq_some_iff]
  constructor
  · rintro ⟨back, hback, rfl⟩
    rw [dropLead?_eq_some_iff, List.reverse_eq_iff] at hback
    rw [hback, List.reverse_append, List.reverse_reverse]
  · rintro rfl
    exact ⟨rest.reverse, dropLead?_eq_some_iff.2 List.reverse_append, List.reverse_reverse rest⟩

/-! ## Cutting at every occurrence -/

/-- A text without the separator is one piece. -/
theorem pieces_of_not_mem {sep : Char} {cs : List Char} (h : sep ∉ cs) : pieces sep cs = [cs] := by
  induction cs with
  | nil => rfl
  | cons c cs ih =>
    rw [List.mem_cons, not_or] at h
    rw [pieces, if_neg (Ne.symm h.1), ih h.2]

/-- The first piece ends at the first separator. -/
theorem pieces_append_cons {sep : Char} {cs : List Char} (h : sep ∉ cs) (rest : List Char) :
    pieces sep (cs ++ sep :: rest) = cs :: pieces sep rest := by
  induction cs with
  | nil => rw [List.nil_append, pieces, if_pos rfl]
  | cons c cs ih =>
    rw [List.mem_cons, not_or] at h
    rw [List.cons_append, pieces, if_neg (Ne.symm h.1), ih h.2]

/-- A character that is not the separator goes in front of the first piece. -/
theorem pieces_cons_of_ne {sep c : Char} (h : c ≠ sep) (cs : List Char) :
    pieces sep (c :: cs) = (pieces sep cs).modifyHead (c :: ·) := by
  obtain ⟨first, others, hpieces⟩ := List.exists_cons_of_ne_nil (pieces_ne_nil sep cs)
  rw [pieces, if_neg h, hpieces]
  rfl

/-- Cutting at one separator and then the parts is cutting everywhere. -/
theorem pieces_append_sep (sep : Char) (cs rest : List Char) :
    pieces sep (cs ++ sep :: rest) = pieces sep cs ++ pieces sep rest := by
  induction cs with
  | nil => rw [List.nil_append, pieces, pieces, if_pos rfl, List.singleton_append]
  | cons c cs ih =>
    rw [List.cons_append, pieces, pieces, ih]
    split
    · rfl
    · cases hp : pieces sep cs with
      | nil => exact absurd hp (pieces_ne_nil sep cs)
      | cons first others => rfl

/-- There is one piece more than there are separators. -/
theorem length_pieces (sep : Char) (cs : List Char) :
    (pieces sep cs).length = cs.count sep + 1 := by
  induction cs with
  | nil => rfl
  | cons c cs ih =>
    rw [pieces]
    split
    · next hc => rw [List.length_cons, ih, hc, List.count_cons_self]
    · next hc =>
      rw [List.count_cons_of_ne hc, ← ih]
      cases hp : pieces sep cs with
      | nil => exact absurd hp (pieces_ne_nil sep cs)
      | cons first others => rfl

theorem joined_cons_cons (sep first second : List Char) (items : List (List Char)) :
    joined sep (first :: second :: items) = first ++ sep ++ joined sep (second :: items) := rfl

theorem joined_cons_of_ne_nil (sep first : List Char) {items : List (List Char)}
    (h : items ≠ []) : joined sep (first :: items) = first ++ sep ++ joined sep items := by
  obtain ⟨second, items, rfl⟩ := List.exists_cons_of_ne_nil h
  rfl

/-- The pieces of joined items are the items. -/
theorem pieces_joined {sep : Char} {items : List (List Char)} (hne : items ≠ [])
    (h : ∀ item ∈ items, sep ∉ item) : pieces sep (joined [sep] items) = items := by
  induction items with
  | nil => exact absurd rfl hne
  | cons item items ih =>
    cases items with
    | nil => exact pieces_of_not_mem (h item (by simp))
    | cons next items =>
      rw [joined_cons_cons, List.append_assoc, List.singleton_append,
        pieces_append_cons (h item (by simp)),
        ih (by simp) fun x hx => h x (List.mem_cons_of_mem item hx)]

/-- No piece holds the separator. -/
theorem not_mem_of_mem_pieces {sep : Char} {cs piece : List Char} (h : piece ∈ pieces sep cs) :
    sep ∉ piece := by
  induction cs generalizing piece with
  | nil =>
    rw [pieces, List.mem_singleton] at h
    simp [h]
  | cons c cs ih =>
    rw [pieces] at h
    split at h
    · rcases List.mem_cons.1 h with rfl | h
      · exact List.not_mem_nil
      · exact ih h
    · next hc =>
      -- The character goes in front of the first piece of the rest.
      split at h
      · next hnil => exact absurd hnil (pieces_ne_nil sep cs)
      · next first others hcons =>
        rcases List.mem_cons.1 h with rfl | h
        · rw [List.mem_cons, not_or]
          exact ⟨Ne.symm hc, ih (by simp [hcons])⟩
        · exact ih (by simp [hcons, h])

/-- A joined item is an infix of the whole. -/
theorem infix_joined (sep : List Char) {items : List (List Char)} {item : List Char}
    (h : item ∈ items) : item <:+: joined sep items := by
  induction items with
  | nil => cases h
  | cons first items ih =>
    cases items with
    | nil =>
      rw [List.mem_singleton.1 h, joined]
    | cons next items =>
      rw [joined_cons_cons]
      rcases List.mem_cons.1 h with rfl | h
      · rw [List.append_assoc]
        exact (List.prefix_append _ _).isInfix
      · exact (ih h).trans (List.suffix_append _ _).isInfix

/-- A character of joined items stands in the separator or in an item. -/
theorem mem_of_mem_joined {sep : List Char} {items : List (List Char)} {c : Char}
    (h : c ∈ joined sep items) : c ∈ sep ∨ ∃ item ∈ items, c ∈ item := by
  induction items with
  | nil => cases h
  | cons first items ih =>
    cases items with
    | nil => exact Or.inr ⟨first, List.mem_cons_self, h⟩
    | cons second items =>
      rw [joined_cons_cons, List.mem_append, List.mem_append] at h
      rcases h with (h | h) | h
      · exact Or.inr ⟨first, List.mem_cons_self, h⟩
      · exact Or.inl h
      · refine (ih h).imp_right ?_
        rintro ⟨item, hitem, hc⟩
        exact ⟨item, List.mem_cons_of_mem first hitem, hc⟩

/-- Every piece is an infix of the text. -/
theorem infix_of_mem_pieces {sep : Char} {cs piece : List Char} (h : piece ∈ pieces sep cs) :
    piece <:+: cs := by
  have hjoined := infix_joined [sep] h
  rwa [joined_pieces] at hjoined

end RegistrySchema.Text

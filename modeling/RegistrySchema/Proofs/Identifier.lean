import Mathlib.Data.List.Nodup
import RegistrySchema.Identifier
import RegistrySchema.Proofs.Text.Cutting

/-!
# The written form of identifiers

An identifier that was read has no colon in its namespace, whatever its path looks like, and so it
is known by its written form (`parse_text`). Read identifiers are equal exactly if their texts are
equal once the default namespace is put in front of a text without a colon (`parse_eq_parse_iff`).
-/

namespace RegistrySchema.Identifier

/-- A text without a namespace gets the default one. -/
def completed (s : String) : String :=
  if ':' ∈ s.toList then s else defaultSpace ++ ":" ++ s

theorem toList_text (id : Identifier) :
    id.text.toList = id.space.toList ++ ':' :: id.path.toList := by
  simp [text]

/-- A text is cut at its first colon, if it has one. -/
theorem parse_cases (s : String) :
    (∃ before after, s.toList = before ++ ':' :: after ∧ ':' ∉ before ∧
        parse s = ⟨String.ofList before, String.ofList after⟩) ∨
      (':' ∉ s.toList ∧ parse s = ⟨defaultSpace, s⟩) := by
  unfold parse
  split
  · next before after hcut =>
    obtain ⟨htext, hbefore⟩ := Text.splitOnce_singleton_eq_some_iff.1 hcut
    exact Or.inl ⟨before, after, htext, hbefore, rfl⟩
  · next hcut =>
    rw [Text.splitOnce_eq_none_iff, List.singleton_infix_iff] at hcut
    exact Or.inr ⟨hcut, rfl⟩

/-- No namespace that is read has a colon. -/
theorem colon_not_mem_space_parse (s : String) : ':' ∉ (parse s).space.toList := by
  rcases parse_cases s with ⟨before, after, -, hbefore, hparse⟩ | ⟨-, hparse⟩
  · rw [hparse]
    simpa using hbefore
  · have hdefault : ':' ∉ defaultSpace.toList := by decide
    rw [hparse]
    exact hdefault

/-- An identifier whose namespace has no colon is read from its written form. -/
theorem parse_text {id : Identifier} (h : ':' ∉ id.space.toList) : parse id.text = id := by
  have hcut : Text.splitOnce [':'] id.text.toList = some (id.space.toList, id.path.toList) :=
    Text.splitOnce_singleton_eq_some_iff.2 ⟨id.toList_text, h⟩
  simp [parse, hcut]

theorem parse_text_iff {id : Identifier} : parse id.text = id ↔ ':' ∉ id.space.toList := by
  constructor
  · intro h
    rw [← h]
    exact colon_not_mem_space_parse id.text
  · exact parse_text

/-- What is read is written in full. -/
theorem text_parse (s : String) : (parse s).text = completed s := by
  unfold completed
  rcases parse_cases s with ⟨before, after, htext, -, hparse⟩ | ⟨hcolon, hparse⟩
  · rw [if_pos (by simp [htext]), hparse]
    apply String.toList_injective
    rw [toList_text, htext]
    simp
  · rw [if_neg hcolon, hparse]
    rfl

/-- Texts are read alike iff they are the same text once the default namespace is added. -/
theorem parse_eq_parse_iff {s t : String} : parse s = parse t ↔ completed s = completed t := by
  constructor
  · intro h
    rw [← text_parse, ← text_parse, h]
  · intro h
    rw [← parse_text (colon_not_mem_space_parse s), ← parse_text (colon_not_mem_space_parse t),
      text_parse, text_parse, h]

/-- Texts spell distinct identifiers iff they are distinct once the default namespace is added. -/
theorem nodup_map_parse_iff {texts : List String} :
    (texts.map parse).Nodup ↔ (texts.map completed).Nodup := by
  simp only [List.Nodup, List.pairwise_map, ne_eq, parse_eq_parse_iff]

theorem parse_mem_map_parse_iff {texts : List String} {t : String} :
    parse t ∈ texts.map parse ↔ completed t ∈ texts.map completed := by
  simp only [List.mem_map, parse_eq_parse_iff]

/-- Identifiers whose namespaces have no colon are told apart by their written forms. -/
theorem eq_of_text_eq {a b : Identifier} (ha : ':' ∉ a.space.toList) (hb : ':' ∉ b.space.toList)
    (h : a.text = b.text) : a = b := by
  rw [← parse_text ha, ← parse_text hb, h]

/-! ## Names without a namespace -/

/-- Two identifiers of which one has the namespace that is left out, and as its path the other in
its written form. -/
def Collide (space : String) (a b : Identifier) : Prop :=
  a.space = space ∧ b.space ≠ space ∧ a.path = b.text

/-- Only identifiers that collide have the same name without being the same. -/
theorem stripped_eq_stripped_iff {space : String} {a b : Identifier}
    (ha : ':' ∉ a.space.toList) (hb : ':' ∉ b.space.toList) :
    a.stripped space = b.stripped space ↔ a = b ∨ Collide space a b ∨ Collide space b a := by
  unfold stripped Collide
  by_cases haspace : a.space = space
  · by_cases hbspace : b.space = space
    · -- Both names are paths, and the namespaces are the same.
      rw [if_pos haspace, if_pos hbspace]
      have hsame : a = b ↔ a.path = b.path := by
        constructor
        · exact fun h => h ▸ rfl
        · intro hpath
          cases a
          cases b
          simp_all
      simp [haspace, hbspace, hsame]
    · have hne : a ≠ b := fun h => hbspace (h ▸ haspace)
      rw [if_pos haspace, if_neg hbspace]
      simp [haspace, hbspace, hne]
  · by_cases hbspace : b.space = space
    · have hne : a ≠ b := fun h => haspace (h ▸ hbspace)
      rw [if_neg haspace, if_pos hbspace]
      simp [haspace, hbspace, hne, eq_comm]
    · -- Both names are written forms, which can be read.
      have hsame : a = b ↔ a.text = b.text := ⟨fun h => h ▸ rfl, eq_of_text_eq ha hb⟩
      rw [if_neg haspace, if_neg hbspace]
      simp [haspace, hbspace, hsame]

/-- An identifier that collides with another has a colon in its path. -/
theorem Collide.colon_mem_path {space : String} {a b : Identifier} (h : Collide space a b) :
    ':' ∈ a.path.toList := by
  rw [h.2.2, toList_text]
  simp

/-- Distinct identifiers have distinct names exactly if no two of them collide. -/
theorem nodup_map_stripped_iff {space : String} {ids : List Identifier} (hnodup : ids.Nodup)
    (hids : ∀ id ∈ ids, ':' ∉ id.space.toList) :
    (ids.map fun id => id.stripped space).Nodup ↔ ∀ a ∈ ids, ∀ b ∈ ids, ¬ Collide space a b := by
  rw [List.nodup_map_iff_inj_on hnodup]
  constructor
  · intro hinj a ha b hb hcollide
    have hname := (stripped_eq_stripped_iff (hids a ha) (hids b hb)).2 (Or.inr (Or.inl hcollide))
    have hsame : a = b := hinj a ha b hb hname
    exact hcollide.2.1 (hsame ▸ hcollide.1)
  · intro hfree a ha b hb hname
    rcases (stripped_eq_stripped_iff (hids a ha) (hids b hb)).1 hname with hsame | hab | hba
    · exact hsame
    · exact absurd hab (hfree a ha b hb)
    · exact absurd hba (hfree b hb a ha)

end RegistrySchema.Identifier

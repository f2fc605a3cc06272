/-!
# White space

The characters with Unicode's White_Space property, and trimming by them. A text of such
characters alone is *blank*. The main facts say that trimming only removes a blank end and
that what remains does not end in white space.
-/

namespace RegistrySchema.Text

/-- Characters with the Unicode property White_Space. -/
def isBlank (c : Char) : Bool :=
  (9 ≤ c.toNat && c.toNat ≤ 13) || c.toNat == 0x20 || c.toNat == 0x85 || c.toNat == 0xA0
    || c.toNat == 0x1680 || (0x2000 ≤ c.toNat && c.toNat ≤ 0x200A) || c.toNat == 0x2028
    || c.toNat == 0x2029 || c.toNat == 0x202F || c.toNat == 0x205F || c.toNat == 0x3000

/-- Whether a text has no character but white space. -/
def allBlank (cs : List Char) : Bool := cs.all isBlank

/-- Drop the longest end of `cs` all of whose characters satisfy `p`. -/
def dropEndWhile (p : Char → Bool) : List Char → List Char
  | [] => []
  | c :: cs =>
    match dropEndWhile p cs with
    | [] => if p c then [] else [c]
    | kept => c :: kept

/-- Drop the white space at the end. -/
def trimEnd (cs : List Char) : List Char := dropEndWhile isBlank cs

/-- Drop the white space at both ends. -/
def trim (cs : List Char) : List Char := trimEnd (cs.dropWhile isBlank)

@[simp] theorem dropEndWhile_nil (p : Char → Bool) : dropEndWhile p [] = [] := rfl

/-- Dropping an end leaves the text with an end split off, all of whose characters satisfy `p`. -/
theorem exists_eq_dropEndWhile_append (p : Char → Bool) (cs : List Char) :
    ∃ tail, cs = dropEndWhile p cs ++ tail ∧ ∀ c ∈ tail, p c = true := by
  induction cs with
  | nil => exact ⟨[], by simp⟩
  | cons c cs ih =>
    obtain ⟨tail, htail, hp⟩ := ih
    unfold dropEndWhile
    split
    · next hnil =>
      rw [hnil, List.nil_append] at htail
      subst htail
      split
      · next hc => exact ⟨c :: cs, by simp, by simpa [hc] using hp⟩
      · exact ⟨cs, by simp, hp⟩
    · exact ⟨tail, by rw [List.cons_append, ← htail], hp⟩

/-- What is left does not end in a character that satisfies `p`. -/
theorem getLast?_dropEndWhile {p : Char → Bool} {cs : List Char} {c : Char}
    (h : (dropEndWhile p cs).getLast? = some c) : p c = false := by
  induction cs with
  | nil => simp at h
  | cons d cs ih =>
    unfold dropEndWhile at h
    split at h
    · split at h
      · simp at h
      · next hd => simp_all
    · next hne =>
      apply ih
      rw [← h]
      cases hk : dropEndWhile p cs with
      | nil => exact absurd hk hne
      | cons a as => rw [List.getLast?_cons_cons]

/-- A text that does not end in a character satisfying `p` is left as it is. -/
theorem dropEndWhile_eq_self {p : Char → Bool} {cs : List Char}
    (h : ∀ c, cs.getLast? = some c → p c = false) : dropEndWhile p cs = cs := by
  obtain ⟨tail, htail, hp⟩ := exists_eq_dropEndWhile_append p cs
  cases tail.eq_nil_or_concat with
  | inl hnil => rw [hnil, List.append_nil] at htail; exact htail.symm
  | inr hcat =>
    obtain ⟨front, c, rfl⟩ := hcat
    have hlast : cs.getLast? = some c := by
      rw [htail, List.concat_eq_append, ← List.append_assoc]; simp
    exact absurd (hp c (by simp)) (by simp [h c hlast])

end RegistrySchema.Text

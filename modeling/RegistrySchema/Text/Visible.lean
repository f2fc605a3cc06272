import RegistrySchema.Text.Columns

/-!
# Visible characters

What a text looks like in a line on a terminal: nothing in it moves the cursor or changes the
direction of the writing.
-/

namespace RegistrySchema.Text

/-- What a character looks like: a tab is four spaces, other control characters have pictures, a
joiner is left out and direction marks are replaced. -/
def visibleChar (c : Char) : List Char :=
  if c = '\t' then List.replicate tabWidth ' '
  else if c.toNat < 0x20 then [Char.ofNat (0x2400 + c.toNat)]
  else if c.toNat = 0x7F then [Char.ofNat 0x2421]
  else if c.toNat = 0x200D then []
  else if (0x202A ≤ c.toNat && c.toNat ≤ 0x202E) || (0x2066 ≤ c.toNat && c.toNat ≤ 0x2069) then
    [Char.ofNat 0xFFFD]
  else [c]

/-- What a text looks like. -/
def visible (cs : List Char) : List Char := cs.flatMap visibleChar

end RegistrySchema.Text

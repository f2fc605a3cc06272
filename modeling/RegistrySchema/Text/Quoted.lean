import RegistrySchema.Text.Unprintable

/-!
# Quoted texts

A text between double quotes, with a backslash before quotes and backslashes, short escapes
for NUL, tab, line feed and carriage return, and `\u` with the code point in braces for any
other character that has no printed form.
-/

namespace RegistrySchema.Text

/-- A character as it stands between the quotes. -/
def quotedChar (c : Char) : String :=
  if c = '\x00' then "\\0"
  else if c = '\t' then "\\t"
  else if c = '\r' then "\\r"
  else if c = '\n' then "\\n"
  else if c = '"' then "\\\""
  else if c = '\\' then "\\\\"
  else if isUnprintable c then
    "\\u\x7b" ++ String.ofList (Nat.toDigits 16 c.toNat) ++ "\x7d"
  else c.toString

/-- The text between double quotes. -/
def quoted (s : String) : String := "\"" ++ String.join (s.toList.map quotedChar) ++ "\""

end RegistrySchema.Text

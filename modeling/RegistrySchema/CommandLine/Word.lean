/-!
# Words of a command line

A word that starts with a dash is a flag: two dashes before a long name, behind which a value may
follow an equals sign, or one dash before short names. Two dashes alone end the flags; one dash
alone is an ordinary word.
-/

namespace RegistrySchema.CommandLine

/-- A word by its form. -/
inductive Word where
  /-- The end of the flags. -/
  | escape
  /-- A long name, with its attached value if there is one. -/
  | long (name : String) (attached : Option String)
  /-- Short names behind one dash. -/
  | cluster (names : List Char)
  /-- A word without a dash in front. -/
  | plain
  deriving DecidableEq, Inhabited, Repr

/-- A long name and its attached value. -/
def Word.ofLong (body : List Char) : Word :=
  let name := String.ofList (body.takeWhile (· ≠ '='))
  match body.dropWhile (· ≠ '=') with
  | [] => .long name none
  | _ :: value => .long name (some (String.ofList value))

/-- The form of a word. -/
def Word.ofText (text : String) : Word :=
  match text.toList with
  | ['-', '-'] => .escape
  | '-' :: '-' :: body => .ofLong body
  | ['-'] => .plain
  | '-' :: names => .cluster names
  | _ => .plain

end RegistrySchema.CommandLine

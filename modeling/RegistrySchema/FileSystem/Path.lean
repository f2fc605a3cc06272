import RegistrySchema.Text.Split

/-!
# Paths

A path is a text of pieces with slashes between them. It starts at the root if the text starts with
a slash. Pieces with something in them are steps: a name, or `.` for staying, or `..` for going up.
-/

namespace RegistrySchema

/-- A path. -/
structure Path where
  /-- Whether it starts at the root. -/
  absolute : Bool
  /-- What stands between the slashes, the one for the root apart. -/
  pieces : List String
  deriving DecidableEq, Inhabited, Repr

namespace Path

/-- The path in the characters of a text. -/
def ofChars : List Char → Path
  | '/' :: cs => ⟨true, (Text.pieces '/' cs).map String.ofList⟩
  | cs => ⟨false, (Text.pieces '/' cs).map String.ofList⟩

/-- The path in a text. -/
def ofText (text : String) : Path := ofChars text.toList

/-- The characters of the written form of a path. -/
def chars (path : Path) : List Char :=
  let relative := Text.joined ['/'] (path.pieces.map String.toList)
  if path.absolute then '/' :: relative else relative

/-- The written form of a path. -/
def text (path : Path) : String := String.ofList path.chars

/-- Number of bytes of the written form. -/
def length (path : Path) : Nat := path.text.utf8ByteSize

/-- The steps of a path. -/
def steps (path : Path) : List String := path.pieces.filter (· ≠ "")

/-- Whether the last step has a slash behind it. -/
def endsInSlash (path : Path) : Bool :=
  path.pieces.getLast? = some "" && (path.absolute || 1 < path.pieces.length)

/-- Pieces without those at the end that do not move. -/
def trimmed (pieces : List String) : List String :=
  (pieces.reverse.dropWhile fun piece => piece = "" || piece = ".").reverse

/-- The path without its last move; a path without moves leaves a dot. -/
def parent (path : Path) : Path :=
  let moves := trimmed path.pieces
  let front := trimmed moves.dropLast
  if moves = [] || (front = [] && !path.absolute) then ⟨false, ["."]⟩ else ⟨path.absolute, front⟩

end Path

end RegistrySchema

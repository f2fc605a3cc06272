import RegistrySchema.Json.Doc
import RegistrySchema.Text.Bytes

/-!
# Reading JSON

The tree of a text. Reading stops at the first place where it cannot go on; a value that is read
to its end comes with the rest of the text. Escapes that stand for surrogates have to come in
pairs for the text to have characters.
-/

namespace RegistrySchema.Json

/-- White space between tokens. -/
def isSpace (c : Char) : Bool := c = ' ' || c = '\n' || c = '\t' || c = '\r'

/-- Drop white space. -/
def skipSpace (cs : List Char) : List Char := cs.dropWhile isSpace

/-! ## Texts -/

/-- The value of a hexadecimal digit. -/
def hexDigit? (c : Char) : Option Nat :=
  if '0' ≤ c && c ≤ '9' then some (c.toNat - '0'.toNat)
  else if 'a' ≤ c && c ≤ 'f' then some (c.toNat - 'a'.toNat + 10)
  else if 'A' ≤ c && c ≤ 'F' then some (c.toNat - 'A'.toNat + 10)
  else none

/-- The value of the four hexadecimal digits at the head of a text. With fewer than four bytes
left the text is truncated. -/
def hexUnit (cs : List Char) : Except Flaw (Nat × List Char) :=
  match cs with
  | a :: b :: c :: d :: rest =>
    match hexDigit? a, hexDigit? b, hexDigit? c, hexDigit? d with
    | some a, some b, some c, some d => .ok (((a * 16 + b) * 16 + c) * 16 + d, rest)
    | _, _, _, _ => .error .malformed
  | _ => if Text.byteLength cs < 4 then .error .truncated else .error .malformed

/-- Whether a unit is the first of a surrogate pair. -/
def isLead (unit : Nat) : Bool := 0xD800 ≤ unit && unit ≤ 0xDBFF

/-- Whether a unit is the second of a surrogate pair. -/
def isTrail (unit : Nat) : Bool := 0xDC00 ≤ unit && unit ≤ 0xDFFF

/-- The character of a surrogate pair. -/
def pairChar (lead trail : Nat) : Char :=
  Char.ofNat ((lead - 0xD800) * 0x400 + (trail - 0xDC00) + 0x10000)

/-- The character of a short escape. -/
def shortEscape? : Char → Option Char
  | '"' => some '"'
  | '\\' => some '\\'
  | '/' => some '/'
  | 'b' => some '\x08'
  | 'f' => some '\x0c'
  | 'n' => some '\n'
  | 'r' => some '\r'
  | 't' => some '\t'
  | _ => none

/-- What an escape stands for: a character, or `none` for an unpaired surrogate. -/
def escape (cs : List Char) : Except Flaw (Option Char × List Char) :=
  match cs with
  | [] => .error .truncated
  | 'u' :: digits =>
    match hexUnit digits with
    | .error flaw => .error flaw
    | .ok (unit, rest) =>
      if isLead unit then
        match rest with
        | [] => .error .truncated
        | ['\\'] => .error .truncated
        | '\\' :: 'u' :: more =>
          match hexUnit more with
          | .error flaw => .error flaw
          | .ok (second, rest') =>
            if isTrail second then .ok (some (pairChar unit second), rest') else .ok (none, rest)
        | _ => .ok (none, rest)
      else if isTrail unit then .ok (none, rest)
      else .ok (some (Char.ofNat unit), rest)
  | c :: rest =>
    match shortEscape? c with
    | some d => .ok (some d, rest)
    | none => .error .malformed

/-- A text behind its opening quote: its characters, or `none` if it has an unpaired surrogate,
and the rest. The characters read so far are in reverse order. -/
def textBody (fuel : Nat) (read : List Char) (whole : Bool) (cs : List Char) :
    Except Fault (Option String × List Char) :=
  let fail (flaw : Flaw) : Except Fault (Option String × List Char) :=
    .error ⟨if whole then flaw else .malformed, flaw⟩
  match fuel, cs with
  | 0, _ => fail .malformed
  | _, [] => fail .truncated
  | _, '"' :: rest => .ok (if whole then some (String.ofList read.reverse) else none, rest)
  | fuel + 1, '\\' :: rest =>
    match escape rest with
    | .error flaw => fail flaw
    | .ok (some c, rest) => textBody fuel (c :: read) whole rest
    | .ok (none, rest) => textBody fuel read false rest
  | fuel + 1, c :: rest =>
    if c.toNat < 0x20 then fail .malformed else textBody fuel (c :: read) whole rest

/-- A text behind its opening quote. -/
def readText (fuel : Nat) (cs : List Char) : Except Fault (Option String × List Char) :=
  textBody fuel [] true cs

/-! ## Numbers and words -/

/-- The fault where a digit is missing. -/
def noDigit (cs : List Char) : Fault :=
  if cs.isEmpty then ⟨.truncated, .malformed⟩ else Flaw.malformed.fault

/-- Digits at the head of a text, at least one. -/
def readDigits (cs : List Char) : Except Fault (List Char × List Char) :=
  match cs.takeWhile Char.isDigit with
  | [] => .error (noDigit cs)
  | digits => .ok (digits, cs.dropWhile Char.isDigit)

/-- The digits before the point; a zero stands alone. -/
def readWhole (cs : List Char) : Except Fault (List Char × List Char) := do
  let (digits, rest) ← readDigits cs
  match digits with
  | '0' :: _ :: _ => .error Flaw.malformed.fault
  | _ => .ok (digits, rest)

/-- The digits behind a point, if there is one. -/
def readFraction (cs : List Char) : Except Fault (Option (List Char) × List Char) :=
  match cs with
  | '.' :: rest => do
    let (digits, rest) ← readDigits rest
    return (some digits, rest)
  | _ => .ok (none, cs)

/-- The sign of an exponent. -/
def readSign (cs : List Char) : Bool × List Char :=
  match cs with
  | '+' :: rest => (false, rest)
  | '-' :: rest => (true, rest)
  | _ => (false, cs)

/-- An exponent, if there is one. -/
def readExponent (cs : List Char) : Except Fault (Option (Bool × List Char) × List Char) :=
  match cs with
  | c :: rest =>
    if c = 'e' || c = 'E' then do
      let (down, rest) := readSign rest
      let (digits, rest) ← readDigits rest
      return (some (down, digits), rest)
    else .ok (none, cs)
  | [] => .ok (none, [])

/-- A number. -/
def readNumber (cs : List Char) : Except Fault (NumberText × List Char) := do
  let (negative, rest) :=
    match cs with
    | '-' :: rest => (true, rest)
    | _ => (false, cs)
  let (whole, rest) ← readWhole rest
  let (fraction, rest) ← readFraction rest
  let (exponent, rest) ← readExponent rest
  return ({ negative, whole, fraction, exponent }, rest)

/-- The rest behind a word. -/
def readWord : List Char → List Char → Except Fault (List Char)
  | [], cs => .ok cs
  | _ :: _, [] => .error Flaw.truncated.fault
  | w :: word, c :: cs => if w = c then readWord word cs else .error Flaw.malformed.fault

/-! ## Values -/

/-- A value, and the rest of the text if it was read to its end. -/
abbrev Reading := Doc × Option (List Char)

/-- The value made of a result. -/
def Reading.ofResult {α : Type} (opening : Opening) (make : α → Doc) :
    Except Fault (α × List Char) → Reading
  | .ok (value, rest) => (make value, some rest)
  | .error fault => (.broken opening fault, none)

mutual

/-- A value. -/
def readValue (fuel : Nat) (cs : List Char) : Reading :=
  match fuel, skipSpace cs with
  | 0, _ => (.broken .stray Flaw.malformed.fault, none)
  | _, [] => (.broken .nothing Flaw.truncated.fault, none)
  | fuel + 1, '"' :: rest => Reading.ofResult .text Doc.string (readText fuel rest)
  | _, 'n' :: rest =>
    Reading.ofResult .null (fun _ => Doc.null) ((readWord "ull".toList rest).map ((), ·))
  | _, 't' :: rest =>
    Reading.ofResult .boolean (fun _ => Doc.bool true) ((readWord "rue".toList rest).map ((), ·))
  | _, 'f' :: rest =>
    Reading.ofResult .boolean (fun _ => Doc.bool false)
      ((readWord "alse".toList rest).map ((), ·))
  | fuel + 1, '[' :: rest => readItems fuel [] rest
  | fuel + 1, '{' :: rest => readMembers fuel [] rest
  | _, c :: rest =>
    if c = '-' || c.isDigit then Reading.ofResult .number Doc.number (readNumber (c :: rest))
    else (.broken .stray Flaw.malformed.fault, none)

/-- The rest of an array, given its items so far in reverse order. -/
def readItems (fuel : Nat) (items : List Doc) (cs : List Char) : Reading :=
  let stop (stop : Stop) : Doc := .array items.reverse stop
  match fuel, skipSpace cs with
  | 0, _ => (stop (.broken Flaw.malformed.fault), none)
  | _, [] => (stop (.broken Flaw.truncated.fault), none)
  | _, ']' :: rest => (stop .closed, some rest)
  | fuel + 1, c :: rest =>
    if c = ',' || items.isEmpty then
      match readValue fuel (if c = ',' && !items.isEmpty then rest else c :: rest) with
      | (item, some rest) => readItems fuel (item :: items) rest
      | (item, none) => (.array (item :: items).reverse .unfinished, none)
    else (stop (.broken Flaw.malformed.fault), none)

/-- The rest of an object, given its members so far in reverse order. -/
def readMembers (fuel : Nat) (members : List (Key × Doc)) (cs : List Char) : Reading :=
  let stop (stop : Stop) : Doc := .object members.reverse stop
  let unfinished (member : Key × Doc) : Reading :=
    (.object (member :: members).reverse .unfinished, none)
  match fuel, skipSpace cs with
  | 0, _ => (stop (.broken Flaw.malformed.fault), none)
  | _, [] => (stop (.broken Flaw.truncated.fault), none)
  | _, '}' :: rest => (stop .closed, some rest)
  | fuel + 1, c :: rest =>
    if c = ',' || members.isEmpty then
      match skipSpace (if c = ',' && !members.isEmpty then rest else c :: rest) with
      | [] => (stop (.noKey Flaw.truncated.fault), none)
      | '"' :: rest =>
        match readText fuel rest with
        | .error fault => (stop (.noKey fault), none)
        | .ok (text, rest) =>
          let key := (text.map Key.text).getD .unpaired
          match skipSpace rest with
          | ':' :: rest =>
            match readValue fuel rest with
            | (value, some rest) => readMembers fuel ((key, value) :: members) rest
            | (value, none) => unfinished (key, value)
          | [] => unfinished (key, .broken .nothing Flaw.truncated.fault)
          | _ => unfinished (key, .broken .stray Flaw.malformed.fault)
      | _ => (stop (.noKey Flaw.malformed.fault), none)
    else (stop (.broken Flaw.malformed.fault), none)

end

/-- A whole text: its value, and whether something but white space follows it. -/
structure Document where
  root : Doc
  trailing : Bool

/-- The tree of a text. -/
def Document.ofText (text : String) : Document :=
  let cs := text.toList
  match readValue (2 * cs.length + 2) cs with
  | (root, some rest) => ⟨root, !(skipSpace rest).isEmpty⟩
  | (root, none) => ⟨root, false⟩

end RegistrySchema.Json

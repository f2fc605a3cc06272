import RegistrySchema.Catalog
import RegistrySchema.CommandLine.Invocation
import RegistrySchema.CommandLine.Word

/-!
# Reading command lines

The first word names a command, and the words behind it are read from left to right. A value is
examined only when it is settled: when the next flag or the next ordinary word comes, or at the
end. A flag that nobody knows is refused at once.
-/

namespace RegistrySchema.CommandLine

/-- The commands. -/
inductive Verb where
  | extract
  | check
  deriving DecidableEq, Inhabited, Repr

/-- What a command takes a value for. -/
inductive Slot where
  /-- The file to work on. -/
  | input
  /-- The file to write. -/
  | output
  /-- The namespace that names leave out. -/
  | space
  /-- The kind that is never made. -/
  | player
  /-- When to print in color. -/
  | color
  deriving DecidableEq, Inhabited, Repr

/-- Whether a value fits: paths are not empty, and a color choice has to be known. -/
def Slot.accepts (slot : Slot) (value : String) : Bool :=
  match slot with
  | input => value ≠ ""
  | output => value ≠ ""
  | space => true
  | player => true
  | color => (ColorChoice.ofName? value).isSome

/-- What a flag does. -/
inductive Flag where
  /-- It takes a value. -/
  | takes (slot : Slot)
  /-- It makes the command strict. -/
  | strict
  /-- It makes the command more talkative. -/
  | verbose
  /-- It asks for help. -/
  | help
  deriving DecidableEq, Inhabited, Repr

/-- The flags that each command has, by long name. -/
def Verb.longFlags : Verb → List (String × Flag)
  | extract =>
    [("output", .takes .output), ("namespace", .takes .space), ("player", .takes .player),
      ("strict", .strict), ("color", .takes .color), ("help", .help)]
  | check => [("strict", .strict), ("color", .takes .color), ("help", .help)]

/-- The flags that each command has, by short name. -/
def Verb.shortFlags : Verb → List (Char × Flag)
  | extract => [('o', .takes .output), ('v', .verbose), ('h', .help)]
  | check => [('v', .verbose), ('h', .help)]

/-- A value that has yet to be examined. -/
structure Pending where
  /-- What it is for. -/
  slot : Slot
  /-- The value, if it has come already. -/
  value : Option String
  deriving DecidableEq, Inhabited, Repr

/-- What is known in the middle of a command line. -/
structure Progress where
  /-- The values that are settled. -/
  values : Catalog Slot String := Catalog.empty
  /-- Whether the command is strict. -/
  strict : Bool := false
  /-- How talkative the command is. -/
  verbosity : Nat := 0
  /-- The value that has yet to be examined. -/
  pending : Option Pending := none
  /-- Whether the file to work on has come. -/
  inputGiven : Bool := false
  /-- Whether flags are over. -/
  escaped : Bool := false
  deriving Inhabited

/-- How talkative a command can get. -/
def maxVerbosity : Nat := 255

namespace Progress

/-- Take in a value. No slot is filled twice. -/
def fill (state : Progress) (slot : Slot) (value : String) : Except UsageError Progress :=
  if state.values.contains slot then .error .repeated
  else if slot.accepts value then .ok { state with values := state.values.insert slot value }
  else .error .badValue

/-- Examine the pending value. -/
def settle (state : Progress) : Except UsageError Progress :=
  match state.pending with
  | none => .ok state
  | some ⟨_, none⟩ => .error .badValue
  | some ⟨slot, some value⟩ => { state with pending := none }.fill slot value

/-- A flag with its attached value. -/
def flag (state : Progress) (flag : Flag) (attached : Option String) :
    Except UsageError Progress :=
  match flag, attached with
  | .takes slot, some value => do (← state.settle).fill slot value
  | .takes slot, none => do return { ← state.settle with pending := some ⟨slot, none⟩ }
  | _, some _ => .error .needlessValue
  | .strict, none => do
    let state ← state.settle
    if state.strict then .error .repeated else return { state with strict := true }
  | .verbose, none => do
    let state ← state.settle
    return { state with verbosity := min maxVerbosity (state.verbosity + 1) }
  | .help, none => do
    let _ ← state.settle
    .error .helpWanted

/-- Short names behind a dash. What follows the name of a flag with a value is the value, without
an equals sign at its front. -/
def cluster (verb : Verb) (state : Progress) : List Char → Except UsageError Progress
  | [] => .ok state
  | name :: rest =>
    match (verb.shortFlags.find? fun entry => entry.1 = name).map Prod.snd with
    | none => .error .unknownArgument
    | some (.takes slot) =>
      match rest with
      | [] => state.flag (.takes slot) none
      | '=' :: value => state.flag (.takes slot) (some (String.ofList value))
      | value => state.flag (.takes slot) (some (String.ofList value))
    | some found => do cluster verb (← state.flag found none) rest

/-- A word that is not a value of a flag. -/
def operand (state : Progress) (word : String) : Except UsageError Progress :=
  if state.inputGiven then .error .unknownArgument
  else do
    return { ← state.settle with pending := some ⟨.input, some word⟩, inputGiven := true }

/-- Take in a word. -/
def word (verb : Verb) (state : Progress) (word : String) : Except UsageError Progress :=
  if state.escaped then state.operand word
  else
    match Word.ofText word with
    | .escape => .ok { state with escaped := true }
    | .long name attached =>
      match (verb.longFlags.find? fun entry => entry.1 = name).map Prod.snd with
      | none => .error .unknownArgument
      | some flag => state.flag flag attached
    | .cluster names => state.cluster verb names
    | .plain =>
      match state.pending with
      | some ⟨slot, none⟩ => .ok { state with pending := some ⟨slot, some word⟩ }
      | _ => state.operand word

/-- The invocation at the end of a command line. -/
def finish (verb : Verb) (state : Progress) : Except UsageError Invocation := do
  let state ← state.settle
  let manner : Manner :=
    { strict := state.strict
      color := ((state.values.get? .color).bind ColorChoice.ofName?).getD .auto
      verbosity := state.verbosity }
  match state.values.get? .input with
  | none => .error .missingInput
  | some input =>
    match verb with
    | .extract =>
      return .extract input (state.values.get? .output) (state.values.get? .space)
        (state.values.get? .player) manner
    | .check => return .check input manner

end Progress

/-- The commands by name. -/
def Verb.ofName? (name : String) : Option Verb :=
  if name = "extract" then some .extract
  else if name = "check" then some .check
  else none

/-- The word that asks for help on a command. -/
def helpWord : String := "help"

/-- What is behind the word for help: at most one command. -/
def helpTopics : List String → UsageError
  | [] => .helpWanted
  | [topic] =>
    if (Verb.ofName? topic).isSome || topic = helpWord then .helpWanted else .unknownCommand
  | _ => .unknownCommand

/-- Read the words behind the program's name. -/
def parse : List String → Except UsageError Invocation
  | [] => .error .noCommand
  | word :: words =>
    match Verb.ofName? word with
    | some verb => do (← words.foldlM (Progress.word verb) {}).finish verb
    | none =>
      if word = helpWord then .error (helpTopics words)
      else
        match Word.ofText word with
        | .escape =>
          match words with
          | [] => .error .noCommand
          | next :: _ =>
            if (Verb.ofName? next).isSome || next = helpWord then .error .unknownArgument
            else .error .unknownCommand
        | .long name attached =>
          if name ≠ "help" then .error .unknownArgument
          else if attached.isSome then .error .needlessValue
          else .error .helpWanted
        | .cluster names =>
          if names.head? = some 'h' then .error .helpWanted else .error .unknownArgument
        | .plain => .error .unknownCommand

end RegistrySchema.CommandLine

import RegistrySchema.Catalog
import RegistrySchema.Log
import RegistrySchema.Pattern.Meaning
import RegistrySchema.Text.Blank
import RegistrySchema.Text.Split

/-!
# Log filters

Which log entries are shown, and how. A filter is written as directives with commas between them:
`level` for all sources, `source=level` or `source` for the sources whose names start that way.
The directive with the longest name decides. Behind a slash stands a pattern for what the message
has to contain.
-/

namespace RegistrySchema.Log

/-- The name of a source, from the most general part to the most special. -/
def Source.name : Source → String
  | .blocks => "mcschema_lib::blocks"
  | .entities => "mcschema_lib::entities"

/-- The most talkative level that is shown; `none` shows nothing. -/
abbrev Threshold := Option Level

/-- Whether an entry of a level is shown. -/
def Threshold.admits (threshold : Threshold) (level : Level) : Bool :=
  match threshold with
  | none => false
  | some most => level.rank ≤ most.rank

/-- The thresholds by name. -/
def thresholdNames : List (String × Threshold) :=
  [("off", none), ("error", some .error), ("warn", some .warn), ("info", some .info),
    ("debug", some .debug), ("trace", some .trace)]

/-- The threshold of a name in small or capital letters. -/
def threshold? (word : List Char) : Option Threshold :=
  (thresholdNames.find? fun entry => entry.1.toList = word.map Char.toLower).map Prod.snd

/-- A rule for the sources whose names start in a certain way, or for all. -/
structure Directive where
  /-- How the names start. -/
  name : Option String
  /-- What is shown of them. -/
  threshold : Threshold
  deriving DecidableEq, Inhabited, Repr

/-- Read a directive, or answer with the part that cannot be read. -/
def Directive.ofText (text : List Char) : Except String Directive :=
  match Text.pieces '=' text with
  | [word] =>
    match threshold? word with
    | some threshold => .ok ⟨none, threshold⟩
    | none => .ok ⟨some (String.ofList word), some .trace⟩
  | [name, word] =>
    let word := Text.trim word
    if word.isEmpty then .ok ⟨some (String.ofList name), some .trace⟩
    else
      match threshold? word with
      | some threshold => .ok ⟨some (String.ofList name), threshold⟩
      | none => .error (String.ofList word)
  | _ => .error (String.ofList text)

/-- A filter. -/
structure Filter where
  /-- The directives by the names that they are about. -/
  directives : Catalog (Option String) Threshold
  /-- What a message has to contain. -/
  needle : Option Pattern
  deriving Inhabited

namespace Filter

/-- The filter without directives and the complaints so far. -/
def empty : Filter × List String := (⟨Catalog.empty, none⟩, [])

/-- Take in a directive; of several about one name the last counts. -/
def addDirective (state : Filter × List String) (text : List Char) : Filter × List String :=
  let text := Text.trim text
  if text.isEmpty then state
  else
    match Directive.ofText text with
    | .ok directive =>
      ({ state.1 with directives := state.1.directives.put directive.name directive.threshold },
        state.2)
    | .error part => (state.1, state.2 ++ [part])

/-- The complaint about a part of a specification. -/
def complaint (part : String) : String := "invalid logging spec '" ++ part ++ "'"

/-- The complaint about what should be a pattern. -/
def patternComplaint (text : String) (err : Pattern.Error) : String :=
  "invalid regex filter - " ++ err.message text

/-- The filter that a specification describes, with complaints about what cannot be read. -/
def ofSpec (spec : String) : Filter × List String :=
  match Text.pieces '/' spec.toList with
  | directives :: rest =>
    if 1 < rest.length then (empty.1, [complaint spec ++ " (too many '/'s)"])
    else
      let (filter, parts) := (Text.pieces ',' directives).foldl addDirective empty
      let complaints := parts.map complaint
      match rest.head?.map String.ofList with
      | none => (filter, complaints)
      | some text =>
        match Pattern.ofText text with
        | .ok needle => ({ filter with needle := some needle }, complaints)
        | .error err => (filter, complaints ++ [patternComplaint text err])
  | [] => empty

/-- Whether a directive's name is about a source. -/
def covers (name : Option String) (source : Source) : Bool :=
  match name with
  | none => true
  | some name => name.toList.isPrefixOf source.name.toList

/-- The length of a directive's name. -/
def specificity (name : Option String) : Nat := (name.map String.utf8ByteSize).getD 0

/-- What is shown of a source: the longest name decides, and of equally long ones the last.
Without any directive errors are shown. -/
def threshold (filter : Filter) (source : Source) : Threshold :=
  if filter.directives.isEmpty then some .error
  else
    let candidates := filter.directives.entries.filter fun entry => covers entry.1 source
    let best := candidates.foldl (fun best entry =>
      match best with
      | none => some entry
      | some former =>
        if specificity former.1 ≤ specificity entry.1 then some entry else some former) none
    best.bind Prod.snd

/-- Whether an entry is shown. -/
def admits (filter : Filter) (entry : Entry) : Bool :=
  (filter.threshold entry.source).admits entry.level
    && match filter.needle with
      | none => true
      | some needle => needle.occursIn entry.message.toList

end Filter

/-- The line of an entry. The level takes five columns; further lines of a message are moved to
the right by four. -/
def Entry.line (entry : Entry) : String :=
  let level := entry.level.name
  let padding := String.ofList (List.replicate (5 - level.length) ' ')
  let message := entry.message.toList.flatMap fun c => if c = '\n' then "\n    ".toList else [c]
  "[" ++ level ++ padding ++ " " ++ entry.source.name ++ "] " ++ String.ofList message ++ "\n"

/-- What a run that starts with a specification shows: complaints about the specification, then
the entries that pass. -/
def shown (spec : String) (entries : List Entry) : String :=
  let (filter, complaints) := Filter.ofSpec spec
  String.join (complaints.map fun complaint => "warning: " ++ complaint ++ ", ignoring it\n")
    ++ String.join ((entries.filter filter.admits).map Entry.line)

end RegistrySchema.Log

/-!
# Log entries

What a walk says about its progress: skipped entries at the level `debug`, summaries at the level
`info`.
-/

namespace RegistrySchema.Log

/-- How much a reader has to ask for to see an entry. -/
inductive Level where
  | error
  | warn
  | info
  | debug
  | trace
  deriving DecidableEq, Inhabited, Repr

/-- Position from the least to the most talkative level. -/
def Level.rank : Level → Nat
  | .error => 1
  | .warn => 2
  | .info => 3
  | .debug => 4
  | .trace => 5

/-- The level's name in capitals. -/
def Level.name : Level → String
  | .error => "ERROR"
  | .warn => "WARN"
  | .info => "INFO"
  | .debug => "DEBUG"
  | .trace => "TRACE"

/-- The walk that an entry comes from. -/
inductive Source where
  | blocks
  | entities
  deriving DecidableEq, Inhabited, Repr

/-- One entry. -/
structure Entry where
  /-- Its level. -/
  level : Level
  /-- The walk that made it. -/
  source : Source
  /-- What it says. -/
  message : String
  deriving DecidableEq, Inhabited, Repr

end RegistrySchema.Log

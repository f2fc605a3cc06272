import RegistrySchema.CommandLine.Invocation
import RegistrySchema.Diagnostic.Printer
import RegistrySchema.Error
import RegistrySchema.Extraction
import RegistrySchema.FileSystem.Replace
import RegistrySchema.Log.Filter
import RegistrySchema.Report.Check

/-!
# Running commands

A command reads one file. What it makes of the content is settled by that: either it is done, or
it has a report to store and knows what to say of the success or the failure of that.
-/

namespace RegistrySchema.CommandLine

/-- What a user sees of a run. -/
structure Outcome where
  /-- The exit code. -/
  exitCode : Nat
  /-- What is written to the output. -/
  output : String
  /-- What is written to the messages. -/
  messages : String
  deriving DecidableEq, Inhabited, Repr

/-- What there is to do once the file was read. -/
inductive Action where
  /-- Nothing. -/
  | finish (outcome : Outcome)
  /-- Store the report of an extraction. -/
  | store (target : String) (extraction : Extraction) (settle : Except IoError Unit → Outcome)

/-- What a run depends on besides its arguments and files. -/
structure Circumstances where
  /-- The specification of a log filter that the user's environment gives. -/
  logSpec : Option String := none
  /-- Whether messages go to a terminal. -/
  terminal : Bool := false
  deriving DecidableEq, Inhabited, Repr

/-- The file that a command reads. -/
def Invocation.input : Invocation → String
  | extract snapshot _ _ _ _ => snapshot
  | check report _ => report

/-- What a command calls the file that it reads. -/
def Invocation.inputNoun : Invocation → String
  | extract _ _ _ _ _ => "snapshot"
  | check _ _ => "report"

/-- What is logged if the environment does not say: warnings, with one request for talk the
summaries, and with more all. -/
def Manner.defaultLogSpec (manner : Manner) : String :=
  match manner.verbosity with
  | 0 => "warn"
  | 1 => "info"
  | _ => "debug"

/-- What the log shows of a run. -/
def Manner.logText (manner : Manner) (circumstances : Circumstances) (log : List Log.Entry) :
    String :=
  Log.shown (circumstances.logSpec.getD manner.defaultLogSpec) log

/-- The line of a failure that ends a run. -/
def failureLine (message : String) : String := "error: " ++ message ++ "\n"

/-- The outcome of a run that fails with a message. -/
def Outcome.failure (logText message : String) : Outcome := ⟨1, "", logText ++ failureLine message⟩

/-- The settings that arguments give. -/
def settings (space player : Option String) : Settings :=
  let standard : Settings := {}
  { standard with
    space := space.getD standard.space
    player := (player.map Identifier.parse).getD standard.player }

/-- The outcome of an extraction whose report was written: its findings, and a failure if the
command is strict and there is an error among them. -/
def extracted (manner : Manner) (circumstances : Circumstances) (extraction : Extraction)
    (output : String) : Outcome where
  exitCode := if manner.strict && hasErrors extraction.diagnostics then 1 else 0
  output
  messages := manner.logText circumstances extraction.log
    ++ Printer.printAll { colored := manner.color.decide circumstances.terminal }
        extraction.diagnostics

/-- The outcome of storing a report. -/
def stored (manner : Manner) (circumstances : Circumstances) (extraction : Extraction)
    (result : Except IoError Unit) : Outcome :=
  match result with
  | .ok () => extracted manner circumstances extraction ""
  | .error err =>
    .failure (manner.logText circumstances extraction.log)
      ("cannot write report: " ++ err.message)

/-- Whether a report passes: errors never do, warnings unless the command is strict. -/
def passes (manner : Manner) (findings : List Diagnostic) : Bool :=
  !hasErrors findings && !(manner.strict && hasWarnings findings)

/-- The outcome of checking a report that was read. -/
def checked (manner : Manner) (circumstances : Circumstances) (path source : String)
    (report : Report) : Outcome :=
  let logText := manner.logText circumstances []
  let findings := report.check
  if passes manner findings then ⟨0, "", logText⟩
  else
    let printer : Printer :=
      { source := some source, path := some path
        colored := manner.color.decide circumstances.terminal }
    ⟨1, "", logText ++ printer.printAll findings⟩

/-- What a command does with the content of its file. -/
def Invocation.proceed (invocation : Invocation) (circumstances : Circumstances)
    (content : Except IoError String) : Action :=
  let manner := invocation.manner
  let fail (message : String) : Action :=
    .finish (.failure (manner.logText circumstances []) message)
  match content with
  | .error err =>
    fail ("cannot read " ++ invocation.inputNoun ++ " '" ++ invocation.input ++ "': "
      ++ err.message)
  | .ok text =>
    match invocation with
    | .extract _ target space player _ =>
      match Snapshot.ofText text with
      | .error err => fail (Error.snapshot err).message
      | .ok snapshot =>
        let extraction := Extraction.ofSnapshot snapshot (settings space player)
        match target with
        | none => .finish (extracted manner circumstances extraction extraction.reportText)
        | some target => .store target extraction (stored manner circumstances extraction)
    | .check path _ =>
      match Report.parse text with
      | .error err => fail (Error.report err).message
      | .ok report => .finish (checked manner circumstances path text report)

/-- Run a command on a file system. -/
def Invocation.run (invocation : Invocation) (circumstances : Circumstances) (faults : Faults)
    (fs : FileSystem) : Outcome × FileSystem :=
  let content := IoError.raise faults.read >>= fun _ => fs.readText (.ofText invocation.input)
  match invocation.proceed circumstances content with
  | .finish outcome => (outcome, fs)
  | .store target extraction settle =>
    let (result, fs) := fs.replace faults (.ofText target) extraction.write
    (settle result, fs)

end RegistrySchema.CommandLine

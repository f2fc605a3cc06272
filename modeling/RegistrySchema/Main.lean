import RegistrySchema.CommandLine.Arguments
import RegistrySchema.CommandLine.Help
import RegistrySchema.CommandLine.Run

/-!
# The program

Connects the commands to the files, streams and environment of the system.
-/

namespace RegistrySchema.CommandLine

/-- The system's number of an error. -/
def osCode? : IO.Error → Option UInt32
  | .noFileOrDirectory _ code _ => some code
  | .inappropriateType _ code _ => some code
  | .resourceBusy code _ => some code
  | .invalidArgument _ code _ => some code
  | .alreadyExists _ code _ => some code
  | .otherError code _ => some code
  | _ => none

/-- An error of the system as an error of files and devices. -/
def ofSystem (err : IO.Error) : IoError :=
  match osCode? err with
  | some 2 => .notFound
  | some 16 => .busy
  | some 20 => .notADirectory
  | some 21 => .isADirectory
  | some 36 => .nameTooLong
  | _ => .other (toString err)

/-- An activity whose failure is an answer. -/
def attempt {α : Type} (activity : IO α) : IO (Except IoError α) := do
  try return .ok (← activity)
  catch err => return .error (ofSystem err)

/-- The text in a file of the system. -/
def readSystemFile (path : String) : IO (Except IoError String) := do
  match ← attempt (do (← IO.FS.Handle.mk path .read).readBinToEnd) with
  | .error err => return .error err
  | .ok bytes =>
    match String.fromUTF8? bytes with
    | none => return .error .notText
    | some text => return .ok text

/-- Replace a file of the system as a whole: write to a new file beside it and move that to its
place. -/
def replaceSystemFile (target : String) (bytes : List UInt8) : IO (Except IoError Unit) := do
  let directory := (Path.ofText target).parent.text
  let temporary := directory ++ "/.tmp" ++ toString (← IO.rand 0 999999999999)
  match ← attempt (IO.FS.Handle.mk temporary .writeNew) with
  | .error err => return .error err
  | .ok file =>
    match ← attempt (do file.write ⟨bytes.toArray⟩; file.flush; IO.FS.rename temporary target) with
    | .ok () => return .ok ()
    | .error err =>
      let _ ← attempt (IO.FS.removeFile temporary)
      return .error err

/-- Print an outcome and answer with its exit code. -/
def Outcome.print (outcome : Outcome) : IO UInt32 := do
  let output ← IO.getStdout
  output.putStr outcome.output
  output.flush
  (← IO.getStderr).putStr outcome.messages
  return outcome.exitCode.toUInt32

/-- Run a command on the files of the system. -/
def Invocation.runOnSystem (invocation : Invocation) : IO UInt32 := do
  let circumstances : Circumstances :=
    { logSpec := ← IO.getEnv "RUST_LOG", terminal := ← (← IO.getStderr).isTty }
  match invocation.proceed circumstances (← readSystemFile invocation.input) with
  | .finish outcome => outcome.print
  | .store target extraction settle =>
    (settle (← replaceSystemFile target extraction.reportBytes)).print

end RegistrySchema.CommandLine

open RegistrySchema.CommandLine in
/-- The program: its arguments name a command. -/
def main (args : List String) : IO UInt32 := do
  match parse args with
  | .ok invocation => invocation.runOnSystem
  | .error err =>
    let stream ← if err.exitCode = 0 then IO.getStdout else IO.getStderr
    stream.putStr err.text
    return err.exitCode.toUInt32

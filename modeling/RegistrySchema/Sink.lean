import RegistrySchema.IoError

/-!
# Sinks

A sink is where bytes are written to: a file, or a stream. It need not take all that it is
offered, it may be full at some point, and it may fail to pass on what it took. `writeAll` offers
what is left until everything is taken or the sink refuses.
-/

namespace RegistrySchema

/-- What a sink does with an offer when it is full. -/
inductive WhenFull where
  /-- It fails. -/
  | fails (err : IoError)
  /-- It takes nothing. -/
  | takesNothing
  deriving DecidableEq, Inhabited, Repr

/-- A place to write bytes to. -/
structure Sink where
  /-- How many bytes it takes in all, if there is a bound. -/
  capacity : Option Nat := none
  /-- How many bytes it takes at most at the call with a number, if there is a bound. -/
  appetite : Nat → Option Nat := fun _ => none
  /-- What it does when it is full. -/
  whenFull : WhenFull := .takesNothing
  /-- The failure of passing on what it took. -/
  flushFailure : Option IoError := none
  /-- What it took. -/
  received : List UInt8 := []
  /-- How often it was offered something. -/
  calls : Nat := 0
  /-- How much it had taken each time that it was told to pass it on. -/
  flushes : List Nat := []

namespace Sink

/-- The result of an activity and the sink after it. -/
structure Written where
  /-- Whether the activity succeeded. -/
  result : Except IoError Unit
  /-- The sink afterwards. -/
  sink : Sink

/-- Go on after a success. -/
def Written.andThen (written : Written) (next : Sink → Written) : Written :=
  match written.result with
  | .ok () => next written.sink
  | .error _ => written

/-- The smaller of a number and a bound that may be absent. -/
def atMost (bound : Option Nat) (n : Nat) : Nat :=
  match bound with
  | none => n
  | some b => min b n

/-- How many bytes the sink takes of an offer of `n` bytes. -/
def share (sink : Sink) (n : Nat) : Nat :=
  atMost (sink.capacity.map (· - sink.received.length)) (atMost (sink.appetite sink.calls) n)

/-- Offer bytes; the sink takes a number of them from the front. It is full if it takes none of
them. -/
def offer (sink : Sink) (bytes : List UInt8) : Except IoError Nat × Sink :=
  let called := { sink with calls := sink.calls + 1 }
  let n := sink.share bytes.length
  if n = 0 && !bytes.isEmpty then
    match sink.whenFull with
    | .fails err => (.error err, called)
    | .takesNothing => (.ok 0, called)
  else (.ok n, { called with received := sink.received ++ bytes.take n })

/-- Offer bytes until all of them are taken. -/
def writeAll (sink : Sink) (bytes : List UInt8) : Written :=
  match bytes with
  | [] => ⟨.ok (), sink⟩
  | byte :: rest =>
    match sink.offer (byte :: rest) with
    | (.error err, sink) => ⟨.error err, sink⟩
    | (.ok 0, sink) => ⟨.error .nothingTaken, sink⟩
    | (.ok (n + 1), sink) => sink.writeAll (rest.drop n)
termination_by bytes.length
decreasing_by rw [List.length_drop, List.length_cons]; omega

/-- Tell the sink to pass on what it took. -/
def flush (sink : Sink) : Written :=
  let told := { sink with flushes := sink.flushes ++ [sink.received.length] }
  match sink.flushFailure with
  | none => ⟨.ok (), told⟩
  | some err => ⟨.error err, told⟩

end Sink

end RegistrySchema

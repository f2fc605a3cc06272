import RegistrySchema.Extraction
import RegistrySchema.Proofs.FileSystem.Replace
import RegistrySchema.Proofs.Sink

/-!
# Writing through a buffer

A writer with a buffer holds what fits into it and hands it over to its sink later: when there is no
room left, when it is told to, when it is closed, and also when it is given up after a failure. So
at each point a different part of the bytes may have reached the sink. For a report that is written
in one piece, passed on and closed this makes no difference (`store_eq_write`), and a replacement
through a buffer ends like one without (`Extraction.replace_store`).
-/

namespace RegistrySchema

/-- A writer that holds bytes back from its sink. -/
structure Buffer where
  /-- How many bytes it has room for. -/
  size : Nat
  /-- What it holds. -/
  held : List UInt8
  /-- Where it writes to. -/
  sink : Sink

namespace Buffer

/-- Hand over what is held; what the sink does not take stays. -/
def handOver (buffer : Buffer) : Except IoError Unit × Buffer :=
  let written := buffer.sink.writeAll buffer.held
  let taken := written.sink.received.length - buffer.sink.received.length
  (written.result, { buffer with held := buffer.held.drop taken, sink := written.sink })

/-- Write bytes past the buffer if it could not hold them, and into it otherwise. -/
def take (buffer : Buffer) (bytes : List UInt8) : Except IoError Unit × Buffer :=
  if buffer.size ≤ bytes.length then
    let written := buffer.sink.writeAll bytes
    (written.result, { buffer with sink := written.sink })
  else (.ok (), { buffer with held := buffer.held ++ bytes })

/-- Write bytes. What is held is handed over before if there is no room for them besides. -/
def writeAll (buffer : Buffer) (bytes : List UInt8) : Except IoError Unit × Buffer :=
  if buffer.held.length + bytes.length < buffer.size then
    (.ok (), { buffer with held := buffer.held ++ bytes })
  else if buffer.size < buffer.held.length + bytes.length then
    match buffer.handOver with
    | (.error err, buffer) => (.error err, buffer)
    | (.ok (), buffer) => buffer.take bytes
  else buffer.take bytes

/-- Hand over what is held and tell the sink to pass it on. -/
def flush (buffer : Buffer) : Except IoError Unit × Buffer :=
  match buffer.handOver with
  | (.error err, buffer) => (.error err, buffer)
  | (.ok (), buffer) => (buffer.sink.flush.result, { buffer with sink := buffer.sink.flush.sink })

/-- Go on after a success. -/
def andThen (written : Except IoError Unit × Buffer)
    (next : Buffer → Except IoError Unit × Buffer) : Except IoError Unit × Buffer :=
  match written.1 with
  | .ok () => next written.2
  | .error _ => written

/-- Write bytes through a new buffer, pass them on and close the buffer. A buffer that is given up
hands over what it holds once more, and nobody learns how that ends. -/
def store (size : Nat) (bytes : List UInt8) (sink : Sink) : Sink.Written :=
  let start : Buffer := ⟨size, [], sink⟩
  let written := andThen (andThen (start.writeAll bytes) flush) handOver
  match written.1 with
  | .ok () => ⟨.ok (), written.2.sink⟩
  | .error err => ⟨.error err, written.2.handOver.2.sink⟩

theorem andThen_of_error {written : Except IoError Unit × Buffer} {err : IoError}
    (h : written.1 = .error err) (next : Buffer → Except IoError Unit × Buffer) :
    andThen written next = written := by
  rw [andThen, h]

/-- Without anything held there is nothing to hand over. -/
theorem handOver_nil (size : Nat) (sink : Sink) :
    handOver ⟨size, [], sink⟩ = (.ok (), ⟨size, [], sink⟩) := by
  simp [handOver, Sink.writeAll]

/-- Nothing is held any more when all was handed over. -/
theorem handOver_of_ok {size : Nat} {held : List UInt8} {sink : Sink}
    (h : (sink.writeAll held).result = .ok ()) :
    handOver ⟨size, held, sink⟩ = (.ok (), ⟨size, [], (sink.writeAll held).sink⟩) := by
  obtain ⟨taken, -, htakes, hall⟩ := sink.takes_writeAll held
  obtain rfl := hall h
  have hlength : (sink.writeAll taken).sink.received.length - sink.received.length =
      taken.length := by
    rw [htakes.received, List.length_append]
    omega
  simp [handOver, h, hlength]

/-- With nothing held, bytes are held if there is room for more, and written at once otherwise. -/
theorem writeAll_nil (size : Nat) (bytes : List UInt8) (sink : Sink) :
    writeAll ⟨size, [], sink⟩ bytes =
      if bytes.length < size then (.ok (), ⟨size, bytes, sink⟩)
      else ((sink.writeAll bytes).result, ⟨size, [], (sink.writeAll bytes).sink⟩) := by
  unfold writeAll take
  rw [handOver_nil]
  simp only [List.length_nil, Nat.zero_add, List.nil_append]
  split
  · rfl
  · next hroom =>
    rw [if_pos (Nat.le_of_not_lt hroom)]
    split <;> rfl

/-- Bytes that the sink takes are taken before it is told to pass them on, and nothing is held any
more. -/
theorem flush_writeAll_of_ok (size : Nat) {bytes : List UInt8} {sink : Sink}
    (h : (sink.writeAll bytes).result = .ok ()) :
    andThen (writeAll ⟨size, [], sink⟩ bytes) flush =
      ((sink.writeAll bytes).sink.flush.result,
        ⟨size, [], (sink.writeAll bytes).sink.flush.sink⟩) := by
  rw [writeAll_nil]
  split
  · -- The bytes are held, and handed over now.
    show flush ⟨size, bytes, sink⟩ = _
    rw [flush, handOver_of_ok h]
  · -- The bytes went past the buffer, which is empty.
    rw [andThen, h]
    show flush ⟨size, [], (sink.writeAll bytes).sink⟩ = _
    rw [flush, handOver_nil]

/-- A sink that does not take the bytes is noticed when they are written or handed over. -/
theorem flush_writeAll_of_error (size : Nat) {bytes : List UInt8} {sink : Sink} {err : IoError}
    (h : (sink.writeAll bytes).result = .error err) :
    (andThen (writeAll ⟨size, [], sink⟩ bytes) flush).1 = .error err := by
  rw [writeAll_nil]
  split
  · show (flush ⟨size, bytes, sink⟩).1 = _
    unfold flush handOver
    dsimp only
    rw [h]
  · rw [andThen, h]

/-- A buffer of any size makes no difference to whether bytes are written and passed on, nor to the
sink after a success. -/
theorem store_eq_write (size : Nat) (bytes : List UInt8) (sink : Sink) :
    (store size bytes sink).result = ((sink.writeAll bytes).andThen Sink.flush).result ∧
      (((sink.writeAll bytes).andThen Sink.flush).result = .ok () →
        (store size bytes sink).sink = ((sink.writeAll bytes).andThen Sink.flush).sink) := by
  unfold store Sink.Written.andThen
  cases hwrite : (sink.writeAll bytes).result with
  | error err =>
    have hfails := flush_writeAll_of_error size hwrite
    dsimp only
    rw [andThen_of_error hfails, hfails]
    exact ⟨hwrite.symm, fun h => nomatch hwrite.symm.trans h⟩
  | ok =>
    dsimp only
    rw [flush_writeAll_of_ok size hwrite]
    cases hflush : (sink.writeAll bytes).sink.flush.result with
    | error err => exact ⟨rfl, fun h => nomatch h⟩
    | ok =>
      -- Closing finds nothing to hand over.
      have hclose : andThen (.ok (), ⟨size, [], (sink.writeAll bytes).sink.flush.sink⟩) handOver =
          (.ok (), ⟨size, [], (sink.writeAll bytes).sink.flush.sink⟩) := handOver_nil _ _
      rw [hclose]
      exact ⟨rfl, fun _ => rfl⟩

end Buffer

/-- A replacement depends on what is written only if the writing succeeds. -/
theorem FileSystem.replace_congr {write other : Sink → Sink.Written} {faults : Faults}
    (hresult : (write faults.device).result = (other faults.device).result)
    (hreceived : (write faults.device).result = .ok () →
      (write faults.device).sink.received = (other faults.device).sink.received)
    (fs : FileSystem) (target : Path) :
    fs.replace faults target write = fs.replace faults target other := by
  unfold replace
  cases hmade : IoError.raise faults.create >>= fun _ => fs.createTemporary target.parent with
  | error err => rfl
  | ok made =>
    obtain ⟨temporary, begun⟩ := made
    obtain ⟨-, -, hcreated⟩ := bind_eq_ok_iff.1 hmade
    obtain ⟨-, hfresh, rfl⟩ := createTemporary_eq_ok hcreated
    dsimp only
    rw [remove_put hfresh, remove_put hfresh, ← hresult]
    cases hwrite : (write faults.device).result with
    | error err => rfl
    | ok => rw [hreceived hwrite]

/-- A report can be stored through a buffer of any size. -/
theorem Extraction.replace_store (extraction : Extraction) (size : Nat) (fs : FileSystem)
    (faults : Faults) (target : Path) :
    fs.replace faults target (Buffer.store size extraction.reportBytes) =
      fs.replace faults target extraction.write := by
  obtain ⟨hresult, hsink⟩ := Buffer.store_eq_write size extraction.reportBytes faults.device
  apply FileSystem.replace_congr hresult
  intro hok
  rw [hsink (hresult ▸ hok), Extraction.write]

end RegistrySchema

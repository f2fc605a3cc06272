import RegistrySchema.Extraction
import RegistrySchema.Proofs.Sink

/-!
# Handing a report over

A report goes to a sink in one piece: its bytes are offered until all of them are taken, and then
the sink is told to pass them on. How much it takes of an offer is up to the sink, and may differ
from offer to offer. If it takes at least one byte as long as it has room, then it makes no
difference how much it takes at a time: in the end it has the bytes from the front that there was
room for, each once (`writeAll_of_willing`), and it is told to pass them on only if these are all.

A call that is interrupted takes nothing and is made again, so it does not count as an offer here.
-/

namespace RegistrySchema

namespace Sink

/-- A sink that takes at least one byte of every offer until it is full. -/
def Willing (sink : Sink) : Prop := ∀ call, sink.appetite call ≠ some 0

/-- For how many of `n` bytes there is room. -/
def room (sink : Sink) (n : Nat) : Nat :=
  atMost (sink.capacity.map (· - sink.received.length)) n

/-- The failure of writing to a sink that is full. -/
def refusal (sink : Sink) : IoError :=
  match sink.whenFull with
  | .fails err => err
  | .takesNothing => .nothingTaken

/-- The sink when it has taken bytes, and has been offered something so many times. -/
def fed (sink : Sink) (bytes : List UInt8) (calls : Nat) : Sink :=
  { sink with received := sink.received ++ bytes, calls }

variable {sink : Sink}

theorem fed_nil (sink : Sink) : sink.fed [] sink.calls = sink := by
  rw [fed, List.append_nil]

theorem fed_fed (sink : Sink) (bytes more : List UInt8) (calls later : Nat) :
    (sink.fed bytes calls).fed more later = sink.fed (bytes ++ more) later := by
  simp only [fed, List.append_assoc]

/-- Bytes that were taken take up room. -/
theorem room_fed (sink : Sink) (bytes : List UInt8) (calls n : Nat) :
    (sink.fed bytes calls).room n = sink.room (bytes.length + n) - bytes.length := by
  unfold room fed atMost
  cases sink.capacity with
  | none => exact (Nat.add_sub_cancel_left _ n).symm
  | some capacity =>
    simp only [Option.map_some, List.length_append]
    omega

/-- What is left of some bytes after the first ones has the room that these left. -/
theorem room_fed_take (sink : Sink) {bytes : List UInt8} (calls : Nat) {n : Nat}
    (hn : n ≤ bytes.length) :
    (sink.fed (bytes.take n) calls).room (bytes.drop n).length = sink.room bytes.length - n := by
  rw [room_fed, List.length_take_of_le hn, List.length_drop, Nat.add_sub_cancel' hn]

/-- No more is taken than there is room for. -/
theorem share_le_room (sink : Sink) (n : Nat) : sink.share n ≤ sink.room n := by
  have hoffered : atMost (sink.appetite sink.calls) n ≤ n := atMost_le _ n
  unfold share room
  cases sink.capacity.map (· - sink.received.length) with
  | none => exact hoffered
  | some left =>
    rw [atMost_some, atMost_some]
    omega

/-- A willing sink takes something if there is room. -/
theorem share_pos (h : sink.Willing) {n : Nat} (hroom : 0 < sink.room n) : 0 < sink.share n := by
  have hoffered : 0 < atMost (sink.appetite sink.calls) n := by
    have hn : 0 < n := Nat.lt_of_lt_of_le hroom (atMost_le _ n)
    have happetite := h sink.calls
    cases hbound : sink.appetite sink.calls with
    | none => exact hn
    | some most =>
      rw [hbound] at happetite
      exact Nat.lt_min.2 ⟨Nat.pos_of_ne_zero fun hzero => happetite (congrArg some hzero), hn⟩
  unfold room at hroom
  unfold share
  cases hleft : sink.capacity.map (· - sink.received.length) with
  | none => exact hoffered
  | some left =>
    rw [hleft, atMost_some] at hroom
    rw [atMost_some]
    omega

/-- A full sink refuses, and takes nothing. -/
theorem offer_of_full {bytes : List UInt8} (hbytes : bytes ≠ [])
    (hroom : sink.room bytes.length = 0) :
    sink.offer bytes =
      (match sink.whenFull with
        | .fails err => .error err
        | .takesNothing => .ok 0, sink.fed [] (sink.calls + 1)) := by
  have hshare : sink.share bytes.length = 0 :=
    Nat.eq_zero_of_le_zero (hroom ▸ sink.share_le_room bytes.length)
  have hempty : bytes.isEmpty = false := by simpa using hbytes
  unfold offer
  rw [hshare, hempty, fed, List.append_nil]
  cases sink.whenFull <;> rfl

/-- A willing sink with room takes bytes from the front. -/
theorem offer_of_room (h : sink.Willing) {bytes : List UInt8}
    (hroom : 0 < sink.room bytes.length) :
    ∃ n, 0 < n ∧ n ≤ sink.room bytes.length ∧
      sink.offer bytes = (.ok n, sink.fed (bytes.take n) (sink.calls + 1)) := by
  have hshare := share_pos h hroom
  refine ⟨sink.share bytes.length, hshare, sink.share_le_room _, ?_⟩
  unfold offer
  rw [if_neg (by simp [Nat.ne_of_gt hshare])]
  rfl

/-- Writing to a full sink fails. -/
theorem writeAll_of_full {bytes : List UInt8} (hbytes : bytes ≠ [])
    (hroom : sink.room bytes.length = 0) :
    sink.writeAll bytes = ⟨.error sink.refusal, sink.fed [] (sink.calls + 1)⟩ := by
  have hoffer := offer_of_full hbytes hroom
  obtain ⟨byte, rest, rfl⟩ := List.exists_cons_of_ne_nil hbytes
  rw [writeAll, hoffer, refusal]
  cases sink.whenFull <;> rfl

/-- Writing goes on with what an offer leaves. -/
theorem writeAll_of_offer {bytes : List UInt8} {n : Nat} {later : Sink} (hn : 0 < n)
    (hlength : n ≤ bytes.length) (hoffer : sink.offer bytes = (.ok n, later)) :
    sink.writeAll bytes = later.writeAll (bytes.drop n) := by
  obtain ⟨k, rfl⟩ := Nat.exists_eq_succ_of_ne_zero (Nat.ne_of_gt hn)
  cases bytes with
  | nil => simp at hlength
  | cons byte rest => rw [writeAll, hoffer, List.drop_succ_cons]

/-- A willing sink with room takes some bytes from the front, and writing goes on with the others. -/
theorem exists_writeAll_eq_of_room (h : sink.Willing) {bytes : List UInt8}
    (hroom : 0 < sink.room bytes.length) :
    ∃ n, 0 < n ∧ n ≤ sink.room bytes.length ∧ n ≤ bytes.length ∧
      sink.writeAll bytes = (sink.fed (bytes.take n) (sink.calls + 1)).writeAll (bytes.drop n) := by
  obtain ⟨n, hn, hle, hoffer⟩ := offer_of_room h hroom
  have hlength : n ≤ bytes.length := Nat.le_trans hle (atMost_le _ _)
  exact ⟨n, hn, hle, hlength, writeAll_of_offer hn hlength hoffer⟩

/-- A willing sink takes the bytes that it has room for, and writing succeeds if these are all. -/
theorem writeAll_of_willing (h : sink.Willing) (bytes : List UInt8) :
    ∃ calls, sink.writeAll bytes =
      ⟨if sink.room bytes.length = bytes.length then .ok () else .error sink.refusal,
        sink.fed (bytes.take (sink.room bytes.length)) calls⟩ := by
  -- By induction on what is left to write. An offer uses up as much of the room as it takes.
  induction hlength : bytes.length using Nat.strongRecOn generalizing sink bytes with
  | ind length ih =>
    subst hlength
    by_cases hbytes : bytes = []
    · subst hbytes
      have hroom : sink.room 0 = 0 := Nat.eq_zero_of_le_zero (atMost_le _ 0)
      refine ⟨sink.calls, ?_⟩
      rw [writeAll, List.length_nil, hroom, if_pos rfl, List.take_nil, fed_nil]
    have hsome : 0 < bytes.length := List.length_pos_iff.2 hbytes
    rcases Nat.eq_zero_or_pos (sink.room bytes.length) with hroom | hroom
    · -- The next offer is refused, and the sink keeps what it has.
      refine ⟨sink.calls + 1, ?_⟩
      rw [writeAll_of_full hbytes hroom, hroom, if_neg (Nat.ne_of_lt hsome), List.take_zero]
    · obtain ⟨n, hn, hle, hlength, hfirst⟩ := exists_writeAll_eq_of_room h hroom
      have hleft : (bytes.drop n).length = bytes.length - n := List.length_drop
      obtain ⟨calls, hrest⟩ := @ih (bytes.drop n).length (by omega)
        (sink.fed (bytes.take n) (sink.calls + 1)) h (bytes.drop n) rfl
      have hall : sink.room bytes.length - n = bytes.length - n ↔
          sink.room bytes.length = bytes.length := by
        omega
      -- The bytes of this offer and those of the later ones are the first bytes of all.
      refine ⟨calls, ?_⟩
      rw [hfirst, hrest, room_fed_take sink _ hlength, hleft, fed_fed, ← List.take_add,
        Nat.add_sub_cancel' hle]
      simp only [hall]
      rfl

/-- What a willing sink has room for is taken as a whole, and then it is told to pass it on. -/
theorem writeAll_andThen_flush_of_room (h : sink.Willing) {bytes : List UInt8}
    (hroom : sink.room bytes.length = bytes.length) :
    ∃ calls, (sink.writeAll bytes).andThen flush = (sink.fed bytes calls).flush := by
  obtain ⟨calls, hwrite⟩ := writeAll_of_willing h bytes
  rw [hroom, if_pos rfl, List.take_length] at hwrite
  exact ⟨calls, by rw [hwrite, Written.andThen]⟩

/-- Of what is too much for it, a willing sink takes a part, and it is not told to pass it on. -/
theorem writeAll_andThen_flush_of_no_room (h : sink.Willing) {bytes : List UInt8}
    (hroom : sink.room bytes.length ≠ bytes.length) :
    ∃ calls, (sink.writeAll bytes).andThen flush =
      ⟨.error sink.refusal, sink.fed (bytes.take (sink.room bytes.length)) calls⟩ := by
  obtain ⟨calls, hwrite⟩ := writeAll_of_willing h bytes
  rw [if_neg hroom] at hwrite
  exact ⟨calls, by rw [hwrite, Written.andThen]⟩

/-- A capacity for `n` bytes, or more. -/
def Suffices (capacity : Option Nat) (n : Nat) : Prop := ∀ bound ∈ capacity, n ≤ bound

instance (capacity : Option Nat) (n : Nat) : Decidable (Suffices capacity n) :=
  match capacity with
  | none => isTrue fun _ h => nomatch h
  | some bound =>
    decidable_of_iff (n ≤ bound)
      ⟨fun h _ hbound => Option.some.inj hbound ▸ h, fun h => h bound rfl⟩

theorem suffices_iff {capacity : Option Nat} {n : Nat} :
    Suffices capacity n ↔ atMost capacity n = n := by
  cases capacity with
  | none => simp [Suffices]
  | some bound =>
    rw [atMost_some]
    simp only [Suffices, Option.mem_some_iff, forall_eq']
    omega

end Sink

namespace Extraction

/-- A report is handed over to a sink that takes some bytes of each offer until it is full. The sink
has the first bytes of the report, as many as it has room for. It is told once to pass them on if
it has the whole report, and never otherwise. Handing over succeeds exactly if the sink has the
whole report and passes it on; a failure is that of the full sink, or else that of passing on. -/
theorem write_delivers (extraction : Extraction) (capacity : Option Nat)
    (appetite : Nat → Option Nat) (whenFull : WhenFull) (flushFailure : Option IoError)
    (happetite : ∀ call, appetite call ≠ some 0) :
    let sink : Sink := { capacity, appetite, whenFull, flushFailure }
    let bytes := Text.encode extraction.reportText.toList
    let written := extraction.write sink
    written.sink.received = bytes.take (Sink.atMost capacity bytes.length) ∧
      written.sink.flushes = (if Sink.Suffices capacity bytes.length then [bytes.length] else []) ∧
      (written.result = .ok () ↔ Sink.Suffices capacity bytes.length ∧ flushFailure = none) ∧
      (¬ Sink.Suffices capacity bytes.length → written.result = .error sink.refusal) ∧
      (Sink.Suffices capacity bytes.length →
        ∀ err ∈ flushFailure, written.result = .error err) := by
  intro sink bytes written
  have hwilling : sink.Willing := happetite
  have hroom : sink.room bytes.length = Sink.atMost capacity bytes.length := by
    cases capacity <;> rfl
  have hbytes : extraction.reportBytes = bytes := extraction.reportBytes_eq
  have hwritten : written = (sink.writeAll bytes).andThen Sink.flush := by
    rw [← hbytes]
    rfl
  -- Whether there is room for the whole report does not depend on how it is taken.
  by_cases hwhole : Sink.Suffices capacity bytes.length
  · have hall := Sink.suffices_iff.1 hwhole
    obtain ⟨calls, hflush⟩ := Sink.writeAll_andThen_flush_of_room hwilling (hroom.trans hall)
    rw [hwritten, hflush, hall, List.take_length, if_pos hwhole]
    cases flushFailure <;> simp [Sink.flush, Sink.fed, sink, hwhole]
  · have hpart := mt Sink.suffices_iff.2 hwhole
    obtain ⟨calls, hrefused⟩ := Sink.writeAll_andThen_flush_of_no_room hwilling (hroom ▸ hpart)
    rw [hwritten, hrefused, hroom, if_neg hwhole]
    simp [Sink.fed, sink, hwhole]

/-- What is learned of one block kind, the last character of whose name has two bytes. -/
def cafe : Extraction where
  schema := ⟨[⟨"caf\u00e9", []⟩], Catalog.empty, [], Catalog.empty⟩
  diagnostics := []
  log := []

/-- One byte, then two, then one again: a sink that takes so much at a time is full in the middle of
a character, and one with just enough room fails because it cannot pass on what it has. -/
theorem write_delivers_cafe :
    let ragged : Nat → Option Nat := fun call => some (1 + call % 2)
    let short := cafe.write { capacity := some 18, appetite := ragged }
    let full := cafe.write
      { capacity := some 26, appetite := ragged, flushFailure := some (.other "gone") }
    (∀ call, ragged call ≠ some 0) ∧
      (short.sink.received = [66, 76, 79, 67, 75, 73, 78, 70, 79, 32, 45, 45, 45, 32, 99, 97, 102,
          195] ∧ short.sink.flushes = [] ∧ short.result = .error .nothingTaken) ∧
      (Text.decode? full.sink.received = some "BLOCKINFO --- caf\u00e9 - \n\n\n\n" ∧
        full.sink.flushes = [26] ∧ full.result = .error (.other "gone")) := by
  intro ragged short full
  have hragged : ∀ call, ragged call ≠ some 0 := by
    intro call
    simp only [ragged, ne_eq, Option.some.injEq]
    omega
  have htext : cafe.reportText = "BLOCKINFO --- caf\u00e9 - \n\n\n\n" := by decide +kernel
  have hlength : (Text.encode cafe.reportText.toList).length = 26 := by decide +kernel
  obtain ⟨hshort, hunflushed, -, hrefused, -⟩ :=
    cafe.write_delivers (some 18) ragged .takesNothing none hragged
  obtain ⟨hfull, hflushed, -, -, hgone⟩ :=
    cafe.write_delivers (some 26) ragged .takesNothing (some (.other "gone")) hragged
  rw [hlength] at hshort hunflushed hrefused hfull hflushed hgone
  refine ⟨hragged, ⟨hshort.trans (by decide +kernel), hunflushed, hrefused (by decide)⟩, ?_,
    hflushed, hgone (by decide) _ rfl⟩
  rw [hfull, ← htext, Sink.atMost_some, ← hlength, Nat.min_self, List.take_length]
  exact Text.decode?_encode _

end Extraction

end RegistrySchema

import RegistrySchema.Sink

/-!
# What sinks take

Whatever a sink is like, writing to it hands over a prefix of the bytes: all of them if the writing
succeeds (`takes_writeAll`), and then it is the sink's own affair whether it can pass them on
(`result_writeAll_andThen_flush`).
-/

namespace RegistrySchema.Sink

/-- A sink has taken bytes: they stand behind what it had, and passing on fails as before. -/
structure Takes (sink : Sink) (bytes : List UInt8) (later : Sink) : Prop where
  /-- The bytes are taken. -/
  received : later.received = sink.received ++ bytes
  /-- Passing on is as before. -/
  flushFailure : later.flushFailure = sink.flushFailure

theorem takes_nil (sink : Sink) : sink.Takes [] sink := ⟨(List.append_nil _).symm, rfl⟩

theorem Takes.append {sink middle later : Sink} {bytes more : List UInt8}
    (h : sink.Takes bytes middle) (hmore : middle.Takes more later) :
    sink.Takes (bytes ++ more) later where
  received := by rw [hmore.received, h.received, List.append_assoc]
  flushFailure := hmore.flushFailure.trans h.flushFailure

@[simp] theorem atMost_none (n : Nat) : atMost none n = n := rfl

@[simp] theorem atMost_some (bound n : Nat) : atMost (some bound) n = min bound n := rfl

theorem atMost_le (bound : Option Nat) (n : Nat) : atMost bound n ≤ n := by
  cases bound with
  | none => exact Nat.le_refl n
  | some b => exact Nat.min_le_right b n

/-- No more is taken than is offered. -/
theorem share_le (sink : Sink) (n : Nat) : sink.share n ≤ n :=
  Nat.le_trans (atMost_le _ _) (atMost_le _ _)

/-- An offer ends in a failure, with nothing taken, or in a number of bytes taken from the front. -/
theorem offer_cases (sink : Sink) (bytes : List UInt8) :
    (∃ err later, sink.offer bytes = (.error err, later) ∧ sink.Takes [] later) ∨
      ∃ n later, sink.offer bytes = (.ok n, later) ∧ n ≤ bytes.length ∧
        sink.Takes (bytes.take n) later := by
  unfold offer
  dsimp only
  split
  · cases sink.whenFull with
    | fails err => exact Or.inl ⟨err, _, rfl, (List.append_nil _).symm, rfl⟩
    | takesNothing =>
      exact Or.inr ⟨0, _, rfl, Nat.zero_le _, (List.append_nil _).symm, rfl⟩
  · exact Or.inr ⟨_, _, rfl, share_le sink _, rfl, rfl⟩

/-- Writing hands over a prefix of the bytes, and all of them if it succeeds. -/
theorem takes_writeAll (sink : Sink) (bytes : List UInt8) :
    ∃ taken, taken <+: bytes ∧ sink.Takes taken (sink.writeAll bytes).sink ∧
      ((sink.writeAll bytes).result = .ok () → taken = bytes) := by
  -- By induction on the offers. A failed one takes nothing, and so does one that ends the writing.
  induction sink, bytes using writeAll.induct with
  | case1 sink =>
    rw [writeAll]
    exact ⟨[], List.prefix_refl _, takes_nil sink, fun _ => rfl⟩
  | case2 sink byte rest err later hoffer =>
    rw [writeAll, hoffer]
    rcases sink.offer_cases (byte :: rest) with ⟨_, _, heq, htakes⟩ | ⟨_, _, heq, -, -⟩
    · cases hoffer.symm.trans heq
      exact ⟨[], List.nil_prefix, htakes, fun h => nomatch h⟩
    · cases hoffer.symm.trans heq
  | case3 sink byte rest later hoffer =>
    rw [writeAll, hoffer]
    rcases sink.offer_cases (byte :: rest) with ⟨_, _, heq, -⟩ | ⟨n, _, heq, -, htakes⟩
    · cases hoffer.symm.trans heq
    · cases hoffer.symm.trans heq
      exact ⟨[], List.nil_prefix, htakes, fun h => nomatch h⟩
  | case4 sink byte rest n later hoffer ih =>
    rw [writeAll, hoffer]
    rcases sink.offer_cases (byte :: rest) with ⟨_, _, heq, -⟩ | ⟨_, _, heq, -, htakes⟩
    · cases hoffer.symm.trans heq
    · cases hoffer.symm.trans heq
      obtain ⟨taken, hprefix, hrest, hall⟩ := ih
      -- The bytes of this offer, and then those of the others.
      have hsplit : (byte :: rest).take (n + 1) ++ rest.drop n = byte :: rest := by simp
      refine ⟨(byte :: rest).take (n + 1) ++ taken, ?_, htakes.append hrest, fun hok => ?_⟩
      · conv => rhs; rw [← hsplit]
        exact (List.prefix_append_right_inj _).2 hprefix
      · rw [hall hok, hsplit]

/-- A sink that took all that was written fails to pass it on if it has a reason to. -/
theorem result_writeAll_andThen_flush (sink : Sink) (bytes : List UInt8) :
    ((sink.writeAll bytes).andThen flush).result = .ok () ↔
      (sink.writeAll bytes).result = .ok () ∧ sink.flushFailure = none := by
  obtain ⟨_, -, htakes, -⟩ := sink.takes_writeAll bytes
  unfold Written.andThen
  cases hresult : (sink.writeAll bytes).result with
  | error err => simp [hresult]
  | ok =>
    rw [← htakes.flushFailure]
    cases hflush : (sink.writeAll bytes).sink.flushFailure <;> simp [flush, hflush]

/-- What was written and passed on was taken as a whole. -/
theorem received_writeAll_andThen_flush {sink : Sink} {bytes : List UInt8}
    (h : ((sink.writeAll bytes).andThen flush).result = .ok ()) :
    ((sink.writeAll bytes).andThen flush).sink.received = sink.received ++ bytes := by
  obtain ⟨hok, hflush⟩ := (sink.result_writeAll_andThen_flush bytes).1 h
  obtain ⟨taken, -, htakes, hall⟩ := sink.takes_writeAll bytes
  have htold : ((sink.writeAll bytes).andThen flush).sink.received =
      (sink.writeAll bytes).sink.received := by
    rw [Written.andThen, hok]
    dsimp only
    unfold flush
    split <;> rfl
  rw [htold, htakes.received, hall hok]

end RegistrySchema.Sink

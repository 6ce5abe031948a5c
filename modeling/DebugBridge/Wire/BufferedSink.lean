import DebugBridge.Outcome
import DebugBridge.Wire.Sink

/-!
# A buffer in front of a sink

Small writes are collected and reach the sink together. Bytes that the sink did not take stay in
the buffer and go out before anything written later, so the sink always sees the bytes in the
order in which they were written.
-/

namespace DebugBridge

/-- A sink and the bytes waiting for it. -/
structure BufferedSink where
  sink : Sink := {}
  pending : Bytes := []

namespace BufferedSink

/-- How many bytes the buffer holds. -/
def capacity : Nat := 8192

/-- Hands the waiting bytes to the sink until none is left or the sink refuses. A call that was
merely interrupted is repeated. -/
def drain (buffered : BufferedSink) : Outcome BufferedSink Unit :=
  if empty : buffered.pending = [] then .ok () buffered
  else
    match answer : buffered.sink.write buffered.pending with
    | (.ok 0, sink) =>
      .error (.io .writeZero (some "failed to write the buffered data")) { buffered with sink }
    | (.ok (count + 1), sink) =>
      have := Sink.irregular_write_le_of_eq answer
      have := List.length_pos_iff.mpr empty
      drain { sink, pending := buffered.pending.drop (count + 1) }
    | (.error kind, sink) =>
      have := Sink.irregular_write_lt answer
      if kind = .interrupted then drain { buffered with sink }
      else .error (.ofKind kind) { buffered with sink }
  termination_by buffered.pending.length + buffered.sink.irregular
  decreasing_by
    · simp only [List.length_drop]; omega
    · omega

/-- Offers bytes to the sink directly until all of them are taken. -/
def writeThrough (bytes : Bytes) (sink : Sink) : Outcome Sink Unit :=
  if empty : bytes = [] then .ok () sink
  else
    match answer : sink.write bytes with
    | (.ok 0, after) => .error (.io .writeZero (some "failed to write whole buffer")) after
    | (.ok (count + 1), after) =>
      have := Sink.irregular_write_le_of_eq answer
      have := List.length_pos_iff.mpr empty
      writeThrough (bytes.drop (count + 1)) after
    | (.error kind, after) =>
      have := Sink.irregular_write_lt answer
      if kind = .interrupted then writeThrough bytes after else .error (.ofKind kind) after
  termination_by bytes.length + sink.irregular
  decreasing_by
    · simp only [List.length_drop]; omega
    · omega

/-- Puts bytes behind the waiting ones. What does not fit makes the buffer drain first, and bytes
that would fill an empty buffer go straight to the sink. -/
def write (bytes : Bytes) (buffered : BufferedSink) : Outcome BufferedSink Unit :=
  let room := capacity - buffered.pending.length
  let collect (buffered : BufferedSink) : Outcome BufferedSink Unit :=
    .ok () { buffered with pending := buffered.pending ++ bytes }
  if bytes.length < room then collect buffered
  else
    (if bytes.length > room then drain buffered else .ok () buffered).andThen fun _ buffered =>
      if bytes.length ≥ capacity then
        (writeThrough bytes buffered.sink).mapState fun sink => { buffered with sink }
      else collect buffered

/-- Drains the buffer and has the sink pass everything on. -/
def flush (buffered : BufferedSink) : Outcome BufferedSink Unit :=
  (drain buffered).andThen fun _ buffered =>
    match buffered.sink.flush with
    | (.ok (), sink) => .ok () { buffered with sink }
    | (.error kind, sink) => .error (.ofKind kind) { buffered with sink }

/-- Lets go of the sink after a last attempt to hand over what is waiting. -/
def release (buffered : BufferedSink) : BufferedSink :=
  (drain buffered).state

/-- How many calls to the sink are still answered out of the ordinary. -/
abbrev irregular (buffered : BufferedSink) : Nat :=
  buffered.sink.irregular

/-! No operation adds irregular answers, and an operation that fails has used one up. This is what
ends the loops that repeat interrupted operations. -/

theorem irregular_drain_le (buffered : BufferedSink) :
    (drain buffered).state.irregular ≤ buffered.irregular := by
  fun_induction drain buffered with
  | case1 => exact Nat.le_refl _
  | case2 buffered some_left sink answer => exact Sink.irregular_write_le_of_eq answer
  | case3 buffered some_left count sink answer fewer _ ih => exact Nat.le_trans ih fewer
  | case4 buffered some_left sink answer fewer ih =>
    simp only [irregular] at ih ⊢
    omega
  | case5 buffered some_left kind sink answer fewer other => exact Nat.le_of_lt fewer

theorem irregular_drain_lt {buffered after : BufferedSink} {failure : Failure}
    (failed : drain buffered = .error failure after) : after.irregular < buffered.irregular := by
  fun_induction drain buffered with
  | case1 => simp only [reduceCtorEq] at failed
  | case2 buffered some_left sink answer =>
    simp only [Outcome.error.injEq] at failed
    rw [← failed.2]
    exact Sink.irregular_write_zero_lt some_left answer
  | case3 buffered some_left count sink answer fewer _ ih =>
    exact Nat.lt_of_lt_of_le (ih failed) fewer
  | case4 buffered some_left sink answer fewer ih => exact Nat.lt_trans (ih failed) fewer
  | case5 buffered some_left kind sink answer fewer =>
    simp only [Outcome.error.injEq] at failed
    rw [← failed.2]
    exact fewer

theorem irregular_writeThrough_le (bytes : Bytes) (sink : Sink) :
    (writeThrough bytes sink).state.irregular ≤ sink.irregular := by
  fun_induction writeThrough bytes sink with
  | case1 => exact Nat.le_refl _
  | case2 bytes sink some_left after answer => exact Sink.irregular_write_le_of_eq answer
  | case3 bytes sink some_left count after answer fewer _ ih => exact Nat.le_trans ih fewer
  | case4 bytes sink some_left after answer fewer ih => omega
  | case5 bytes sink some_left kind after answer fewer other => exact Nat.le_of_lt fewer

theorem irregular_writeThrough_lt {bytes : Bytes} {sink after : Sink} {failure : Failure}
    (failed : writeThrough bytes sink = .error failure after) :
    after.irregular < sink.irregular := by
  fun_induction writeThrough bytes sink with
  | case1 => simp only [reduceCtorEq] at failed
  | case2 bytes sink some_left last answer =>
    simp only [Outcome.error.injEq] at failed
    rw [← failed.2]
    exact Sink.irregular_write_zero_lt some_left answer
  | case3 bytes sink some_left count last answer fewer _ ih =>
    exact Nat.lt_of_lt_of_le (ih failed) fewer
  | case4 bytes sink some_left last answer fewer ih => exact Nat.lt_trans (ih failed) fewer
  | case5 bytes sink some_left kind last answer fewer =>
    simp only [Outcome.error.injEq] at failed
    rw [← failed.2]
    exact fewer

theorem irregular_write_le (bytes : Bytes) (buffered : BufferedSink) :
    (buffered.write bytes).state.irregular ≤ buffered.irregular := by
  unfold write
  extract_lets room collect
  have prepared :
      (if bytes.length > room then drain buffered else .ok () buffered).state.irregular ≤
        buffered.irregular := by
    split
    · exact irregular_drain_le buffered
    · exact Nat.le_refl _
  split
  · exact Nat.le_refl _
  · generalize (if bytes.length > room then drain buffered else .ok () buffered) = first
      at prepared ⊢
    cases first with
    | error => exact prepared
    | ok value middle =>
      simp only [Outcome.andThen]
      split
      · simp only [Outcome.state_mapState]
        exact Nat.le_trans (irregular_writeThrough_le bytes middle.sink) prepared
      · exact prepared

/-- A write fails only at an answer out of the ordinary, so a sink that answers as usual from some
time on takes everything. -/
theorem irregular_write_lt {bytes : Bytes} {buffered after : BufferedSink} {failure : Failure}
    (failed : buffered.write bytes = .error failure after) :
    after.irregular < buffered.irregular := by
  have through {middle : BufferedSink} (fewer : middle.irregular ≤ buffered.irregular)
      (passed : (writeThrough bytes middle.sink).mapState
        (fun sink => { middle with sink }) = .error failure after) :
      after.irregular < buffered.irregular := by
    cases written : writeThrough bytes middle.sink with
    | ok => simp only [written, Outcome.mapState, reduceCtorEq] at passed
    | error =>
      simp only [written, Outcome.mapState, Outcome.error.injEq] at passed
      rw [← passed.2]
      exact Nat.lt_of_lt_of_le (irregular_writeThrough_lt written) fewer
  unfold write at failed
  extract_lets room collect at failed
  split at failed
  · simp only [collect, reduceCtorEq] at failed
  · split at failed
    · have fewer := irregular_drain_le buffered
      cases drained : drain buffered with
      | error =>
        simp only [drained, Outcome.andThen, Outcome.error.injEq] at failed
        rw [← failed.2]
        exact irregular_drain_lt drained
      | ok value middle =>
        rw [drained] at fewer
        simp only [drained, Outcome.andThen] at failed
        split at failed
        · exact through fewer failed
        · simp only [collect, reduceCtorEq] at failed
    · simp only [Outcome.andThen] at failed
      split at failed
      · exact through (Nat.le_refl _) failed
      · simp only [collect, reduceCtorEq] at failed

theorem irregular_flush_le (buffered : BufferedSink) :
    (flush buffered).state.irregular ≤ buffered.irregular := by
  have drained := irregular_drain_le buffered
  unfold flush
  cases result : drain buffered with
  | error => simpa only [result, Outcome.andThen] using drained
  | ok value middle =>
    rw [result] at drained
    have fewer := Sink.irregular_flush_le middle.sink
    simp only [Outcome.andThen]
    split <;> rename_i answer <;> rw [answer] at fewer <;> exact Nat.le_trans fewer drained

theorem irregular_flush_lt {buffered after : BufferedSink} {failure : Failure}
    (failed : flush buffered = .error failure after) : after.irregular < buffered.irregular := by
  have drained := irregular_drain_le buffered
  unfold flush at failed
  cases result : drain buffered with
  | error early =>
    simp only [result, Outcome.andThen, Outcome.error.injEq] at failed
    rw [← failed.2]
    exact irregular_drain_lt result
  | ok value middle =>
    rw [result] at drained
    simp only [result, Outcome.andThen] at failed
    split at failed <;> rename_i answer
    · simp only [reduceCtorEq] at failed
    · simp only [Outcome.error.injEq] at failed
      rw [← failed.2]
      exact Nat.lt_of_lt_of_le (Sink.irregular_flush_lt answer) drained

end BufferedSink
end DebugBridge

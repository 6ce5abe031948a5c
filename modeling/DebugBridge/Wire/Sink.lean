import DebugBridge.Bytes
import DebugBridge.Failure

/-!
# Where frames are written to

A sink keeps every piece it has accepted. How it answers the calls to come is part of its state:
a write may take only a part of what it is offered or fail, a flush may fail, and when nothing is
said a call succeeds in full.
-/

namespace DebugBridge

/-- How a sink answers one write. -/
inductive Acceptance where
  /-- It takes at most so many bytes. -/
  | atMost (count : Nat)
  | fail (kind : IoKind)
  deriving DecidableEq, Repr

/-- The far end of the writing direction. -/
structure Sink where
  /-- The pieces accepted so far, the last one first. -/
  pieces : List Bytes := []
  /-- How the next writes are answered. -/
  writes : List Acceptance := []
  /-- How the next flushes are answered: `none` is success. -/
  flushes : List (Option IoKind) := []

namespace Sink

/-- All bytes accepted so far, in order. -/
def accepted (sink : Sink) : Bytes :=
  sink.pieces.reverse.flatten

/-- Offers bytes; the answer tells how many of them, from the front, were taken. -/
def write (bytes : Bytes) (sink : Sink) : Except IoKind Nat × Sink :=
  match sink.writes with
  | [] => (.ok bytes.length, { sink with pieces := bytes :: sink.pieces })
  | .atMost count :: writes =>
    let taken := min count bytes.length
    (.ok taken, { sink with pieces := bytes.take taken :: sink.pieces, writes })
  | .fail kind :: writes => (.error kind, { sink with writes })

/-- Asks the sink to pass on what it has taken. -/
def flush (sink : Sink) : Except IoKind Unit × Sink :=
  match sink.flushes with
  | [] => (.ok (), sink)
  | none :: flushes => (.ok (), { sink with flushes })
  | some kind :: flushes => (.error kind, { sink with flushes })

/-- How many calls are still answered out of the ordinary. -/
def irregular (sink : Sink) : Nat :=
  sink.writes.length + sink.flushes.length

theorem irregular_write_le (bytes : Bytes) (sink : Sink) :
    (sink.write bytes).2.irregular ≤ sink.irregular := by
  unfold write irregular
  split <;> simp_all

theorem irregular_write_le_of_eq {bytes : Bytes} {sink after : Sink} {answer : Except IoKind Nat}
    (written : sink.write bytes = (answer, after)) : after.irregular ≤ sink.irregular := by
  have := irregular_write_le bytes sink
  rwa [written] at this

theorem irregular_write_lt {bytes : Bytes} {sink after : Sink} {kind : IoKind}
    (failed : sink.write bytes = (.error kind, after)) : after.irregular < sink.irregular := by
  unfold write at failed
  split at failed
  · simp only [Prod.mk.injEq, reduceCtorEq, false_and] at failed
  · simp only [Prod.mk.injEq, reduceCtorEq, false_and] at failed
  · next writes listed =>
    simp only [Prod.mk.injEq] at failed
    obtain ⟨-, rfl⟩ := failed
    simp only [irregular, listed, List.length_cons]
    omega

/-- A sink takes none of the bytes it is offered only if it is told to. -/
theorem irregular_write_zero_lt {bytes : Bytes} {sink after : Sink} (some_bytes : bytes ≠ [])
    (refused : sink.write bytes = (.ok 0, after)) : after.irregular < sink.irregular := by
  unfold write at refused
  split at refused
  · simp only [Prod.mk.injEq, Except.ok.injEq, List.length_eq_zero_iff] at refused
    exact absurd refused.1 some_bytes
  · next writes listed =>
    simp only [Prod.mk.injEq] at refused
    obtain ⟨-, rfl⟩ := refused
    simp only [irregular, listed, List.length_cons]
    omega
  · simp only [Prod.mk.injEq, reduceCtorEq, false_and] at refused

theorem irregular_flush_le (sink : Sink) : (sink.flush).2.irregular ≤ sink.irregular := by
  unfold flush irregular
  split <;> simp_all

theorem irregular_flush_lt {sink after : Sink} {kind : IoKind}
    (failed : sink.flush = (.error kind, after)) : after.irregular < sink.irregular := by
  unfold flush at failed
  split at failed
  · simp only [Prod.mk.injEq, reduceCtorEq, false_and] at failed
  · simp only [Prod.mk.injEq, reduceCtorEq, false_and] at failed
  · next flushes listed =>
    simp only [Prod.mk.injEq] at failed
    obtain ⟨-, rfl⟩ := failed
    simp only [irregular, listed, List.length_cons]
    omega

end Sink
end DebugBridge

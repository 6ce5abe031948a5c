import DebugBridge.Frame.Buffer
import DebugBridge.Metrics
import DebugBridge.Outcome
import DebugBridge.Wire.Source

/-!
# Receiving frames

A receiver collects bytes of a source until its buffer holds a frame. A read that fails leaves
the bytes collected so far in the buffer, so that the next attempt goes on where this one
stopped. A read never asks for bytes beyond the frame whose header is already there.
-/

namespace DebugBridge

/-- The receiving end of a connection. -/
structure Receiver where
  source : Source
  /-- Bytes taken from the source that have not become part of a frame yet. -/
  buffer : Bytes := []
  metrics : Metrics := {}

namespace Receiver

/-- The largest number of bytes that one read asks for. -/
def chunkSize : Nat := 16384

/-- How collecting bytes came to its end. -/
inductive Halt where
  /-- As many bytes have come as were missing. -/
  | complete
  /-- A read found the input ended. -/
  | ended
  /-- A read failed. -/
  | failed (kind : IoKind)

/-- Reads until `missing` bytes have come, or `beyond` bytes more at most. An interrupted read is
repeated. The pieces are what has come before, the last one first. -/
def collect (missing beyond : Nat) (pieces : List Bytes) (source : Source) :
    List Bytes × Halt × Source :=
  if missing = 0 then (pieces, .complete, source)
  else
    match outcome : source.read (min (missing + beyond) chunkSize) with
    | (.ok [], source) => (pieces, .ended, source)
    | (.ok (byte :: more), source) =>
      have := Source.weight_read _ _ outcome
      collect (missing - (more.length + 1)) beyond ((byte :: more) :: pieces) source
    | (.error kind, source) =>
      have := Source.weight_read_error _ _ outcome
      if kind = .interrupted then collect missing beyond pieces source
      else (pieces, .failed kind, source)
  termination_by source.weight
  decreasing_by
    · simp only [List.length_cons] at this; omega
    · exact this

/-- The bytes of pieces of which the last one is first. -/
def joined (pieces : List Bytes) : Bytes :=
  pieces.reverse.flatten

theorem length_joined_cons (piece : Bytes) (pieces : List Bytes) :
    (joined (piece :: pieces)).length = (joined pieces).length + piece.length := by
  simp [joined]

/-- What is collected is taken off the source. -/
theorem weight_collect {missing beyond : Nat} {pieces collected : List Bytes}
    {source rest : Source} {halt : Halt}
    (outcome : collect missing beyond pieces source = (collected, halt, rest)) :
    (joined collected).length + rest.weight ≤ (joined pieces).length + source.weight := by
  fun_induction collect missing beyond pieces source with
  | case1 =>
    simp only [Prod.mk.injEq] at outcome
    obtain ⟨rfl, -, rfl⟩ := outcome
    exact Nat.le_refl _
  | case2 missing pieces source some_missing last read =>
    simp only [Prod.mk.injEq] at outcome
    obtain ⟨rfl, -, rfl⟩ := outcome
    have := Source.weight_read _ _ read
    exact Nat.add_le_add_left (Nat.le_of_add_left_le this) _
  | case3 missing pieces source some_missing byte more last read weight ih =>
    have := ih outcome
    rw [length_joined_cons] at this
    omega
  | case4 missing pieces source some_missing last read weight ih =>
    exact Nat.le_trans (ih outcome) (Nat.add_le_add_left (Nat.le_of_lt weight) _)
  | case5 missing pieces source some_missing kind last read weight =>
    simp only [Prod.mk.injEq] at outcome
    obtain ⟨rfl, -, rfl⟩ := outcome
    exact Nat.add_le_add_left (Nat.le_of_lt weight) _

/-- Complete means that everything missing has come. -/
theorem le_length_of_collect_complete {missing beyond : Nat} {pieces collected : List Bytes}
    {source rest : Source}
    (outcome : collect missing beyond pieces source = (collected, .complete, rest)) :
    (joined pieces).length + missing ≤ (joined collected).length := by
  fun_induction collect missing beyond pieces source with
  | case1 =>
    simp only [Prod.mk.injEq, true_and] at outcome
    exact Nat.le_of_eq (by rw [← outcome.1]; rfl)
  | case2 => simp only [Prod.mk.injEq, reduceCtorEq, false_and, and_false] at outcome
  | case3 missing pieces source some_missing byte more last read weight ih =>
    have := ih outcome
    rw [length_joined_cons, List.length_cons] at this
    omega
  | case4 missing pieces source some_missing last read weight ih => exact ih outcome
  | case5 => simp only [Prod.mk.injEq, reduceCtorEq, false_and, and_false] at outcome

/-- A read that was interrupted is not what ends collecting. -/
theorem ne_interrupted_of_collect {missing beyond : Nat} {pieces collected : List Bytes}
    {source rest : Source} {kind : IoKind}
    (outcome : collect missing beyond pieces source = (collected, .failed kind, rest)) :
    kind ≠ .interrupted := by
  fun_induction collect missing beyond pieces source with
  | case1 => simp only [Prod.mk.injEq, reduceCtorEq, false_and, and_false] at outcome
  | case2 => simp only [Prod.mk.injEq, reduceCtorEq, false_and, and_false] at outcome
  | case3 missing pieces source some_missing byte more last read weight ih => exact ih outcome
  | case4 missing pieces source some_missing last read weight ih => exact ih outcome
  | case5 missing pieces source some_missing failed last read weight other =>
    simp only [Prod.mk.injEq, Halt.failed.injEq] at outcome
    exact outcome.2.1 ▸ other

/-- How many bytes beyond the missing ones may be read. Until the header is there it is not known
where the frame ends, and a read asks for all it may. -/
def surplus (receiver : Receiver) : Nat :=
  match Frame.pendingSize? receiver.buffer with
  | none => chunkSize
  | some _ => 0

/-- How many bytes are missing before the buffer can give up a frame or the size of one. -/
def missing (receiver : Receiver) : Nat :=
  Frame.expectedSize receiver.buffer - receiver.buffer.length

/-- Reads one frame. -/
def readFrame (receiver : Receiver) : Outcome Receiver Frame :=
  match incomplete : Frame.split? receiver.buffer with
  | some (frame, rest) =>
    let size := UInt64.ofNat Header.size + frame.payloadLength.toUInt64
    .ok frame { receiver with
      buffer := rest, metrics := receiver.metrics.frameReceived size }
  | none =>
    match outcome : collect receiver.missing receiver.surplus [] receiver.source with
    | (pieces, halt, source) =>
      let after := { receiver with source, buffer := receiver.buffer ++ joined pieces }
      match halt with
      | .complete =>
        have := weight_collect outcome
        have := le_length_of_collect_complete outcome
        have := Frame.length_lt_of_split?_eq_none incomplete
        readFrame after
      | .ended =>
        .error (.truncatedFrame (Frame.expectedSize after.buffer) after.buffer.length) after
      | .failed kind => .error (.ofKind kind) after
  termination_by receiver.source.weight
  decreasing_by
    simp only [missing, joined, List.reverse_nil, List.flatten_nil, List.length_nil] at *
    omega

/-- How much a receiver can still consume and hand out. -/
def remaining (receiver : Receiver) : Nat :=
  receiver.buffer.length + receiver.source.weight

/-- What was collected moves from the source into the buffer. -/
theorem remaining_of_collect {receiver : Receiver} {missing beyond : Nat} {pieces : List Bytes}
    {halt : Halt} {source : Source}
    (outcome : collect missing beyond [] receiver.source = (pieces, halt, source)) :
    remaining { receiver with source, buffer := receiver.buffer ++ joined pieces } ≤
      receiver.remaining := by
  have := weight_collect outcome
  simp only [remaining, List.length_append, joined, List.reverse_nil, List.flatten_nil,
    List.length_nil] at this ⊢
  omega

/-- Every frame costs the receiver its size. -/
theorem remaining_readFrame (receiver : Receiver) {frame : Frame} {after : Receiver}
    (read : receiver.readFrame = .ok frame after) :
    after.remaining + Header.size + frame.payload.length ≤ receiver.remaining := by
  fun_induction readFrame receiver with
  | case1 receiver frame' rest found size =>
    simp only [Outcome.ok.injEq] at read
    obtain ⟨rfl, rfl⟩ := read
    have := Frame.length_add_size_le_of_split? found
    simp only [remaining]
    omega
  | case2 receiver incomplete pieces source last _ _ _ _ outcome ih =>
    exact Nat.le_trans (ih read) (remaining_of_collect outcome)
  | case3 => simp only [reduceCtorEq] at read
  | case4 => simp only [reduceCtorEq] at read

/-- A failing attempt never adds to what is left. -/
theorem remaining_readFrame_error (receiver : Receiver) {failure : Failure} {after : Receiver}
    (read : receiver.readFrame = .error failure after) :
    after.remaining ≤ receiver.remaining := by
  fun_induction readFrame receiver with
  | case1 => simp only [reduceCtorEq] at read
  | case2 receiver incomplete pieces source last _ _ _ _ outcome ih =>
    exact Nat.le_trans (ih read) (remaining_of_collect outcome)
  | case3 receiver incomplete pieces source last outcome =>
    simp only [Outcome.error.injEq] at read
    exact read.2 ▸ remaining_of_collect outcome
  | case4 receiver incomplete pieces source last kind outcome =>
    simp only [Outcome.error.injEq] at read
    exact read.2 ▸ remaining_of_collect outcome

/-- Interrupted reads are repeated, never reported. -/
theorem interrupted_readFrame {receiver after : Receiver} {failure : Failure}
    (read : receiver.readFrame = .error failure after) : failure.isInterrupted = false := by
  fun_induction readFrame receiver with
  | case1 => simp only [reduceCtorEq] at read
  | case2 receiver incomplete pieces source last _ _ _ _ outcome ih => exact ih read
  | case3 =>
    simp only [Outcome.error.injEq] at read
    rw [← read.1]
    rfl
  | case4 receiver incomplete pieces source last kind outcome =>
    simp only [Outcome.error.injEq] at read
    simp [← read.1, Failure.isInterrupted, Failure.ioKind?, ne_interrupted_of_collect outcome]

end Receiver
end DebugBridge

import DebugBridge.Proofs.Wire.Input

/-!
# The reads made for a frame

A receiver collects what is missing of a frame at one go. That comes to the same as making one read
after the other, each with a look at the buffer before it, until the buffer holds a frame or a read
fails (`requestFrame_snd`). So what a receiver asks of its source can be told read by read.
-/

namespace DebugBridge.Receiver

/-- A read of the source. -/
structure Request where
  /-- What was in the buffer. -/
  buffered : Bytes
  /-- How many bytes were asked for. -/
  wanted : Nat
  answer : Except IoKind Bytes

namespace Request

/-- The bytes that a read brought. -/
def got (request : Request) : Bytes :=
  request.answer.toOption.getD []

/-- The failure that a read is for whoever waits for a frame, if it is one. -/
def failure? (request : Request) : Option Failure :=
  match request.answer with
  | .ok [] =>
    some (.truncatedFrame (Frame.expectedSize request.buffered) request.buffered.length)
  | .ok (_ :: _) => none
  | .error kind => if kind = .interrupted then none else some (.ofKind kind)

end Request

/-- How many bytes a read asks for: what is missing of a frame whose size is known, and as much as
is ever asked for while the size is not known. -/
def wanted (receiver : Receiver) : Nat :=
  match Frame.pendingSize? receiver.buffer with
  | none => chunkSize
  | some size => min (max (size - receiver.buffer.length) 1) chunkSize

/-- The read that is made next. -/
def request (receiver : Receiver) : Request where
  buffered := receiver.buffer
  wanted := receiver.wanted
  answer := (receiver.source.read receiver.wanted).1

/-- The receiver after that read. -/
def afterRequest (receiver : Receiver) : Receiver :=
  { receiver with
    source := (receiver.source.read receiver.wanted).2
    buffer := receiver.buffer ++ receiver.request.got }

/-- A read that is no failure takes something off the source. -/
theorem weight_afterRequest {receiver : Receiver} (went_on : receiver.request.failure? = none) :
    receiver.afterRequest.source.weight < receiver.source.weight := by
  unfold Request.failure? request at went_on
  unfold afterRequest
  cases read : receiver.source.read receiver.wanted with
  | mk answer source =>
    rw [read] at went_on
    cases answer with
    | error kind => exact Source.weight_read_error _ _ read
    | ok got =>
      cases got with
      | nil => contradiction
      | cons byte more =>
        have taken := Source.weight_read _ _ read
        rw [List.length_cons] at taken
        simp only
        omega

/-- Reads one frame with one read after the other, and tells which reads these were. -/
def requestFrame (receiver : Receiver) : List Request × Outcome Receiver Frame :=
  match Frame.split? receiver.buffer with
  | some (frame, rest) =>
    let size := UInt64.ofNat Header.size + frame.payloadLength.toUInt64
    ([], .ok frame { receiver with
      buffer := rest, metrics := receiver.metrics.frameReceived size })
  | none =>
    match went_on : receiver.request.failure? with
    | some failure => ([receiver.request], .error failure receiver.afterRequest)
    | none =>
      have := weight_afterRequest went_on
      let rest := requestFrame receiver.afterRequest
      (receiver.request :: rest.1, rest.2)
  termination_by receiver.source.weight

section Collecting

variable {missing beyond : Nat} {pieces : List Bytes} {source rest : Source}

theorem collect_zero : collect 0 beyond pieces source = (pieces, .complete, source) := by
  rw [collect, if_pos rfl]

theorem collect_of_ne_zero (some_missing : ¬missing = 0) :
    collect missing beyond pieces source =
      match source.read (min (missing + beyond) chunkSize) with
      | (.ok [], rest) => (pieces, .ended, rest)
      | (.ok (byte :: more), rest) =>
        collect (missing - (more.length + 1)) beyond ((byte :: more) :: pieces) rest
      | (.error kind, rest) =>
        if kind = .interrupted then collect missing beyond pieces rest
        else (pieces, .failed kind, rest) := by
  rw [collect, if_neg some_missing]
  split <;> rename_i read <;> simp only [read]

/-- What was collected before stays in front of what is collected now. -/
theorem collect_append (earlier : List Bytes) :
    collect missing beyond (pieces ++ earlier) source =
      ((collect missing beyond pieces source).1 ++ earlier,
        (collect missing beyond pieces source).2) := by
  fun_induction collect missing beyond pieces source with
  | case1 => rw [collect_zero]
  | case2 missing pieces source some_missing last read => rw [collect_of_ne_zero some_missing, read]
  | case3 missing pieces source some_missing byte more last read _ ih =>
    rw [collect_of_ne_zero some_missing, read]
    exact ih
  | case4 missing pieces source some_missing last read _ ih =>
    rw [collect_of_ne_zero some_missing, read]
    exact ih
  | case5 missing pieces source some_missing kind last read _ uninterrupted =>
    rw [collect_of_ne_zero some_missing, read]
    exact if_neg uninterrupted

end Collecting

section Reading

variable {receiver : Receiver}

/-- A frame that is in the buffer is handed out without a read. -/
theorem readFrame_of_split? {frame : Frame} {rest : Bytes}
    (found : Frame.split? receiver.buffer = some (frame, rest)) :
    receiver.readFrame = .ok frame { receiver with
      buffer := rest
      metrics := receiver.metrics.frameReceived
        (UInt64.ofNat Header.size + frame.payloadLength.toUInt64) } := by
  rw [readFrame]
  split <;> rename_i same
  · rw [found] at same
    cases same
    rfl
  · rw [found] at same
    contradiction

/-- How reading a frame goes on once bytes have been collected. -/
def afterCollecting (receiver : Receiver) (collected : List Bytes × Halt × Source) :
    Outcome Receiver Frame :=
  let after := { receiver with
    source := collected.2.2, buffer := receiver.buffer ++ joined collected.1 }
  match collected.2.1 with
  | .complete => after.readFrame
  | .ended => .error (.truncatedFrame (Frame.expectedSize after.buffer) after.buffer.length) after
  | .failed kind => .error (.ofKind kind) after

/-- Without a frame in the buffer, what is missing of one is collected first. -/
theorem readFrame_of_collect (incomplete : Frame.split? receiver.buffer = none) :
    receiver.readFrame =
      receiver.afterCollecting (collect receiver.missing receiver.surplus [] receiver.source) := by
  rw [readFrame]
  split <;> rename_i same
  · rw [incomplete] at same
    contradiction
  · split
    rename_i pieces halt source outcome
    cases halt <;> simp only [afterCollecting, outcome]

theorem missing_ne_zero (incomplete : Frame.split? receiver.buffer = none) :
    ¬receiver.missing = 0 := by
  have short := Frame.length_lt_of_split?_eq_none incomplete
  unfold missing
  omega

/-- What is asked for first while collecting is what a single read would ask for. -/
theorem wanted_eq (incomplete : Frame.split? receiver.buffer = none) :
    min (receiver.missing + receiver.surplus) chunkSize = receiver.wanted := by
  have short := Frame.length_lt_of_split?_eq_none incomplete
  unfold missing surplus wanted chunkSize
  unfold Frame.expectedSize at *
  cases announced : Frame.pendingSize? receiver.buffer with
  | none => simp only; omega
  | some size =>
    simp only [announced, Option.getD_some] at short ⊢
    omega

/-- The size that is announced stays the same until enough has come. -/
theorem pendingSize?_append {got : Bytes} (short : got.length < receiver.missing) :
    Frame.pendingSize? (receiver.buffer ++ got) = Frame.pendingSize? receiver.buffer := by
  unfold missing Frame.expectedSize at short
  cases announced : Frame.pendingSize? receiver.buffer with
  | some size => exact Frame.pendingSize?_append announced got
  | none =>
    rw [announced, Option.getD_none] at short
    cases late : Frame.pendingSize? (receiver.buffer ++ got) with
    | none => rfl
    | some size =>
      have long := Frame.length_of_pendingSize? late
      rw [List.length_append] at long
      omega

/-- What a read has brought might as well have been in the buffer before. -/
theorem afterCollecting_of_bytes (got : Bytes) (source : Source)
    (incomplete : Frame.split? receiver.buffer = none) :
    let next := { receiver with source, buffer := receiver.buffer ++ got }
    receiver.afterCollecting
      (collect (receiver.missing - got.length) receiver.surplus [got] source) = next.readFrame := by
  intro next
  by_cases enough : receiver.missing ≤ got.length
  · rw [Nat.sub_eq_zero_of_le enough, collect_zero]
    simp [afterCollecting, joined, next]
  · have short : got.length < receiver.missing := Nat.not_le.mp enough
    have announced : Frame.pendingSize? next.buffer = Frame.pendingSize? receiver.buffer :=
      pendingSize?_append short
    have missing : next.missing = receiver.missing - got.length := by
      unfold Receiver.missing Frame.expectedSize
      rw [announced]
      simp only [next, List.length_append]
      omega
    have surplus : next.surplus = receiver.surplus := by
      unfold Receiver.surplus
      rw [announced]
    have later := @collect_append next.missing next.surplus [] source [got]
    rw [List.nil_append] at later
    rw [readFrame_of_collect (split?_eq_none_of_short incomplete short), ← missing, ← surplus,
      later]
    simp [afterCollecting, joined, next]

/-- Reading a frame begins with one read, and goes on behind it if that was no failure. -/
theorem readFrame_of_request (incomplete : Frame.split? receiver.buffer = none) :
    receiver.readFrame =
      match receiver.request.failure? with
      | some failure => .error failure receiver.afterRequest
      | none => receiver.afterRequest.readFrame := by
  rw [readFrame_of_collect incomplete, collect_of_ne_zero (missing_ne_zero incomplete),
    wanted_eq incomplete]
  cases read : receiver.source.read receiver.wanted with
  | mk answer source =>
    have request : receiver.request = ⟨receiver.buffer, receiver.wanted, answer⟩ := by
      rw [Receiver.request, read]
    have after : receiver.afterRequest =
        { receiver with source, buffer := receiver.buffer ++ answer.toOption.getD [] } := by
      rw [afterRequest, read, request, Request.got]
    rw [after, request, Request.failure?]
    cases answer with
    | error kind =>
      have unchanged : receiver.buffer ++ [] = receiver.buffer := List.append_nil _
      by_cases interrupted : kind = .interrupted
      · simp only [interrupted, if_true, Except.toOption, Option.getD_none, unchanged]
        exact (@readFrame_of_collect { receiver with source } incomplete).symm
      · simp only [interrupted, if_false, Except.toOption, Option.getD_none, unchanged]
        simp [afterCollecting, joined]
    | ok got =>
      cases got with
      | nil => simp [afterCollecting, joined, Except.toOption]
      | cons byte more => exact afterCollecting_of_bytes (byte :: more) source incomplete

/-- Reads one after the other are how a frame is read. -/
theorem requestFrame_snd (receiver : Receiver) : receiver.requestFrame.2 = receiver.readFrame := by
  fun_induction requestFrame receiver with
  | case1 receiver frame rest found size => exact (readFrame_of_split? found).symm
  | case2 receiver incomplete failure failed => rw [readFrame_of_request incomplete, failed]
  | case3 receiver incomplete went_on _ rest ih =>
    rw [readFrame_of_request incomplete, went_on]
    exact ih

end Reading

end DebugBridge.Receiver

import DebugBridge.Proofs.Wire.Framing
import DebugBridge.Wire.Receiver

/-!
# What is on its way in

What a receiver has buffered and what its source will still give make up one byte string. Reading
a frame takes the frame off the front of it, and a read that fails takes nothing, in whatever
pieces the bytes come. So the frames that a receiver will give are the frames of that byte string,
and a source without failures gives all of them before it ends.
-/

namespace DebugBridge

namespace Source

/-- A read that succeeds takes what it brings off the front of what the source gives. -/
theorem content_read {wanted : Nat} {source rest : Source} {got : Bytes}
    (read : source.read wanted = (.ok got, rest)) : source.content = got ++ rest.content := by
  induction source with
  | nil =>
    simp only [Source.read, Prod.mk.injEq, Except.ok.injEq] at read
    obtain ⟨rfl, rfl⟩ := read
    rfl
  | cons item tail ih =>
    cases item with
    | pause =>
      simp only [Source.read, Prod.mk.injEq, Except.ok.injEq] at read
      obtain ⟨rfl, rfl⟩ := read
      rfl
    | fail kind => simp only [Source.read, Prod.mk.injEq, reduceCtorEq, false_and] at read
    | bytes bytes limit =>
      rw [Source.read] at read
      split at read
      · next empty =>
        rw [List.isEmpty_iff] at empty
        rw [content, empty]
        exact ih read
      · simp only [Prod.mk.injEq, Except.ok.injEq] at read
        obtain ⟨rfl, rfl⟩ := read
        rw [content]
        split
        · next all =>
          have whole := List.take_append_drop (min (max 1 limit) wanted) bytes
          rw [List.isEmpty_iff.mp all, List.append_nil] at whole
          rw [whole]
        · rw [content, ← List.append_assoc, List.take_append_drop]

/-- A read that fails takes nothing from what the source gives. -/
theorem content_read_error {wanted : Nat} {source rest : Source} {kind : IoKind}
    (read : source.read wanted = (.error kind, rest)) : rest.content = source.content := by
  induction source with
  | nil => simp only [Source.read, Prod.mk.injEq, reduceCtorEq, false_and] at read
  | cons item tail ih =>
    cases item with
    | pause => simp only [Source.read, Prod.mk.injEq, reduceCtorEq, false_and] at read
    | fail failed =>
      simp only [Source.read, Prod.mk.injEq] at read
      obtain ⟨-, rfl⟩ := read
      rfl
    | bytes bytes limit =>
      rw [Source.read] at read
      split at read
      · next empty =>
        rw [content, List.isEmpty_iff.mp empty]
        exact ih read
      · simp only [Prod.mk.injEq, reduceCtorEq, false_and] at read

/-- A source that gives bytes and nothing else. -/
def IsClean (source : Source) : Prop :=
  ∀ item ∈ source, ∃ bytes limit, item = .bytes bytes limit

/-- A source of one byte string is clean. -/
theorem isClean_bytes (bytes : Bytes) (limit : Nat) : IsClean [.bytes bytes limit] :=
  fun _ member => ⟨bytes, limit, List.mem_singleton.mp member⟩

/-- Reads of a clean source do not fail and find no end while bytes are left. -/
theorem IsClean.read {wanted : Nat} {source rest : Source} {answer : Except IoKind Bytes}
    (clean : source.IsClean) (some_wanted : wanted ≠ 0)
    (read : source.read wanted = (answer, rest)) :
    rest.IsClean ∧ ∃ got, answer = .ok got ∧ (got = [] → source.content = []) := by
  induction source with
  | nil =>
    simp only [Source.read, Prod.mk.injEq] at read
    obtain ⟨rfl, rfl⟩ := read
    exact ⟨clean, [], rfl, fun _ => rfl⟩
  | cons item tail ih =>
    have tail_clean : IsClean tail := by
      intro other member
      exact clean other (List.mem_cons_of_mem _ member)
    obtain ⟨bytes, limit, rfl⟩ := clean item List.mem_cons_self
    rw [Source.read] at read
    split at read
    · next empty =>
      rw [content, List.isEmpty_iff.mp empty]
      exact ih tail_clean read
    · next some_bytes =>
      simp only [Prod.mk.injEq] at read
      obtain ⟨rfl, rfl⟩ := read
      refine ⟨?_, _, rfl, ?_⟩
      · split
        · exact tail_clean
        · intro other member
          rcases List.mem_cons.mp member with rfl | member
          · exact ⟨_, _, rfl⟩
          · exact tail_clean other member
      · intro none_got
        rw [List.isEmpty_iff] at some_bytes
        rw [List.take_eq_nil_iff] at none_got
        rcases none_got with none_wanted | empty
        · omega
        · contradiction

end Source

namespace Receiver

/-- All bytes that have not become part of a frame yet. -/
def wire (receiver : Receiver) : Bytes :=
  receiver.buffer ++ receiver.source.content

/-- The frames that are still to be read. -/
def frames (receiver : Receiver) : List Frame :=
  (Frame.splitAll receiver.wire).1

/-- Collecting moves bytes from the source to the pieces. -/
theorem content_collect {missing beyond : Nat} {pieces collected : List Bytes}
    {source rest : Source} {halt : Halt}
    (outcome : collect missing beyond pieces source = (collected, halt, rest)) :
    joined collected ++ rest.content = joined pieces ++ source.content := by
  fun_induction collect missing beyond pieces source with
  | case1 =>
    simp only [Prod.mk.injEq] at outcome
    obtain ⟨rfl, -, rfl⟩ := outcome
    rfl
  | case2 missing pieces source some_missing last read =>
    simp only [Prod.mk.injEq] at outcome
    obtain ⟨rfl, -, rfl⟩ := outcome
    rw [Source.content_read read]
    rfl
  | case3 missing pieces source some_missing byte more last read _ ih =>
    rw [ih outcome, Source.content_read read]
    simp [joined]
  | case4 missing pieces source some_missing last read _ ih =>
    rw [ih outcome, Source.content_read_error read]
  | case5 missing pieces source some_missing kind last read =>
    simp only [Prod.mk.injEq] at outcome
    obtain ⟨rfl, -, rfl⟩ := outcome
    rw [Source.content_read_error read]

theorem request_ne_zero {missing : Nat} (some_missing : ¬missing = 0) (beyond : Nat) :
    min (missing + beyond) chunkSize ≠ 0 := by
  unfold chunkSize
  omega

/-- From a clean source what is missing is collected unless the source ends before. -/
theorem collect_of_isClean {missing beyond : Nat} {pieces collected : List Bytes}
    {source rest : Source} {halt : Halt} (clean : source.IsClean)
    (outcome : collect missing beyond pieces source = (collected, halt, rest)) :
    rest.IsClean ∧ (halt = .complete ∨ halt = .ended ∧ rest.content = [] ∧ missing ≠ 0 ∧
      (joined collected).length < (joined pieces).length + missing) := by
  fun_induction collect missing beyond pieces source with
  | case1 =>
    simp only [Prod.mk.injEq] at outcome
    obtain ⟨-, rfl, rfl⟩ := outcome
    exact ⟨clean, .inl rfl⟩
  | case2 missing pieces source some_missing last read =>
    simp only [Prod.mk.injEq] at outcome
    obtain ⟨rfl, rfl, rfl⟩ := outcome
    obtain ⟨last_clean, got, same, all⟩ := clean.read (request_ne_zero some_missing beyond) read
    have nothing := all (Except.ok.inj same).symm
    rw [Source.content_read read, List.nil_append] at nothing
    exact ⟨last_clean, .inr ⟨rfl, nothing, some_missing, by omega⟩⟩
  | case3 missing pieces source some_missing byte more last read _ ih =>
    obtain ⟨last_clean, -⟩ := clean.read (request_ne_zero some_missing beyond) read
    obtain ⟨rest_clean, complete | ⟨ended, nothing, still_missing, short⟩⟩ := ih last_clean outcome
    · exact ⟨rest_clean, .inl complete⟩
    · rw [length_joined_cons, List.length_cons] at short
      exact ⟨rest_clean, .inr ⟨ended, nothing, some_missing, by omega⟩⟩
  | case4 missing pieces source some_missing last read =>
    obtain ⟨-, got, same, -⟩ := clean.read (request_ne_zero some_missing beyond) read
    contradiction
  | case5 missing pieces source some_missing kind last read =>
    obtain ⟨-, got, same, -⟩ := clean.read (request_ne_zero some_missing beyond) read
    contradiction

/-- What was collected goes on being on its way in. -/
theorem wire_collect {receiver : Receiver} {missing beyond : Nat} {pieces : List Bytes}
    {halt : Halt} {source : Source}
    (outcome : collect missing beyond [] receiver.source = (pieces, halt, source)) :
    wire { receiver with source, buffer := receiver.buffer ++ joined pieces } = receiver.wire := by
  have same := content_collect outcome
  simp only [joined, List.reverse_nil, List.flatten_nil, List.nil_append] at same
  rw [wire, wire, List.append_assoc, ← same]
  rfl

/-- Reading takes the frame at the front of what is on its way in. -/
theorem split?_wire_of_readFrame {receiver after : Receiver} {frame : Frame}
    (read : receiver.readFrame = .ok frame after) :
    Frame.split? receiver.wire = some (frame, after.wire) := by
  fun_induction readFrame receiver with
  | case1 receiver found rest split =>
    simp only [Outcome.ok.injEq] at read
    obtain ⟨rfl, rfl⟩ := read
    exact Frame.split?_append split receiver.source.content
  | case2 receiver incomplete pieces source last _ _ _ _ outcome ih =>
    rw [← ih read]
    exact congrArg Frame.split? (wire_collect outcome).symm
  | case3 => simp only [reduceCtorEq] at read
  | case4 => simp only [reduceCtorEq] at read

/-- A read that fails takes nothing. -/
theorem wire_of_readFrame_error {receiver after : Receiver} {failure : Failure}
    (read : receiver.readFrame = .error failure after) : after.wire = receiver.wire := by
  fun_induction readFrame receiver with
  | case1 => simp only [reduceCtorEq] at read
  | case2 receiver incomplete pieces source last _ _ _ _ outcome ih =>
    rw [ih read]
    exact wire_collect outcome
  | case3 receiver incomplete pieces source last outcome =>
    simp only [Outcome.error.injEq] at read
    rw [← read.2]
    exact wire_collect outcome
  | case4 receiver incomplete pieces source last kind outcome =>
    simp only [Outcome.error.injEq] at read
    rw [← read.2]
    exact wire_collect outcome

/-- A frame that is read is counted with its size, and nothing else is. -/
theorem metrics_readFrame (receiver : Receiver) :
    receiver.readFrame.state.metrics =
      match receiver.readFrame.result with
      | .ok frame => receiver.metrics.frameReceived
          (UInt64.ofNat Header.size + frame.payloadLength.toUInt64)
      | .error _ => receiver.metrics := by
  fun_induction readFrame receiver with
  | case1 => rfl
  | case2 receiver incomplete pieces source after _ _ _ _ outcome ih => exact ih
  | case3 => rfl
  | case4 => rfl

/-- A frame that is read was the first of those still to be read. -/
theorem frames_of_readFrame {receiver after : Receiver} {frame : Frame}
    (read : receiver.readFrame = .ok frame after) : receiver.frames = frame :: after.frames := by
  rw [frames, Frame.splitAll_of_split? (split?_wire_of_readFrame read)]
  rfl

/-- Frames on the wire are the frames that will be read. -/
theorem frames_of_wire {receiver : Receiver} {sent : List Frame}
    (exact : ∀ frame ∈ sent, frame.IsExact) (wire : receiver.wire = sent.flatMap Frame.encode) :
    receiver.frames = sent := by
  rw [frames, wire, Frame.splitAll_flatMap_encode exact]

/-- A buffer to which fewer bytes have come than were missing gives up no frame. -/
theorem split?_eq_none_of_short {receiver : Receiver} {got : Bytes}
    (incomplete : Frame.split? receiver.buffer = none) (short : got.length < receiver.missing) :
    Frame.split? (receiver.buffer ++ got) = none := by
  cases found : Frame.split? (receiver.buffer ++ got) with
  | none => rfl
  | some pair =>
    -- A frame would need as many bytes as were waited for.
    obtain ⟨frame, rest⟩ := pair
    have whole := Frame.eq_encode_append_of_split? found
    have awaited := Frame.expectedSize_le (Frame.isExact_of_split? found) whole
    have length := congrArg List.length whole
    have expected := Frame.length_lt_of_split?_eq_none incomplete
    simp only [missing, List.length_append] at short length
    omega

/-- A receiver whose source gives bytes and nothing else. -/
def IsClean (receiver : Receiver) : Prop :=
  receiver.source.IsClean

/-- A clean receiver fails only when the source has ended before the next frame is complete. -/
theorem IsClean.readFrame {receiver : Receiver} (clean : receiver.IsClean) :
    (∃ frame after, receiver.readFrame = .ok frame after ∧ after.IsClean) ∨
      ∃ expected actual after,
        receiver.readFrame = .error (.truncatedFrame expected actual) after ∧
        receiver.frames = [] := by
  fun_induction Receiver.readFrame receiver with
  | case1 receiver found rest split => exact .inl ⟨_, _, rfl, clean⟩
  | case2 receiver incomplete pieces source last _ _ _ _ outcome ih =>
    rcases ih (collect_of_isClean clean outcome).1 with read | ⟨expected, actual, after, read, none⟩
    · exact .inl read
    · refine .inr ⟨expected, actual, after, read, ?_⟩
      rw [← none, frames, frames]
      exact congrArg (fun wire => (Frame.splitAll wire).1) (wire_collect outcome).symm
  | case3 receiver incomplete pieces source last outcome =>
    refine .inr ⟨_, _, _, rfl, ?_⟩
    obtain ⟨-, complete | ⟨-, nothing, -, short⟩⟩ := collect_of_isClean clean outcome
    · contradiction
    · have wire : receiver.wire = receiver.buffer ++ joined pieces := by
        rw [← wire_collect outcome, Receiver.wire, nothing, List.append_nil]
      rw [frames, wire, Frame.splitAll_of_split?_eq_none]
      apply split?_eq_none_of_short incomplete
      simpa [joined] using short
  | case4 receiver incomplete pieces source last kind outcome =>
    obtain ⟨-, complete | ⟨ended, -⟩⟩ := collect_of_isClean clean outcome
    · contradiction
    · contradiction

/-- What a read hands out is taken off the front, and nothing else. -/
theorem frames_readFrame (receiver : Receiver) :
    receiver.frames =
      receiver.readFrame.result.toOption.toList ++ receiver.readFrame.state.frames := by
  cases read : receiver.readFrame with
  | ok frame after => exact frames_of_readFrame read
  | error failure after =>
    rw [frames, ← wire_of_readFrame_error read]
    rfl

/-- A source that gives bytes and nothing else is left as such a source. -/
theorem IsClean.readFrame_state {receiver : Receiver} (clean : receiver.IsClean) :
    receiver.readFrame.state.IsClean := by
  fun_induction Receiver.readFrame receiver with
  | case1 => exact clean
  | case2 receiver incomplete pieces source last _ _ _ _ outcome ih =>
    exact ih (collect_of_isClean clean outcome).1
  | case3 receiver incomplete pieces source last outcome
  | case4 receiver incomplete pieces source last kind outcome =>
    exact (collect_of_isClean clean outcome).1

/-- A clean receiver fails behind the last frame only. -/
theorem IsClean.frames_of_failed {receiver after : Receiver} {failure : Failure}
    (clean : receiver.IsClean) (failed : receiver.readFrame = .error failure after) :
    after.frames = [] := by
  obtain ⟨frame, later, read, -⟩ | ⟨expected, actual, later, read, nothing⟩ := clean.readFrame
  · rw [read] at failed
    contradiction
  · rw [frames_readFrame, failed] at nothing
    exact nothing

/-- A clean receiver reads the frame that its bytes begin with. -/
theorem IsClean.readFrame_of_wire {receiver : Receiver} (clean : receiver.IsClean) {frame : Frame}
    (exact : frame.IsExact) {rest : Bytes} (wire : receiver.wire = frame.encode ++ rest) :
    ∃ after, receiver.readFrame = .ok frame after ∧ after.IsClean ∧ after.wire = rest := by
  have split := Frame.split?_encode_append exact rest
  rw [← wire] at split
  obtain ⟨other, after, read, still_clean⟩ | ⟨expected, actual, after, read, nothing⟩ :=
    clean.readFrame
  · have same := split?_wire_of_readFrame read
    rw [split, Option.some.injEq, Prod.mk.injEq] at same
    obtain ⟨rfl, rfl⟩ := same
    exact ⟨after, read, still_clean, rfl⟩
  · rw [frames, Frame.splitAll_of_split? split] at nothing
    contradiction

end Receiver
end DebugBridge

import DebugBridge.Proofs.Wire.Framing
import DebugBridge.Wire.Transmitter

/-!
# What is on its way out

What the sink has taken and what the buffer holds for it make up one byte string, and every
operation can only add to its end. An operation that succeeds adds all of its bytes; one that fails
adds some from the front, and these go out before anything later, whether or not the caller tries
again. A frame that fits into the buffer is added as a whole even if sending it fails.
-/

namespace DebugBridge

namespace Sink

/-- A write that succeeds takes that many bytes off the front of what it is offered. -/
theorem accepted_of_write_ok {bytes : Bytes} {count : Nat} {sink after : Sink}
    (written : sink.write bytes = (.ok count, after)) :
    after.accepted = sink.accepted ++ bytes.take count := by
  unfold write at written
  split at written
  · simp only [Prod.mk.injEq, Except.ok.injEq] at written
    obtain ⟨rfl, rfl⟩ := written
    simp [accepted]
  · simp only [Prod.mk.injEq, Except.ok.injEq] at written
    obtain ⟨rfl, rfl⟩ := written
    simp [accepted]
  · simp only [Prod.mk.injEq, reduceCtorEq, false_and] at written

/-- A write that fails takes nothing. -/
theorem accepted_of_write_error {bytes : Bytes} {kind : IoKind} {sink after : Sink}
    (failed : sink.write bytes = (.error kind, after)) : after.accepted = sink.accepted := by
  unfold write at failed
  split at failed
  · simp only [Prod.mk.injEq, reduceCtorEq, false_and] at failed
  · simp only [Prod.mk.injEq, reduceCtorEq, false_and] at failed
  · simp only [Prod.mk.injEq] at failed
    rw [← failed.2]
    rfl

/-- Flushing a sink, whether it fails or not, leaves what the sink has taken as it is. -/
theorem accepted_flush (sink : Sink) : sink.flush.2.accepted = sink.accepted := by
  unfold flush
  split <;> rfl

/-- A sink that takes at least one byte of whatever it is offered, and never fails. -/
structure IsReliable (sink : Sink) : Prop where
  writes : ∀ answer ∈ sink.writes, ∃ count, answer = .atMost (count + 1)
  flushes : ∀ answer ∈ sink.flushes, answer = none

/-- A sink that answers no call out of the ordinary is reliable. -/
theorem IsReliable.of_regular {sink : Sink} (writes : sink.writes = [])
    (flushes : sink.flushes = []) : sink.IsReliable := by
  constructor
  · rw [writes]
    exact fun _ member => absurd member List.not_mem_nil
  · rw [flushes]
    exact fun _ member => absurd member List.not_mem_nil

/-- A reliable sink takes something of whatever is not empty, and is as reliable afterwards. -/
theorem IsReliable.write {bytes : Bytes} {sink after : Sink} {answer : Except IoKind Nat}
    (reliable : sink.IsReliable) (nonempty : bytes ≠ [])
    (written : sink.write bytes = (answer, after)) :
    after.IsReliable ∧ ∃ count, answer = .ok (count + 1) := by
  obtain ⟨byte, more, rfl⟩ := List.exists_cons_of_ne_nil nonempty
  unfold Sink.write at written
  split at written
  · simp only [Prod.mk.injEq] at written
    obtain ⟨rfl, rfl⟩ := written
    exact ⟨⟨reliable.writes, reliable.flushes⟩, more.length, rfl⟩
  · next limit writes listed =>
    have answers := reliable.writes
    rw [listed, List.forall_mem_cons] at answers
    obtain ⟨⟨count, same⟩, rest⟩ := answers
    rw [Acceptance.atMost.injEq] at same
    simp only [Prod.mk.injEq] at written
    obtain ⟨rfl, rfl⟩ := written
    refine ⟨⟨rest, reliable.flushes⟩, min count more.length, ?_⟩
    rw [same, List.length_cons, Nat.add_min_add_right]
  · next kind writes listed =>
    have answers := reliable.writes
    rw [listed, List.forall_mem_cons] at answers
    obtain ⟨⟨count, same⟩, -⟩ := answers
    contradiction

/-- A reliable sink can be flushed, and is as reliable afterwards. -/
theorem IsReliable.flush {sink : Sink} (reliable : sink.IsReliable) :
    ∃ after, sink.flush = (.ok (), after) ∧ after.IsReliable := by
  unfold Sink.flush
  split
  · exact ⟨sink, rfl, reliable⟩
  · next flushes listed =>
    have answers := reliable.flushes
    rw [listed, List.forall_mem_cons] at answers
    exact ⟨_, rfl, reliable.writes, answers.2⟩
  · next kind flushes listed =>
    have answers := reliable.flushes
    rw [listed, List.forall_mem_cons] at answers
    exact absurd answers.1 (by simp)

end Sink

namespace BufferedSink

/-- All bytes that the sink has taken or will be given before any others. -/
def committed (buffered : BufferedSink) : Bytes :=
  buffered.sink.accepted ++ buffered.pending

/-- Draining moves bytes from the buffer to the sink. -/
theorem committed_drain (buffered : BufferedSink) :
    (drain buffered).state.committed = buffered.committed := by
  fun_induction drain buffered with
  | case1 => rfl
  | case2 buffered some_left sink answer =>
    simp [committed, Sink.accepted_of_write_ok answer]
  | case3 buffered some_left count sink answer _ _ ih =>
    rw [ih, committed, Sink.accepted_of_write_ok answer, List.append_assoc, List.take_append_drop]
    rfl
  | case4 buffered some_left sink answer _ ih =>
    rw [ih, committed, Sink.accepted_of_write_error answer]
    rfl
  | case5 buffered some_left kind sink answer =>
    simp [committed, Sink.accepted_of_write_error answer]

theorem pending_of_drain_ok {buffered after : BufferedSink}
    (drained : drain buffered = .ok () after) : after.pending = [] := by
  fun_induction drain buffered with
  | case1 buffered empty =>
    simp only [Outcome.ok.injEq, true_and] at drained
    rw [← drained]
    exact empty
  | case2 => simp only [reduceCtorEq] at drained
  | case3 _ _ _ _ _ _ _ ih => exact ih drained
  | case4 _ _ _ _ _ ih => exact ih drained
  | case5 => simp only [reduceCtorEq] at drained

/-- What is written past the buffer reaches the sink from the front on. -/
theorem accepted_writeThrough (bytes : Bytes) (sink : Sink) :
    ∃ part, part <+: bytes ∧ (writeThrough bytes sink).state.accepted = sink.accepted ++ part ∧
      ∀ after, writeThrough bytes sink = .ok () after → part = bytes := by
  fun_induction writeThrough bytes sink with
  | case1 sink =>
    refine ⟨[], List.nil_prefix, ?_, fun _ _ => rfl⟩
    exact (List.append_nil _).symm
  | case2 bytes sink some_left after answer =>
    refine ⟨[], List.nil_prefix, ?_, by simp⟩
    simpa using Sink.accepted_of_write_ok answer
  | case3 bytes sink some_left count after answer _ _ ih =>
    obtain ⟨part, front, accepted, whole⟩ := ih
    refine ⟨bytes.take (count + 1) ++ part, ?_, ?_, ?_⟩
    · obtain ⟨more, rest⟩ := front
      exact ⟨more, by rw [List.append_assoc, rest, List.take_append_drop]⟩
    · rw [accepted, Sink.accepted_of_write_ok answer, List.append_assoc]
    · intro last written
      rw [whole last written, List.take_append_drop]
  | case4 bytes sink some_left after answer _ ih =>
    obtain ⟨part, front, accepted, whole⟩ := ih
    refine ⟨part, front, ?_, whole⟩
    rw [accepted, Sink.accepted_of_write_error answer]
  | case5 bytes sink some_left kind after answer =>
    refine ⟨[], List.nil_prefix, ?_, by simp⟩
    simpa using Sink.accepted_of_write_error answer

/-- Bytes for which there is room reach no sink yet. -/
theorem write_of_room {bytes : Bytes} {buffered : BufferedSink} (small : bytes.length < capacity)
    (room : buffered.pending.length + bytes.length ≤ capacity) :
    buffered.write bytes = .ok () { buffered with pending := buffered.pending ++ bytes } := by
  have enough : ¬bytes.length > capacity - buffered.pending.length := by omega
  simp only [write, enough, if_false, Outcome.andThen, Nat.not_le.mpr small, ite_self]

/-- Bytes that go past the empty buffer are added as far as the sink takes them. -/
private theorem committed_writeThrough (bytes : Bytes) (buffered : BufferedSink)
    (empty : buffered.pending = []) :
    let outcome := (writeThrough bytes buffered.sink).mapState fun sink => { buffered with sink }
    ∃ part, part <+: bytes ∧ outcome.state.committed = buffered.committed ++ part ∧
      ∀ after, outcome = .ok () after → part = bytes := by
  obtain ⟨part, front, accepted, whole⟩ := accepted_writeThrough bytes buffered.sink
  refine ⟨part, front, ?_, ?_⟩
  · simp [committed, empty, accepted]
  · intro after written
    cases through : writeThrough bytes buffered.sink with
    | ok value sink => exact whole sink through
    | error failure sink => simp [through, Outcome.mapState] at written

/-- A write adds bytes from the front on, and all of them if it succeeds. -/
theorem committed_write (bytes : Bytes) (buffered : BufferedSink) :
    ∃ part, part <+: bytes ∧ (buffered.write bytes).state.committed = buffered.committed ++ part ∧
      ∀ after, buffered.write bytes = .ok () after → part = bytes := by
  have collected (middle : BufferedSink) :
      ({ middle with pending := middle.pending ++ bytes } : BufferedSink).committed =
        middle.committed ++ bytes := (List.append_assoc ..).symm
  unfold write
  extract_lets room collect
  by_cases fits : bytes.length < room
  · rw [if_pos fits]
    exact ⟨bytes, List.prefix_refl bytes, collected buffered, fun _ _ => rfl⟩
  · rw [if_neg fits]
    by_cases full : bytes.length > room
    · rw [if_pos full]
      have same := committed_drain buffered
      cases drained : drain buffered with
      | error failure middle =>
        rw [drained] at same
        refine ⟨[], List.nil_prefix, ?_, by simp [Outcome.andThen]⟩
        exact same.trans (List.append_nil _).symm
      | ok value middle =>
        have empty := pending_of_drain_ok drained
        rw [drained] at same
        simp only [Outcome.andThen]
        rw [← same]
        split
        · exact committed_writeThrough bytes middle empty
        · exact ⟨bytes, List.prefix_refl bytes, collected middle, fun _ _ => rfl⟩
    · rw [if_neg full]
      simp only [Outcome.andThen]
      split
      · next large =>
        -- All of the room is as much as the whole buffer only if the buffer is empty.
        have empty : buffered.pending.length = 0 := by
          simp only [room, capacity] at *
          omega
        exact committed_writeThrough bytes buffered (List.length_eq_zero_iff.mp empty)
      · exact ⟨bytes, List.prefix_refl bytes, collected buffered, fun _ _ => rfl⟩

/-- Flushing adds nothing, and if it succeeds nothing is left in the buffer. -/
theorem committed_flush (buffered : BufferedSink) :
    buffered.flush.state.committed = buffered.committed := by
  have same := committed_drain buffered
  unfold flush
  cases drained : drain buffered with
  | error failure middle => rwa [drained] at same
  | ok value middle =>
    rw [drained] at same
    have accepted := Sink.accepted_flush middle.sink
    rw [← same]
    simp only [Outcome.andThen]
    split <;> rename_i answer <;> rw [answer] at accepted <;> simp [committed, accepted]

theorem pending_of_flush_ok {buffered after : BufferedSink}
    (flushed : buffered.flush = .ok () after) : after.pending = [] := by
  unfold flush at flushed
  cases drained : drain buffered with
  | error failure middle => simp [drained, Outcome.andThen] at flushed
  | ok value middle =>
    have empty := pending_of_drain_ok drained
    simp only [drained, Outcome.andThen] at flushed
    split at flushed
    · simp only [Outcome.ok.injEq, true_and] at flushed
      rw [← flushed]
      exact empty
    · simp only [reduceCtorEq] at flushed

/-- A head and a body for both of which there is room reach no sink yet. -/
private theorem write_both_of_room {head body : Bytes} {out : BufferedSink}
    (nonempty : head ≠ []) (small : head.length < capacity)
    (room : out.pending.length + (head ++ body).length ≤ capacity) :
    out.write head = .ok () { out with pending := out.pending ++ head } ∧
      ({ out with pending := out.pending ++ head } : BufferedSink).write body =
        .ok () { out with pending := out.pending ++ head ++ body } := by
  have some_head := List.length_pos_iff.mpr nonempty
  rw [List.length_append] at room
  constructor
  · exact write_of_room small (by omega)
  · refine write_of_room (by omega) ?_
    simp only [List.length_append]
    omega

/-- Writing a head and a body and flushing them either gets all of it out of the buffer, or fails
and adds some of it from the front on. That is all of it if it fits into the buffer, and at least
something if the head does. -/
theorem write_both_cases {head : Bytes} (body : Bytes) (out : BufferedSink) (nonempty : head ≠ [])
    (small : head.length < capacity) :
    let outcome := ((out.write head).andThen fun _ out => out.write body).andThen
      fun _ out => out.flush
    (∃ after, outcome = .ok () after ∧ after.committed = out.committed ++ (head ++ body) ∧
      after.pending = []) ∨
    (∃ failure after part, outcome = .error failure after ∧
      after.committed = out.committed ++ part ∧ part <+: head ++ body ∧
      (out.pending.length + (head ++ body).length ≤ capacity → part = head ++ body) ∧
      (out.pending.length + head.length ≤ capacity → part ≠ [])) := by
  intro outcome
  obtain ⟨part, front, committed, all⟩ := committed_write head out
  cases first : out.write head with
  | error failure middle =>
    rw [first] at committed
    refine .inr ⟨failure, middle, part, ?_, committed, ?_, ?_, ?_⟩
    · simp only [outcome, first, Outcome.andThen]
    · exact front.trans (List.prefix_append head body)
    · intro room
      rw [(write_both_of_room nonempty small room).1] at first
      contradiction
    · intro room
      rw [write_of_room small room] at first
      contradiction
  | ok value middle =>
    obtain rfl := all middle first
    rw [first, Outcome.state_ok] at committed
    obtain ⟨more, more_front, added, all⟩ := committed_write body middle
    cases second : middle.write body with
    | error failure last =>
      rw [second, Outcome.state_error, committed, List.append_assoc] at added
      refine .inr ⟨failure, last, part ++ more, ?_, added, ?_, ?_, ?_⟩
      · simp only [outcome, first, second, Outcome.andThen]
      · exact (List.prefix_append_right_inj part).mpr more_front
      · intro room
        obtain ⟨written, rest⟩ := write_both_of_room nonempty small room
        rw [first, Outcome.ok.injEq] at written
        rw [← written.2, second] at rest
        contradiction
      · intro _
        exact List.append_ne_nil_of_left_ne_nil nonempty more
    | ok value last =>
      obtain rfl := all last second
      rw [second, Outcome.state_ok, committed, List.append_assoc] at added
      have flushing := committed_flush last
      cases flushed : last.flush with
      | error failure final =>
        rw [flushed, Outcome.state_error, added] at flushing
        refine .inr ⟨failure, final, part ++ more, ?_, flushing, List.prefix_refl _, ?_, ?_⟩
        · simp only [outcome, first, second, flushed, Outcome.andThen]
        · exact fun _ => rfl
        · exact fun _ => List.append_ne_nil_of_left_ne_nil nonempty more
      | ok value final =>
        rw [flushed, Outcome.state_ok, added] at flushing
        refine .inl ⟨final, ?_, flushing, pending_of_flush_ok flushed⟩
        simp only [outcome, first, second, flushed, Outcome.andThen]

/-! In front of a reliable sink nothing fails. -/

/-- A reliable sink lets the buffer drain. -/
theorem drain_of_isReliable {buffered : BufferedSink} (reliable : buffered.sink.IsReliable) :
    ∃ after, drain buffered = .ok () after ∧ after.sink.IsReliable := by
  fun_induction drain buffered with
  | case1 buffered => exact ⟨buffered, rfl, reliable⟩
  | case2 buffered some_left sink answer =>
    obtain ⟨-, count, same⟩ := reliable.write some_left answer
    exact absurd (Except.ok.inj same).symm (Nat.succ_ne_zero count)
  | case3 buffered some_left count sink answer _ _ ih =>
    exact ih (reliable.write some_left answer).1
  | case4 buffered some_left sink answer =>
    obtain ⟨-, count, same⟩ := reliable.write some_left answer
    contradiction
  | case5 buffered some_left kind sink answer =>
    obtain ⟨-, count, same⟩ := reliable.write some_left answer
    contradiction

/-- A reliable sink takes whatever is written past the buffer. -/
theorem writeThrough_of_isReliable (bytes : Bytes) {sink : Sink} (reliable : sink.IsReliable) :
    ∃ after, writeThrough bytes sink = .ok () after ∧ after.IsReliable := by
  fun_induction writeThrough bytes sink with
  | case1 sink => exact ⟨sink, rfl, reliable⟩
  | case2 bytes sink some_left after answer =>
    obtain ⟨-, count, same⟩ := reliable.write some_left answer
    exact absurd (Except.ok.inj same).symm (Nat.succ_ne_zero count)
  | case3 bytes sink some_left count after answer _ _ ih =>
    exact ih (reliable.write some_left answer).1
  | case4 bytes sink some_left after answer =>
    obtain ⟨-, count, same⟩ := reliable.write some_left answer
    contradiction
  | case5 bytes sink some_left kind after answer =>
    obtain ⟨-, count, same⟩ := reliable.write some_left answer
    contradiction

/-- With a reliable sink a write succeeds, whether the bytes are buffered or not. -/
theorem write_of_isReliable (bytes : Bytes) {buffered : BufferedSink}
    (reliable : buffered.sink.IsReliable) :
    ∃ after, buffered.write bytes = .ok () after ∧ after.sink.IsReliable := by
  have room_made : ∃ middle,
      (if bytes.length > capacity - buffered.pending.length then drain buffered
        else .ok () buffered) = .ok () middle ∧ middle.sink.IsReliable := by
    split
    · exact drain_of_isReliable reliable
    · exact ⟨buffered, rfl, reliable⟩
  obtain ⟨middle, made, still_reliable⟩ := room_made
  unfold write
  extract_lets room collect
  split
  · exact ⟨_, rfl, reliable⟩
  · rw [made, Outcome.andThen]
    split
    · obtain ⟨sink, through, sink_reliable⟩ := writeThrough_of_isReliable bytes still_reliable
      rw [through]
      exact ⟨_, rfl, sink_reliable⟩
    · exact ⟨_, rfl, still_reliable⟩

/-- With a reliable sink a flush succeeds. -/
theorem flush_of_isReliable {buffered : BufferedSink} (reliable : buffered.sink.IsReliable) :
    ∃ after, buffered.flush = .ok () after ∧ after.sink.IsReliable := by
  obtain ⟨middle, drained, still_reliable⟩ := drain_of_isReliable reliable
  obtain ⟨sink, flushed, sink_reliable⟩ := still_reliable.flush
  refine ⟨{ middle with sink }, ?_, sink_reliable⟩
  simp only [flush, drained, Outcome.andThen, flushed]

end BufferedSink

namespace Transmitter

/-- All bytes that the sink has taken or will be given before any others. -/
def committed (transmitter : Transmitter) : Bytes :=
  transmitter.out.committed

/-- What becomes of a frame that is sent: all of it has left the buffer, or sending failed and some
of it was added from the front on. That is all of it if it fits into the buffer, and at least
something if its header does. -/
theorem send_cases {transmitter : Transmitter} (is_open : transmitter.isOpen = true)
    (command arg0 arg1 : UInt32) (payload : Bytes) :
    let frame := (Frame.make command arg0 arg1 payload).encode
    (∃ after, transmitter.send command arg0 arg1 payload = .ok () after ∧ after.isOpen = true ∧
      after.committed = transmitter.committed ++ frame ∧ after.out.pending = []) ∨
    (∃ failure after part, transmitter.send command arg0 arg1 payload = .error failure after ∧
      after.isOpen = true ∧ after.committed = transmitter.committed ++ part ∧ part <+: frame ∧
      (transmitter.out.pending.length + frame.length ≤ BufferedSink.capacity → part = frame) ∧
      (transmitter.out.pending.length + Header.size ≤ BufferedSink.capacity → part ≠ [])) := by
  extract_lets frame
  have small : (header command arg0 arg1 payload).length < BufferedSink.capacity := by
    rw [length_header]
    decide
  have nonempty : header command arg0 arg1 payload ≠ [] := by
    rw [← List.length_pos_iff, length_header]
    decide
  have whole := header_append command arg0 arg1 payload
  rcases BufferedSink.write_both_cases payload transmitter.out nonempty small with
    ⟨out, written, committed, gone⟩ | ⟨failure, out, part, written, committed, front, fits, some⟩
  · have sent : transmitter.send command arg0 arg1 payload =
        .ok () { transmitter with
          out
          metrics := transmitter.metrics.frameSent
            (UInt64.ofNat (Header.size + payload.length)) } := by
      simp only [send, is_open, Bool.not_true, Bool.false_eq_true, if_false]
      rw [written]
    rw [whole] at committed
    exact .inl ⟨_, sent, is_open, committed, gone⟩
  · have failed : transmitter.send command arg0 arg1 payload =
        .error failure { transmitter with out } := by
      simp only [send, is_open, Bool.not_true, Bool.false_eq_true, if_false]
      rw [written]
    rw [length_header] at some
    rw [whole] at front fits
    exact .inr ⟨failure, _, part, failed, is_open, committed, front, fits, some⟩

/-- A frame is counted once it has been sent, with its size. -/
theorem metrics_send (command arg0 arg1 : UInt32) (payload : Bytes) (transmitter : Transmitter) :
    let outcome := transmitter.send command arg0 arg1 payload
    outcome.state.metrics =
      if outcome.result.toBool then
        transmitter.metrics.frameSent (UInt64.ofNat (Header.size + payload.length))
      else transmitter.metrics := by
  simp only [send]
  split
  · rfl
  · split <;> rfl

/-- Sending counts no frame as received or dropped. -/
theorem incoming_send {command arg0 arg1 : UInt32} {payload : Bytes} {transmitter : Transmitter}
    {outcome : Outcome Transmitter Unit}
    (sent : transmitter.send command arg0 arg1 payload = outcome) :
    outcome.state.metrics.framesReceived = transmitter.metrics.framesReceived ∧
      outcome.state.metrics.framesDropped = transmitter.metrics.framesDropped := by
  subst sent
  rw [metrics_send]
  split <;> exact ⟨rfl, rfl⟩

/-- Sending at a closed transmitter does nothing. -/
theorem send_of_closed {transmitter : Transmitter} (closed : transmitter.isOpen = false)
    (command arg0 arg1 : UInt32) (payload : Bytes) :
    transmitter.send command arg0 arg1 payload = .error .connectionClosed transmitter := by
  simp [send, closed]

/-- A transmitter is no longer open after the close, also when closing fails. -/
theorem isOpen_close (transmitter : Transmitter) :
    transmitter.close.state.isOpen = false := by
  unfold close
  split
  · next closed => simpa using closed
  · rw [Outcome.state_mapState]

theorem metrics_close (transmitter : Transmitter) :
    transmitter.close.state.metrics = transmitter.metrics := by
  unfold close
  split
  · rfl
  · rw [Outcome.state_mapState]

/-- Closing loses nothing that was sent. -/
theorem committed_close (transmitter : Transmitter) :
    transmitter.close.state.committed = transmitter.committed := by
  unfold close
  split
  · rfl
  · rw [Outcome.state_mapState]
    exact (BufferedSink.committed_drain _).trans (BufferedSink.committed_flush _)

/-- If closing succeeds the sink has taken all of it. -/
theorem pending_of_close_ok {transmitter after : Transmitter}
    (is_open : transmitter.isOpen = true) (closed : transmitter.close = .ok () after) :
    after.out.pending = [] := by
  rw [close, is_open, Bool.not_true, if_neg Bool.false_ne_true] at closed
  cases flushed : transmitter.out.flush with
  | error failure out => simp [flushed, Outcome.mapState] at closed
  | ok value out =>
    have empty := BufferedSink.pending_of_flush_ok flushed
    simp only [flushed, Outcome.mapState, Outcome.ok.injEq, true_and] at closed
    rw [← closed, BufferedSink.release, BufferedSink.drain, dif_pos empty]
    exact empty

/-- A transmitter that is open, holds nothing back and sends to a reliable sink. -/
structure IsReliable (transmitter : Transmitter) : Prop where
  is_open : transmitter.isOpen = true
  gone : transmitter.out.pending = []
  sink : transmitter.out.sink.IsReliable

/-- A transmitter that is open and sends to a reliable sink, whatever it holds back. -/
structure CanSend (transmitter : Transmitter) : Prop where
  is_open : transmitter.isOpen = true
  sink : transmitter.out.sink.IsReliable

/-- When a frame has been sent nothing is held back any more. -/
theorem CanSend.send {transmitter : Transmitter} (can_send : transmitter.CanSend)
    (command arg0 arg1 : UInt32) (payload : Bytes) :
    ∃ after, transmitter.send command arg0 arg1 payload = .ok () after ∧ after.IsReliable ∧
      after.committed =
        transmitter.committed ++ (Frame.make command arg0 arg1 payload).encode := by
  obtain ⟨first, head, first_reliable⟩ := BufferedSink.write_of_isReliable
    (header command arg0 arg1 payload) can_send.sink
  obtain ⟨second, body, second_reliable⟩ :=
    BufferedSink.write_of_isReliable payload first_reliable
  obtain ⟨out, flushed, out_reliable⟩ := BufferedSink.flush_of_isReliable second_reliable
  have sent : transmitter.send command arg0 arg1 payload =
      .ok () { transmitter with
        out
        metrics := transmitter.metrics.frameSent
          (UInt64.ofNat (Header.size + payload.length)) } := by
    simp only [Transmitter.send, can_send.is_open, Bool.not_true, Bool.false_eq_true, if_false,
      head, body, flushed, Outcome.andThen]
  rcases send_cases can_send.is_open command arg0 arg1 payload with
    ⟨after, same, still_open, committed, gone⟩ | ⟨_, _, _, failed, -⟩
  · refine ⟨after, same, ⟨still_open, gone, ?_⟩, committed⟩
    rw [sent, Outcome.ok.injEq] at same
    rw [← same.2]
    exact out_reliable
  · rw [sent] at failed
    contradiction

/-- What a reliable transmitter sends reaches the sink. -/
theorem IsReliable.send {transmitter : Transmitter} (reliable : transmitter.IsReliable)
    (command arg0 arg1 : UInt32) (payload : Bytes) :
    ∃ after, transmitter.send command arg0 arg1 payload = .ok () after ∧ after.IsReliable ∧
      after.out.sink.accepted =
        transmitter.out.sink.accepted ++ (Frame.make command arg0 arg1 payload).encode := by
  obtain ⟨after, sent, still_reliable, committed⟩ :=
    CanSend.send ⟨reliable.is_open, reliable.sink⟩ command arg0 arg1 payload
  refine ⟨after, sent, still_reliable, ?_⟩
  simpa only [Transmitter.committed, BufferedSink.committed, still_reliable.gone, reliable.gone,
    List.append_nil] using committed

end Transmitter
end DebugBridge

import DebugBridge.Proofs.Dispatch.Board
import DebugBridge.Proofs.Wire.Output
import DebugBridge.Session.Stream

/-!
# What a stream sends

A user writes and flushes as often as it likes and may repeat what failed. Each call that sends
puts one frame on its way, and if that fails the bytes stay collected for the next attempt. But then
a frame may already be in the buffer of the connection and go out as well, so a failure can make
bytes arrive twice. It does not exactly if no failed call left anything behind.
-/

namespace DebugBridge.Endpoint

/-- All bytes that the sink has taken or will be given before any others. -/
def committed (endpoint : Endpoint) : Bytes :=
  endpoint.channel.transmitter.committed

/-- The frame that carries what is collected. -/
def collectedFrame (endpoint : Endpoint) : Frame :=
  .make Command.write endpoint.stream.localId endpoint.stream.remoteId endpoint.stream.outgoing

/-- The stream with other bytes collected. -/
def withOutgoing (bytes : Bytes) (endpoint : Endpoint) : Endpoint :=
  { endpoint with stream.outgoing := bytes }

/-- The stream takes writes and the connection takes frames. -/
structure IsWritable (endpoint : Endpoint) : Prop where
  running : endpoint.stream.closed = false
  live : endpoint.isLive = true
  is_open : endpoint.channel.transmitter.isOpen = true
  nonempty : 0 < endpoint.stream.maxPayload
  fits_word : endpoint.stream.maxPayload < UInt32.size
  bounded : endpoint.stream.outgoing.length ≤ endpoint.stream.maxPayload

variable {endpoint : Endpoint}

/-- A stream stays writable whatever is collected, as long as it fits into a frame. -/
theorem IsWritable.withOutgoing {bytes : Bytes} (writable : endpoint.IsWritable)
    (bounded : bytes.length ≤ endpoint.stream.maxPayload) :
    (endpoint.withOutgoing bytes).IsWritable :=
  { writable with bounded }

/-- A writable stream refuses no write. -/
theorem IsWritable.refusal?_eq_none (writable : endpoint.IsWritable) :
    endpoint.refusal? = none := by
  simp [refusal?, writable.running, writable.live]

/-- What is sent with success is no longer collected, and acknowledgements that wait are thrown
away. -/
theorem sendCollected_of_ok {after : Transmitter} (live : endpoint.isLive = true)
    (some_collected : endpoint.stream.outgoing ≠ [])
    (sent : endpoint.channel.transmitter.send Command.write endpoint.stream.localId
      endpoint.stream.remoteId endpoint.stream.outgoing = .ok () after) :
    endpoint.sendCollected = .ok () {
      stream := { endpoint.stream with outgoing := [] }
      channel := { endpoint.channel with transmitter := after }.discard endpoint.stream.localId
        Command.okay } := by
  simp only [sendCollected, List.isEmpty_eq_false_iff.mpr some_collected, live,
    Bool.false_eq_true, if_false, Bool.not_true, send, Channel.send, Transmitter.sendWrite, sent,
    Outcome.mapState, Outcome.andThen]

/-- What fails to be sent stays collected. -/
theorem sendCollected_of_error {failure : Failure} {after : Transmitter}
    (live : endpoint.isLive = true) (some_collected : endpoint.stream.outgoing ≠ [])
    (failed : endpoint.channel.transmitter.send Command.write endpoint.stream.localId
      endpoint.stream.remoteId endpoint.stream.outgoing = .error failure after) :
    endpoint.sendCollected =
      .error failure { endpoint with channel.transmitter := after } := by
  simp only [sendCollected, List.isEmpty_eq_false_iff.mpr some_collected, live,
    Bool.false_eq_true, if_false, Bool.not_true, send, Channel.send, Transmitter.sendWrite, failed,
    Outcome.mapState, Outcome.andThen]

/-- Sending what is collected either gets its frame out of the buffer, or fails and adds some of
it from the front on. -/
theorem sendCollected_cases (writable : endpoint.IsWritable)
    (some_collected : endpoint.stream.outgoing ≠ []) :
    (∃ after, endpoint.sendCollected = .ok () after ∧ after.IsWritable ∧
      after.stream = { endpoint.stream with outgoing := [] } ∧
      after.committed = endpoint.committed ++ endpoint.collectedFrame.encode ∧
      after.channel.transmitter.out.pending = []) ∨
    (∃ failure after part, endpoint.sendCollected = .error failure after ∧ after.IsWritable ∧
      after.stream = endpoint.stream ∧ after.committed = endpoint.committed ++ part ∧
      part <+: endpoint.collectedFrame.encode ∧
      (endpoint.channel.transmitter.out.pending.length + endpoint.collectedFrame.encode.length ≤
        BufferedSink.capacity → part = endpoint.collectedFrame.encode) ∧
      (endpoint.channel.transmitter.out.pending.length + Header.size ≤ BufferedSink.capacity →
        part ≠ [])) := by
  rcases Transmitter.send_cases writable.is_open Command.write endpoint.stream.localId
      endpoint.stream.remoteId endpoint.stream.outgoing with
    ⟨transmitter, sent, is_open, committed, gone⟩ |
      ⟨failure, transmitter, part, failed, is_open, rest⟩
  · refine .inl ⟨_, sendCollected_of_ok writable.live some_collected sent, ?_, rfl, committed, gone⟩
    refine ⟨writable.running, ?_, is_open, writable.nonempty, writable.fits_word, Nat.zero_le _⟩
    simpa [isLive, Channel.isLive, Channel.discard, Channel.onBoard] using writable.live
  · have same := sendCollected_of_error writable.live some_collected failed
    exact .inr ⟨failure, _, part, same, { writable with is_open }, rfl, rest⟩

/-- What the user of a stream calls to write on it. -/
inductive Call where
  | write (bytes : Bytes)
  | flush

/-- Makes a call. The value is what the call says it accepted. -/
def perform (call : Call) (endpoint : Endpoint) : Outcome Endpoint Bytes :=
  match call with
  | .write bytes => (endpoint.write bytes).map bytes.take
  | .flush => endpoint.flush.map fun _ => []

/-- A call that was made. -/
structure Attempt where
  before : Endpoint
  result : Except Failure Bytes
  after : Endpoint

namespace Attempt

/-- The bytes that the call said it accepted. -/
def accepted (attempt : Attempt) : Bytes :=
  attempt.result.toOption.getD []

/-- Whether the call failed. -/
def failed (attempt : Attempt) : Bool :=
  !attempt.result.toBool

/-- A call that failed has left nothing behind: no bytes are collected that were not before, and
nothing more is on its way out. -/
def IsHarmless (attempt : Attempt) : Prop :=
  attempt.failed = true →
    attempt.after.stream = attempt.before.stream ∧
      attempt.after.committed = attempt.before.committed

/-- A call that failed has put a part of its frame on the way out. -/
def IsTorn (attempt : Attempt) : Prop :=
  attempt.failed = true ∧ attempt.after.committed ≠ attempt.before.committed ∧
    attempt.after.committed ≠ attempt.before.committed ++ attempt.after.collectedFrame.encode

end Attempt

/-- A call as it is made now. -/
def attempt (call : Call) (endpoint : Endpoint) : Attempt :=
  ⟨endpoint, (endpoint.perform call).result, (endpoint.perform call).state⟩

/-- Calls one after the other, whether they fail or not. -/
def attempts : List Call → Endpoint → List Attempt
  | [], _ => []
  | call :: calls, endpoint => endpoint.attempt call :: attempts calls (endpoint.attempt call).after

/-- The stream after calls. -/
def afterCalls (calls : List Call) (endpoint : Endpoint) : Endpoint :=
  calls.foldl (fun endpoint call => (endpoint.attempt call).after) endpoint

/-- A call moves bytes to what is collected. It leaves it at that or sends what is collected. -/
theorem perform_eq (writable : endpoint.IsWritable) (call : Call) :
    ∃ taken, (endpoint.stream.outgoing ++ taken).length ≤ endpoint.stream.maxPayload ∧
      let collected := endpoint.withOutgoing (endpoint.stream.outgoing ++ taken)
      (endpoint.perform call = .ok taken collected ∧
        (call = .flush → collected.stream.outgoing = [])) ∨
      (collected.stream.outgoing ≠ [] ∧
        endpoint.perform call =
          (collected.sendCollected.mapFailure Failure.asIo).map fun _ => taken) := by
  have bounded := writable.bounded
  cases call with
  | flush =>
    refine ⟨[], by simpa using bounded, ?_⟩
    have same : endpoint.withOutgoing (endpoint.stream.outgoing ++ []) = endpoint := by
      rw [List.append_nil]
      rfl
    rw [same]
    by_cases empty : endpoint.stream.outgoing = []
    · refine .inl ⟨?_, fun _ => empty⟩
      simp [perform, flush, writable.refusal?_eq_none, sendCollected, empty, Outcome.mapFailure,
        Outcome.map]
    · refine .inr ⟨empty, ?_⟩
      simp only [perform, flush, writable.refusal?_eq_none]
  | write bytes =>
    let room := endpoint.stream.maxPayload - endpoint.stream.outgoing.length
    refine ⟨bytes.take (min room bytes.length), ?_, ?_⟩
    · simp only [List.length_append, List.length_take]
      omega
    · simp only [perform, write, writable.refusal?_eq_none]
      by_cases none_given : bytes = []
      · refine .inl ⟨?_, by simp⟩
        subst none_given
        simp [Outcome.map, withOutgoing]
      · have given : bytes.isEmpty = false := List.isEmpty_eq_false_iff.mpr none_given
        simp only [given, Bool.false_eq_true, if_false]
        split
        · next full =>
          refine .inr ⟨?_, ?_⟩
          · intro empty
            have nonempty := writable.nonempty
            rw [← full] at nonempty
            simp only [withOutgoing, room] at empty
            rw [empty] at nonempty
            contradiction
          · rw [Outcome.map_map]
            rfl
        · exact .inl ⟨rfl, by simp⟩

/-- What a call does: it moves bytes to what is collected; then it leaves it at that, or sends what
is collected, or fails to. -/
theorem perform_cases (writable : endpoint.IsWritable) (call : Call) :
    ∃ taken, (endpoint.stream.outgoing ++ taken).length ≤ endpoint.stream.maxPayload ∧
      let collected := endpoint.withOutgoing (endpoint.stream.outgoing ++ taken)
      (endpoint.perform call = .ok taken collected ∧
        (call = .flush → collected.stream.outgoing = [])) ∨
      (∃ after, collected.stream.outgoing ≠ [] ∧ endpoint.perform call = .ok taken after ∧
        after.IsWritable ∧ after.stream = { collected.stream with outgoing := [] } ∧
        after.committed = endpoint.committed ++ collected.collectedFrame.encode ∧
        after.channel.transmitter.out.pending = []) ∨
      (∃ failure after part, collected.stream.outgoing ≠ [] ∧
        endpoint.perform call = .error failure after ∧ after.IsWritable ∧
        after.stream = collected.stream ∧ after.committed = endpoint.committed ++ part ∧
        part <+: collected.collectedFrame.encode ∧
        (endpoint.channel.transmitter.out.pending.length + collected.collectedFrame.encode.length ≤
          BufferedSink.capacity → part = collected.collectedFrame.encode) ∧
        (endpoint.channel.transmitter.out.pending.length + Header.size ≤ BufferedSink.capacity →
          part ≠ [])) := by
  obtain ⟨taken, bounded, stays | ⟨some_collected, same⟩⟩ := perform_eq writable call
  · exact ⟨taken, bounded, .inl stays⟩
  · refine ⟨taken, bounded, .inr ?_⟩
    rcases sendCollected_cases (writable.withOutgoing bounded) some_collected with
      ⟨after, sent, rest⟩ | ⟨failure, after, part, failed, rest⟩
    · rw [sent] at same
      exact .inl ⟨after, some_collected, same, rest⟩
    · rw [failed] at same
      exact .inr ⟨failure.asIo, after, part, some_collected, same, rest⟩

/-- Calls leave the stream writable. -/
theorem IsWritable.perform (writable : endpoint.IsWritable) (call : Call) :
    (endpoint.perform call).state.IsWritable := by
  obtain ⟨taken, bounded, ⟨same, -⟩ | ⟨after, -, same, after_writable, -⟩ |
    ⟨failure, after, part, -, same, after_writable, -⟩⟩ := perform_cases writable call
  · rw [same]
    exact writable.withOutgoing bounded
  · rw [same]
    exact after_writable
  · rw [same]
    exact after_writable

/-- Whether a frame carries data of a stream with these ids. -/
def isOwn (localId remoteId : UInt32) (frame : Frame) : Bool :=
  frame.command == Command.write && frame.arg0 == localId && frame.arg1 == remoteId

/-- What arrives for the stream: the payloads of its frames that the sink has as a whole. -/
def received (endpoint : Endpoint) : Bytes :=
  ((Frame.splitAll endpoint.channel.transmitter.out.sink.accepted).1.filter
    (isOwn endpoint.stream.localId endpoint.stream.remoteId)).flatMap (·.payload)

/-- The frame that carries what is collected is one of the stream. -/
theorem isOwn_collectedFrame (endpoint : Endpoint) :
    isOwn endpoint.stream.localId endpoint.stream.remoteId endpoint.collectedFrame = true := by
  simp [isOwn, collectedFrame, Frame.make]

/-- What a writable stream has collected fits into its frame, so the header tells the length. -/
theorem IsWritable.isExact_collectedFrame (writable : endpoint.IsWritable) :
    endpoint.collectedFrame.IsExact :=
  Frame.isExact_make _ _ _ (Nat.lt_of_le_of_lt writable.bounded writable.fits_word)

/-- Between two states of a stream frames of it were put on their way. In harmless calls these
carry what was collected before and accepted since, in order; other calls make them carry more. -/
def Balances (before after : Endpoint) (accepted : Bytes) (harmless : Prop) : Prop :=
  ∃ frames : List Frame,
    (∀ frame ∈ frames, frame.IsExact ∧
      isOwn before.stream.localId before.stream.remoteId frame = true) ∧
    after.committed = before.committed ++ frames.flatMap Frame.encode ∧
    (harmless ∧ before.stream.outgoing ++ accepted =
        frames.flatMap (·.payload) ++ after.stream.outgoing ∨
      ¬harmless ∧ (before.stream.outgoing ++ accepted).length <
        (frames.flatMap (·.payload) ++ after.stream.outgoing).length)

/-- Frames carry no less than what was collected and accepted, whether calls were harmless or not.
-/
theorem Balances.length_le {before after : Endpoint} {accepted : Bytes} {harmless : Prop}
    {frames : List Frame}
    (balance : harmless ∧ before.stream.outgoing ++ accepted =
        frames.flatMap (·.payload) ++ after.stream.outgoing ∨
      ¬harmless ∧ (before.stream.outgoing ++ accepted).length <
        (frames.flatMap (·.payload) ++ after.stream.outgoing).length) :
    (before.stream.outgoing ++ accepted).length ≤
      (frames.flatMap (·.payload) ++ after.stream.outgoing).length := by
  rcases balance with ⟨-, same⟩ | ⟨-, more⟩
  · exact Nat.le_of_eq (congrArg List.length same)
  · exact Nat.le_of_lt more

/-- Calls may follow each other. -/
theorem Balances.trans {before middle after : Endpoint} {first second : Bytes}
    {harmless harmlessToo : Prop} (localId : middle.stream.localId = before.stream.localId)
    (remoteId : middle.stream.remoteId = before.stream.remoteId)
    (earlier : Balances before middle first harmless)
    (later : Balances middle after second harmlessToo) :
    Balances before after (first ++ second) (harmless ∧ harmlessToo) := by
  obtain ⟨frames, own, committed, balance⟩ := earlier
  obtain ⟨more, ownToo, committedToo, balanceToo⟩ := later
  have least := length_le balance
  have leastToo := length_le balanceToo
  rw [localId, remoteId] at ownToo
  refine ⟨frames ++ more, ?_, ?_, ?_⟩
  · intro frame member
    rcases List.mem_append.mp member with member | member
    · exact own frame member
    · exact ownToo frame member
  · rw [committedToo, committed, List.append_assoc, List.flatMap_append]
  · simp only [List.flatMap_append, List.length_append] at *
    rcases balance with ⟨good, same⟩ | ⟨bad, more⟩
    · rcases balanceToo with ⟨goodToo, sameToo⟩ | ⟨badToo, more⟩
      · refine .inl ⟨⟨good, goodToo⟩, ?_⟩
        rw [← List.append_assoc, same, List.append_assoc, sameToo, List.append_assoc]
      · exact .inr ⟨fun both => badToo both.2, by omega⟩
    · exact .inr ⟨fun both => bad both.1, by omega⟩

section OneCall

variable {after : Endpoint} {taken : Bytes} {harmless : Prop}

/-- Bytes that are only collected may go out later. If they were not accepted they are too many. -/
theorem balances_of_collected
    (stream : after.stream = (endpoint.withOutgoing (endpoint.stream.outgoing ++ taken)).stream)
    (committed : after.committed = endpoint.committed) :
    (harmless → Balances endpoint after taken harmless) ∧
      (¬harmless → taken ≠ [] → Balances endpoint after [] harmless) := by
  have outgoing : after.stream.outgoing = endpoint.stream.outgoing ++ taken := by
    rw [stream]
    rfl
  constructor
  · intro good
    exact ⟨[], by simp, by simp [committed], .inl ⟨good, by simp [outgoing]⟩⟩
  · intro bad some_taken
    have some_bytes := List.length_pos_iff.mpr some_taken
    refine ⟨[], by simp, by simp [committed], .inr ⟨bad, ?_⟩⟩
    simp only [outgoing, List.append_nil, List.flatMap_nil, List.nil_append, List.length_append]
    omega

/-- A frame that was put on its way carries all that was collected. If that is still collected, it
will go out twice. -/
theorem balances_of_sent (writable : endpoint.IsWritable)
    (bounded : (endpoint.stream.outgoing ++ taken).length ≤ endpoint.stream.maxPayload)
    (some_collected : endpoint.stream.outgoing ++ taken ≠ [])
    (committed : after.committed = endpoint.committed ++
      (endpoint.withOutgoing (endpoint.stream.outgoing ++ taken)).collectedFrame.encode) :
    (harmless → after.stream.outgoing = [] → Balances endpoint after taken harmless) ∧
      (¬harmless → after.stream.outgoing = endpoint.stream.outgoing ++ taken →
        Balances endpoint after [] harmless) := by
  let collected := endpoint.withOutgoing (endpoint.stream.outgoing ++ taken)
  have own : ∀ frame ∈ [collected.collectedFrame], frame.IsExact ∧
      isOwn endpoint.stream.localId endpoint.stream.remoteId frame = true := by
    intro frame member
    rw [List.mem_singleton.mp member]
    exact ⟨(writable.withOutgoing bounded).isExact_collectedFrame, isOwn_collectedFrame collected⟩
  have added : after.committed =
      endpoint.committed ++ [collected.collectedFrame].flatMap Frame.encode := by
    rw [committed, List.flatMap_singleton]
  have payload : [collected.collectedFrame].flatMap (·.payload) =
      endpoint.stream.outgoing ++ taken := List.flatMap_singleton ..
  have some_bytes := List.length_pos_iff.mpr some_collected
  constructor
  · intro good empty
    refine ⟨[collected.collectedFrame], own, added, .inl ⟨good, ?_⟩⟩
    rw [payload, empty, List.append_nil]
  · intro bad again
    refine ⟨[collected.collectedFrame], own, added, .inr ⟨bad, ?_⟩⟩
    rw [payload, again]
    simp only [List.append_nil, List.length_append] at *
    omega

end OneCall

/-- One call that tears no frame. -/
theorem balances_attempt (writable : endpoint.IsWritable) {call : Call}
    (untorn : ¬(endpoint.attempt call).IsTorn) :
    Balances endpoint (endpoint.attempt call).after (endpoint.attempt call).accepted
      (endpoint.attempt call).IsHarmless := by
  obtain ⟨taken, bounded, ⟨same, -⟩ | ⟨after, some_collected, same, -, stream, committed, -⟩ |
    ⟨failure, after, part, some_collected, same, -, stream, committed, -⟩⟩ :=
    perform_cases writable call
  · simp only [attempt, same] at untorn ⊢
    apply (balances_of_collected rfl rfl).1
    intro failed
    contradiction
  · simp only [attempt, same] at untorn ⊢
    apply (balances_of_sent writable bounded some_collected committed).1
    · intro failed
      contradiction
    · exact congrArg Stream.outgoing stream
  · simp only [attempt, same] at untorn ⊢
    change Balances endpoint after [] (true = true → after.stream = endpoint.stream ∧
      after.committed = endpoint.committed)
    by_cases kept : after.committed = endpoint.committed
    · by_cases none_taken : taken = []
      · subst none_taken
        refine (balances_of_collected stream kept).1 fun _ => ⟨?_, kept⟩
        rw [stream, List.append_nil]
        rfl
      · refine (balances_of_collected stream kept).2 ?_ none_taken
        intro good
        have grown := congrArg Stream.outgoing (stream.symm.trans (good rfl).1)
        exact none_taken (List.append_right_eq_self.mp grown)
    · have whole : after.committed = endpoint.committed ++ after.collectedFrame.encode := by
        by_cases whole : after.committed = endpoint.committed ++ after.collectedFrame.encode
        · exact whole
        · exact absurd ⟨rfl, kept, whole⟩ untorn
      simp only [collectedFrame, stream] at whole
      apply (balances_of_sent writable bounded some_collected whole).2
      · intro good
        exact kept (good rfl).2
      · exact congrArg Stream.outgoing stream

/-- Calls change nothing about a stream but what is collected. -/
theorem stream_attempt (writable : endpoint.IsWritable) (call : Call) :
    ∃ bytes, (endpoint.attempt call).after.stream = (endpoint.withOutgoing bytes).stream := by
  obtain ⟨taken, -, ⟨same, -⟩ | ⟨after, -, same, -, stream, -⟩ |
    ⟨failure, after, part, -, same, -, stream, -⟩⟩ := perform_cases writable call
  · exact ⟨_, by simp only [attempt, same, Outcome.state_ok]; rfl⟩
  · exact ⟨_, by simp only [attempt, same, Outcome.state_ok]; exact stream⟩
  · exact ⟨_, by simp only [attempt, same, Outcome.state_error]; exact stream⟩

/-- Calls of which none is torn balance, by one step for each of them. -/
theorem balances_attempts (writable : endpoint.IsWritable) {calls : List Call}
    (untorn : ∀ attempt ∈ endpoint.attempts calls, ¬attempt.IsTorn) :
    Balances endpoint (endpoint.afterCalls calls)
      ((endpoint.attempts calls).flatMap Attempt.accepted)
      (∀ attempt ∈ endpoint.attempts calls, attempt.IsHarmless) := by
  induction calls generalizing endpoint with
  | nil =>
    refine ⟨[], by simp, by simp [afterCalls], .inl ⟨by simp [attempts], ?_⟩⟩
    exact List.append_nil _
  | cons call calls ih =>
    have first := balances_attempt writable (untorn _ List.mem_cons_self)
    have rest := ih (writable.perform call) fun attempt member =>
      untorn attempt (List.mem_cons_of_mem _ member)
    obtain ⟨bytes, stream⟩ := stream_attempt writable call
    have both := first.trans (by rw [stream]; rfl) (by rw [stream]; rfl) rest
    rw [attempts, List.flatMap_cons]
    simp only [List.forall_mem_cons]
    exact both

/-- How a stream stands after calls that began at `start`: nothing about it has changed but what is
collected, and once nothing is collected the buffer is empty, unless nothing was sent. -/
structure Follows (start endpoint : Endpoint) : Prop where
  writable : endpoint.IsWritable
  stream : ∃ bytes, endpoint.stream = (start.withOutgoing bytes).stream
  settled : endpoint.stream.outgoing = [] →
    endpoint.channel.transmitter.out.pending = [] ∨
      endpoint.channel.transmitter.out = start.channel.transmitter.out

/-- A stream follows its start after one more call. -/
theorem Follows.attempt {start : Endpoint} (follows : Follows start endpoint) (call : Call) :
    Follows start (endpoint.attempt call).after where
  writable := follows.writable.perform call
  stream := by
    obtain ⟨before, same⟩ := follows.stream
    obtain ⟨bytes, stream⟩ := stream_attempt follows.writable call
    refine ⟨bytes, ?_⟩
    rw [stream, withOutgoing, same]
    rfl
  settled := by
    intro empty
    obtain ⟨taken, -, ⟨same, -⟩ | ⟨after, -, same, -, -, -, gone⟩ |
      ⟨failure, after, part, some_collected, same, -, stream, -⟩⟩ :=
      perform_cases follows.writable call
    · simp only [Endpoint.attempt, same, Outcome.state_ok] at empty ⊢
      exact follows.settled (List.append_eq_nil_iff.mp empty).1
    · simp only [Endpoint.attempt, same, Outcome.state_ok]
      exact .inl gone
    · simp only [Endpoint.attempt, same, Outcome.state_error, stream] at empty
      exact absurd empty some_collected

/-- A stream follows its start after any calls. -/
theorem Follows.afterCalls {start : Endpoint} (follows : Follows start endpoint)
    (calls : List Call) : Follows start (endpoint.afterCalls calls) := by
  induction calls generalizing endpoint with
  | nil => exact follows
  | cons call calls ih => exact ih (follows.attempt call)

/-- From an empty buffer on every failure leaves something behind. -/
theorem not_failed_of_isHarmless (writable : endpoint.IsWritable) {call : Call}
    (empty : endpoint.channel.transmitter.out.pending = [])
    (harmless : (endpoint.attempt call).IsHarmless) :
    (endpoint.attempt call).failed = false ∧
      (endpoint.attempt call).after.channel.transmitter.out.pending = [] := by
  obtain ⟨taken, -, ⟨same, -⟩ | ⟨after, -, same, -, -, -, gone⟩ |
    ⟨failure, after, part, -, same, -, -, committed, -, -, nonempty⟩⟩ := perform_cases writable call
  · simp only [attempt, same]
    exact ⟨rfl, empty⟩
  · simp only [attempt, same]
    exact ⟨rfl, gone⟩
  · simp only [attempt, same] at harmless
    have nothing := committed.symm.trans (harmless rfl).2
    rw [empty] at nonempty
    exact absurd (List.append_right_eq_self.mp nothing) (nonempty (by decide))

/-- If nothing is buffered at first and all calls are harmless, none of them has failed. -/
theorem none_failed_of_isHarmless (writable : endpoint.IsWritable) {calls : List Call}
    (empty : endpoint.channel.transmitter.out.pending = [])
    (harmless : ∀ attempt ∈ endpoint.attempts calls, attempt.IsHarmless) :
    ∀ attempt ∈ endpoint.attempts calls, attempt.failed = false := by
  induction calls generalizing endpoint with
  | nil => simp [attempts]
  | cons call calls ih =>
    rw [attempts, List.forall_mem_cons] at harmless ⊢
    obtain ⟨succeeded, empty⟩ := not_failed_of_isHarmless writable empty harmless.1
    exact ⟨succeeded, ih (writable.perform call) empty harmless.2⟩

/-- A frame is torn only if the buffer had no room for it. -/
theorem capacity_lt_of_isTorn (writable : endpoint.IsWritable) {call : Call}
    (torn : (endpoint.attempt call).IsTorn) :
    BufferedSink.capacity < endpoint.channel.transmitter.out.pending.length +
      (Header.size + endpoint.stream.maxPayload) := by
  obtain ⟨failed, changed, partly⟩ := torn
  obtain ⟨taken, bounded, ⟨same, -⟩ | ⟨after, -, same, -⟩ |
    ⟨failure, after, part, -, same, -, stream, committed, -, fits, -⟩⟩ :=
    perform_cases writable call
  · simp only [attempt, same] at failed
    contradiction
  · simp only [attempt, same] at failed
    contradiction
  · simp only [attempt, same, Outcome.state_error] at partly
    apply Nat.lt_of_not_le
    intro room
    refine partly ?_
    rw [committed, collectedFrame, stream, fits ?_]
    · rfl
    · rw [Frame.length_encode]
      refine Nat.le_trans (Nat.add_le_add_left (Nat.add_le_add_left ?_ _) _) room
      exact bounded

/-- A call is torn only if its frame does not fit into the buffer of the connection. -/
theorem capacity_lt_of_torn_attempt (writable : endpoint.IsWritable) {calls : List Call} :
    ∀ attempt ∈ endpoint.attempts calls, attempt.IsTorn →
      BufferedSink.capacity < attempt.before.channel.transmitter.out.pending.length +
        (Header.size + endpoint.stream.maxPayload) := by
  induction calls generalizing endpoint with
  | nil => simp [attempts]
  | cons call calls ih =>
    rw [attempts, List.forall_mem_cons]
    refine ⟨capacity_lt_of_isTorn writable, ?_⟩
    obtain ⟨bytes, stream⟩ := stream_attempt writable call
    have rest := ih (writable.perform call)
    simp only [attempt] at stream
    rwa [stream] at rest

/-- When nothing of the stream is left in the buffer its frames have arrived. -/
theorem received_eq {earlier frames : List Frame}
    (others : ∀ frame ∈ earlier, frame.IsExact ∧
      isOwn endpoint.stream.localId endpoint.stream.remoteId frame = false)
    (own : ∀ frame ∈ frames, frame.IsExact ∧
      isOwn endpoint.stream.localId endpoint.stream.remoteId frame = true)
    (committed : endpoint.committed = earlier.flatMap Frame.encode ++ frames.flatMap Frame.encode)
    (settled : endpoint.channel.transmitter.out.pending = [] ∨ frames = []) :
    endpoint.received = frames.flatMap (·.payload) := by
  have none_own : ∀ some_earlier, some_earlier <+: earlier →
      some_earlier.filter (isOwn endpoint.stream.localId endpoint.stream.remoteId) = [] := by
    intro some_earlier front
    apply List.filter_eq_nil_iff.mpr
    intro frame member
    rw [(others frame (front.subset member)).2]
    exact Bool.false_ne_true
  change endpoint.channel.transmitter.out.sink.accepted ++
    endpoint.channel.transmitter.out.pending = _ at committed
  unfold received
  rcases settled with empty | rfl
  · rw [empty, List.append_nil, ← List.flatMap_append] at committed
    have exact : ∀ frame ∈ earlier ++ frames, frame.IsExact := by
      intro frame member
      rcases List.mem_append.mp member with member | member
      · exact (others frame member).1
      · exact (own frame member).1
    rw [committed, Frame.splitAll_flatMap_encode exact, List.filter_append,
      none_own earlier (List.prefix_refl _), List.nil_append,
      List.filter_eq_self.mpr fun frame member => (own frame member).2]
  · rw [List.flatMap_nil, List.append_nil] at committed
    have come := Frame.splitAll_prefix (fun frame member => (others frame member).1)
      ⟨_, committed⟩
    rw [none_own _ come]

/-- A flush that succeeds, as an attempt. -/
theorem attempt_flush {after : Endpoint} (flushed : endpoint.flush = .ok () after) :
    endpoint.attempt .flush = ⟨endpoint, .ok [], after⟩ := by
  simp only [attempt, perform, flushed, Outcome.map, Outcome.result, Outcome.state_ok]

/-- Nothing is collected after a flush that succeeds. -/
theorem outgoing_of_flush {after : Endpoint} (writable : endpoint.IsWritable)
    (flushed : endpoint.flush = .ok () after) : after.stream.outgoing = [] := by
  have whole : endpoint.perform .flush = .ok [] after := by
    simp only [perform, flushed, Outcome.map]
  obtain ⟨taken, -, ⟨same, collected⟩ | ⟨last, -, same, -, stream, -⟩ |
    ⟨failure, last, part, -, same, -⟩⟩ := perform_cases writable .flush
  · rw [whole, Outcome.ok.injEq] at same
    rw [same.2]
    exact collected rfl
  · rw [whole, Outcome.ok.injEq] at same
    rw [same.2, stream]
  · rw [whole] at same
    contradiction

/-- A harmless call is not torn. -/
theorem Attempt.IsHarmless.not_isTorn {attempt : Attempt} (harmless : attempt.IsHarmless) :
    ¬attempt.IsTorn :=
  fun torn => torn.2.1 (harmless torn.1).2

/-- After a successful flush what was accepted has arrived, and more than that if some call was not
harmless. -/
theorem received_of_not_isTorn {start last : Endpoint} {earlier : List Frame} {calls : List Call}
    (writable : start.IsWritable) (nothing : start.stream.outgoing = [])
    (committed : start.committed = earlier.flatMap Frame.encode)
    (others : ∀ frame ∈ earlier, frame.IsExact ∧
      isOwn start.stream.localId start.stream.remoteId frame = false)
    (flushed : (start.afterCalls calls).flush = .ok () last)
    (untorn : ∀ attempt ∈ start.attempts calls, ¬attempt.IsTorn) :
    (∀ attempt ∈ start.attempts calls, attempt.IsHarmless) ∧
        last.received = (start.attempts calls).flatMap Attempt.accepted ∨
      (¬∀ attempt ∈ start.attempts calls, attempt.IsHarmless) ∧
        ((start.attempts calls).flatMap Attempt.accepted).length < last.received.length := by
  have began : Follows start start :=
    ⟨writable, ⟨start.stream.outgoing, rfl⟩, fun _ => .inr rfl⟩
  have middle := began.afterCalls calls
  have flush := attempt_flush flushed
  have empty := outgoing_of_flush middle.writable flushed
  have last_untorn : ¬((start.afterCalls calls).attempt .flush).IsTorn := by
    rw [flush]
    exact fun torn => Bool.false_ne_true torn.1
  have final := balances_attempt middle.writable last_untorn
  have follows := middle.attempt .flush
  rw [flush] at final follows
  obtain ⟨bytes, stream⟩ := middle.stream
  obtain ⟨frames, own, added, balance⟩ := (balances_attempts writable untorn).trans
    (by rw [stream]; rfl) (by rw [stream]; rfl) final
  have arrived : last.received = frames.flatMap (·.payload) := by
    obtain ⟨bytes, stream⟩ := follows.stream
    refine received_eq (by rwa [stream]) (by rwa [stream]) (committed ▸ added) ?_
    refine (follows.settled empty).imp id fun same => ?_
    -- The buffer and its sink are as they were, so nothing was put on its way.
    have nothing_new : last.committed = start.committed := congrArg BufferedSink.committed same
    cases frames with
    | nil => rfl
    | cons frame frames =>
      rw [nothing_new] at added
      have none_there := List.append_right_eq_self.mp added.symm
      have bytes := congrArg List.length none_there
      rw [List.flatMap_cons, List.length_append, Frame.length_encode, Header.size] at bytes
      simp only [List.length_nil] at bytes
      omega
  have none_accepted : (⟨start.afterCalls calls, .ok [], last⟩ : Attempt).accepted = [] := rfl
  simp only [nothing, empty, none_accepted, List.append_nil, List.nil_append,
    ← arrived] at balance
  rcases balance with ⟨⟨harmless, -⟩, same⟩ | ⟨harmful, more⟩
  · exact .inl ⟨harmless, same.symm⟩
  · refine .inr ⟨fun harmless => harmful ⟨harmless, fun failed => ?_⟩, more⟩
    contradiction

/-- **Output, once or more than once.** A stream was opened and any calls are made on it, whatever
the sink answers; then a flush succeeds. If every call that failed left nothing behind, exactly the
accepted bytes have arrived. If no frame was torn this is the only way: when some failed call did
leave something behind, other bytes have arrived. A frame is torn only if the buffer of the
connection had no room for it. If that buffer was empty when the stream was opened, leaving nothing
behind means not to fail. -/
theorem output_sent_once_iff {start last : Endpoint} {earlier : List Frame}
    {localId remoteId maxPayload : UInt32} (calls : List Call)
    (opened : start.stream = .opened localId remoteId maxPayload) (live : start.isLive = true)
    (is_open : start.channel.transmitter.isOpen = true)
    (committed : start.committed = earlier.flatMap Frame.encode)
    (others : ∀ frame ∈ earlier, frame.IsExact ∧ isOwn localId remoteId frame = false)
    (flushed : (start.afterCalls calls).flush = .ok () last) :
    let log := start.attempts calls
    ((∀ attempt ∈ log, attempt.IsHarmless) → last.received = log.flatMap Attempt.accepted) ∧
    ((∀ attempt ∈ log, ¬attempt.IsTorn) → (last.received = log.flatMap Attempt.accepted ↔
      ∀ attempt ∈ log, attempt.IsHarmless)) ∧
    (∀ attempt ∈ log, attempt.IsTorn →
      BufferedSink.capacity < attempt.before.channel.transmitter.out.pending.length +
        (Header.size + start.stream.maxPayload)) ∧
    (start.channel.transmitter.out.pending = [] → ((∀ attempt ∈ log, attempt.IsHarmless) ↔
      ∀ attempt ∈ log, attempt.failed = false)) := by
  intro log
  have writable : start.IsWritable := by
    have word := maxPayload.toNat_lt_size
    refine ⟨?_, live, is_open, ?_, ?_, ?_⟩ <;> rw [opened] <;> simp only [Stream.opened]
    · omega
    · exact Nat.max_lt.mpr ⟨word, by decide⟩
    · exact Nat.zero_le _
  have harmless_or := received_of_not_isTorn writable (by rw [opened]; rfl) committed
    (by rwa [opened]) flushed
  refine ⟨?_, fun untorn => ⟨?_, ?_⟩, capacity_lt_of_torn_attempt writable,
    fun empty => ⟨?_, ?_⟩⟩
  · intro harmless
    rcases harmless_or fun attempt member => (harmless attempt member).not_isTorn with
      ⟨-, same⟩ | ⟨harmful, -⟩
    · exact same
    · exact absurd harmless harmful
  · intro same
    rcases harmless_or untorn with ⟨harmless, -⟩ | ⟨-, more⟩
    · exact harmless
    · rw [same] at more
      exact absurd more (Nat.lt_irrefl _)
  · intro harmless
    rcases harmless_or untorn with ⟨-, same⟩ | ⟨harmful, -⟩
    · exact same
    · exact absurd harmless harmful
  · exact none_failed_of_isHarmless writable empty
  · intro succeeded attempt member failed
    rw [succeeded attempt member] at failed
    contradiction

/-- Two bytes reach a sink that takes one byte at a time. -/
theorem output_sent_once_short_writes :
    let start : Endpoint := {
      stream := .opened 1 9 4096
      channel := {
        queue := { board := ({} : Switchboard).listen 1, receiver := { source := [] } }
        transmitter := { out := { sink := { writes := [.atMost 1, .fail .interrupted] } } } } }
    let calls := [.write [104], .write [105], .flush]
    (start.afterCalls calls).flush.result = .ok () ∧
      (start.afterCalls calls).flush.state.received = [104, 105] := by
  intro start calls
  have flushed : (start.afterCalls calls).flush = .ok () (start.afterCalls calls).flush.state :=
    Outcome.eq_ok_of_toOption (by decide +kernel)
  have checked : (start.attempts calls).all (!·.failed) = true := by decide +kernel
  have accepted : (start.attempts calls).flatMap Attempt.accepted = [104, 105] := by
    decide +kernel
  obtain ⟨delivered, -, -, harmless_iff⟩ := @output_sent_once_iff start _ [] 1 9 4096 calls rfl rfl
    rfl rfl (by simp) flushed
  have none_failed : ∀ attempt ∈ start.attempts calls, attempt.failed = false := by
    intro attempt member
    simpa using List.all_eq_true.mp checked attempt member
  have received := delivered ((harmless_iff rfl).mpr none_failed)
  exact ⟨congrArg Outcome.result flushed, received.trans accepted⟩

/-- Two bytes reach a sink twice: the first flush fails once they are in the buffer, and the second
one sends them again. -/
theorem output_sent_twice :
    let start : Endpoint := {
      stream := .opened 1 9 4096
      channel := {
        queue := { board := ({} : Switchboard).listen 1, receiver := { source := [] } }
        transmitter := { out := { sink := { writes := [.fail .timedOut] } } } } }
    let calls := [.write [104, 105], .flush]
    (start.afterCalls calls).flush.result = .ok () ∧
      (start.attempts calls).flatMap Attempt.accepted = [104, 105] ∧
      (start.afterCalls calls).flush.state.received = [104, 105, 104, 105] := by
  intro start calls
  have flushed : (start.afterCalls calls).flush = .ok () (start.afterCalls calls).flush.state :=
    Outcome.eq_ok_of_toOption (by decide +kernel)
  exact ⟨congrArg Outcome.result flushed, by decide +kernel, by decide +kernel⟩

end DebugBridge.Endpoint

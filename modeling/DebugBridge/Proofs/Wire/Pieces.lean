import DebugBridge.Proofs.Wire.Requests

/-!
# Frames in whatever pieces their bytes come

Whatever the reads of a source bring, the bytes that they took are the frames handed out so far and
what the buffer holds. So the frames are those of the bytes that the source gives, and it makes no
difference to them how these bytes are cut, which failures stand between them and how often the
caller tries.
-/

namespace DebugBridge.Receiver

/-- Reading a frame once. -/
structure Attempt where
  before : Receiver
  /-- The reads that were made of the source. -/
  requests : List Request
  result : Except Failure Frame
  after : Receiver

namespace Attempt

/-- The bytes that were taken from the source. -/
def taken (attempt : Attempt) : Bytes :=
  attempt.requests.flatMap Request.got

/-- The frame that was handed out, if one was. -/
def frames (attempt : Attempt) : List Frame :=
  attempt.result.toOption.toList

end Attempt

/-- Reads a frame once and keeps a record of it. -/
def attempt (receiver : Receiver) : Attempt where
  before := receiver
  requests := receiver.requestFrame.1
  result := receiver.readFrame.result
  after := receiver.readFrame.state

/-- What holds of reading a frame follows from what holds of each read made for it. -/
theorem attempt_induction {motive : Attempt → Prop}
    (handed_out : ∀ {receiver : Receiver} {frame : Frame} {rest : Bytes},
      Frame.split? receiver.buffer = some (frame, rest) →
        motive ⟨receiver, [], .ok frame, { receiver with
          buffer := rest
          metrics := receiver.metrics.frameReceived
            (UInt64.ofNat Header.size + frame.payloadLength.toUInt64) }⟩)
    (failed : ∀ {receiver : Receiver} {failure : Failure},
      Frame.split? receiver.buffer = none → receiver.request.failure? = some failure →
        motive ⟨receiver, [receiver.request], .error failure, receiver.afterRequest⟩)
    (went_on : ∀ {receiver : Receiver},
      Frame.split? receiver.buffer = none → receiver.request.failure? = none →
        motive receiver.afterRequest.attempt →
        motive { receiver.afterRequest.attempt with
          before := receiver
          requests := receiver.request :: receiver.afterRequest.attempt.requests })
    (receiver : Receiver) : motive receiver.attempt := by
  have whole (receiver : Receiver) : receiver.attempt =
      ⟨receiver, receiver.requestFrame.1, receiver.requestFrame.2.result,
        receiver.requestFrame.2.state⟩ := by
    rw [requestFrame_snd, attempt]
  rw [whole]
  fun_induction requestFrame receiver with
  | case1 receiver frame rest found size => exact handed_out found
  | case2 receiver incomplete failure stopped => exact failed incomplete stopped
  | case3 receiver incomplete none_failed _ rest ih =>
    have longer := went_on incomplete none_failed
    rw [whole receiver.afterRequest] at longer
    exact longer ih

/-- A read is made only while no frame is there. It asks for at least one byte and for no more than
is ever asked for, and once a header is there it asks for nothing behind the frame. -/
structure Request.IsModest (request : Request) : Prop where
  incomplete : Frame.split? request.buffered = none
  some_wanted : 1 ≤ request.wanted
  bounded : request.wanted ≤ chunkSize
  inside : ∀ size, Frame.pendingSize? request.buffered = some size →
    request.buffered.length + request.wanted ≤ size

/-- A read made while no frame is in the buffer is modest. -/
theorem isModest_request {receiver : Receiver}
    (incomplete : Frame.split? receiver.buffer = none) : receiver.request.IsModest := by
  have short := Frame.length_lt_of_split?_eq_none incomplete
  unfold Frame.expectedSize at short
  refine ⟨incomplete, ?_, ?_, ?_⟩ <;> simp only [request, wanted, chunkSize]
  · split <;> omega
  · split <;> omega
  · intro size announced
    simp only [announced, Option.getD_some] at short ⊢
    omega

/-- What a read brings is taken off the front of what the source gives. -/
theorem content_afterRequest (receiver : Receiver) :
    receiver.source.content = receiver.request.got ++ receiver.afterRequest.source.content := by
  unfold Request.got request afterRequest
  cases read : receiver.source.read receiver.wanted with
  | mk answer source =>
    cases answer with
    | ok got => exact Source.content_read read
    | error kind => exact (Source.content_read_error read).symm

/-- A read that is a failure brings no bytes. -/
theorem Request.got_of_failure {request : Request} {failure : Failure}
    (failed : request.failure? = some failure) : request.got = [] := by
  obtain ⟨buffered, wanted, answer⟩ := request
  cases answer with
  | error kind => rfl
  | ok got =>
    cases got with
    | nil => rfl
    | cons byte more => contradiction

/-- What the reads made for a frame come to. -/
structure Attempt.Accounts (attempt : Attempt) : Prop where
  content : attempt.before.source.content = attempt.taken ++ attempt.after.source.content
  buffer : attempt.before.buffer ++ attempt.taken =
    attempt.frames.flatMap Frame.encode ++ attempt.after.buffer
  number : attempt.after.metrics.framesReceived =
    attempt.before.metrics.framesReceived + UInt64.ofNat attempt.frames.length
  size : attempt.after.metrics.bytesReceived = attempt.before.metrics.bytesReceived +
    UInt64.ofNat (attempt.frames.flatMap Frame.encode).length
  modest : ∀ request ∈ attempt.requests, request.IsModest
  buffered : ∀ earlier request later, attempt.requests = earlier ++ request :: later →
    request.buffered = attempt.before.buffer ++ earlier.flatMap Request.got
  none_failed : ∀ frame, attempt.result = .ok frame →
    ∀ request ∈ attempt.requests, request.failure? = none
  last_failed : ∀ failure, attempt.result = .error failure → ∃ earlier last,
    attempt.requests = earlier ++ [last] ∧ (∀ request ∈ earlier, request.failure? = none) ∧
      last.failure? = some failure ∧ last.buffered = attempt.after.buffer

namespace Attempt.Accounts

/-- The accounts of an attempt that finds a frame in the buffer and makes no read at all. -/
theorem handed_out {receiver : Receiver} {frame : Frame} {rest : Bytes}
    (found : Frame.split? receiver.buffer = some (frame, rest)) :
    Accounts ⟨receiver, [], .ok frame, { receiver with
      buffer := rest
      metrics := receiver.metrics.frameReceived
        (UInt64.ofNat Header.size + frame.payloadLength.toUInt64) }⟩ where
  content := rfl
  buffer := by
    rw [Frame.eq_encode_append_of_split? found]
    simp [taken, frames, Except.toOption]
  number := rfl
  size := by
    have exact : frame.payloadLength.toNat = frame.payload.length :=
      Frame.isExact_of_split? found
    have size : UInt64.ofNat Header.size + frame.payloadLength.toUInt64 =
        UInt64.ofNat frame.encode.length := by
      rw [Frame.length_encode, ← exact]
      apply UInt64.toNat_inj.mp
      simp
    simp [frames, Except.toOption, Metrics.frameReceived, size]
  modest := by simp
  buffered := by simp
  none_failed := by simp
  last_failed := by simp

/-- The accounts of an attempt whose first read fails. -/
theorem failed {receiver : Receiver} {failure : Failure}
    (incomplete : Frame.split? receiver.buffer = none)
    (stopped : receiver.request.failure? = some failure) :
    Accounts ⟨receiver, [receiver.request], .error failure, receiver.afterRequest⟩ where
  content := by
    rw [taken, List.flatMap_singleton]
    exact receiver.content_afterRequest
  buffer := by
    rw [taken, List.flatMap_singleton]
    rfl
  number := (UInt64.add_zero _).symm
  size := (UInt64.add_zero _).symm
  modest := by
    intro request member
    rw [List.mem_singleton.mp member]
    exact isModest_request incomplete
  buffered := by
    intro earlier request later same
    cases earlier with
    | nil =>
      cases same
      exact (List.append_nil _).symm
    | cons first earlier => simp at same
  none_failed := by simp
  last_failed := by
    intro _ same
    cases same
    refine ⟨[], receiver.request, rfl, by simp, stopped, ?_⟩
    rw [afterRequest, Request.got_of_failure stopped, List.append_nil]
    rfl

/-- The accounts of an attempt that goes on after its first read, from the accounts of the rest. -/
theorem went_on {receiver : Receiver} (incomplete : Frame.split? receiver.buffer = none)
    (none_failed : receiver.request.failure? = none)
    (accounts : receiver.afterRequest.attempt.Accounts) :
    Accounts { receiver.afterRequest.attempt with
      before := receiver
      requests := receiver.request :: receiver.afterRequest.attempt.requests } where
  content := by
    rw [receiver.content_afterRequest, taken, List.flatMap_cons, List.append_assoc]
    exact congrArg _ accounts.content
  buffer := by
    rw [taken, List.flatMap_cons, ← List.append_assoc]
    exact accounts.buffer
  number := accounts.number
  size := accounts.size
  modest := by
    rw [List.forall_mem_cons]
    exact ⟨isModest_request incomplete, accounts.modest⟩
  buffered := by
    intro earlier request later same
    cases earlier with
    | nil =>
      cases same
      exact (List.append_nil _).symm
    | cons first earlier =>
      rw [List.cons_append, List.cons.injEq] at same
      obtain ⟨rfl, same⟩ := same
      rw [List.flatMap_cons, ← List.append_assoc]
      exact accounts.buffered earlier request later same
  none_failed := by
    intro frame handed_out
    rw [List.forall_mem_cons]
    exact ⟨none_failed, accounts.none_failed frame handed_out⟩
  last_failed := by
    intro failure stopped
    obtain ⟨earlier, last, same, went_on, rest⟩ := accounts.last_failed failure stopped
    refine ⟨receiver.request :: earlier, last, congrArg (receiver.request :: ·) same, ?_, rest⟩
    rw [List.forall_mem_cons]
    exact ⟨none_failed, went_on⟩

end Attempt.Accounts

/-- Every attempt is accounted for, by the reads made for its frame one after the other. -/
theorem accounts_attempt (receiver : Receiver) : receiver.attempt.Accounts :=
  attempt_induction Attempt.Accounts.handed_out Attempt.Accounts.failed
    Attempt.Accounts.went_on receiver

/-- A failed attempt loses nothing, and its failure is that of its last read. -/
structure Attempt.IsLossless (attempt : Attempt) : Prop where
  /-- All that was received stays in the buffer. -/
  kept : ∀ failure, attempt.result = .error failure →
    attempt.after.buffer = attempt.before.buffer ++ attempt.taken
  /-- The bytes that reads bring are buffered before the next read. -/
  buffered : ∀ earlier request later, attempt.requests = earlier ++ request :: later →
    request.buffered = attempt.before.buffer ++ earlier.flatMap Request.got
  modest : ∀ request ∈ attempt.requests, request.IsModest
  truncated_iff : (∃ expected actual, attempt.result = .error (.truncatedFrame expected actual)) ↔
    ∃ request ∈ attempt.requests, request.answer = .ok []
  truncated : ∀ expected actual, attempt.result = .error (.truncatedFrame expected actual) →
    actual = attempt.after.buffer.length ∧ actual < expected
  failed_iff : ∀ kind, attempt.result = .error (.ofKind kind) ↔
    kind ≠ .interrupted ∧ ∃ request ∈ attempt.requests, request.answer = .error kind
  failures : ∀ failure, attempt.result = .error failure →
    (∃ expected actual, failure = .truncatedFrame expected actual) ∨
      ∃ kind, failure = .ofKind kind ∧ failure.isInterrupted = false

namespace Request

variable {request : Request}

/-- A read fails by bringing nothing, which tells how much was missing, or by an error other than an
interruption. -/
theorem failure?_cases {failure : Failure} (failed : request.failure? = some failure) :
    request.answer = .ok [] ∧ failure = .truncatedFrame (Frame.expectedSize request.buffered)
        request.buffered.length ∨
      ∃ kind, request.answer = .error kind ∧ kind ≠ .interrupted ∧ failure = .ofKind kind := by
  obtain ⟨buffered, wanted, answer⟩ := request
  cases answer with
  | error kind =>
    by_cases interrupted : kind = .interrupted
    · simp [failure?, interrupted] at failed
    · simp only [failure?, interrupted, if_false, Option.some.injEq] at failed
      exact .inr ⟨kind, rfl, interrupted, failed.symm⟩
  | ok got =>
    cases got with
    | nil => exact .inl ⟨rfl, (Option.some.inj failed).symm⟩
    | cons byte more => contradiction

end Request

namespace Attempt

variable {attempt : Attempt}

/-- A read that fails is the last one, and the attempt fails as that read does. -/
theorem Accounts.result_of_failed (accounts : attempt.Accounts) {request : Request}
    {failure : Failure} (member : request ∈ attempt.requests)
    (failed : request.failure? = some failure) : attempt.result = .error failure := by
  cases result : attempt.result with
  | ok frame =>
    rw [accounts.none_failed frame result request member] at failed
    contradiction
  | error reason =>
    obtain ⟨earlier, last, same, went_on, stopped, -⟩ := accounts.last_failed reason result
    rw [same, List.mem_append, List.mem_singleton] at member
    rcases member with member | rfl
    · rw [went_on request member] at failed
      contradiction
    · rw [stopped, Option.some.injEq] at failed
      rw [failed]

/-- A failed attempt has made the read that failed it, and has kept in the buffer what was there
then. -/
theorem Accounts.exists_failed (accounts : attempt.Accounts) {failure : Failure}
    (failed : attempt.result = .error failure) :
    ∃ request ∈ attempt.requests, request.failure? = some failure ∧
      request.buffered = attempt.after.buffer := by
  obtain ⟨earlier, last, same, -, stopped, buffered⟩ := accounts.last_failed failure failed
  exact ⟨last, by simp [same], stopped, buffered⟩

/-- So an attempt that is accounted for loses nothing when it fails. -/
theorem Accounts.isLossless (accounts : attempt.Accounts) : attempt.IsLossless where
  kept := by
    intro failure failed
    have buffer := accounts.buffer
    rw [frames, failed] at buffer
    exact buffer.symm
  buffered := accounts.buffered
  modest := accounts.modest
  truncated_iff := by
    constructor
    · rintro ⟨expected, actual, failed⟩
      obtain ⟨request, member, stopped, -⟩ := accounts.exists_failed failed
      rcases Request.failure?_cases stopped with ⟨ended, -⟩ | ⟨kind, -, -, other⟩
      · exact ⟨request, member, ended⟩
      · contradiction
    · rintro ⟨request, member, ended⟩
      have failed : request.failure? =
          some (.truncatedFrame (Frame.expectedSize request.buffered) request.buffered.length) := by
        rw [Request.failure?, ended]
      exact ⟨_, _, accounts.result_of_failed member failed⟩
  truncated := by
    intro expected actual failed
    obtain ⟨request, member, stopped, buffered⟩ := accounts.exists_failed failed
    rcases Request.failure?_cases stopped with ⟨-, same⟩ | ⟨kind, -, -, other⟩
    · rw [Failure.truncatedFrame.injEq] at same
      obtain ⟨rfl, rfl⟩ := same
      refine ⟨congrArg List.length buffered, ?_⟩
      exact Frame.length_lt_of_split?_eq_none (accounts.modest request member).incomplete
    · contradiction
  failed_iff := by
    intro kind
    constructor
    · intro failed
      obtain ⟨request, member, stopped, -⟩ := accounts.exists_failed failed
      rcases Request.failure?_cases stopped with ⟨-, other⟩ | ⟨same, answered, lasting, rest⟩
      · contradiction
      · cases rest
        exact ⟨lasting, request, member, answered⟩
    · rintro ⟨lasting, request, member, answered⟩
      refine accounts.result_of_failed member ?_
      simp only [Request.failure?, answered, lasting, if_false]
  failures := by
    intro failure failed
    obtain ⟨request, member, stopped, -⟩ := accounts.exists_failed failed
    rcases Request.failure?_cases stopped with ⟨-, same⟩ | ⟨kind, -, lasting, same⟩
    · exact .inl ⟨_, _, same⟩
    · refine .inr ⟨kind, same, ?_⟩
      simp [same, Failure.isInterrupted, Failure.ioKind?, lasting]

end Attempt

/-- Reads frames so many times, whether that fails or not. -/
def attempts : Nat → Receiver → List Attempt
  | 0, _ => []
  | count + 1, receiver => receiver.attempt :: attempts count receiver.attempt.after

/-- The receiver after so many attempts. -/
def afterAttempts : Nat → Receiver → Receiver
  | 0, receiver => receiver
  | count + 1, receiver => afterAttempts count receiver.attempt.after

section Attempts

variable (count : Nat) (receiver : Receiver)

/-- However often a frame is tried for, none of the attempts loses anything. -/
theorem isLossless_of_mem_attempts : ∀ attempt ∈ attempts count receiver, attempt.IsLossless := by
  induction count generalizing receiver with
  | zero => simp [attempts]
  | succ count ih =>
    rw [attempts, List.forall_mem_cons]
    exact ⟨receiver.accounts_attempt.isLossless, ih receiver.attempt.after⟩

/-- The reads take their bytes off the front of what the source gives. -/
theorem content_attempts : receiver.source.content =
    (attempts count receiver).flatMap Attempt.taken ++
      (afterAttempts count receiver).source.content := by
  induction count generalizing receiver with
  | zero => rfl
  | succ count ih =>
    rw [attempts, afterAttempts, List.flatMap_cons, List.append_assoc,
      ← ih receiver.attempt.after]
    exact receiver.accounts_attempt.content

/-- What was taken has become frames, or is in the buffer. -/
theorem buffer_attempts : receiver.buffer ++ (attempts count receiver).flatMap Attempt.taken =
    ((attempts count receiver).flatMap Attempt.frames).flatMap Frame.encode ++
      (afterAttempts count receiver).buffer := by
  induction count generalizing receiver with
  | zero => exact List.append_nil _
  | succ count ih =>
    have first : receiver.buffer ++ receiver.attempt.taken =
        receiver.attempt.frames.flatMap Frame.encode ++ receiver.attempt.after.buffer :=
      receiver.accounts_attempt.buffer
    rw [attempts, afterAttempts, List.flatMap_cons, List.flatMap_cons, List.flatMap_append,
      ← List.append_assoc, first, List.append_assoc, ih receiver.attempt.after, List.append_assoc]

/-- The frames handed out are the first of those that were to be read. -/
theorem frames_attempts : receiver.frames =
    (attempts count receiver).flatMap Attempt.frames ++ (afterAttempts count receiver).frames := by
  induction count generalizing receiver with
  | zero => rfl
  | succ count ih =>
    rw [attempts, afterAttempts, List.flatMap_cons, List.append_assoc,
      ← ih receiver.attempt.after, attempt, Attempt.frames]
    cases read : receiver.readFrame with
    | ok frame after => exact frames_of_readFrame read
    | error failure after =>
      exact congrArg (fun wire => (Frame.splitAll wire).1) (wire_of_readFrame_error read).symm

/-- Every frame handed out is counted, with its size. -/
theorem metrics_attempts :
    let frames := (attempts count receiver).flatMap Attempt.frames
    (afterAttempts count receiver).metrics.framesReceived =
        receiver.metrics.framesReceived + UInt64.ofNat frames.length ∧
      (afterAttempts count receiver).metrics.bytesReceived =
        receiver.metrics.bytesReceived + UInt64.ofNat (frames.flatMap Frame.encode).length := by
  induction count generalizing receiver with
  | zero => exact ⟨(UInt64.add_zero _).symm, (UInt64.add_zero _).symm⟩
  | succ count ih =>
    obtain ⟨number, size⟩ := ih receiver.attempt.after
    have accounts := receiver.accounts_attempt
    simp only [attempts, afterAttempts, List.flatMap_cons, List.flatMap_append,
      List.length_append, UInt64.ofNat_add, ← UInt64.add_assoc]
    rw [number, size, accounts.number, accounts.size]
    exact ⟨rfl, rfl⟩

end Attempts

/-- **Frames do not depend on how their bytes arrive.** Frames are read so many times from a source
that gives its bytes in any pieces, with any failures and ends of input between them. The bytes that
were taken from the source are the frames handed out and what is in the buffer, so these frames are
the first ones of the bytes of the source, read one behind the other. An attempt that fails keeps
all that it has received, and fails as its last read does: the input ends inside a frame exactly if
a read brings no bytes, and an interruption is never told. Every frame is counted, with its size. -/
theorem frames_independent_of_pieces (source : Source) (count : Nat) :
    let log := attempts count { source }
    let last := afterAttempts count { source }
    let taken := log.flatMap Attempt.taken
    let frames := log.flatMap Attempt.frames
    source.content = taken ++ last.source.content ∧
    taken = frames.flatMap Frame.encode ++ last.buffer ∧
    frames <+: Frame.sequence source.content ∧
    (∀ attempt ∈ log, attempt.IsLossless) ∧
    last.metrics.framesReceived = UInt64.ofNat frames.length ∧
    last.metrics.bytesReceived = UInt64.ofNat (frames.flatMap Frame.encode).length := by
  intro log last taken frames
  obtain ⟨number, size⟩ := metrics_attempts count { source }
  refine ⟨content_attempts count { source }, buffer_attempts count { source }, ?_,
    isLossless_of_mem_attempts count { source }, ?_, ?_⟩
  · rw [Frame.sequence_eq_splitAll]
    exact ⟨last.frames, (frames_attempts count { source }).symm⟩
  · rw [number]
    exact UInt64.zero_add _
  · rw [size]
    exact UInt64.zero_add _

end DebugBridge.Receiver

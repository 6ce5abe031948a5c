import Mathlib.Algebra.GroupWithZero.Nat
import DebugBridge.Proofs.Wire.Output

/-!
# Frames are conserved

Whoever sends frames may meet a sink that takes a few bytes at a time and fails now and then. As
long as a frame fits into the buffer whenever sending it fails, every call adds its whole frame to
what the sink has taken or will be given, whether it succeeds or not. So no frame is torn, repeated
or put before another one, and only those of calls that succeeded are counted.
-/

namespace DebugBridge.Transmitter

/-- What is called to send one frame. -/
inductive Call where
  | frame (command arg0 arg1 : UInt32) (payload : Option Bytes)
  | connect
  | auth (type : UInt32) (payload : Bytes)
  | openStream (localId : UInt32) (destination : String)
  | write (localId remoteId : UInt32) (payload : Bytes)
  | close (localId remoteId : UInt32)
  | okay (localId remoteId : UInt32)

/-- The frame that a call sends. One without a payload has an empty one. -/
def Call.sends : Call → Frame
  | frame command arg0 arg1 payload => .make command arg0 arg1 (payload.getD [])
  | connect => .make Command.connect hostVersion hostMaxPayload hostBanner
  | auth type payload => .make Command.auth type 0 payload
  | openStream localId destination =>
    .make Command.openStream localId 0 (Utf8.encode destination ++ [0])
  | write localId remoteId payload => .make Command.write localId remoteId payload
  | close localId remoteId => .make Command.close localId remoteId []
  | okay localId remoteId => .make Command.okay localId remoteId []

/-- Makes a call. -/
def perform : Call → Transmitter → Outcome Transmitter Unit
  | .frame command arg0 arg1 payload => send command arg0 arg1 (payload.getD [])
  | .connect => sendConnect
  | .auth type payload => sendAuth type payload
  | .openStream localId destination => sendOpen localId destination
  | .write localId remoteId payload => sendWrite localId remoteId payload
  | .close localId remoteId => sendClose localId remoteId
  | .okay localId remoteId => sendOkay localId remoteId

/-- Every kind of call sends one frame, so that only its frame has to be looked at. -/
theorem perform_eq_send (call : Call) (transmitter : Transmitter) :
    transmitter.perform call =
      transmitter.send call.sends.command call.sends.arg0 call.sends.arg1 call.sends.payload := by
  cases call <;> rfl

/-- The frame of a call is one that is made from its own parts. -/
theorem Call.sends_eq_make (call : Call) :
    call.sends =
      .make call.sends.command call.sends.arg0 call.sends.arg1 call.sends.payload := by
  cases call <;> rfl

/-- A call that was made. -/
structure Attempt where
  before : Transmitter
  call : Call
  result : Except Failure Unit
  after : Transmitter

/-- Makes a call and keeps a record of it. -/
def attempt (call : Call) (transmitter : Transmitter) : Attempt :=
  ⟨transmitter, call, (transmitter.perform call).result, (transmitter.perform call).state⟩

/-- Calls one after the other, whatever comes of them. -/
def log : List Call → Transmitter → List Attempt
  | [], _ => []
  | call :: calls, transmitter =>
    transmitter.attempt call :: log calls (transmitter.attempt call).after

/-- The transmitter after calls. -/
def afterCalls : List Call → Transmitter → Transmitter
  | [], transmitter => transmitter
  | call :: calls, transmitter => afterCalls calls (transmitter.attempt call).after

namespace Attempt

/-- The call was answered without an error. -/
def succeeded (attempt : Attempt) : Bool :=
  attempt.result.toBool

/-- The size of the frame on the wire. -/
def size (attempt : Attempt) : Nat :=
  attempt.call.sends.encode.length

/-- The frame fits into the buffer behind what was held back. -/
def Fits (attempt : Attempt) : Prop :=
  attempt.before.out.pending.length + attempt.size ≤ BufferedSink.capacity

instance (attempt : Attempt) : Decidable attempt.Fits :=
  inferInstanceAs (Decidable (_ ≤ _))

/-- The frame of the call is the next one, and it is counted if the call has succeeded. -/
structure Conserves (attempt : Attempt) : Prop where
  is_open : attempt.after.isOpen = true
  committed : attempt.after.committed = attempt.before.committed ++ attempt.call.sends.encode
  gone : attempt.succeeded = true → attempt.after.out.pending = []
  counted : attempt.after.metrics =
    if attempt.succeeded then attempt.before.metrics.frameSent (UInt64.ofNat attempt.size)
    else attempt.before.metrics

end Attempt

variable {transmitter : Transmitter} {calls : List Call}

/-- A call on an open transmitter conserves its frame, if the frame fits into the buffer whenever
sending it fails. -/
theorem conserves_attempt (is_open : transmitter.isOpen = true) {call : Call}
    (fits : (transmitter.attempt call).succeeded = false → (transmitter.attempt call).Fits) :
    (transmitter.attempt call).Conserves := by
  have counted := transmitter.metrics_send call.sends.command call.sends.arg0 call.sends.arg1
    call.sends.payload
  have size : (transmitter.attempt call).size = Header.size + call.sends.payload.length :=
    Frame.length_encode call.sends
  rw [← perform_eq_send, ← size] at counted
  rcases send_cases is_open call.sends.command call.sends.arg0 call.sends.arg1
      call.sends.payload with
    ⟨after, sent, still_open, committed, gone⟩ |
      ⟨failure, after, part, failed, still_open, committed, -, whole, -⟩
  · rw [← perform_eq_send] at sent
    rw [← call.sends_eq_make] at committed
    have state : (transmitter.attempt call).after = after := by rw [attempt, sent, Outcome.state_ok]
    exact ⟨state ▸ still_open, state ▸ committed, fun _ => state ▸ gone, counted⟩
  · rw [← perform_eq_send] at failed
    rw [← call.sends_eq_make] at whole
    have state : (transmitter.attempt call).after = after := by
      rw [attempt, failed, Outcome.state_error]
    have not_succeeded : (transmitter.attempt call).succeeded = false := by
      rw [attempt, Attempt.succeeded, failed]
      rfl
    rw [whole (fits not_succeeded)] at committed
    refine ⟨state ▸ still_open, state ▸ committed, ?_, counted⟩
    intro succeeded
    rw [not_succeeded] at succeeded
    contradiction

/-- What one call keeps, all calls keep. -/
theorem conserves_log (is_open : transmitter.isOpen = true)
    (fits : ∀ attempt ∈ transmitter.log calls, attempt.succeeded = false → attempt.Fits) :
    (∀ attempt ∈ transmitter.log calls, attempt.Conserves) ∧
      (transmitter.afterCalls calls).isOpen = true := by
  induction calls generalizing transmitter with
  | nil => exact ⟨by simp [log], is_open⟩
  | cons call calls ih =>
    rw [log, List.forall_mem_cons] at fits ⊢
    have conserves := conserves_attempt is_open fits.1
    obtain ⟨others, still_open⟩ := ih conserves.is_open fits.2
    exact ⟨⟨conserves, others⟩, still_open⟩

/-- After calls that conserve, the frames of all of them are on their way, one behind the other. -/
theorem committed_afterCalls
    (conserves : ∀ attempt ∈ transmitter.log calls, attempt.Conserves) :
    (transmitter.afterCalls calls).committed =
      transmitter.committed ++ (calls.map Call.sends).flatMap Frame.encode := by
  induction calls generalizing transmitter with
  | nil => exact (List.append_nil _).symm
  | cons call calls ih =>
    rw [log, List.forall_mem_cons] at conserves
    rw [afterCalls, ih conserves.2, conserves.1.committed, List.append_assoc]
    rfl

/-- As many frames are counted as calls have succeeded. -/
theorem framesSent_afterCalls
    (conserves : ∀ attempt ∈ transmitter.log calls, attempt.Conserves) :
    (transmitter.afterCalls calls).metrics.framesSent =
      transmitter.metrics.framesSent +
        UInt64.ofNat ((transmitter.log calls).filter Attempt.succeeded).length := by
  induction calls generalizing transmitter with
  | nil => exact (UInt64.add_zero _).symm
  | cons call calls ih =>
    rw [log, List.forall_mem_cons] at conserves
    rw [afterCalls, ih conserves.2, conserves.1.counted, log, List.filter_cons]
    split
    · rw [List.length_cons, UInt64.ofNat_add, UInt64.add_comm (UInt64.ofNat _), ← UInt64.add_assoc]
      rfl
    · rfl

/-- As many bytes are counted as the frames of these calls have on the wire. -/
theorem bytesSent_afterCalls
    (conserves : ∀ attempt ∈ transmitter.log calls, attempt.Conserves) :
    (transmitter.afterCalls calls).metrics.bytesSent =
      transmitter.metrics.bytesSent +
        UInt64.ofNat (((transmitter.log calls).filter Attempt.succeeded).map Attempt.size).sum := by
  induction calls generalizing transmitter with
  | nil => exact (UInt64.add_zero _).symm
  | cons call calls ih =>
    rw [log, List.forall_mem_cons] at conserves
    rw [afterCalls, ih conserves.2, conserves.1.counted, log, List.filter_cons]
    split
    · rw [List.map_cons, List.sum_cons, UInt64.ofNat_add, ← UInt64.add_assoc]
      rfl
    · rfl

/-- A closed transmitter refuses every call and is left as it is. -/
theorem perform_of_closed (closed : transmitter.isOpen = false) (call : Call) :
    transmitter.perform call = .error .connectionClosed transmitter := by
  rw [perform_eq_send, send_of_closed closed]

/-- Whatever is called at a closed transmitter is refused. -/
theorem refused_of_closed (closed : transmitter.isOpen = false) (calls : List Call) :
    (∀ attempt ∈ transmitter.log calls, attempt.result = .error .connectionClosed) ∧
      transmitter.afterCalls calls = transmitter := by
  induction calls with
  | nil => exact ⟨by simp [log], rfl⟩
  | cons call calls ih =>
    have refused := perform_of_closed closed call
    have same : (transmitter.attempt call).after = transmitter := by
      rw [attempt, refused, Outcome.state_error]
    rw [log, List.forall_mem_cons, afterCalls, same]
    refine ⟨⟨?_, ih.1⟩, ih.2⟩
    rw [attempt, refused]
    rfl

/-- **Frames are conserved, whatever the sink does.** Frames are sent at an open transmitter, where
any of it may fail as long as the frame fits into the buffer. What the sink has taken and what is
held back for it are then, one behind the other, the frames of all calls, as they are encoded
elsewhere; a call that succeeds holds nothing back, and those calls alone are counted. The sink
reads some of the frames, whole and in order. Closing loses nothing, and afterwards nothing is
sent. -/
theorem frames_conserved (is_open : transmitter.isOpen = true)
    (fits : ∀ attempt ∈ transmitter.log calls, attempt.succeeded = false → attempt.Fits) :
    let log := transmitter.log calls
    let last := transmitter.afterCalls calls
    let closed := last.close.state
    (∀ command arg0 arg1 payload, header command arg0 arg1 payload ++ payload =
      (Frame.make command arg0 arg1 payload).encode) ∧
    last.out.sink.accepted ++ last.out.pending =
      transmitter.out.sink.accepted ++ transmitter.out.pending ++
        (calls.map Call.sends).flatMap Frame.encode ∧
    (∀ attempt ∈ log, attempt.result = .ok () → attempt.after.out.pending = []) ∧
    last.metrics.framesSent =
      transmitter.metrics.framesSent + UInt64.ofNat (log.filter Attempt.succeeded).length ∧
    last.metrics.bytesSent = transmitter.metrics.bytesSent +
      UInt64.ofNat ((log.filter Attempt.succeeded).map Attempt.size).sum ∧
    ((∀ call ∈ calls, call.sends.payload.length < UInt32.size) → transmitter.committed = [] →
      (Frame.splitAll last.out.sink.accepted).1 <+: calls.map Call.sends) ∧
    closed.out.sink.accepted ++ closed.out.pending = last.out.sink.accepted ++ last.out.pending ∧
    (last.close.result = .ok () → closed.out.pending = []) ∧
    ∀ more, (∀ attempt ∈ closed.log more, attempt.result = .error .connectionClosed) ∧
      closed.afterCalls more = closed := by
  intro log last closed
  obtain ⟨conserves, still_open⟩ := conserves_log is_open fits
  have committed := committed_afterCalls conserves
  refine ⟨header_append, committed, ?_, framesSent_afterCalls conserves,
    bytesSent_afterCalls conserves, ?_, last.committed_close, ?_,
    refused_of_closed last.isOpen_close⟩
  · intro attempt member succeeded
    apply (conserves attempt member).gone
    rw [Attempt.succeeded, succeeded]
    rfl
  · intro short nothing
    rw [nothing, List.nil_append] at committed
    refine Frame.splitAll_prefix ?_ ⟨last.out.pending, committed⟩
    intro frame member
    obtain ⟨call, called, rfl⟩ := List.mem_map.1 member
    rw [call.sends_eq_make]
    exact Frame.isExact_make _ _ _ (short call called)
  · intro succeeded
    have closing : last.close = .ok () closed :=
      Outcome.eq_ok_of_toOption (congrArg Except.toOption succeeded)
    exact pending_of_close_ok still_open closing

/-- The sink fails the first write, then takes five bytes, then all, and fails the second flush: two
of four calls fail, and yet all four frames are there. -/
theorem frames_conserved_failing_sink :
    let transmitter : Transmitter := {
      out := { sink := {
        writes := [.fail .timedOut, .atMost 5]
        flushes := [none, some .brokenPipe] } } }
    let calls : List Call := [.connect, .openStream 1 "echo:", .okay 1 9, .write 1 9 [104, 105]]
    let last := transmitter.afterCalls calls
    last.out.sink.accepted = (calls.map Call.sends).flatMap Frame.encode ∧
      last.out.pending = [] ∧
      last.metrics.framesSent = 2 ∧ last.metrics.bytesSent = 56 ∧
      last.close.state.perform (.okay 1 9) = .error .connectionClosed last.close.state := by
  intro transmitter calls last
  have fits : ∀ attempt ∈ transmitter.log calls, attempt.succeeded = false → attempt.Fits := by
    decide +kernel
  have gone : last.out.pending = [] := by decide +kernel
  have sent : ((transmitter.log calls).filter Attempt.succeeded).map Attempt.size = [30, 26] := by
    decide +kernel
  have count := congrArg List.length sent
  rw [List.length_map] at count
  obtain ⟨-, committed, -, frames, bytes, -⟩ := @frames_conserved transmitter calls rfl fits
  rw [gone, List.append_nil] at committed
  rw [count] at frames
  rw [sent] at bytes
  refine ⟨committed, gone, frames, bytes, ?_⟩
  exact perform_of_closed last.isOpen_close _

end DebugBridge.Transmitter

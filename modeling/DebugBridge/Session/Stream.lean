import DebugBridge.Session.Channel

/-!
# Streams

A stream is one conversation on a channel. What the device writes to it is handed out in pieces
and acknowledged once a whole frame has been handed out. What the host writes is collected and
sent in frames of at most the size that the device accepts: whenever that size is reached, and on
every flush. A stream that the device has closed reads as ended and refuses writes.

Reading and writing report failures in their input/output form, opening and closing do not.
-/

namespace DebugBridge

/-- A frame's payload that is being handed out. -/
structure Cursor where
  payload : Bytes
  /-- How much of it has been handed out. -/
  position : Nat := 0
  /-- The bytes not handed out yet. -/
  rest : Bytes := payload.drop position
  rest_eq : rest = payload.drop position := by rfl
  deriving DecidableEq, Repr

/-- A payload of which nothing has been handed out. -/
def Cursor.atStart (payload : Bytes) : Cursor :=
  { payload }

/-- Moves past bytes that have been handed out. -/
def Cursor.advance (count : Nat) (cursor : Cursor) : Cursor where
  payload := cursor.payload
  position := cursor.position + count
  rest := cursor.rest.drop count
  rest_eq := by rw [cursor.rest_eq, List.drop_drop]

/-- The host's side of a stream. -/
structure Stream where
  localId : UInt32
  remoteId : UInt32
  /-- The largest payload of a frame that is sent; at least one. -/
  maxPayload : Nat
  /-- The payload being handed out. -/
  pending : Option Cursor := none
  /-- Bytes written but not sent yet. -/
  outgoing : Bytes := []
  closed : Bool := false
  deriving DecidableEq, Repr

/-- The stream as it is when the device has accepted it. -/
def Stream.opened (localId remoteId maxPayload : UInt32) : Stream :=
  { localId, remoteId, maxPayload := max maxPayload.toNat 1 }

/-- The stream for people: its ids, and whether it is closed. -/
def Stream.describe (stream : Stream) : String :=
  let localId := Text.hex stream.localId.toNat
  let remoteId := Text.hex stream.remoteId.toNat
  s!"AdbStream \x7b local_id: {localId}, remote_id: {remoteId}, closed: {stream.closed}, .. \x7d"

/-- A stream at its channel. -/
structure Endpoint where
  stream : Stream
  channel : Channel

namespace Endpoint

/-- Sends something on the channel. -/
def send (step : Transmitter → Outcome Transmitter Unit) (endpoint : Endpoint) :
    Outcome Endpoint Unit :=
  (endpoint.channel.send step).mapState fun channel => { endpoint with channel }

/-- Puts a payload up for being handed out, or takes it away. -/
def withPending (pending : Option Cursor) (endpoint : Endpoint) : Endpoint :=
  { endpoint with stream.pending := pending }

/-- Whether the device still listens to this stream. -/
def isLive (endpoint : Endpoint) : Bool :=
  endpoint.channel.isLive endpoint.stream.localId

/-- The failure of one who uses a stream that has ended. -/
def ended (endpoint : Endpoint) : Failure :=
  .streamClosed endpoint.stream.localId

/-- Tells the device that a payload was consumed. -/
def acknowledge (endpoint : Endpoint) : Outcome Endpoint Unit :=
  endpoint.send (Transmitter.sendOkay endpoint.stream.localId endpoint.stream.remoteId)

/-- Sends what was collected. The acknowledgements that the device has sent so far are thrown
away: nobody waits for them. What was collected for a stream that has ended is lost. -/
def sendCollected (endpoint : Endpoint) : Outcome Endpoint Unit :=
  let { stream, channel } := endpoint
  if stream.outgoing.isEmpty then .ok () endpoint
  else if !endpoint.isLive then
    .error endpoint.ended { stream := { stream with outgoing := [] }, channel }
  else
    (endpoint.send (Transmitter.sendWrite stream.localId stream.remoteId stream.outgoing)).andThen
      fun _ { stream, channel } => .ok () {
        stream := { stream with outgoing := [] }
        channel := channel.discard stream.localId Command.okay }

/-- Sends what was collected, if the stream has not ended. -/
def sendRemainder (endpoint : Endpoint) : Outcome Endpoint Unit :=
  match endpoint.sendCollected with
  | .error (.streamClosed _) after => .ok () after
  | outcome => outcome

/-- The stream as closed: nothing more is handed out or taken. -/
def shut (endpoint : Endpoint) : Endpoint :=
  { endpoint with stream := { endpoint.stream with closed := true, pending := none } }

/-- Tells the device that the stream is closed. -/
def announceClose (endpoint : Endpoint) : Outcome Endpoint Unit :=
  endpoint.send (Transmitter.sendClose endpoint.stream.localId endpoint.stream.remoteId)

/-- Ends the registration of the stream and counts it as closed. -/
def retire (endpoint : Endpoint) : Endpoint :=
  let channel := endpoint.channel.unlisten endpoint.stream.localId
  { endpoint with channel := { channel with metrics := channel.metrics.streamClosed } }

/-- Closes the stream: sends what was collected, tells the device and ends the registration, each
of them whether or not the others fail. The first failure is reported. A second call does
nothing. -/
def close (endpoint : Endpoint) : Outcome Endpoint Unit :=
  if endpoint.stream.closed then .ok () endpoint
  else
    let flushed := endpoint.shut.sendRemainder
    let announced := flushed.state.announceClose
    let after := announced.state.retire
    .ofResult (do flushed.result; announced.result) after

/-- The next payload, or nothing at the end of the stream. When the end is met the stream is
closed, and it does not matter whether that succeeds. -/
def nextPayload (endpoint : Endpoint) : Outcome Endpoint (Option Bytes) :=
  if endpoint.stream.closed then .ok none endpoint
  else
    match endpoint.channel.take endpoint.stream.localId Command.write with
    | .ok frame channel => .ok (some frame.payload) { endpoint with channel }
    | .error failure channel =>
      let endpoint := { endpoint with channel }
      if failure.isEndOfStream then .ok none endpoint.close.state
      else .error failure endpoint

/-- How much can still be read: what the channel can hand out, and what is pending. -/
def unread (endpoint : Endpoint) : Nat :=
  endpoint.channel.backlog +
    match endpoint.stream.pending with
    | none => 0
    | some cursor => cursor.rest.length + 1

/-- A payload to hand out next leaves less to be read than there was. -/
theorem unread_nextPayload {endpoint after : Endpoint} {payload : Bytes}
    (none_pending : endpoint.stream.pending = none)
    (found : endpoint.nextPayload = .ok (some payload) after) :
    after.channel.backlog + payload.length + 2 ≤ endpoint.unread := by
  unfold nextPayload at found
  split at found
  · simp only [Outcome.ok.injEq, reduceCtorEq, false_and] at found
  · split at found
    · next frame channel taken =>
      simp only [Outcome.ok.injEq, Option.some.injEq] at found
      obtain ⟨rfl, rfl⟩ := found
      have := Channel.backlog_take taken
      simp only [unread, none_pending]
      omega
    · split at found <;> simp only [Outcome.ok.injEq, reduceCtorEq, false_and] at found

theorem backlog_sendCollected_le (endpoint : Endpoint) :
    endpoint.sendCollected.state.channel.backlog ≤ endpoint.channel.backlog := by
  obtain ⟨stream, channel⟩ := endpoint
  simp only [sendCollected]
  split
  · exact Nat.le_refl _
  · split
    · exact Nat.le_refl _
    · have same := Channel.backlog_send
        (Transmitter.sendWrite stream.localId stream.remoteId stream.outgoing) channel
      simp only [send]
      cases sent : channel.send
        (Transmitter.sendWrite stream.localId stream.remoteId stream.outgoing) with
      | error failure last =>
        rw [sent] at same
        exact Nat.le_of_eq same
      | ok value last =>
        rw [sent] at same
        exact Nat.le_trans (Channel.backlog_discard_le stream.localId Command.okay last)
          (Nat.le_of_eq same)

theorem backlog_sendRemainder_le (endpoint : Endpoint) :
    endpoint.sendRemainder.state.channel.backlog ≤ endpoint.channel.backlog := by
  have collected := backlog_sendCollected_le endpoint
  unfold sendRemainder
  split
  · next sent => rwa [sent] at collected
  · exact collected

/-- Sending what was collected puts nothing up for being handed out. -/
theorem pending_sendCollected {endpoint : Endpoint} (nothing : endpoint.stream.pending = none) :
    endpoint.sendCollected.state.stream.pending = none := by
  obtain ⟨stream, channel⟩ := endpoint
  simp only [sendCollected, send]
  split
  · exact nothing
  · split
    · exact nothing
    · cases channel.send
        (Transmitter.sendWrite stream.localId stream.remoteId stream.outgoing) <;> exact nothing

/-- Sending puts nothing up for being handed out. -/
theorem pending_sendRemainder {endpoint : Endpoint} (nothing : endpoint.stream.pending = none) :
    endpoint.sendRemainder.state.stream.pending = none := by
  have collected := pending_sendCollected nothing
  unfold sendRemainder
  split
  · next sent => rwa [sent] at collected
  · exact collected

/-- Closing leaves nothing more to be read than there was. -/
theorem unread_close_le (endpoint : Endpoint) :
    endpoint.close.state.unread ≤ endpoint.unread := by
  unfold close
  split
  · exact Nat.le_refl _
  · extract_lets flushed announced after
    have nothing : after.stream.pending = none := by
      simp only [after, retire, announced, announceClose, send, Outcome.state_mapState]
      exact pending_sendRemainder rfl
    have less : after.channel.backlog ≤ endpoint.channel.backlog := by
      refine Nat.le_trans (Channel.backlog_unlisten_le _ announced.state.channel) ?_
      refine Nat.le_trans (Nat.le_of_eq ?_) (backlog_sendRemainder_le endpoint.shut)
      simp only [announced, announceClose, send, Outcome.state_mapState]
      exact Channel.backlog_send _ _
    simp only [Outcome.state_ofResult, unread, nothing, Nat.add_zero]
    exact Nat.le_trans less (Nat.le_add_right _ _)

/-- At the end of the stream there is nothing more to be read than there was. -/
theorem unread_nextPayload_none {endpoint after : Endpoint}
    (ended : endpoint.nextPayload = .ok none after) : after.unread ≤ endpoint.unread := by
  unfold nextPayload at ended
  split at ended
  · simp only [Outcome.ok.injEq, true_and] at ended
    exact Nat.le_of_eq (by rw [← ended])
  · split at ended
    · simp only [Outcome.ok.injEq, reduceCtorEq, false_and] at ended
    · next taken =>
      split at ended
      · simp only [Outcome.ok.injEq, true_and] at ended
        rw [← ended]
        refine Nat.le_trans (unread_close_le _) (Nat.add_le_add_right ?_ _)
        exact Channel.backlog_take_error taken
      · simp only [reduceCtorEq] at ended

/-- Looking for a payload is never reported as interrupted. -/
theorem interrupted_nextPayload {endpoint after : Endpoint} {failure : Failure}
    (failed : endpoint.nextPayload = .error failure after) : failure.isInterrupted = false := by
  unfold nextPayload at failed
  split at failed
  · simp only [reduceCtorEq] at failed
  · split at failed
    · simp only [reduceCtorEq] at failed
    · next taken =>
      split at failed
      · simp only [reduceCtorEq] at failed
      · simp only [Outcome.error.injEq] at failed
        exact failed.1 ▸ Channel.interrupted_take taken

/-- Acknowledging leaves as much to be read as there was. -/
theorem unread_acknowledge (endpoint : Endpoint) :
    endpoint.acknowledge.state.unread = endpoint.unread := by
  simp [unread, acknowledge, send]

/-- A pending payload is something to be read. -/
theorem backlog_lt_unread {endpoint : Endpoint} {cursor : Cursor}
    (pending : endpoint.stream.pending = some cursor) :
    endpoint.channel.backlog < endpoint.unread := by
  simp only [unread, pending]
  omega

/-- Once a pending payload has been handed out and acknowledged there is less to be read. -/
theorem unread_of_acknowledge {endpoint after : Endpoint} {cursor : Cursor}
    (pending : endpoint.stream.pending = some cursor)
    (acknowledged : (endpoint.withPending none).acknowledge = .ok () after) :
    after.unread < endpoint.unread := by
  have same := unread_acknowledge (endpoint.withPending none)
  rw [acknowledged] at same
  exact Nat.lt_of_le_of_lt (Nat.le_of_eq same) (backlog_lt_unread pending)

/-- The same holds if acknowledging failed. -/
theorem unread_of_acknowledge_error {endpoint after : Endpoint} {cursor : Cursor}
    {failure : Failure} (pending : endpoint.stream.pending = some cursor)
    (acknowledged : (endpoint.withPending none).acknowledge = .error failure after) :
    after.unread < endpoint.unread := by
  have same := unread_acknowledge (endpoint.withPending none)
  rw [acknowledged] at same
  exact Nat.lt_of_le_of_lt (Nat.le_of_eq same) (backlog_lt_unread pending)

/-- Reads at most `wanted` bytes; no bytes mean the end of the stream. A payload handed out to
its end is acknowledged first, and if that fails its last bytes are lost. Empty payloads are
acknowledged and passed over. -/
def readSome (wanted : Nat) (endpoint : Endpoint) : Outcome Endpoint Bytes :=
  if wanted = 0 then .ok [] endpoint
  else
    match pending : endpoint.stream.pending with
    | some cursor =>
      let piece := cursor.rest.take wanted
      let advanced := cursor.advance piece.length
      if advanced.rest.isEmpty then
        match acknowledged : (endpoint.withPending none).acknowledge with
        | .error failure after => .error failure after
        | .ok () after =>
          have := unread_of_acknowledge pending acknowledged
          if piece.isEmpty then readSome wanted after else .ok piece after
      else .ok piece (endpoint.withPending (some advanced))
    | none =>
      match found : endpoint.nextPayload with
      | .error failure after => .error failure after
      | .ok none after => .ok [] after
      | .ok (some payload) after =>
        have := unread_nextPayload pending found
        readSome wanted (after.withPending (some (.atStart payload)))
  termination_by endpoint.unread

/-- Whatever is read leaves less to be read. -/
theorem unread_readSome {wanted : Nat} {endpoint after : Endpoint} {byte : UInt8} {more : Bytes}
    (read : endpoint.readSome wanted = .ok (byte :: more) after) :
    after.unread < endpoint.unread := by
  fun_induction readSome wanted endpoint with
  | case1 => simp only [Outcome.ok.injEq, reduceCtorEq, false_and] at read
  | case2 => simp only [reduceCtorEq] at read
  | case3 endpoint some_wanted cursor pending piece advanced whole last acknowledged less empty
      ih =>
    exact Nat.lt_trans (ih read) less
  | case4 endpoint some_wanted cursor pending piece advanced whole last acknowledged less =>
    simp only [Outcome.ok.injEq] at read
    exact read.2 ▸ less
  | case5 endpoint some_wanted cursor pending piece advanced part =>
    simp only [Outcome.ok.injEq] at read
    obtain ⟨taken, rfl⟩ := read
    have nonempty : 0 < piece.length := by simp [taken]
    have inside : piece.length ≤ cursor.rest.length := List.length_take_le' wanted cursor.rest
    simp only [unread, withPending, pending, advanced, Cursor.advance, List.length_drop]
    omega
  | case6 => simp only [reduceCtorEq] at read
  | case7 => simp only [Outcome.ok.injEq, reduceCtorEq, false_and] at read
  | case8 endpoint some_wanted pending payload last found less ih =>
    have := ih read
    simp only [unread, withPending, Cursor.atStart, List.drop_zero] at *
    omega

/-- No read leaves more to be read than there was. -/
theorem unread_readSome_le {wanted : Nat} {endpoint after : Endpoint} {piece : Bytes}
    (read : endpoint.readSome wanted = .ok piece after) : after.unread ≤ endpoint.unread := by
  match piece with
  | byte :: more => exact Nat.le_of_lt (unread_readSome read)
  | [] =>
    fun_induction readSome wanted endpoint with
    | case1 =>
      simp only [Outcome.ok.injEq, true_and] at read
      exact read ▸ Nat.le_refl _
    | case2 => simp only [reduceCtorEq] at read
    | case3 endpoint some_wanted cursor pending piece advanced whole last acknowledged less empty
        ih => exact Nat.le_trans (ih read) (Nat.le_of_lt less)
    | case4 endpoint some_wanted cursor pending piece advanced whole last acknowledged less =>
      simp only [Outcome.ok.injEq] at read
      exact read.2 ▸ Nat.le_of_lt less
    | case5 endpoint some_wanted cursor pending piece advanced part =>
      simp only [Outcome.ok.injEq] at read
      obtain ⟨-, rfl⟩ := read
      simp only [unread, withPending, pending, advanced, Cursor.advance, List.length_drop]
      omega
    | case6 => simp only [reduceCtorEq] at read
    | case7 endpoint some_wanted pending last found =>
      simp only [Outcome.ok.injEq, true_and] at read
      exact read ▸ unread_nextPayload_none found
    | case8 endpoint some_wanted pending payload last found less ih =>
      have := ih read
      simp only [unread, withPending, Cursor.atStart, List.drop_zero] at *
      omega

/-- A read that is interrupted was about to acknowledge a payload, which is used up. -/
theorem unread_readSome_interrupted {wanted : Nat} {endpoint after : Endpoint} {failure : Failure}
    (read : endpoint.readSome wanted = .error failure after)
    (interrupted : failure.isInterrupted) : after.unread < endpoint.unread := by
  fun_induction readSome wanted endpoint with
  | case1 => simp only [reduceCtorEq] at read
  | case2 endpoint some_wanted cursor pending piece advanced whole reason last acknowledged =>
    simp only [Outcome.error.injEq] at read
    exact read.2 ▸ unread_of_acknowledge_error pending acknowledged
  | case3 endpoint some_wanted cursor pending piece advanced whole last acknowledged less empty
      ih =>
    exact Nat.lt_trans (ih read) less
  | case4 => simp only [reduceCtorEq] at read
  | case5 => simp only [reduceCtorEq] at read
  | case6 endpoint some_wanted pending reason last found =>
    simp only [Outcome.error.injEq] at read
    rw [← read.1, interrupted_nextPayload found] at interrupted
    contradiction
  | case7 => simp only [reduceCtorEq] at read
  | case8 endpoint some_wanted pending payload last found less ih =>
    have := ih read
    simp only [unread, withPending, Cursor.atStart, List.drop_zero] at *
    omega

/-- Reads at most `wanted` bytes. -/
def read (wanted : Nat) (endpoint : Endpoint) : Outcome Endpoint Bytes :=
  (endpoint.readSome wanted).mapFailure Failure.asIo

/-- The next bytes of a read leave less to be read. -/
theorem unread_read {wanted : Nat} {endpoint after : Endpoint} {byte : UInt8} {more : Bytes}
    (read : endpoint.read wanted = .ok (byte :: more) after) : after.unread < endpoint.unread := by
  unfold Endpoint.read at read
  cases result : endpoint.readSome wanted with
  | error failure last => simp only [result, Outcome.mapFailure, reduceCtorEq] at read
  | ok piece last =>
    simp only [result, Outcome.mapFailure, Outcome.ok.injEq] at read
    obtain ⟨rfl, rfl⟩ := read
    exact unread_readSome result

theorem unread_read_le {wanted : Nat} {endpoint after : Endpoint} {piece : Bytes}
    (read : endpoint.read wanted = .ok piece after) : after.unread ≤ endpoint.unread := by
  unfold Endpoint.read at read
  cases result : endpoint.readSome wanted with
  | error failure last => simp only [result, Outcome.mapFailure, reduceCtorEq] at read
  | ok some_piece last =>
    simp only [result, Outcome.mapFailure, Outcome.ok.injEq] at read
    obtain ⟨rfl, rfl⟩ := read
    exact unread_readSome_le result

/-- A read that is interrupted leaves less to be read, so a reader that tries again gets done. -/
theorem unread_read_interrupted {wanted : Nat} {endpoint after : Endpoint} {failure : Failure}
    (read : endpoint.read wanted = .error failure after)
    (interrupted : failure.isInterrupted) : after.unread < endpoint.unread := by
  unfold Endpoint.read at read
  cases result : endpoint.readSome wanted with
  | ok piece last => simp only [result, Outcome.mapFailure, reduceCtorEq] at read
  | error reason last =>
    simp only [result, Outcome.mapFailure, Outcome.error.injEq] at read
    obtain ⟨rfl, rfl⟩ := read
    rw [Failure.isInterrupted_asIo] at interrupted
    exact unread_readSome_interrupted result interrupted

/-- A stream takes writes until either side has closed it. -/
def refusal? (endpoint : Endpoint) : Option Failure :=
  if endpoint.stream.closed || !endpoint.isLive then some endpoint.ended.asIo else none

/-- Writes as many bytes as there is room for and tells how many those are. Bytes that fill the
room are sent at once; if that fails they stay collected. -/
def write (bytes : Bytes) (endpoint : Endpoint) : Outcome Endpoint Nat :=
  match endpoint.refusal? with
  | some failure => .error failure endpoint
  | none =>
    if bytes.isEmpty then .ok 0 endpoint
    else
      let stream := endpoint.stream
      let count := min (stream.maxPayload - stream.outgoing.length) bytes.length
      let endpoint :=
        { endpoint with
          stream := { stream with outgoing := stream.outgoing ++ bytes.take count } }
      if endpoint.stream.outgoing.length = stream.maxPayload then
        (endpoint.sendCollected.mapFailure Failure.asIo).map fun _ => count
      else .ok count endpoint

/-- Sends what was collected. -/
def flush (endpoint : Endpoint) : Outcome Endpoint Unit :=
  match endpoint.refusal? with
  | some failure => .error failure endpoint
  | none => endpoint.sendCollected.mapFailure Failure.asIo

/-- How many calls to the sink are still answered out of the ordinary. -/
abbrev irregular (endpoint : Endpoint) : Nat :=
  endpoint.channel.irregular

theorem irregular_sendCollected_le (endpoint : Endpoint) :
    endpoint.sendCollected.state.irregular ≤ endpoint.irregular := by
  obtain ⟨stream, channel⟩ := endpoint
  simp only [sendCollected]
  split
  · exact Nat.le_refl _
  · split
    · exact Nat.le_refl _
    · have fewer := Transmitter.irregular_send_le Command.write stream.localId stream.remoteId
        stream.outgoing channel.transmitter
      simp only [send, Channel.send, Transmitter.sendWrite]
      cases sent : channel.transmitter.send Command.write stream.localId stream.remoteId
        stream.outgoing with
      | error failure last => rwa [sent] at fewer
      | ok value last => rwa [sent] at fewer

/-- Sending is interrupted only by an answer of the sink out of the ordinary, so it is not
interrupted forever. -/
theorem irregular_sendCollected_lt {endpoint after : Endpoint} {failure : Failure}
    (failed : endpoint.sendCollected = .error failure after)
    (interrupted : failure.isInterrupted) : after.irregular < endpoint.irregular := by
  obtain ⟨stream, channel⟩ := endpoint
  simp only [sendCollected] at failed
  split at failed
  · simp only [reduceCtorEq] at failed
  · split at failed
    · simp only [Outcome.error.injEq] at failed
      rw [← failed.1] at interrupted
      contradiction
    · simp only [send, Channel.send, Transmitter.sendWrite] at failed
      cases sent : channel.transmitter.send Command.write stream.localId stream.remoteId
        stream.outgoing with
      | ok value last =>
        simp only [sent, Outcome.mapState, Outcome.andThen, reduceCtorEq] at failed
      | error reason last =>
        simp only [sent, Outcome.mapState, Outcome.andThen, Outcome.error.injEq] at failed
        obtain ⟨rfl, rfl⟩ := failed
        rcases Transmitter.irregular_send_lt sent with rfl | fewer
        · contradiction
        · exact fewer

/-- Writing adds no irregular answers. -/
theorem irregular_write_le (bytes : Bytes) (endpoint : Endpoint) :
    (endpoint.write bytes).state.irregular ≤ endpoint.irregular := by
  simp only [write]
  split
  · exact Nat.le_refl _
  · split
    · exact Nat.le_refl _
    · split
      · rw [Outcome.state_map, Outcome.state_mapFailure]
        exact irregular_sendCollected_le _
      · exact Nat.le_refl _

/-- A write that is interrupted has used up an irregular answer. -/
theorem irregular_write_lt {bytes : Bytes} {endpoint after : Endpoint} {failure : Failure}
    (failed : endpoint.write bytes = .error failure after)
    (interrupted : failure.isInterrupted) : after.irregular < endpoint.irregular := by
  simp only [write] at failed
  split at failed
  · next refused =>
    simp only [Outcome.error.injEq] at failed
    unfold refusal? at refused
    split at refused
    · simp only [Option.some.injEq] at refused
      rw [← failed.1, ← refused] at interrupted
      contradiction
    · contradiction
  · split at failed
    · simp only [reduceCtorEq] at failed
    · split at failed
      · generalize grown : ({ endpoint with stream := _ } : Endpoint) = collected at failed
        have same : collected.irregular = endpoint.irregular := by rw [← grown]
        cases sent : collected.sendCollected with
        | ok value last =>
          simp only [sent, Outcome.mapFailure, Outcome.map, reduceCtorEq] at failed
        | error reason last =>
          simp only [sent, Outcome.mapFailure, Outcome.map, Outcome.error.injEq] at failed
          obtain ⟨rfl, rfl⟩ := failed
          rw [Failure.isInterrupted_asIo] at interrupted
          rw [← same]
          exact irregular_sendCollected_lt sent interrupted
      · simp only [reduceCtorEq] at failed

end Endpoint
end DebugBridge

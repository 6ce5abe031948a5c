import DebugBridge.Proofs.Dispatch.Repeating
import DebugBridge.Proofs.Session.Reading

/-!
# Reading again

A read that fails temporarily because its source does has kept what it had of a payload and has told
the device no more than it would have anyway. Whoever reads again goes on from there. Sending has
nothing to do with the receiver, so it fares alike whatever the source still reports.
-/

namespace DebugBridge

namespace Channel

variable {id command : UInt32}

/-- Channels that differ in temporary failures of the source at most, and in how much they have
buffered. -/
structure Agrees (first second : Channel) : Prop where
  queue : first.queue.Agrees second.queue
  transmitter : first.transmitter = second.transmitter
  metrics : first.metrics = second.metrics

/-- A channel whose source has no temporary failure to report. -/
def IsCalm (channel : Channel) : Prop :=
  channel.queue.IsCalm

/-- The failures in store. -/
def troubles (channel : Channel) : Troubles :=
  channel.queue.troubles channel.irregular

/-- Taking a frame on a channel reports the failures in store one at a time. -/
theorem take_reports (channel : Channel) :
    Reports troubles channel (channel.take id command) := by
  let place (queue : Queue) : Channel := { channel with queue }
  have placed (queue : Queue) : (place queue).troubles = queue.troubles channel.irregular := rfl
  exact (Queue.take_reports channel.irregular channel.queue).mapState placed

/-- Taking a frame on a channel fares as it does without temporary failures, or may be repeated. -/
theorem take_resumes {rough smooth : Channel} (agrees : rough.Agrees smooth)
    (calm : smooth.IsCalm) : Resumes Agrees IsCalm (take id command) rough smooth := by
  refine Resumes.mapState (Queue.take_resumes agrees.queue calm) ?_ ?_ ?_ ?_
  · exact fun _ _ queues => ⟨queues, agrees.transmitter, agrees.metrics⟩
  · exact fun _ still_calm => still_calm
  · exact fun _ => rfl
  · exact fun _ => rfl

end Channel

namespace Endpoint

variable {wanted : Nat} {endpoint : Endpoint}

/-- The same stream at channels that agree. -/
structure Agrees (first second : Endpoint) : Prop where
  stream : first.stream = second.stream
  channel : first.channel.Agrees second.channel

/-- A stream at a channel whose source has no temporary failure to report. -/
def IsCalm (endpoint : Endpoint) : Prop :=
  endpoint.channel.IsCalm

/-- The failures in store for the channel. -/
def troubles (endpoint : Endpoint) : Troubles :=
  endpoint.channel.troubles

/-- The stream with another receiver. -/
def withReceiver (receiver : Receiver) (endpoint : Endpoint) : Endpoint :=
  { endpoint with channel.queue.receiver := receiver }

theorem send_withReceiver (step : Transmitter → Outcome Transmitter Unit) (receiver : Receiver)
    (endpoint : Endpoint) :
    (endpoint.withReceiver receiver).send step =
      (endpoint.send step).mapState (withReceiver receiver) := by
  simp only [send, Channel.send, withReceiver]
  cases step endpoint.channel.transmitter <;> rfl

theorem sendCollected_withReceiver (receiver : Receiver) (endpoint : Endpoint) :
    (endpoint.withReceiver receiver).sendCollected =
      endpoint.sendCollected.mapState (withReceiver receiver) := by
  have sending := send_withReceiver (Transmitter.sendWrite endpoint.stream.localId
    endpoint.stream.remoteId endpoint.stream.outgoing) receiver endpoint
  have live : (endpoint.withReceiver receiver).isLive = endpoint.isLive := rfl
  obtain ⟨stream, channel⟩ := endpoint
  simp only [withReceiver] at sending live
  simp only [sendCollected, withReceiver, live, sending]
  cases stream.outgoing.isEmpty with
  | true => rfl
  | false =>
    cases Endpoint.isLive ⟨stream, channel⟩ with
    | false => rfl
    | true =>
      cases send (Transmitter.sendWrite stream.localId stream.remoteId stream.outgoing)
        ⟨stream, channel⟩ <;> rfl

theorem sendRemainder_withReceiver (receiver : Receiver) (endpoint : Endpoint) :
    (endpoint.withReceiver receiver).sendRemainder =
      endpoint.sendRemainder.mapState (withReceiver receiver) := by
  rw [sendRemainder, sendRemainder, sendCollected_withReceiver]
  cases endpoint.sendCollected with
  | ok value after => rfl
  | error failure after => cases failure <;> rfl

theorem close_withReceiver (receiver : Receiver) (endpoint : Endpoint) :
    (endpoint.withReceiver receiver).close = endpoint.close.mapState (withReceiver receiver) := by
  have flushing := sendRemainder_withReceiver receiver endpoint.shut
  have shut : (endpoint.withReceiver receiver).shut = endpoint.shut.withReceiver receiver := rfl
  have running : (endpoint.withReceiver receiver).stream.closed = endpoint.stream.closed := rfl
  have announcing (other : Endpoint) : (other.withReceiver receiver).announceClose =
      other.announceClose.mapState (withReceiver receiver) := send_withReceiver _ receiver other
  simp only [close, running, shut, flushing, Outcome.state_mapState, announcing]
  cases endpoint.stream.closed with
  | true => rfl
  | false =>
    cases endpoint.shut.sendRemainder with
    | ok value middle =>
      simp only [Outcome.mapState, Outcome.state_ok, Outcome.result]
      cases middle.announceClose <;> rfl
    | error failure middle => rfl

/-- What only sends leaves the receiver as it is. -/
theorem receiver_sending {Value : Type} {call : Endpoint → Outcome Endpoint Value}
    (commutes : ∀ receiver endpoint, call (withReceiver receiver endpoint) =
      (call endpoint).mapState (withReceiver receiver)) (endpoint : Endpoint) :
    (call endpoint).state.channel.queue.receiver = endpoint.channel.queue.receiver := by
  have same := congrArg Outcome.state (commutes endpoint.channel.queue.receiver endpoint)
  rw [Outcome.state_mapState] at same
  exact congrArg (·.channel.queue.receiver) same

/-- What only sends fares alike with either receiver. -/
theorem Agrees.sending {Value : Type} {call : Endpoint → Outcome Endpoint Value}
    {first second : Endpoint} (agrees : first.Agrees second)
    (commutes : ∀ receiver endpoint, call (withReceiver receiver endpoint) =
      (call endpoint).mapState (withReceiver receiver)) :
    Outcome.Agree Agrees (call first) (call second) := by
  have other : second = first.withReceiver second.channel.queue.receiver := by
    simp only [withReceiver, agrees.stream, agrees.channel.queue.board,
      agrees.channel.transmitter, agrees.channel.metrics]
  have placed : (call first).state.Agrees
      ((call first).state.withReceiver second.channel.queue.receiver) := by
    refine ⟨rfl, ⟨rfl, ?_⟩, rfl, rfl⟩
    rw [receiver_sending commutes]
    exact agrees.channel.queue.receiver
  rw [other, commutes]
  cases outcome : call first with
  | ok value after =>
    rw [outcome] at placed
    exact .ok placed
  | error failure after =>
    rw [outcome] at placed
    exact .error placed

theorem acknowledge_withReceiver (receiver : Receiver) (endpoint : Endpoint) :
    (endpoint.withReceiver receiver).acknowledge =
      endpoint.acknowledge.mapState (withReceiver receiver) :=
  send_withReceiver _ receiver endpoint

theorem irregular_close_le (endpoint : Endpoint) :
    endpoint.close.state.irregular ≤ endpoint.irregular := by
  unfold close
  split
  · exact Nat.le_refl _
  · extract_lets flushed announced after
    have flushing : flushed.state.irregular ≤ endpoint.shut.irregular := by
      have collected := irregular_sendCollected_le endpoint.shut
      simp only [flushed, sendRemainder]
      split
      · next sent => rwa [sent] at collected
      · exact collected
    have announcing : announced.state.irregular ≤ flushed.state.irregular := by
      simp only [announced, announceClose, send, Channel.send, Transmitter.sendClose,
        Outcome.state_mapState]
      exact Transmitter.irregular_send_le _ _ _ _ _
    rw [Outcome.state_ofResult]
    exact Nat.le_trans announcing flushing

/-- Acknowledging reports no failure of a read. -/
theorem acknowledge_reports (endpoint : Endpoint) :
    Reports troubles endpoint endpoint.acknowledge := by
  have fewer := Transmitter.irregular_send_le Command.okay endpoint.stream.localId
    endpoint.stream.remoteId [] endpoint.channel.transmitter
  simp only [acknowledge, send, Channel.send, Transmitter.sendOkay]
  cases sent : endpoint.channel.transmitter.send Command.okay endpoint.stream.localId
    endpoint.stream.remoteId [] with
  | ok value transmitter =>
    rw [sent] at fewer
    exact .ok rfl fewer
  | error failure transmitter =>
    rw [sent] at fewer
    rcases Transmitter.irregular_send_lt sent with rfl | less
    · refine .nothing rfl fewer fun failure failed => ?_
      cases failed
      exact ⟨rfl, rfl⟩
    · exact .write rfl rfl less

/-- The failures that mean the end of a stream are not temporary. -/
theorem isTransient_of_isEndOfStream {failure : Failure} (ended : failure.isEndOfStream = true) :
    failure.isTransient = false := by
  cases failure with
  | streamClosed | connectionClosed => rfl
  | _ => contradiction

/-- A stream that is not closed takes its next payload, and closes itself when the end of the stream
is met. -/
theorem nextPayload_of_running (running : endpoint.stream.closed = false) :
    endpoint.nextPayload =
      match endpoint.channel.take endpoint.stream.localId Command.write with
      | .ok frame channel => .ok (some frame.payload) { endpoint with channel }
      | .error failure channel =>
        if failure.isEndOfStream then .ok none (close { endpoint with channel }).state
        else .error failure { endpoint with channel } := by
  have not_closed : ¬endpoint.stream.closed = true := by
    rw [running]
    exact Bool.false_ne_true
  unfold nextPayload
  exact if_neg not_closed

/-- Looking for the next payload reports the failures in store one at a time. -/
theorem nextPayload_reports (endpoint : Endpoint) :
    Reports troubles endpoint endpoint.nextPayload := by
  have taking := @Channel.take_reports endpoint.stream.localId Command.write endpoint.channel
  cases closed : endpoint.stream.closed with
  | true =>
    rw [nextPayload, if_pos closed]
    exact .ok rfl (Nat.le_refl _)
  | false =>
    rw [nextPayload_of_running closed]
    split <;> rename_i taken <;> rw [taken] at taking
    · obtain ⟨reads, writes⟩ := taking.of_ok
      exact .ok reads writes
    · next failure channel =>
      split
      · next ended =>
        obtain ⟨reads, writes⟩ := taking.of_lasting (isTransient_of_isEndOfStream ended)
        apply Reports.ok
        · have receiver := receiver_sending close_withReceiver { endpoint with channel }
          simp only [troubles, Channel.troubles, Queue.troubles, receiver]
          exact reads
        · exact Nat.le_trans (irregular_close_le _) writes
      · exact taking.pass_on rfl rfl

/-- Looking for the next payload fares as it does without temporary failures, or may be repeated;
the stream is then as it was. -/
theorem nextPayload_resumes {stream : Stream} {rough smooth : Channel}
    (agrees : rough.Agrees smooth) (calm : smooth.IsCalm) :
    Resumes Agrees (fun endpoint => endpoint.IsCalm ∧ endpoint.stream = stream) nextPayload
      ⟨stream, rough⟩ ⟨stream, smooth⟩ := by
  cases closed : stream.closed with
  | true =>
    refine .settled ?_
    rw [nextPayload, nextPayload, if_pos closed, if_pos closed]
    exact .ok ⟨rfl, agrees⟩
  | false =>
    have looks (channel : Channel) := @nextPayload_of_running ⟨stream, channel⟩ closed
    cases @Channel.take_resumes stream.localId Command.write _ _ agrees calm with
    | settled outcomes =>
      refine .settled ?_
      rw [looks, looks]
      cases taken : rough.take stream.localId Command.write with
      | ok frame channel =>
        rw [taken] at outcomes
        obtain ⟨other, same_taken, channels⟩ := outcomes.of_ok
        rw [same_taken]
        exact .ok ⟨rfl, channels⟩
      | error failure channel =>
        rw [taken] at outcomes
        obtain ⟨other, same_taken, channels⟩ := outcomes.of_error
        have states : Agrees ⟨stream, channel⟩ ⟨stream, other⟩ := ⟨rfl, channels⟩
        rw [same_taken]
        simp only
        split
        · exact .ok (states.sending close_withReceiver).state
        · exact .error states
    | @again failure channel middle failed transient channels still_calm same =>
      have failing : nextPayload ⟨stream, rough⟩ = .error failure ⟨stream, channel⟩ := by
        rw [looks, failed]
        simp only
        rw [if_neg]
        intro ended
        rw [isTransient_of_isEndOfStream ended] at transient
        contradiction
      have states : Agrees ⟨stream, channel⟩ ⟨stream, middle⟩ := ⟨rfl, channels⟩
      refine .again failing transient states ⟨still_calm, rfl⟩ ?_
      rw [looks, looks, same]

/-- A turn reports what it meets while it acknowledges a payload or looks for the next one. -/
theorem turn_reports (endpoint : Endpoint) :
    Reports troubles endpoint (endpoint.turn wanted) := by
  unfold turn
  split
  · next cursor pending =>
    extract_lets piece advanced
    split
    · have acknowledging := acknowledge_reports (endpoint.withPending none)
      exact (acknowledging.map _).of_before rfl (Nat.le_refl _)
    · exact .ok rfl (Nat.le_refl _)
  · have looking := nextPayload_reports endpoint
    cases found : endpoint.nextPayload with
    | ok payload after =>
      rw [found] at looking
      obtain ⟨reads, writes⟩ := looking.of_ok
      cases payload <;> exact .ok reads writes
    | error failure after =>
      rw [found] at looking
      exact looking.pass_on rfl rfl

/-- With nothing at hand a turn looks for the next payload. -/
theorem turn_of_none (nothing : endpoint.stream.pending = none) :
    endpoint.turn wanted = endpoint.nextPayload.andThen fun payload after =>
      payload.elim (.ok (some []) after) fun payload =>
        .ok none (after.withPending (some (.atStart payload))) := by
  unfold turn
  split
  · next cursor pending =>
    rw [nothing] at pending
    contradiction
  · cases endpoint.nextPayload with
    | ok payload after => cases payload <;> rfl
    | error failure after => rfl

/-- A turn fares as it does without temporary failures, or it may be repeated. -/
theorem turn_resumes {rough smooth : Endpoint} (agrees : rough.Agrees smooth)
    (calm : smooth.IsCalm) : Resumes Agrees IsCalm (turn wanted) rough smooth := by
  obtain ⟨stream, rough⟩ := rough
  obtain ⟨other, smooth⟩ := smooth
  obtain ⟨same, agrees⟩ := agrees
  change stream = other at same
  subst same
  cases pending : stream.pending with
  | some cursor =>
    refine .settled ?_
    have states (cursor : Option Cursor) : Agrees (withPending cursor ⟨stream, rough⟩)
        (withPending cursor ⟨stream, smooth⟩) := ⟨rfl, agrees⟩
    simp only [turn, pending]
    split
    · exact ((states none).sending acknowledge_withReceiver).map _
    · exact .ok (states _)
  | none =>
    have turns (channel : Channel) := @turn_of_none wanted ⟨stream, channel⟩ pending
    cases @nextPayload_resumes stream _ _ agrees calm with
    | settled outcomes =>
      refine .settled ?_
      rw [turns, turns]
      refine outcomes.andThen fun payload first second states => ?_
      cases payload with
      | none => exact .ok states
      | some payload =>
        refine .ok ⟨?_, states.channel⟩
        simp only [withPending, states.stream]
    | @again failure after middle failed transient states still_calm same =>
      obtain ⟨still_calm, kept⟩ := still_calm
      obtain ⟨other, middle⟩ := middle
      change other = stream at kept
      subst kept
      refine .again ?_ transient states still_calm ?_
      · rw [turns, failed, Outcome.andThen]
      · rw [turns, turns, same]

/-- A read reports the failures in store one at a time, since it ends with the first. -/
theorem readSome_reports (some_wanted : wanted ≠ 0) (endpoint : Endpoint) :
    Reports troubles endpoint (endpoint.readSome wanted) := by
  induction endpoint using @turn_induction wanted with
  | step endpoint ih =>
    have turning := @turn_reports wanted endpoint
    rw [readSome_eq_turn some_wanted]
    split <;> rename_i turned <;> rw [turned] at turning
    · obtain ⟨reads, writes⟩ := turning.of_ok
      exact .ok reads writes
    · obtain ⟨reads, writes⟩ := turning.of_ok
      exact (ih _ turned).of_before reads writes
    · exact turning.pass_on rfl rfl

/-- A read fares as it does without temporary failures, or it fails temporarily between turns that
the calm read makes as well. -/
theorem readSome_resumes (some_wanted : wanted ≠ 0) {rough smooth : Endpoint}
    (agrees : rough.Agrees smooth) (calm : smooth.IsCalm) :
    Resumes Agrees IsCalm (readSome wanted) rough smooth := by
  induction rough using @turn_induction wanted generalizing smooth with
  | step rough ih =>
    have rough_reads := @readSome_eq_turn wanted rough some_wanted
    have smooth_reads := @readSome_eq_turn wanted smooth some_wanted
    cases turn_resumes agrees calm with
    | settled outcomes =>
      cases turned : rough.turn wanted with
      | error failure after =>
        rw [turned] at outcomes rough_reads
        obtain ⟨other, same_turned, states⟩ := outcomes.of_error
        rw [same_turned] at smooth_reads
        refine .settled ?_
        rw [rough_reads, smooth_reads]
        exact .error states
      | ok answer after =>
        rw [turned] at outcomes rough_reads
        obtain ⟨other, same_turned, states⟩ := outcomes.of_ok
        rw [same_turned] at smooth_reads
        cases answer with
        | some piece =>
          refine .settled ?_
          rw [rough_reads, smooth_reads]
          exact .ok states
        | none =>
          have turning := @turn_reports wanted smooth
          rw [same_turned] at turning
          exact (ih after turned states (turning.calm calm)).of_before rough_reads smooth_reads
    | @again failure after middle failed transient states still_calm same =>
      refine .again ?_ transient states still_calm ?_
      · rw [rough_reads, failed]
      · rw [smooth_reads, readSome_eq_turn some_wanted, same]

/-- The input/output form of a failure is temporary only if the failure was. -/
theorem isTransient_asIo (failure : Failure) : failure.asIo.isTransient = failure.isTransient := by
  cases failure <;> rfl

/-- A read for nothing changes nothing. -/
theorem read_of_none_wanted (endpoint : Endpoint) : endpoint.read 0 = .ok [] endpoint := by
  rw [read, readSome, if_pos rfl, Outcome.mapFailure]

/-- A read reports the failures in store one at a time. -/
theorem read_reports (wanted : Nat) (endpoint : Endpoint) :
    Reports troubles endpoint (endpoint.read wanted) := by
  by_cases none_wanted : wanted = 0
  · subst none_wanted
    rw [read_of_none_wanted]
    exact .ok rfl (Nat.le_refl _)
  · have reading := readSome_reports none_wanted endpoint
    unfold read
    cases result : endpoint.readSome wanted with
    | ok piece after =>
      rw [result] at reading
      obtain ⟨reads, writes⟩ := reading.of_ok
      exact .ok reads writes
    | error failure after =>
      rw [result] at reading
      cases reading with
      | read failed transient reads writes =>
        cases failed
        exact .read rfl transient reads writes
      | write failed reads writes =>
        cases failed
        exact .write rfl reads writes
      | nothing reads writes lasting =>
        refine .nothing reads writes fun other failed => ?_
        cases failed
        rw [isTransient_asIo, Failure.isInterrupted_asIo]
        exact lasting failure rfl

/-- A read fares as it does without temporary failures, or it may be repeated. -/
theorem read_resumes (wanted : Nat) {rough smooth : Endpoint} (agrees : rough.Agrees smooth)
    (calm : smooth.IsCalm) : Resumes Agrees IsCalm (read wanted) rough smooth := by
  by_cases none_wanted : wanted = 0
  · subst none_wanted
    refine .settled ?_
    rw [read_of_none_wanted, read_of_none_wanted]
    exact .ok agrees
  · exact (readSome_resumes none_wanted agrees calm).mapFailure isTransient_asIo

end Endpoint

end DebugBridge

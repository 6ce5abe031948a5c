import DebugBridge.Proofs.Dispatch.Upcoming
import DebugBridge.Proofs.Wire.Output
import DebugBridge.Session.Stream

/-!
# What a stream receives

A read repeats turns until one of them brings an answer. A turn either hands out a part of the
payload at hand, and acknowledges the payload once all of it has been handed out, or takes the next
payload from the queue. On a connection that does not fail, reads of whatever sizes hand out the
payloads in order, and at every moment there is one acknowledgement for each payload used up.
-/

namespace DebugBridge.Endpoint

variable {wanted : Nat} {endpoint : Endpoint}

/-- What a stream takes from the queue when it is read. -/
def want (endpoint : Endpoint) : Want :=
  ⟨endpoint.stream.localId, Command.write⟩

/-- The payloads that will still be taken from the queue. -/
def untaken (endpoint : Endpoint) : List Bytes :=
  (endpoint.channel.queue.upcoming endpoint.want).map (·.payload)

/-- The payloads that are not used up. Of the one at hand this is `begun` and its rest. -/
def unfinished (begun : Bytes) (endpoint : Endpoint) : List Bytes :=
  (endpoint.stream.pending.map fun cursor => begun ++ cursor.rest).toList ++ endpoint.untaken

/-- Whether the device has closed the stream or will do so. -/
def isEnding (endpoint : Endpoint) : Bool :=
  endpoint.channel.queue.isEnding endpoint.stream.localId

/-- All bytes that the sink has taken. -/
def accepted (endpoint : Endpoint) : Bytes :=
  endpoint.channel.transmitter.out.sink.accepted

/-- The frame that acknowledges a payload. -/
def okayFrame (endpoint : Endpoint) : Frame :=
  .make Command.okay endpoint.stream.localId endpoint.stream.remoteId []

/-- The frame that closes the stream. -/
def closeFrame (endpoint : Endpoint) : Frame :=
  .make Command.close endpoint.stream.localId endpoint.stream.remoteId []

/-- A stream on a connection that does not fail. -/
structure IsSound (endpoint : Endpoint) : Prop where
  sending : endpoint.channel.transmitter.IsReliable
  receiving : endpoint.stream.closed = false →
    endpoint.channel.queue.IsSteady endpoint.stream.localId
  spent : endpoint.stream.closed = true → endpoint.unfinished [] = [] ∧ endpoint.isEnding = true

/-- A stream that is not closed is sound if it can send and its queue does not fail. -/
theorem IsSound.of_running (running : endpoint.stream.closed = false)
    (reliable : endpoint.channel.transmitter.IsReliable)
    (steady : endpoint.channel.queue.IsSteady endpoint.stream.localId) : endpoint.IsSound where
  sending := reliable
  receiving _ := steady
  spent closed := absurd (running.symm.trans closed) (by decide)

/-- With a payload at hand, what is not used up is that one and those to be taken. -/
theorem unfinished_of_pending {cursor : Cursor} (pending : endpoint.stream.pending = some cursor)
    (begun : Bytes) :
    endpoint.unfinished begun = (begun ++ cursor.rest) :: endpoint.untaken := by
  simp only [unfinished, pending, Option.map_some, Option.toList_some, List.singleton_append]

/-- With nothing at hand, what is not used up are the payloads to be taken. -/
theorem unfinished_of_none (nothing : endpoint.stream.pending = none) (begun : Bytes) :
    endpoint.unfinished begun = endpoint.untaken := by
  simp only [unfinished, nothing, Option.map_none, Option.toList_none, List.nil_append]

/-- If the payload at hand has bytes left, there is something to read. -/
theorem flatten_ne_nil_of_pending {cursor : Cursor}
    (pending : endpoint.stream.pending = some cursor) (some_rest : cursor.rest ≠ []) :
    (endpoint.unfinished []).flatten ≠ [] := by
  rw [unfinished_of_pending pending, List.nil_append, List.flatten_cons]
  intro empty
  exact some_rest (List.append_eq_nil_iff.mp empty).1

/-- A stream that is over has nothing at hand and nothing to take. -/
theorem IsSound.nothing (sound : endpoint.IsSound) (closed : endpoint.stream.closed = true) :
    endpoint.stream.pending = none ∧ endpoint.untaken = [] := by
  have none_left := (sound.spent closed).1
  cases pending : endpoint.stream.pending with
  | some cursor =>
    rw [unfinished_of_pending pending] at none_left
    contradiction
  | none => exact ⟨rfl, by rwa [unfinished_of_none pending] at none_left⟩

/-- A stream that has a payload at hand is not over. -/
theorem IsSound.running_of_pending {cursor : Cursor} (sound : endpoint.IsSound)
    (pending : endpoint.stream.pending = some cursor) : endpoint.stream.closed = false := by
  cases closed : endpoint.stream.closed with
  | false => rfl
  | true =>
    rw [(sound.nothing closed).1] at pending
    contradiction

/-- The connection with another transmitter. -/
def withTransmitter (transmitter : Transmitter) (endpoint : Endpoint) : Endpoint :=
  { endpoint with channel.transmitter := transmitter }

/-- On a reliable connection an acknowledgement reaches the sink, and nothing else does. -/
theorem acknowledge_of_isReliable (reliable : endpoint.channel.transmitter.IsReliable) :
    ∃ transmitter, endpoint.acknowledge = .ok () (endpoint.withTransmitter transmitter) ∧
      transmitter.IsReliable ∧
      transmitter.out.sink.accepted = endpoint.accepted ++ endpoint.okayFrame.encode := by
  obtain ⟨transmitter, sent, rest⟩ := reliable.send Command.okay endpoint.stream.localId
    endpoint.stream.remoteId []
  refine ⟨transmitter, ?_, rest⟩
  simp only [acknowledge, send, Channel.send, Transmitter.sendOkay, sent, Outcome.mapState,
    withTransmitter]

/-- The stream once it has been closed, and with it what was collected for it. -/
def departed (transmitter : Transmitter) (endpoint : Endpoint) : Endpoint :=
  ({ endpoint.shut with stream.outgoing := [] }.withTransmitter transmitter).retire

/-- What was collected for a stream that the device has closed is lost. -/
theorem sendRemainder_of_not_live (dead : endpoint.isLive = false) :
    endpoint.sendRemainder = .ok () { endpoint with stream.outgoing := [] } := by
  obtain ⟨stream, channel⟩ := endpoint
  cases empty : stream.outgoing.isEmpty with
  | true =>
    have same : stream.outgoing = [] := List.isEmpty_iff.mp empty
    simp only [sendRemainder, sendCollected, empty, if_true, ← same]
  | false =>
    simp only [sendRemainder, sendCollected, empty, Bool.false_eq_true, if_false, dead,
      Bool.not_false, if_true, ended]

/-- A stream that the device has closed only says goodbye when it is closed. -/
theorem close_of_not_live (running : endpoint.stream.closed = false)
    (dead : endpoint.isLive = false) (reliable : endpoint.channel.transmitter.IsReliable) :
    ∃ transmitter, transmitter.IsReliable ∧
      transmitter.out.sink.accepted = endpoint.accepted ++ endpoint.closeFrame.encode ∧
      endpoint.close.state = endpoint.departed transmitter := by
  obtain ⟨transmitter, sent, sound, accepted⟩ := reliable.send Command.close
    endpoint.stream.localId endpoint.stream.remoteId []
  refine ⟨transmitter, sound, accepted, ?_⟩
  have flushed : endpoint.shut.sendRemainder =
      .ok () { endpoint.shut with stream.outgoing := [] } := sendRemainder_of_not_live dead
  simp only [close, running, Bool.false_eq_true, if_false, Outcome.state_ofResult, flushed,
    Outcome.state_ok, announceClose, send, Channel.send, Transmitter.sendClose]
  simp only [shut, sent, Outcome.mapState, Outcome.state_ok, departed, withTransmitter]

/-- A stream that was closed at its end is sound: nothing is left of it. -/
theorem isSound_departed {transmitter : Transmitter} (reliable : transmitter.IsReliable) :
    (endpoint.departed transmitter).IsSound := by
  refine ⟨reliable, ?_, fun _ => ⟨?_, ?_⟩⟩
  · intro running
    contradiction
  · simp [departed, unfinished, untaken, Queue.upcoming, want, retire, withTransmitter, shut,
      Channel.unlisten, Channel.onBoard]
  · simp [departed, isEnding, Queue.isEnding, retire, withTransmitter, shut, Channel.unlisten,
      Channel.onBoard]

/-- One turn of a read. With `some` answer the read is over, with `none` it goes on. -/
def turn (wanted : Nat) (endpoint : Endpoint) : Outcome Endpoint (Option Bytes) :=
  match endpoint.stream.pending with
  | some cursor =>
    let piece := cursor.rest.take wanted
    let advanced := cursor.advance piece.length
    if advanced.rest.isEmpty then
      (endpoint.withPending none).acknowledge.map fun _ =>
        if piece.isEmpty then none else some piece
    else .ok (some piece) (endpoint.withPending (some advanced))
  | none =>
    endpoint.nextPayload.andThen fun payload after =>
      match payload with
      | none => .ok (some []) after
      | some payload => .ok none (after.withPending (some (.atStart payload)))

/-- A read into a buffer with room is a turn after the other. -/
theorem readSome_eq_turn (some_wanted : wanted ≠ 0) :
    endpoint.readSome wanted =
      match endpoint.turn wanted with
      | .ok (some piece) after => .ok piece after
      | .ok none after => after.readSome wanted
      | .error failure after => .error failure after := by
  rw [readSome, if_neg some_wanted, turn]
  split
  · next cursor pending =>
    simp only [pending]
    split
    · split <;> rename_i acknowledged <;> rw [acknowledged]
      · rfl
      · simp only [Outcome.map]
        split <;> rfl
    · rfl
  · next nothing =>
    simp only [nothing]
    split <;> rename_i found <;> rw [found] <;> rfl

theorem unread_of_turn {after : Endpoint} (turned : endpoint.turn wanted = .ok none after) :
    after.unread < endpoint.unread := by
  unfold turn at turned
  split at turned
  · next cursor pending =>
    extract_lets piece advanced at turned
    split at turned
    · cases acknowledged : (endpoint.withPending none).acknowledge with
      | ok value last =>
        simp only [acknowledged, Outcome.map, Outcome.ok.injEq] at turned
        rw [← turned.2]
        exact unread_of_acknowledge pending acknowledged
      | error failure last =>
        simp only [acknowledged, Outcome.map, reduceCtorEq] at turned
    · simp only [Outcome.ok.injEq, reduceCtorEq, false_and] at turned
  · next nothing =>
    cases found : endpoint.nextPayload with
    | error failure last =>
      simp only [found, Outcome.andThen, reduceCtorEq] at turned
    | ok payload last =>
      cases payload with
      | none => simp [found, Outcome.andThen] at turned
      | some payload =>
        have less := unread_nextPayload nothing found
        simp only [found, Outcome.andThen, Outcome.ok.injEq, true_and] at turned
        rw [← turned]
        simp only [unread, withPending, Cursor.atStart, List.drop_zero] at less ⊢
        omega

/-- Reads by turns: what holds of a read if it holds of the rest of it holds of all reads. -/
theorem turn_induction {motive : Endpoint → Prop}
    (step : ∀ endpoint, (∀ after, turn wanted endpoint = .ok none after → motive after) →
      motive endpoint) (endpoint : Endpoint) : motive endpoint := by
  induction size : endpoint.unread using Nat.strongRecOn generalizing endpoint with
  | ind size ih =>
    subst size
    apply step
    intro after turned
    exact ih _ (unread_of_turn turned) after rfl

/-- The connection with another queue. -/
def withQueue (queue : Queue) (endpoint : Endpoint) : Endpoint :=
  { endpoint with channel.queue := queue }

/-- What a turn does on a connection that does not fail. -/
inductive Turns (wanted : Nat) (endpoint : Endpoint) : Option Bytes → Endpoint → Prop
  /-- Some of the payload at hand is handed out. -/
  | part {cursor : Cursor} (pending : endpoint.stream.pending = some cursor)
      (more : wanted < cursor.rest.length) :
      Turns wanted endpoint (some (cursor.rest.take wanted))
        (endpoint.withPending (some (cursor.advance wanted)))
  /-- All that is left of the payload at hand is handed out, and the payload acknowledged. -/
  | rest {cursor : Cursor} {transmitter : Transmitter}
      (pending : endpoint.stream.pending = some cursor) (all : cursor.rest.length ≤ wanted)
      (reliable : transmitter.IsReliable)
      (accepted : transmitter.out.sink.accepted = endpoint.accepted ++ endpoint.okayFrame.encode) :
      Turns wanted endpoint (if cursor.rest.isEmpty then none else some cursor.rest)
        ((endpoint.withPending none).withTransmitter transmitter)
  /-- The next payload is taken. -/
  | takes {payload : Bytes} {queue : Queue} (nothing : endpoint.stream.pending = none)
      (running : endpoint.stream.closed = false) (steady : queue.IsSteady endpoint.stream.localId)
      (untaken : endpoint.untaken = payload :: (endpoint.withQueue queue).untaken)
      (ending : (endpoint.withQueue queue).isEnding = endpoint.isEnding) :
      Turns wanted endpoint none ((endpoint.withQueue queue).withPending (some (.atStart payload)))
  /-- The end of the stream is met. -/
  | ends {queue : Queue} {transmitter : Transmitter} (nothing : endpoint.stream.pending = none)
      (running : endpoint.stream.closed = false) (untaken : endpoint.untaken = [])
      (ending : endpoint.isEnding = true) (reliable : transmitter.IsReliable)
      (accepted :
        transmitter.out.sink.accepted = endpoint.accepted ++ endpoint.closeFrame.encode) :
      Turns wanted endpoint (some []) ((endpoint.withQueue queue).departed transmitter)
  /-- The end of the stream was met before. -/
  | closed (closed : endpoint.stream.closed = true) : Turns wanted endpoint (some []) endpoint

/-- With a payload at hand, a turn on a reliable connection does what `Turns` says. -/
theorem turn_of_pending {cursor : Cursor} (pending : endpoint.stream.pending = some cursor)
    (reliable : endpoint.channel.transmitter.IsReliable) :
    ∃ answer after, endpoint.turn wanted = .ok answer after ∧
      Turns wanted endpoint answer after := by
  by_cases more : wanted < cursor.rest.length
  · have length : (cursor.rest.take wanted).length = wanted := by
      rw [List.length_take]
      exact Nat.min_eq_left (Nat.le_of_lt more)
    have left : (cursor.advance wanted).rest.isEmpty = false := by
      rw [List.isEmpty_eq_false_iff, ← List.length_pos_iff, Cursor.advance, List.length_drop]
      omega
    refine ⟨_, _, ?_, .part pending more⟩
    simp only [turn, pending, length, left, Bool.false_eq_true, if_false]
  · rw [Nat.not_lt] at more
    have whole : cursor.rest.take wanted = cursor.rest := List.take_of_length_le more
    have left : (cursor.advance cursor.rest.length).rest.isEmpty = true := by
      simp only [Cursor.advance, List.drop_length, List.isEmpty_nil]
    obtain ⟨transmitter, acknowledged, still_reliable, accepted⟩ :=
      @acknowledge_of_isReliable (endpoint.withPending none) reliable
    refine ⟨_, _, ?_, .rest pending more still_reliable accepted⟩
    simp only [turn, pending, whole, left, if_true, acknowledged, Outcome.map]

/-- What a stream that is not closed finds when it looks for its next payload. It fails only at the
end of an input that ended before the stream. -/
theorem nextPayload_cases (sound : endpoint.IsSound) (running : endpoint.stream.closed = false) :
    (∃ payload queue, endpoint.nextPayload = .ok (some payload) (endpoint.withQueue queue) ∧
      queue.IsSteady endpoint.stream.localId ∧
      endpoint.untaken = payload :: (endpoint.withQueue queue).untaken ∧
      (endpoint.withQueue queue).isEnding = endpoint.isEnding) ∨
    (∃ queue transmitter,
      endpoint.nextPayload = .ok none ((endpoint.withQueue queue).departed transmitter) ∧
      endpoint.untaken = [] ∧ endpoint.isEnding = true ∧ transmitter.IsReliable ∧
      transmitter.out.sink.accepted = endpoint.accepted ++ endpoint.closeFrame.encode) ∨
    (∃ failure after, endpoint.nextPayload = .error failure after ∧ endpoint.untaken = [] ∧
      endpoint.isEnding = false) := by
  have steady : endpoint.channel.queue.IsSteady endpoint.want.id := sound.receiving running
  have taking : endpoint.channel.take endpoint.stream.localId Command.write =
      (endpoint.channel.queue.await endpoint.want.id endpoint.want.command).mapState
        fun queue => { endpoint.channel with queue } :=
    congrArg (Outcome.mapState _) (Queue.take_of_isSteady steady)
  unfold nextPayload
  rw [running, taking, if_neg Bool.false_ne_true]
  rcases Queue.await_cases steady with
    ⟨frame, queue, taken, still_steady, first, ending⟩ |
      ⟨queue, ended, -, dead, none_left, -, ending⟩ |
      ⟨expected, actual, queue, failed, -, none_left, -, not_ending⟩
  · rw [taken]
    refine .inl ⟨frame.payload, queue, rfl, still_steady, ?_, ending⟩
    rw [untaken, first]
    rfl
  · obtain ⟨transmitter, reliable, accepted, gone⟩ :=
      @close_of_not_live (endpoint.withQueue queue) running dead sound.sending
    rw [ended]
    refine .inr (.inl ⟨queue, transmitter, ?_, ?_, ending, reliable, accepted⟩)
    · exact congrArg (Outcome.ok none) gone
    · rw [untaken, none_left]
      rfl
  · rw [failed]
    refine .inr (.inr ⟨.truncatedFrame expected actual, _, rfl, ?_, not_ending⟩)
    rw [untaken, none_left]
    rfl

/-- A turn on a stream that is over meets the end again. -/
theorem turn_of_closed (nothing : endpoint.stream.pending = none)
    (closed : endpoint.stream.closed = true) : endpoint.turn wanted = .ok (some []) endpoint := by
  simp only [turn, nothing, nextPayload, closed, if_true, Outcome.andThen]

/-- What a turn can bring. -/
theorem turn_cases (wanted : Nat) (sound : endpoint.IsSound) :
    (∃ answer after, endpoint.turn wanted = .ok answer after ∧
      Turns wanted endpoint answer after) ∨
    (∃ failure after, endpoint.turn wanted = .error failure after ∧
      endpoint.unfinished [] = [] ∧ endpoint.isEnding = false) := by
  cases nothing : endpoint.stream.pending with
  | some cursor => exact .inl (turn_of_pending nothing sound.sending)
  | none =>
    cases closed : endpoint.stream.closed with
    | true => exact .inl ⟨_, _, turn_of_closed nothing closed, .closed closed⟩
    | false =>
      rcases nextPayload_cases sound closed with
        ⟨payload, queue, found, steady, untaken, ending⟩ |
          ⟨queue, transmitter, found, untaken, ending, reliable, accepted⟩ |
          ⟨failure, after, failed, untaken, not_ending⟩
      · refine .inl ⟨_, _, ?_, .takes nothing closed steady untaken ending⟩
        simp only [turn, nothing, found, Outcome.andThen]
      · refine .inl ⟨some [], (endpoint.withQueue queue).departed transmitter, ?_,
          .ends nothing closed untaken ending reliable accepted⟩
        simp only [turn, nothing, found, Outcome.andThen]
      · refine .inr ⟨failure, after, ?_, ?_, not_ending⟩
        · simp only [turn, nothing, failed, Outcome.andThen]
        · rw [unfinished_of_none nothing, untaken]

/-- A turn leaves a sound stream sound. -/
theorem Turns.isSound {answer : Option Bytes} {after : Endpoint}
    (turned : Turns wanted endpoint answer after) (sound : endpoint.IsSound) : after.IsSound := by
  cases turned with
  | part pending =>
    have running := sound.running_of_pending pending
    exact .of_running running sound.sending (sound.receiving running)
  | rest pending all reliable =>
    have running := sound.running_of_pending pending
    exact .of_running running reliable (sound.receiving running)
  | takes nothing running steady => exact .of_running running sound.sending steady
  | ends nothing running untaken ending reliable => exact isSound_departed reliable
  | closed => exact sound

/-- A payload that is at hand after a turn has bytes left, unless it is empty and the turn has just
taken it: one that is used up is acknowledged in the turn that hands out the last of it. -/
theorem Turns.just_taken {answer : Option Bytes} {after : Endpoint} {cursor : Cursor}
    (turned : Turns wanted endpoint answer after) (sound : endpoint.IsSound)
    (pending : after.stream.pending = some cursor) (spent : cursor.rest = []) :
    answer = none ∧ cursor.payload = [] := by
  cases turned with
  | @part before at_hand more =>
    obtain rfl : before.advance wanted = cursor := Option.some.inj pending
    have left : wanted ≥ before.rest.length := by
      rwa [Cursor.advance, List.drop_eq_nil_iff] at spent
    exact absurd more (Nat.not_lt.mpr left)
  | rest => contradiction
  | @takes payload =>
    obtain rfl : Cursor.atStart payload = cursor := Option.some.inj pending
    exact ⟨rfl, spent⟩
  | ends => contradiction
  | closed closed =>
    rw [(sound.nothing closed).1] at pending
    contradiction

/-- The frames that answer so many payloads, and the end of the stream if that was met. -/
def replies (count : Nat) (closed : Bool) (endpoint : Endpoint) : List Frame :=
  List.replicate count endpoint.okayFrame ++ if closed then [endpoint.closeFrame] else []

/-- How a stream stands after `got` has been read: the payloads in `finished` are used up, and
`begun` was read of the one at hand. -/
structure Accounts (start : Endpoint) (got : Bytes) (now : Endpoint) (finished : List Bytes)
    (begun : Bytes) : Prop where
  localId : now.stream.localId = start.stream.localId
  remoteId : now.stream.remoteId = start.stream.remoteId
  payloads : start.unfinished [] = finished ++ now.unfinished begun
  whole : now.stream.pending = none → begun = []
  bytes : got = finished.flatten ++ begun
  accepted : now.accepted = start.accepted ++
    (start.replies finished.length now.stream.closed).flatMap Frame.encode
  ending : now.isEnding = start.isEnding

/-- A stream stands at some moment of a run of reads: `got` is what they have returned so far, and
`call` what the read that is going on asks for, if one is. -/
inductive Moment (start : Endpoint) : Bytes → Option Nat → Endpoint → Prop
  | start : Moment start [] none start
  | calls {wanted : Nat} {got : Bytes} {now : Endpoint} (some_wanted : wanted ≠ 0)
      (before : Moment start got none now) : Moment start got (some wanted) now
  | goesOn {wanted : Nat} {got : Bytes} {now next : Endpoint}
      (before : Moment start got (some wanted) now) (turned : now.turn wanted = .ok none next) :
      Moment start got (some wanted) next
  | returns {wanted : Nat} {got piece : Bytes} {now next : Endpoint}
      (before : Moment start got (some wanted) now)
      (turned : now.turn wanted = .ok (some piece) next) :
      Moment start (got ++ piece) none next

section Run

variable {start now next : Endpoint} {got begun : Bytes} {finished : List Bytes}

/-- The accounts at the start: nothing is used up and nothing was read. -/
theorem accounts_start (running : start.stream.closed = false) : start.Accounts [] start [] [] where
  localId := rfl
  remoteId := rfl
  payloads := rfl
  whole _ := rfl
  bytes := rfl
  accepted := by simp [replies, running]
  ending := rfl

/-- A turn keeps the accounts. -/
theorem Accounts.turns {answer : Option Bytes} (accounts : start.Accounts got now finished begun)
    (sound : now.IsSound) (turned : Turns wanted now answer next) :
    ∃ finished begun, start.Accounts (got ++ answer.getD []) next finished begun := by
  cases turned with
  | @part cursor pending more =>
    refine ⟨finished, begun ++ cursor.rest.take wanted, { accounts with
      payloads := ?_, whole := ?_, bytes := ?_ }⟩
    · rw [accounts.payloads, unfinished_of_pending pending]
      simp [unfinished, withPending, Cursor.advance, untaken, want]
    · intro nothing
      contradiction
    · rw [accounts.bytes, List.append_assoc, Option.getD_some]
  | @rest cursor transmitter pending all reliable accepted =>
    have running := sound.running_of_pending pending
    have okay : now.okayFrame = start.okayFrame := by
      rw [okayFrame, okayFrame, accounts.localId, accounts.remoteId]
    have piece : (if cursor.rest.isEmpty then none else some cursor.rest).getD [] =
        cursor.rest := by
      cases cursor.rest <;> rfl
    refine ⟨finished ++ [begun ++ cursor.rest], [], { accounts with
      payloads := ?_, whole := fun _ => rfl, bytes := ?_, accepted := ?_ }⟩
    · rw [accounts.payloads, unfinished_of_pending pending, List.append_assoc]
      rfl
    · rw [accounts.bytes, piece]
      simp
    · rw [Endpoint.accepted, withTransmitter, accepted, accounts.accepted, running, okay]
      simp [replies, withPending, running, List.replicate_succ']
  | @takes payload queue nothing running steady untaken ending =>
    obtain rfl := accounts.whole nothing
    refine ⟨finished, [], { accounts with
      payloads := ?_, whole := fun _ => rfl, bytes := ?_, ending := ?_ }⟩
    · rw [accounts.payloads, unfinished_of_none nothing, untaken]
      rfl
    · rw [accounts.bytes, Option.getD_none, List.append_nil, List.append_nil]
    · rw [← accounts.ending, ← ending]
      rfl
  | @ends queue transmitter nothing running untaken ending reliable accepted =>
    obtain rfl := accounts.whole nothing
    have close : now.closeFrame = start.closeFrame := by
      rw [closeFrame, closeFrame, accounts.localId, accounts.remoteId]
    have spent := (@isSound_departed (now.withQueue queue) _ reliable).spent rfl
    refine ⟨finished, [], { accounts with
      payloads := ?_, whole := fun _ => rfl, bytes := ?_, accepted := ?_, ending := ?_ }⟩
    · rw [accounts.payloads, unfinished_of_none nothing, untaken, spent.1]
    · rw [accounts.bytes, Option.getD_some, List.append_nil, List.append_nil]
    · have sent : ((now.withQueue queue).departed transmitter).accepted =
          transmitter.out.sink.accepted := rfl
      have closed : ((now.withQueue queue).departed transmitter).stream.closed = true := rfl
      rw [sent, closed, accepted, accounts.accepted, running, close]
      simp [replies]
    · rw [spent.2, ← accounts.ending, ending]
  | closed closed =>
    refine ⟨finished, begun, ?_⟩
    rw [Option.getD_some, List.append_nil]
    exact accounts

/-- What has been read and what has not make up all that there was to read. -/
theorem Accounts.flatten (accounts : start.Accounts got now finished begun) :
    got ++ (now.unfinished []).flatten = (start.unfinished []).flatten := by
  have resumed : (now.unfinished begun).flatten = begun ++ (now.unfinished []).flatten := by
    cases nothing : now.stream.pending with
    | none =>
      rw [accounts.whole nothing]
      rfl
    | some cursor =>
      rw [unfinished_of_pending nothing, unfinished_of_pending nothing, List.flatten_cons,
        List.flatten_cons, List.nil_append, List.append_assoc]
  rw [accounts.payloads, accounts.bytes, List.flatten_append, resumed, List.append_assoc]

/-- A turn that succeeds on a sound stream does what `Turns` says. -/
theorem turns_of_turn {answer : Option Bytes} (sound : now.IsSound)
    (turned : now.turn wanted = .ok answer next) : Turns wanted now answer next := by
  rcases turn_cases wanted sound with ⟨other, after, same, turns⟩ | ⟨_, _, failed, -⟩
  · rw [turned, Outcome.ok.injEq] at same
    obtain ⟨rfl, rfl⟩ := same
    exact turns
  · rw [turned] at failed
    contradiction

/-- At every moment of a run of reads the stream is sound and the accounts are kept. -/
theorem Moment.accounts {call : Option Nat} (sound : start.IsSound)
    (running : start.stream.closed = false) (moment : Moment start got call now) :
    now.IsSound ∧ ∃ finished begun, start.Accounts got now finished begun := by
  induction moment with
  | start => exact ⟨sound, [], [], accounts_start running⟩
  | calls some_wanted before ih => exact ih
  | goesOn before turned ih =>
    obtain ⟨now_sound, finished, begun, accounts⟩ := ih
    have turns := turns_of_turn now_sound turned
    have kept := accounts.turns now_sound turns
    rw [Option.getD_none, List.append_nil] at kept
    exact ⟨turns.isSound now_sound, kept⟩
  | returns before turned ih =>
    obtain ⟨now_sound, finished, begun, accounts⟩ := ih
    have turns := turns_of_turn now_sound turned
    exact ⟨turns.isSound now_sound, accounts.turns now_sound turns⟩

/-- At no moment of a run of reads is a payload at hand that is used up, unless the stream came with
it, or it is empty and the read that is going on has just taken it. -/
theorem Moment.used_up_cases {call : Option Nat} {cursor : Cursor} (sound : start.IsSound)
    (running : start.stream.closed = false) (moment : Moment start got call now)
    (pending : now.stream.pending = some cursor) (spent : cursor.rest = []) :
    start.stream.pending = some cursor ∨ (cursor.payload = [] ∧ call ≠ none) := by
  induction moment with
  | start => exact .inl pending
  | calls some_wanted before ih =>
    rcases ih pending with from_first | ⟨-, going_on⟩
    · exact .inl from_first
    · contradiction
  | goesOn before turned ih =>
    have now_sound := (before.accounts sound running).1
    have empty := ((turns_of_turn now_sound turned).just_taken now_sound pending spent).2
    exact .inr ⟨empty, Option.some_ne_none _⟩
  | returns before turned ih =>
    have now_sound := (before.accounts sound running).1
    have unanswered := ((turns_of_turn now_sound turned).just_taken now_sound pending spent).1
    contradiction

/-- How a read for `wanted` bytes may end if the bytes `left` have not been handed out yet. -/
inductive Answers (start : Endpoint) (got left : Bytes) (wanted : Nat) :
    Outcome Endpoint Bytes → Prop
  /-- Bytes are left, and some of them are handed out. -/
  | bytes {piece : Bytes} {after : Endpoint} (some_left : left ≠ []) (nonempty : piece ≠ [])
      (fits : piece.length ≤ wanted) (moment : Moment start (got ++ piece) none after) :
      Answers start got left wanted (.ok piece after)
  /-- Everything has been handed out, and the device has closed the stream. -/
  | ended {after : Endpoint} (none_left : left = []) (ending : start.isEnding = true)
      (closed : after.stream.closed = true) (moment : Moment start got none after) :
      Answers start got left wanted (.ok [] after)
  /-- Everything has been handed out, and the input ends without closing the stream. -/
  | cut {failure : Failure} {after : Endpoint} (none_left : left = [])
      (not_ending : start.isEnding = false) : Answers start got left wanted (.error failure after)

/-- A read that is going on is answered. -/
theorem Moment.answers_readSome (sound : now.IsSound) (ending : now.isEnding = start.isEnding)
    (some_wanted : wanted ≠ 0) (moment : Moment start got (some wanted) now) :
    Answers start got (now.unfinished []).flatten wanted (now.readSome wanted) := by
  -- Each turn that does not end the read takes a payload or finishes one.
  induction measure : 2 * now.untaken.length + now.stream.pending.toList.length
    using Nat.strongRecOn generalizing now with
  | ind size ih =>
    subst measure
    rw [readSome_eq_turn some_wanted]
    rcases turn_cases wanted sound with
      ⟨answer, after, turned, turns⟩ | ⟨failure, after, failed, none_left, not_ending⟩
    · rw [turned]
      have after_sound := turns.isSound sound
      cases turns with
      | @part cursor pending more =>
        have some_rest : cursor.rest ≠ [] :=
          List.ne_nil_of_length_pos (Nat.lt_of_le_of_lt (Nat.zero_le wanted) more)
        have nonempty : cursor.rest.take wanted ≠ [] := by
          intro empty
          rcases List.take_eq_nil_iff.mp empty with none_wanted | nothing <;> contradiction
        exact .bytes (flatten_ne_nil_of_pending pending some_rest) nonempty
          (List.length_take_le wanted cursor.rest) (.returns moment turned)
      | @rest cursor transmitter pending all reliable accepted =>
        cases empty : cursor.rest with
        | nil =>
          rw [empty] at turned
          have shorter := ih _ ?_ after_sound ending (.goesOn moment turned) rfl
          · rw [unfinished_of_pending pending, empty]
            exact shorter
          · rw [pending]
            exact Nat.lt_succ_self _
        | cons byte more =>
          have some_rest : cursor.rest ≠ [] := by simp [empty]
          rw [empty] at turned all
          exact .bytes (flatten_ne_nil_of_pending pending some_rest) (List.cons_ne_nil byte more)
            all (.returns moment turned)
      | @takes payload queue nothing running steady untaken same =>
        have shorter := ih _ ?_ after_sound (same.trans ending) (.goesOn moment turned) rfl
        · rw [unfinished_of_none nothing, untaken]
          exact shorter
        · rw [untaken, nothing]
          simp only [withPending, Endpoint.untaken, want, Option.toList_some, Option.toList_none,
            List.length_cons, List.length_nil]
          omega
      | ends nothing running untaken now_ending =>
        have returned := Moment.returns moment turned
        rw [List.append_nil] at returned
        refine .ended ?_ (ending ▸ now_ending) rfl returned
        rw [unfinished_of_none nothing, untaken]
        rfl
      | closed closed =>
        have returned := Moment.returns moment turned
        rw [List.append_nil] at returned
        obtain ⟨none_left, now_ending⟩ := sound.spent closed
        refine .ended ?_ (ending ▸ now_ending) closed returned
        rw [none_left]
        rfl
    · rw [failed]
      refine .cut ?_ (ending ▸ not_ending)
      rw [none_left]
      rfl

/-- An answer is as good in whatever form failures are put. -/
theorem Answers.mapFailure {left : Bytes} {outcome : Outcome Endpoint Bytes}
    (answers : Answers start got left wanted outcome) (form : Failure → Failure) :
    Answers start got left wanted (outcome.mapFailure form) := by
  cases answers with
  | bytes some_left nonempty fits moment => exact .bytes some_left nonempty fits moment
  | ended none_left ending closed moment => exact .ended none_left ending closed moment
  | cut none_left not_ending => exact .cut none_left not_ending

/-- While a stream takes a payload, all payloads taken before are used up. -/
theorem Accounts.all_finished {answer : Option Bytes} (sound : now.IsSound)
    (accounts : start.Accounts got now finished begun)
    (turned : now.turn wanted = .ok answer next) (taken : next.untaken ≠ now.untaken) :
    start.unfinished [] = finished ++ now.untaken := by
  have turns := turns_of_turn sound turned
  have nothing : now.stream.pending = none := by
    cases turns with
    | part | rest => exact absurd rfl taken
    | takes nothing | ends nothing => exact nothing
    | closed closed => exact (sound.nothing closed).1
  rw [accounts.payloads, unfinished_of_none nothing]

/-- A read of a stream that is over returns nothing and changes nothing. -/
theorem read_of_closed (sound : now.IsSound) (closed : now.stream.closed = true) (wanted : Nat) :
    now.read wanted = .ok [] now := by
  have same : now.readSome wanted = .ok [] now := by
    by_cases none_wanted : wanted = 0
    · rw [readSome, if_pos none_wanted]
    · rw [readSome_eq_turn none_wanted, turn_of_closed (sound.nothing closed).1 closed]
  rw [read, same, Outcome.mapFailure]

/-- What there is to read when the device sends these frames. -/
theorem unfinished_of_wire {frames : List Frame} (exact : ∀ frame ∈ frames, frame.IsExact)
    (wire : start.channel.queue.receiver.wire = frames.flatMap Frame.encode)
    (live : start.isLive = true) :
    start.unfinished [] = (start.stream.pending.map Cursor.rest).toList ++
        (start.channel.queue.board.queueOf start.stream.localId Command.write ++
          (frames.takeWhile (!·.closes start.stream.localId)).filter
            (Frame.isMailFor start.want)).map (·.payload) ∧
      start.isEnding = frames.any (Frame.closes start.stream.localId) := by
  have arriving := Receiver.frames_of_wire exact wire
  have board_live : start.channel.queue.board.isLive start.stream.localId = true := live
  constructor
  · simp only [unfinished, untaken, Queue.upcoming, want, board_live, if_true, arriving,
      List.nil_append]
  · simp only [isEnding, Queue.isEnding, board_live, arriving, Bool.not_true, Bool.false_or]

/-- **Reads hand out what the device sends.** An open stream on a connection that does not fail is
read, with whatever sizes. At every moment what was returned is the front of what there is to read,
there is one acknowledgement for each payload used up, sent before the next payload is taken, and
one closing frame if the end was met. No acknowledgement is owed: between reads a payload at hand
has bytes left, and within a read it has, or it is an empty one that was just taken, if this was so
from the first. A read returns some of what is left, or meets the end once nothing is left; when it
has met the end it returns nothing and sends nothing any more. -/
theorem reads_hand_out_payloads {call : Option Nat} (sound : start.IsSound)
    (running : start.stream.closed = false) (moment : Moment start got call now) :
    (∃ finished begun, start.Accounts got now finished begun ∧
      ∀ wanted answer next, now.turn wanted = .ok answer next → next.untaken ≠ now.untaken →
        start.unfinished [] = finished ++ now.untaken) ∧
    ((∀ cursor, start.stream.pending = some cursor → cursor.rest ≠ []) →
      ∀ cursor, now.stream.pending = some cursor →
        (call = none → cursor.rest ≠ []) ∧ (cursor.rest = [] → cursor.payload = [])) ∧
    got ++ (now.unfinished []).flatten = (start.unfinished []).flatten ∧
    (call = none → ∀ wanted, wanted ≠ 0 →
      Answers start got (now.unfinished []).flatten wanted (now.read wanted)) ∧
    (now.stream.closed = true → now.unfinished [] = [] ∧
      ∀ wanted, now.read wanted = .ok [] now) ∧
    now.read 0 = .ok [] now := by
  obtain ⟨now_sound, finished, begun, accounts⟩ := moment.accounts sound running
  refine ⟨⟨finished, begun, accounts, ?_⟩, ?_, accounts.flatten, ?_, ?_, ?_⟩
  · intro wanted answer next turned taken
    exact accounts.all_finished now_sound turned taken
  · intro from_first cursor pending
    have just_taken (spent : cursor.rest = []) : cursor.payload = [] ∧ call ≠ none := by
      rcases moment.used_up_cases sound running pending spent with started | just_taken
      · exact absurd spent (from_first cursor started)
      · exact just_taken
    exact ⟨fun between spent => (just_taken spent).2 between, fun spent => (just_taken spent).1⟩
  · rintro rfl wanted some_wanted
    have reading := Moment.calls some_wanted moment
    exact (reading.answers_readSome now_sound accounts.ending some_wanted).mapFailure _
  · intro closed
    exact ⟨(now_sound.spent closed).1, read_of_closed now_sound closed⟩
  · rw [read, readSome, if_pos rfl, Outcome.mapFailure]

end Run

/-- Two payloads, one of them empty, and the end of the stream, with another stream's frame in
between, are read byte by byte. After the first byte the payload at hand has bytes left and nothing
has been acknowledged; at the end both payloads have. -/
theorem reads_hand_out_payloads_to_end :
    let frames : List Frame := [.make Command.write 9 1 [104, 105], .make Command.write 8 2 [7],
      .make Command.write 9 1 [], .make Command.close 9 1 []]
    let start : Endpoint := {
      stream := .opened 1 9 4096
      channel := { queue := {
        board := ({} : Switchboard).listen 1
        receiver := { source := [.bytes (frames.flatMap Frame.encode) 20] } } } }
    let step (endpoint : Endpoint) := (endpoint.turn 1).state
    let middle := step (step start)
    let last := step (step (step (step middle)))
    start.unfinished [] = [[104, 105], []] ∧ Moment start [104] none middle ∧
      (∀ cursor, middle.stream.pending = some cursor → cursor.rest ≠ []) ∧
      middle.accepted = start.accepted ∧ Moment start [104, 105] none last ∧
      last.stream.closed = true ∧
      last.accepted = start.accepted ++ (start.replies 2 true).flatMap Frame.encode := by
  intro frames start step middle last
  have sound : start.IsSound :=
    .of_running rfl ⟨rfl, rfl, .of_regular rfl rfl⟩ ⟨rfl, rfl, Source.isClean_bytes _ _⟩
  have exact : ∀ frame ∈ frames, frame.IsExact := by
    simp only [frames, List.forall_mem_cons]
    exact ⟨rfl, rfl, rfl, rfl, fun _ member => absurd member List.not_mem_nil⟩
  have payloads : start.unfinished [] = [[104, 105], []] := by
    rw [(unfinished_of_wire exact (List.append_nil _) rfl).1]
    rfl
  have one_byte : Moment start ([] ++ [104]) none middle := by
    refine .returns (.goesOn (.calls (by decide) .start) (Outcome.eq_ok_of_toOption ?_))
      (Outcome.eq_ok_of_toOption ?_)
    all_goals decide +kernel
  have moment : Moment start ([] ++ [104] ++ [105] ++ []) none last := by
    -- The second read uses up the payload, the third one passes over the empty payload and meets
    -- the end.
    refine .returns (.goesOn (.goesOn (.calls (by decide) (.returns (.calls (by decide) one_byte)
      (Outcome.eq_ok_of_toOption ?_))) (Outcome.eq_ok_of_toOption ?_))
      (Outcome.eq_ok_of_toOption ?_)) (Outcome.eq_ok_of_toOption ?_)
    all_goals decide +kernel
  obtain ⟨⟨used_up, begun, accounts, -⟩, owing, -⟩ := reads_hand_out_payloads sound rfl one_byte
  have left : ∀ cursor, middle.stream.pending = some cursor → cursor.rest ≠ [] := by
    intro cursor pending
    exact (owing (fun _ at_first => absurd at_first (Option.some_ne_none _).symm) cursor pending).1
      rfl
  have unacknowledged : middle.accepted = start.accepted := by
    have running : middle.stream.closed = false := by decide +kernel
    have accepted := accounts.accepted
    cases used_up with
    | nil =>
      rw [running] at accepted
      exact accepted.trans (List.append_nil _)
    | cons payload others =>
      have first : payload = [104, 105] :=
        (List.cons.inj (payloads.symm.trans accounts.payloads)).1.symm
      have length := congrArg List.length accounts.bytes
      simp [first] at length
  obtain ⟨⟨finished, begun, accounts, -⟩, -, -, -, spent, -⟩ :=
    reads_hand_out_payloads sound rfl moment
  have closed : last.stream.closed = true := by decide +kernel
  have nothing : last.stream.pending = none := Option.isNone_iff_eq_none.mp (by decide +kernel)
  have all : finished = [[104, 105], []] := by
    have none_left := (spent closed).1
    rw [unfinished_of_none nothing] at none_left
    have whole := accounts.payloads
    rw [payloads, unfinished_of_none nothing, none_left, List.append_nil] at whole
    exact whole.symm
  have two : finished.length = 2 := congrArg List.length all
  have accepted := accounts.accepted
  rw [two, closed] at accepted
  exact ⟨payloads, one_byte, left, unacknowledged, moment, closed, accepted⟩

end DebugBridge.Endpoint

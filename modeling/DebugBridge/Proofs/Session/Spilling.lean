import DebugBridge.Proofs.Session.Reading

/-!
# What a failing read loses

A read returns the last bytes of a payload only once the payload has been acknowledged. If that
fails the payload is gone all the same, and with it the bytes that the read was about to return. So
a read that fails loses nothing, or just what was left of the first payload with bytes left. Reads
return all that the device sends if and only if none of those that fail loses anything.
-/

namespace DebugBridge

namespace Queue

variable {want : Want} {queue : Queue}

/-- As long as the mailbox of an id is live, the connection stands and the source does not fail. -/
def IsFed (id : UInt32) (queue : Queue) : Prop :=
  queue.board.isLive id = true →
    queue.board.disconnected = false ∧ queue.receiver.IsClean

/-- A queue that does not fail feeds its takers. -/
theorem IsSteady.isFed {id : UInt32} (steady : queue.IsSteady id) : queue.IsFed id :=
  fun _ => ⟨steady.connected, steady.clean⟩

/-- A taker whose mailbox is closed needs nothing more. -/
theorem isFed_of_not_isLive {id : UInt32} (dead : queue.board.isLive id = false) :
    queue.IsFed id := by
  intro live
  rw [dead] at live
  contradiction

/-- A closed mailbox gives what waits in it, without any reading. -/
private theorem await_of_not_isLive (dead : queue.board.isLive want.id = false) :
    (∃ frame after, queue.await want.id want.command = .ok frame after ∧ after.IsFed want.id ∧
      queue.upcoming want = frame :: after.upcoming want) ∨
    (∃ failure after, queue.await want.id want.command = .error failure after ∧
      after.IsFed want.id ∧ queue.upcoming want = [] ∧ after.upcoming want = []) := by
  rw [await]
  split <;> rename_i polled
  · obtain ⟨-, -, live, -⟩ := Switchboard.poll_frame polled
    refine .inl ⟨_, _, rfl, isFed_of_not_isLive ?_, upcoming_poll polled⟩
    rw [live]
    exact dead
  · obtain ⟨rfl, empty⟩ := Switchboard.poll_refused polled
    have nothing : queue.upcoming want = [] := by simp [upcoming, empty, dead]
    exact .inr ⟨_, _, rfl, isFed_of_not_isLive dead, nothing, nothing⟩
  · obtain ⟨-, unanswered⟩ := Switchboard.poll_nothing_iff.mp polled
    rw [unanswered.live] at dead
    contradiction

/-- Taking gives the next frame to come. It fails only if there is none, and then none will come. -/
theorem IsFed.take_cases (fed : queue.IsFed want.id) :
    (∃ frame after, queue.take want.id want.command = .ok frame after ∧ after.IsFed want.id ∧
      queue.upcoming want = frame :: after.upcoming want) ∨
    (∃ failure after, queue.take want.id want.command = .error failure after ∧
      after.IsFed want.id ∧ queue.upcoming want = [] ∧ after.upcoming want = []) := by
  unfold take
  split
  · next failure turned =>
    have unknown : queue.board.isListening want.id = false := by
      cases listening : queue.board.isListening want.id with
      | false => rfl
      | true =>
        rw [Switchboard.turnAway_eq_none_iff.mpr listening] at turned
        contradiction
    have dead : queue.board.isLive want.id = false := by
      cases live : queue.board.isLive want.id with
      | false => rfl
      | true =>
        rw [Switchboard.isListening_of_isLive live] at unknown
        contradiction
    have nothing : queue.upcoming want = [] := by
      simp [upcoming, Switchboard.queueOf_of_not_isListening unknown, dead]
    exact .inr ⟨failure, queue, rfl, fed, nothing, nothing⟩
  · cases live : queue.board.isLive want.id with
    | false => exact await_of_not_isLive live
    | true =>
      have steady : queue.IsSteady want.id :=
        ⟨Switchboard.isListening_of_isLive live, (fed live).1, (fed live).2⟩
      rcases await_cases steady with
        ⟨frame, after, taken, still_steady, first, -⟩ |
          ⟨after, ended, -, dead, none_left, none_later, -⟩ |
          ⟨expected, actual, after, failed, dead, none_left, none_later, -⟩
      · exact .inl ⟨frame, after, taken, still_steady.isFed, first⟩
      · exact .inr ⟨_, after, ended, isFed_of_not_isLive dead, none_left, none_later⟩
      · exact .inr ⟨_, after, failed, isFed_of_not_isLive dead, none_left, none_later⟩

end Queue

namespace Endpoint

variable {wanted : Nat} {endpoint : Endpoint}

/-- The bytes that reads can still return. -/
def unreturned (endpoint : Endpoint) : Bytes :=
  (endpoint.unfinished []).flatten

/-- A stream on a connection whose receiving side does not fail, whatever its sending side does. -/
structure IsFed (endpoint : Endpoint) : Prop where
  receiving : endpoint.channel.queue.IsFed endpoint.stream.localId
  spent : endpoint.stream.closed = true → endpoint.unfinished [] = []

/-- A stream that has a payload at hand is not over. -/
theorem IsFed.running_of_pending {cursor : Cursor} (fed : endpoint.IsFed)
    (pending : endpoint.stream.pending = some cursor) : endpoint.stream.closed = false := by
  cases closed : endpoint.stream.closed with
  | false => rfl
  | true =>
    have none_left := fed.spent closed
    rw [unfinished_of_pending pending] at none_left
    contradiction

/-- Acknowledging concerns the transmitter only. -/
theorem state_acknowledge (endpoint : Endpoint) :
    ∃ transmitter, endpoint.acknowledge.state = endpoint.withTransmitter transmitter :=
  ⟨_, by rw [acknowledge, send, Channel.send, Outcome.state_mapState, Outcome.state_mapState]; rfl⟩

/-- Sending changes nothing of a stream but what is collected. -/
theorem stream_sendCollected (endpoint : Endpoint) :
    ∃ bytes, endpoint.sendCollected.state.stream =
      { endpoint.stream with outgoing := bytes } := by
  obtain ⟨stream, channel⟩ := endpoint
  simp only [sendCollected]
  split
  · exact ⟨stream.outgoing, rfl⟩
  · split
    · exact ⟨[], rfl⟩
    · cases sent : send (Transmitter.sendWrite stream.localId stream.remoteId stream.outgoing)
        ⟨stream, channel⟩ with
      | error failure after =>
        have same := congrArg (fun outcome => outcome.state.stream) sent
        simp only [send, Outcome.state_mapState, Outcome.state_error] at same
        exact ⟨stream.outgoing, same.symm⟩
      | ok value after =>
        have same := congrArg (fun outcome => outcome.state.stream) sent
        simp only [send, Outcome.state_mapState, Outcome.state_ok] at same
        refine ⟨[], ?_⟩
        simp only [Outcome.andThen, Outcome.state_ok, same]

/-- Sending what is left changes nothing of a stream but what is collected. -/
theorem stream_sendRemainder (endpoint : Endpoint) :
    ∃ bytes, endpoint.sendRemainder.state.stream =
      { endpoint.stream with outgoing := bytes } := by
  have collected := stream_sendCollected endpoint
  unfold sendRemainder
  split
  · next sent => rwa [sent] at collected
  · exact collected

/-- A stream that has been closed has nothing to return. -/
theorem isFed_close (running : endpoint.stream.closed = false) :
    endpoint.close.state.IsFed ∧ endpoint.close.state.unfinished [] = [] := by
  obtain ⟨bytes, stream⟩ := stream_sendRemainder endpoint.shut
  unfold close
  rw [running, if_neg Bool.false_ne_true]
  extract_lets flushed announced after
  have same : after.stream = { endpoint.shut.stream with outgoing := bytes } := by
    rw [← stream]
    simp only [after, retire, announced, announceClose, send, Outcome.state_mapState, flushed]
  have unlistened : after.channel.queue.board =
      announced.state.channel.queue.board.unlisten after.stream.localId := rfl
  have dead : after.channel.queue.board.isLive after.stream.localId = false := by
    rw [unlistened, Switchboard.isLive_unlisten]
    simp
  have nothing : after.unfinished [] = [] := by
    have none_pending : after.stream.pending = none := by
      rw [same]
      rfl
    rw [unfinished_of_none none_pending, untaken, Queue.upcoming, want, dead, unlistened,
      Switchboard.queueOf_unlisten]
    simp
  rw [Outcome.state_ofResult]
  exact ⟨⟨Queue.isFed_of_not_isLive dead, fun _ => nothing⟩, nothing⟩

/-- What a stream finds when it looks for its next payload, whatever becomes of what it sends. If
there is none, none will come. -/
theorem IsFed.nextPayload_cases (fed : endpoint.IsFed)
    (nothing : endpoint.stream.pending = none) :
    (∃ payload queue, endpoint.nextPayload = .ok (some payload) (endpoint.withQueue queue) ∧
      endpoint.stream.closed = false ∧ (endpoint.withQueue queue).IsFed ∧
      endpoint.untaken = payload :: (endpoint.withQueue queue).untaken) ∨
    (endpoint.nextPayload.result.toOption.join = none ∧ endpoint.nextPayload.state.IsFed ∧
      endpoint.unfinished [] = [] ∧ endpoint.nextPayload.state.unfinished [] = []) := by
  cases closed : endpoint.stream.closed with
  | true =>
    have ended : endpoint.nextPayload = .ok none endpoint := by rw [nextPayload, if_pos closed]
    rw [ended]
    exact .inr ⟨rfl, fed, fed.spent closed, fed.spent closed⟩
  | false =>
    have still_running (queue : Queue) (receiving : queue.IsFed endpoint.stream.localId) :
        (endpoint.withQueue queue).IsFed :=
      ⟨receiving, fun ended => absurd (closed.symm.trans ended) Bool.false_ne_true⟩
    rcases @Queue.IsFed.take_cases endpoint.want _ fed.receiving with
      ⟨frame, queue, taken, receiving, first⟩ |
        ⟨failure, queue, failed, receiving, none_left, none_later⟩
    · have found : endpoint.nextPayload =
          .ok (some frame.payload) (endpoint.withQueue queue) := by
        simp only [nextPayload, closed, Bool.false_eq_true, if_false, Channel.take]
        simp only [want] at taken
        rw [taken]
        rfl
      refine .inl ⟨frame.payload, queue, found, rfl, still_running queue receiving, ?_⟩
      rw [untaken, first]
      rfl
    · have looked : endpoint.nextPayload =
          if failure.isEndOfStream then .ok none (endpoint.withQueue queue).close.state
          else .error failure (endpoint.withQueue queue) := by
        simp only [nextPayload, closed, Bool.false_eq_true, if_false, Channel.take]
        simp only [want] at failed
        rw [failed]
        rfl
      have none_before : endpoint.unfinished [] = [] := by
        rw [unfinished_of_none nothing, untaken, none_left]
        rfl
      rw [looked]
      split
      · obtain ⟨gone, none_after⟩ := @isFed_close (endpoint.withQueue queue) closed
        exact .inr ⟨rfl, gone, none_before, none_after⟩
      · refine .inr ⟨rfl, still_running queue receiving, none_before, ?_⟩
        have none_pending : (endpoint.withQueue queue).stream.pending = none := nothing
        rw [Outcome.state_error, unfinished_of_none none_pending, untaken]
        exact congrArg (List.map _) none_later

/-- What was left of the first payload with bytes left is gone, and the read has asked for that much
at least. -/
def Spills (wanted : Nat) (before after : Endpoint) : Prop :=
  ∃ lost, lost ≠ [] ∧ lost.length ≤ wanted ∧
    (before.unfinished []).dropWhile List.isEmpty = lost :: after.unfinished []

/-- Empty payloads in front make no difference to the bytes. -/
theorem flatten_dropWhile_isEmpty (payloads : List Bytes) :
    (payloads.dropWhile List.isEmpty).flatten = payloads.flatten := by
  induction payloads with
  | nil => rfl
  | cons payload payloads ih => cases payload <;> simp [ih]

/-- A read that spills leaves less to be returned. -/
theorem Spills.length_lt {before after : Endpoint} (spills : Spills wanted before after) :
    after.unreturned.length < before.unreturned.length := by
  obtain ⟨lost, some_lost, -, first⟩ := spills
  have some_bytes := List.length_pos_iff.mpr some_lost
  rw [unreturned, unreturned, ← flatten_dropWhile_isEmpty (before.unfinished []), first,
    List.flatten_cons, List.length_append]
  omega

/-- What a read does to the bytes that are left. Failing is harmless only where nothing is left, or
an empty payload is to be acknowledged. -/
inductive Spends (wanted : Nat) (before : Endpoint) : Outcome Endpoint Bytes → Prop
  | returns {piece : Bytes} {after : Endpoint} (fed : after.IsFed)
      (front : before.unreturned = piece ++ after.unreturned) :
      Spends wanted before (.ok piece after)
  | harmless {failure : Failure} {after : Endpoint} (fed : after.IsFed)
      (kept : after.unreturned = before.unreturned)
      (why : before.unreturned = [] ∨ [] ∈ before.unfinished []) :
      Spends wanted before (.error failure after)
  | spills {failure : Failure} {after : Endpoint} (fed : after.IsFed)
      (spills : Spills wanted before after) : Spends wanted before (.error failure after)

/-- What a read does to the bytes does not depend on how its failure is put. -/
theorem Spends.mapFailure {outcome : Outcome Endpoint Bytes}
    (spends : Spends wanted endpoint outcome) (form : Failure → Failure) :
    Spends wanted endpoint (outcome.mapFailure form) := by
  cases spends with
  | returns fed front => exact .returns fed front
  | harmless fed kept why => exact .harmless fed kept why
  | spills fed spills => exact .spills fed spills

/-- A read may be seen from before a turn that has taken a payload. -/
theorem Spends.of_taken {before : Endpoint} {outcome : Outcome Endpoint Bytes}
    (spends : Spends wanted endpoint outcome)
    (same : before.unfinished [] = endpoint.unfinished []) :
    Spends wanted before outcome := by
  have left : before.unreturned = endpoint.unreturned := congrArg List.flatten same
  cases spends with
  | returns fed front => exact .returns fed (left.trans front)
  | harmless fed kept why =>
    rw [← left, ← same] at why
    exact .harmless fed (kept.trans left.symm) why
  | spills fed spills =>
    rw [Spills, ← same] at spills
    exact .spills fed spills

/-- A read may be seen from before a turn that has passed over an empty payload. -/
theorem Spends.of_passed {before : Endpoint} {outcome : Outcome Endpoint Bytes}
    (spends : Spends wanted endpoint outcome)
    (passed : before.unfinished [] = [] :: endpoint.unfinished []) :
    Spends wanted before outcome := by
  have left : before.unreturned = endpoint.unreturned := by
    rw [unreturned, passed, List.flatten_cons, List.nil_append, unreturned]
  cases spends with
  | returns fed front => exact .returns fed (left.trans front)
  | harmless fed kept why =>
    refine .harmless fed (kept.trans left.symm) (.inr ?_)
    rw [passed]
    exact List.mem_cons_self
  | spills fed spills =>
    obtain ⟨lost, some_lost, fits, first⟩ := spills
    refine .spills fed ⟨lost, some_lost, fits, ?_⟩
    rw [passed, List.dropWhile_cons_of_pos rfl]
    exact first

/-- Once the payload at hand is put away, only the payloads behind it are left. -/
theorem IsFed.put_away {cursor : Cursor} (fed : endpoint.IsFed)
    (pending : endpoint.stream.pending = some cursor) :
    (endpoint.withPending none).acknowledge.state.IsFed ∧ endpoint.unfinished [] =
      cursor.rest :: (endpoint.withPending none).acknowledge.state.unfinished [] := by
  obtain ⟨transmitter, acknowledged⟩ := state_acknowledge (endpoint.withPending none)
  rw [acknowledged]
  refine ⟨⟨fed.receiving, fun closed => ?_⟩, ?_⟩
  · rw [withTransmitter, withPending, fed.running_of_pending pending] at closed
    contradiction
  · rw [unfinished_of_pending pending]
    rfl

/-- All of the payload is returned only if so much was asked for. -/
private theorem length_le_of_advance {cursor : Cursor}
    (whole : (cursor.advance (cursor.rest.take wanted).length).rest.isEmpty = true) :
    cursor.rest.length ≤ wanted := by
  rw [List.isEmpty_iff, Cursor.advance, List.drop_eq_nil_iff, List.length_take] at whole
  exact Nat.le_trans whole (Nat.min_le_left _ _)

/-- What a turn does to the bytes that are left, whatever becomes of its acknowledgement. -/
inductive TurnSpends (wanted : Nat) (before : Endpoint) : Outcome Endpoint (Option Bytes) → Prop
  | returns {piece : Bytes} {after : Endpoint} (fed : after.IsFed)
      (front : before.unreturned = piece ++ after.unreturned)
      (some_piece : before.unreturned ≠ [] → piece ≠ []) :
      TurnSpends wanted before (.ok (some piece) after)
  /-- The next payload is taken. -/
  | takes {after : Endpoint} (fed : after.IsFed)
      (same : before.unfinished [] = after.unfinished []) :
      TurnSpends wanted before (.ok none after)
  /-- An empty payload is passed over. -/
  | passes {after : Endpoint} (fed : after.IsFed)
      (passed : before.unfinished [] = [] :: after.unfinished []) :
      TurnSpends wanted before (.ok none after)
  | fails {failure : Failure} {after : Endpoint}
      (spends : Spends wanted before (.error failure after)) :
      TurnSpends wanted before (.error failure after)

/-- A turn that hands out the last of the payload at hand, or fails to acknowledge it. -/
private theorem IsFed.spends_last {cursor : Cursor} (fed : endpoint.IsFed)
    (pending : endpoint.stream.pending = some cursor) (all : cursor.rest.length ≤ wanted) :
    TurnSpends wanted endpoint ((endpoint.withPending none).acknowledge.map fun _ =>
      if cursor.rest.isEmpty then none else some cursor.rest) := by
  obtain ⟨last_fed, first⟩ := fed.put_away pending
  cases acknowledged : (endpoint.withPending none).acknowledge with
  | ok value last =>
    rw [acknowledged, Outcome.state_ok] at last_fed first
    rw [Outcome.map]
    split
    · next empty =>
      rw [List.isEmpty_iff.mp empty] at first
      exact .passes last_fed first
    · next some_rest =>
      refine .returns last_fed ?_ fun _ => by simpa using some_rest
      rw [unreturned, first, List.flatten_cons, unreturned]
  | error failure last =>
    rw [acknowledged, Outcome.state_error] at last_fed first
    apply TurnSpends.fails
    by_cases empty : cursor.rest = []
    · rw [empty] at first
      refine .harmless last_fed ?_ (.inr ?_)
      · rw [unreturned, unreturned, first, List.flatten_cons, List.nil_append]
      · rw [first]
        exact List.mem_cons_self
    · refine .spills last_fed ⟨cursor.rest, empty, all, ?_⟩
      rw [first, List.dropWhile_cons_of_neg (by simpa using empty)]

/-- A turn that hands out some of the payload at hand. -/
private theorem IsFed.spends_part {cursor : Cursor} (fed : endpoint.IsFed)
    (some_wanted : wanted ≠ 0) (pending : endpoint.stream.pending = some cursor)
    (part : ¬(cursor.advance (cursor.rest.take wanted).length).rest.isEmpty = true) :
    TurnSpends wanted endpoint (.ok (some (cursor.rest.take wanted))
      (endpoint.withPending (some (cursor.advance (cursor.rest.take wanted).length)))) := by
  refine .returns ⟨fed.receiving, fun closed => ?_⟩ ?_ fun _ nothing => ?_
  · rw [withPending, fed.running_of_pending pending] at closed
    contradiction
  · have moved (cursor : Cursor) : (endpoint.withPending (some cursor)).unfinished [] =
        cursor.rest :: endpoint.untaken := rfl
    have split : cursor.rest = cursor.rest.take wanted ++
        (cursor.advance (cursor.rest.take wanted).length).rest :=
      (List.prefix_iff_eq_append.mp (List.take_prefix wanted cursor.rest)).symm
    rw [unreturned, unreturned, unfinished_of_pending pending, moved, List.nil_append,
      List.flatten_cons, List.flatten_cons, ← List.append_assoc, ← split]
  · rcases List.take_eq_nil_iff.mp nothing with none_wanted | none_left
    · contradiction
    · apply part
      simp [Cursor.advance, none_left]

/-- A turn that looks for the next payload. -/
private theorem IsFed.spends_next (fed : endpoint.IsFed)
    (nothing : endpoint.stream.pending = none) :
    TurnSpends wanted endpoint (endpoint.turn wanted) := by
  simp only [turn, nothing]
  rcases fed.nextPayload_cases nothing with
    ⟨payload, queue, found, running, last_fed, first⟩ |
      ⟨none_found, last_fed, none_left, none_later⟩
  · rw [found]
    refine .takes ⟨last_fed.receiving, fun closed => ?_⟩ ?_
    · exact absurd (running.symm.trans closed) Bool.false_ne_true
    · rw [unfinished_of_none nothing, first]
      rfl
  · have nothing_left : endpoint.unreturned = [] := congrArg List.flatten none_left
    cases looked : endpoint.nextPayload with
    | error failure last =>
      rw [looked, Outcome.state_error] at last_fed none_later
      refine .fails (.harmless last_fed ?_ (.inl nothing_left))
      rw [nothing_left, unreturned, none_later]
      rfl
    | ok payload last =>
      rw [looked, Outcome.state_ok] at last_fed none_later
      have ended : payload = none := by
        rw [looked] at none_found
        exact none_found
      subst ended
      refine .returns last_fed ?_ fun some_left => absurd nothing_left some_left
      rw [unreturned, unreturned, none_left, none_later]
      rfl

/-- A turn of a fed stream does to the bytes what `TurnSpends` says. -/
theorem IsFed.spends_turn (fed : endpoint.IsFed) (some_wanted : wanted ≠ 0) :
    TurnSpends wanted endpoint (endpoint.turn wanted) := by
  cases pending : endpoint.stream.pending with
  | none => exact fed.spends_next pending
  | some cursor =>
    simp only [turn, pending]
    split
    · next whole =>
      have all := length_le_of_advance whole
      rw [List.take_of_length_le all]
      exact fed.spends_last pending all
    · next part => exact fed.spends_part some_wanted pending part

/-- Every read returns bytes from the front of those that are left, or fails and loses nothing, or
fails and loses what was left of a payload. -/
theorem IsFed.spends_readSome (fed : endpoint.IsFed) :
    Spends wanted endpoint (endpoint.readSome wanted) := by
  by_cases none_wanted : wanted = 0
  · rw [readSome, if_pos none_wanted]
    exact .returns fed rfl
  · induction endpoint using @turn_induction wanted with
    | step endpoint ih =>
      have spends := fed.spends_turn none_wanted
      rw [readSome_eq_turn none_wanted]
      generalize turned : endpoint.turn wanted = outcome at spends
      cases spends with
      | returns last_fed front => exact .returns last_fed front
      | takes last_fed same => exact (ih _ turned last_fed).of_taken same
      | passes last_fed passed => exact (ih _ turned last_fed).of_passed passed
      | fails spends => exact spends

/-- If sending works, acknowledging does, and still will. -/
theorem acknowledge_of_canSend (can_send : endpoint.channel.transmitter.CanSend) :
    ∃ after, endpoint.acknowledge = .ok () after ∧ after.channel.transmitter.CanSend := by
  obtain ⟨transmitter, sent, reliable, -⟩ := can_send.send Command.okay endpoint.stream.localId
    endpoint.stream.remoteId []
  refine ⟨endpoint.withTransmitter transmitter, ?_, reliable.is_open, reliable.sink⟩
  simp only [acknowledge, send, Channel.send, Transmitter.sendOkay, sent, Outcome.mapState,
    withTransmitter]

/-- While bytes are left and nothing fails, a turn succeeds. -/
theorem IsFed.turn_of_canSend (fed : endpoint.IsFed)
    (can_send : endpoint.channel.transmitter.CanSend) (some_left : endpoint.unreturned ≠ []) :
    ∃ answer after, endpoint.turn wanted = .ok answer after ∧
      after.channel.transmitter.CanSend := by
  cases pending : endpoint.stream.pending with
  | some cursor =>
    simp only [turn, pending]
    split
    · obtain ⟨after, sent, can_still_send⟩ :=
        @acknowledge_of_canSend (endpoint.withPending none) can_send
      rw [sent]
      exact ⟨_, after, rfl, can_still_send⟩
    · exact ⟨_, _, rfl, can_send⟩
  | none =>
    simp only [turn, pending]
    rcases fed.nextPayload_cases pending with ⟨payload, queue, found, -⟩ | ⟨-, -, none_left, -⟩
    · rw [found]
      exact ⟨_, _, rfl, can_send⟩
    · rw [unreturned, none_left] at some_left
      contradiction

/-- While bytes are left and nothing fails, a read that asks for bytes returns some. -/
theorem IsFed.readSome_of_canSend (fed : endpoint.IsFed)
    (can_send : endpoint.channel.transmitter.CanSend)
    (some_wanted : wanted ≠ 0) (some_left : endpoint.unreturned ≠ []) :
    ∃ piece after, endpoint.readSome wanted = .ok piece after ∧ piece ≠ [] ∧
      after.channel.transmitter.CanSend := by
  induction endpoint using @turn_induction wanted with
  | step endpoint ih =>
    obtain ⟨answer, after, turned, can_still_send⟩ :=
      @IsFed.turn_of_canSend wanted _ fed can_send some_left
    have spends := fed.spends_turn some_wanted
    rw [turned] at spends
    rw [readSome_eq_turn some_wanted, turned]
    cases spends with
    | @returns piece _ _ _ some_piece =>
      exact ⟨piece, after, rfl, some_piece some_left, can_still_send⟩
    | takes last_fed same =>
      apply ih after turned last_fed can_still_send
      rwa [unreturned, ← same]
    | passes last_fed passed =>
      apply ih after turned last_fed can_still_send
      rwa [unreturned, passed] at some_left

/-- One read and what came of it. -/
structure Reading where
  wanted : Nat
  before : Endpoint
  result : Except Failure Bytes
  after : Endpoint

namespace Reading

/-- The bytes that the caller got. -/
def returned (reading : Reading) : Bytes :=
  reading.result.toOption.getD []

/-- If the read failed, it has used up no byte. -/
def IsHarmless (reading : Reading) : Prop :=
  ∀ failure, reading.result = .error failure →
    reading.after.unreturned = reading.before.unreturned

end Reading

/-- One read as it is made now. -/
def reading (wanted : Nat) (endpoint : Endpoint) : Reading :=
  let outcome := endpoint.read wanted
  { wanted, before := endpoint, result := outcome.result, after := outcome.state }

/-- Reads of these sizes, one after the other, whether they fail or not. -/
def readings : List Nat → Endpoint → List Reading
  | [], _ => []
  | wanted :: sizes, endpoint =>
    endpoint.reading wanted :: readings sizes (endpoint.reading wanted).after

/-- The stream after reads of these sizes. -/
def afterReads (sizes : List Nat) (endpoint : Endpoint) : Endpoint :=
  sizes.foldl (fun endpoint wanted => (endpoint.reading wanted).after) endpoint

/-- A read that fails has lost nothing, or what was left of the first payload with bytes left; a
good one has lost nothing. -/
theorem IsFed.reading_cases (fed : endpoint.IsFed) (wanted : Nat) :
    let reading := endpoint.reading wanted
    reading.after.IsFed ∧
      (reading.IsHarmless ∧ endpoint.unreturned = reading.returned ++ reading.after.unreturned ∨
        ¬reading.IsHarmless ∧ reading.returned = [] ∧ Spills wanted endpoint reading.after) ∧
      (reading.result.toOption = none → endpoint.unreturned ≠ [] →
        [] ∉ endpoint.unfinished [] → ¬reading.IsHarmless) := by
  intro reading
  have spends : Spends wanted endpoint (endpoint.read wanted) :=
    fed.spends_readSome.mapFailure Failure.asIo
  simp only [reading, Endpoint.reading]
  generalize endpoint.read wanted = outcome at spends
  cases spends with
  | returns fed front =>
    refine ⟨fed, .inl ⟨fun failure failed => ?_, front⟩, fun failed => ?_⟩ <;> contradiction
  | harmless fed kept why =>
    refine ⟨fed, .inl ⟨fun _ _ => kept, kept.symm⟩, fun _ some_left none_empty => ?_⟩
    rcases why with none_left | empty <;> contradiction
  | @spills failure after fed spills =>
    have harmful : ¬Reading.IsHarmless ⟨wanted, endpoint, .error failure, after⟩ := by
      intro harmless
      have shorter := spills.length_lt
      rw [show after.unreturned = endpoint.unreturned from harmless failure rfl] at shorter
      exact Nat.lt_irrefl _ shorter
    exact ⟨fed, .inr ⟨harmful, rfl, spills⟩, fun _ _ _ => harmful⟩

/-- After any reads what was returned and what is left make up all that there was, or less than that
if some read that failed has used up bytes. -/
theorem IsFed.returned_readings (fed : endpoint.IsFed) (sizes : List Nat) :
    let log := endpoint.readings sizes
    let left := (endpoint.afterReads sizes).unreturned
    (endpoint.afterReads sizes).IsFed ∧
      ((∀ reading ∈ log, reading.IsHarmless) ∧
          log.flatMap Reading.returned ++ left = endpoint.unreturned ∨
        (¬∀ reading ∈ log, reading.IsHarmless) ∧
          (log.flatMap Reading.returned ++ left).length < endpoint.unreturned.length) := by
  induction sizes generalizing endpoint with
  | nil => exact ⟨fed, .inl ⟨fun _ member => absurd member List.not_mem_nil, rfl⟩⟩
  | cons wanted sizes ih =>
    obtain ⟨after_fed, first, -⟩ := fed.reading_cases wanted
    obtain ⟨last_fed, rest⟩ := ih after_fed
    refine ⟨last_fed, ?_⟩
    simp only [readings, afterReads, List.foldl_cons, List.forall_mem_cons, List.flatMap_cons,
      List.append_assoc] at rest ⊢
    rcases first with ⟨harmless, front⟩ | ⟨harmful, nothing, spills⟩
    · rcases rest with ⟨all_harmless, whole⟩ | ⟨some_harmful, less⟩
      · exact .inl ⟨⟨harmless, all_harmless⟩, by rw [whole, ← front]⟩
      · refine .inr ⟨fun all => some_harmful all.2, ?_⟩
        simp only [front, List.length_append, Nat.add_lt_add_iff_left] at less ⊢
        exact less
    · refine .inr ⟨fun all => harmful all.1, ?_⟩
      have shorter := spills.length_lt
      rw [nothing, List.nil_append]
      rcases rest with ⟨-, whole⟩ | ⟨-, less⟩
      · rw [whole]
        exact shorter
      · exact Nat.lt_trans less shorter

/-- When nothing fails any more, reads return all that is left. -/
theorem IsFed.returned_of_canSend (fed : endpoint.IsFed)
    (can_send : endpoint.channel.transmitter.CanSend) (sizes : List Nat)
    (some_wanted : ∀ wanted ∈ sizes, wanted ≠ 0)
    (enough : endpoint.unreturned.length ≤ sizes.length) :
    (endpoint.readings sizes).flatMap Reading.returned = endpoint.unreturned := by
  induction sizes generalizing endpoint with
  | nil => exact (List.length_eq_zero_iff.mp (Nat.le_zero.mp enough)).symm
  | cons wanted sizes ih =>
    obtain ⟨after_fed, first, -⟩ := fed.reading_cases wanted
    by_cases none_left : endpoint.unreturned = []
    · obtain ⟨-, ⟨-, whole⟩ | ⟨-, less⟩⟩ := fed.returned_readings (wanted :: sizes)
      · rw [none_left] at whole ⊢
        exact (List.append_eq_nil_iff.mp whole).1
      · rw [none_left] at less
        contradiction
    · obtain ⟨piece, after, read, some_piece, can_still_send⟩ :=
        fed.readSome_of_canSend can_send (some_wanted wanted List.mem_cons_self) none_left
      have returned : endpoint.reading wanted = ⟨wanted, endpoint, .ok piece, after⟩ := by
        simp only [reading, Endpoint.read, read, Outcome.mapFailure, Outcome.result,
          Outcome.state_ok]
      have front : endpoint.unreturned = piece ++ after.unreturned := by
        rw [returned] at first
        rcases first with ⟨-, front⟩ | ⟨harmful, -⟩
        · exact front
        · refine absurd (fun failure failed => ?_) harmful
          contradiction
      rw [returned] at after_fed
      rw [readings, returned, List.flatMap_cons, front]
      refine congrArg (piece ++ ·) (ih after_fed can_still_send ?_ ?_)
      · exact fun wanted member => some_wanted wanted (List.mem_cons_of_mem _ member)
      · change after.unreturned.length ≤ sizes.length
        have some_bytes := List.length_pos_iff.mpr some_piece
        rw [front, List.length_append, List.length_cons] at enough
        omega

/-- What holds of a single read of a fed stream holds of each in a run of them. -/
theorem IsFed.readings_cases (fed : endpoint.IsFed) {sizes : List Nat} :
    ∀ reading ∈ endpoint.readings sizes,
      (¬reading.IsHarmless → Spills reading.wanted reading.before reading.after) ∧
      (reading.result.toOption = none → reading.before.unreturned ≠ [] →
        [] ∉ reading.before.unfinished [] → ¬reading.IsHarmless) := by
  induction sizes generalizing endpoint with
  | nil => exact fun _ member => absurd member List.not_mem_nil
  | cons wanted sizes ih =>
    obtain ⟨after_fed, first, harmful⟩ := fed.reading_cases wanted
    rw [readings, List.forall_mem_cons]
    refine ⟨⟨fun harmful => ?_, harmful⟩, ih after_fed⟩
    rcases first with ⟨harmless, -⟩ | ⟨-, -, spills⟩
    · contradiction
    · exact spills

/-- **Reads that lose nothing.** A stream on a connection whose receiving side does not fail is
read, with whatever sizes and whatever becomes of its acknowledgements. A read that fails loses
nothing, or what was left of the first payload with bytes left, if it asked for that much; and it
always loses that while bytes are left and no payload is empty. What was returned and what is left
make up all that there was to read if and only if no read has lost anything, and what is left is
returned once nothing fails any more. -/
theorem reads_complete_iff {start : Endpoint} (fed : start.IsFed) (sizes : List Nat) :
    let log := start.readings sizes
    let last := start.afterReads sizes
    (∀ reading ∈ log,
      (¬reading.IsHarmless → Spills reading.wanted reading.before reading.after) ∧
      (reading.result.toOption = none → reading.before.unreturned ≠ [] →
        [] ∉ reading.before.unfinished [] → ¬reading.IsHarmless)) ∧
    (log.flatMap Reading.returned ++ last.unreturned = start.unreturned ↔
      ∀ reading ∈ log, reading.IsHarmless) ∧
    (last.channel.transmitter.CanSend → ∀ later, (∀ wanted ∈ later, wanted ≠ 0) →
      last.unreturned.length ≤ later.length →
      (last.readings later).flatMap Reading.returned = last.unreturned) := by
  intro log last
  obtain ⟨last_fed, outcome⟩ := fed.returned_readings sizes
  refine ⟨fed.readings_cases, ⟨?_, ?_⟩, ?_⟩
  · intro whole
    rcases outcome with ⟨harmless, -⟩ | ⟨-, less⟩
    · exact harmless
    · rw [whole] at less
      exact absurd less (Nat.lt_irrefl _)
  · intro harmless
    rcases outcome with ⟨-, whole⟩ | ⟨harmful, -⟩
    · exact whole
    · contradiction
  · intro can_send later
    exact last_fed.returned_of_canSend can_send later

/-- An empty payload and one of two bytes: the acknowledgement of the empty one fails, and the bytes
are returned later. -/
theorem reads_complete_after_failure :
    let start : Endpoint := {
      stream := .opened 1 9 4096
      channel := {
        queue := {
          board := ({} : Switchboard).listen 1
          receiver := {
            source := [.bytes ([Frame.make Command.write 9 1 [],
              Frame.make Command.write 9 1 [104, 105]].flatMap Frame.encode) 20] } }
        transmitter := { out := { sink := { writes := [.fail .timedOut] } } } } }
    (start.readings [8]).map (fun reading => reading.result.toOption) = [none] ∧
      start.unreturned = [104, 105] ∧
      ((start.afterReads [8]).readings [1, 8]).flatMap Reading.returned = [104, 105] := by
  intro start
  have fed : start.IsFed := by
    refine ⟨fun _ => ⟨rfl, Source.isClean_bytes _ _⟩, fun closed => ?_⟩
    contradiction
  obtain ⟨-, -, complete⟩ := reads_complete_iff fed [8]
  have can_send : (start.afterReads [8]).channel.transmitter.CanSend := by
    have writes : (start.afterReads [8]).channel.transmitter.out.sink.writes = [] := by
      decide +kernel
    have flushes : (start.afterReads [8]).channel.transmitter.out.sink.flushes = [] := by
      decide +kernel
    exact ⟨by decide +kernel, .of_regular writes flushes⟩
  have left : (start.afterReads [8]).unreturned = [104, 105] := by decide +kernel
  refine ⟨by decide +kernel, by decide +kernel, ?_⟩
  rw [← left]
  exact complete can_send [1, 8] (by simp) (by rw [left]; decide)

/-- Two payloads of two bytes, and the acknowledgement of the first one fails: the read that fails
has used it up, and the next read returns the second one. -/
theorem read_loses_payload :
    let start : Endpoint := {
      stream := .opened 1 9 4096
      channel := {
        queue := {
          board := ({} : Switchboard).listen 1
          receiver := {
            source := [.bytes ([Frame.make Command.write 9 1 [104, 105],
              Frame.make Command.write 9 1 [121, 111]].flatMap Frame.encode) 20] } }
        transmitter := { out := { sink := { writes := [.fail .timedOut] } } } } }
    start.unreturned = [104, 105, 121, 111] ∧
      (start.readings [8, 8]).map (fun reading => reading.result.toOption) =
        [none, some [121, 111]] ∧
      (start.afterReads [8, 8]).unreturned = [] := by
  decide +kernel

end Endpoint
end DebugBridge

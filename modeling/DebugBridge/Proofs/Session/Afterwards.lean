import DebugBridge.Proofs.Session.Incidents
import DebugBridge.Proofs.Session.Registration

/-!
# When the connection is over

Streams outlive their connection. What was received before the end can still be read, but nothing
is received or sent any more: writing is refused, no stream is opened, and a read that uses a
payload up fails, since the payload cannot be acknowledged.
-/

namespace DebugBridge

namespace Queue

variable {queue : Queue} {id command : UInt32}

/-- For an id that is not live nothing is received, and frames only cease to wait. -/
theorem subsides_take (dead : queue.board.isLive id = false) :
    (queue.take id command).state.receiver = queue.receiver ∧
      ∀ other wanted, (queue.take id command).state.board.queueOf other wanted ⊆
        queue.board.queueOf other wanted := by
  unfold take
  split
  · exact ⟨rfl, fun _ _ => List.Subset.refl _⟩
  · rw [await]
    split <;> rename_i polled
    · refine ⟨rfl, fun other wanted => ?_⟩
      obtain ⟨queues, -⟩ := Switchboard.poll_frame polled
      rw [queues other wanted]
      split
      · exact List.subset_cons_self ..
      · exact List.Subset.refl _
    · obtain ⟨rfl, -⟩ := Switchboard.poll_refused polled
      exact ⟨rfl, fun _ _ => List.Subset.refl _⟩
    · obtain ⟨-, unanswered⟩ := Switchboard.poll_nothing_iff.1 polled
      rw [unanswered.live] at dead
      contradiction

/-- The oldest frame that waits is handed out, and without one the stream has ended. -/
theorem take_of_not_isLive (registered : queue.board.isListening id = true)
    (dead : queue.board.isLive id = false) :
    (queue.take id command).result =
      match queue.board.queueOf id command with
      | frame :: _ => .ok frame
      | [] => .error (.streamClosed id) := by
  rw [take, Switchboard.turnAway, if_pos registered]
  simp only
  rw [await]
  split <;> rename_i polled
  · obtain ⟨queues, -⟩ := Switchboard.poll_frame polled
    rw [queues id command, if_pos ⟨rfl, rfl⟩]
    rfl
  · obtain ⟨rfl, empty⟩ := Switchboard.poll_refused polled
    obtain ⟨-, rfl⟩ | ⟨live, -⟩ := Switchboard.poll_refused_cases polled
    · rw [empty]
      rfl
    · rw [live] at dead
      contradiction
  · obtain ⟨-, unanswered⟩ := Switchboard.poll_nothing_iff.1 polled
    rw [unanswered.live] at dead
    contradiction

end Queue

namespace Channel

/-- Nothing can be sent any more, and no stream is live. -/
structure IsOver (channel : Channel) : Prop where
  closed : channel.transmitter.isOpen = false
  ended : channel.queue.board.disconnected = true
  none_live : ∀ id, channel.isLive id = false

/-- Nothing is sent or received, and frames only cease to wait. -/
structure Subsides (before after : Channel) : Prop where
  transmitter : after.transmitter = before.transmitter
  receiver : after.queue.receiver = before.queue.receiver
  waiting : ∀ id command,
    after.queue.board.queueOf id command ⊆ before.queue.board.queueOf id command

variable {before middle after channel : Channel} {acts : List Act} {act : Act}

theorem Subsides.refl (channel : Channel) : channel.Subsides channel :=
  ⟨rfl, rfl, fun _ _ => List.Subset.refl _⟩

theorem Subsides.trans (first : before.Subsides middle) (second : middle.Subsides after) :
    before.Subsides after where
  transmitter := second.transmitter.trans first.transmitter
  receiver := second.receiver.trans first.receiver
  waiting := fun id command =>
    List.Subset.trans (second.waiting id command) (first.waiting id command)

/-- An act that minds does not bring a connection back that is over: frames only cease to wait. -/
theorem IsOver.afterAct (is_over : channel.IsOver) (minds : channel.Minds act) :
    (channel.afterAct act).IsOver ∧ channel.Subsides (channel.afterAct act) := by
  have tells := tells_act minds
  have transmitter := transmitter_act act is_over.closed
  refine ⟨⟨?_, tells.ended (.inl is_over.ended), ?_⟩, transmitter, ?_, ?_⟩
  · rw [transmitter]
    exact is_over.closed
  · intro id
    rw [← Bool.not_eq_true]
    intro live
    have before := (tells.live id live).1
    rw [show channel.queue.board.isLive id = false from is_over.none_live id] at before
    contradiction
  · cases act with
    | take id command =>
      rw [afterAct, take, Outcome.state_mapState]
      exact (Queue.subsides_take (is_over.none_live id)).1
    | send => rw [afterAct, queue_send]
    | listen => exact minds.elim
    | unlisten | discard | countOpened | countClosed => rfl
  · cases act with
    | take id command =>
      rw [afterAct, take, Outcome.state_mapState]
      exact (Queue.subsides_take (is_over.none_live id)).2
    | send =>
      rw [afterAct, queue_send]
      exact fun _ _ => List.Subset.refl _
    | listen => exact minds.elim
    | unlisten id =>
      intro other command
      change (channel.queue.board.unlisten id).queueOf other command ⊆ _
      rw [Switchboard.queueOf_unlisten]
      split
      · exact List.nil_subset _
      · exact List.Subset.refl _
    | discard id command =>
      intro other wanted
      change (channel.queue.board.discard id command).queueOf other wanted ⊆ _
      rw [Switchboard.queueOf_discard]
      split
      · exact List.nil_subset _
      · exact List.Subset.refl _
    | countOpened | countClosed => exact fun _ _ => List.Subset.refl _

/-- Acts that heed leave a connection over. -/
theorem IsOver.heeds (is_over : channel.IsOver) (heeds : channel.Heeds acts) :
    (channel.afterActs acts).IsOver ∧ channel.Subsides (channel.afterActs acts) := by
  induction acts generalizing channel with
  | nil => exact ⟨is_over, .refl channel⟩
  | cons act acts ih =>
    obtain ⟨still_over, subsides⟩ := is_over.afterAct heeds.1
    obtain ⟨over_at_last, subsides_on⟩ := ih still_over heeds.2
    exact ⟨over_at_last, subsides.trans subsides_on⟩

end Channel

namespace Endpoint

variable {endpoint : Endpoint} {wanted : Nat}

/-- The payloads that were received for a stream and are not used up: the one at hand, in full, and
those that wait. -/
def held (endpoint : Endpoint) : List Bytes :=
  (endpoint.stream.pending.map (·.payload)).toList ++
    (endpoint.channel.queue.board.queueOf endpoint.stream.localId Command.write).map (·.payload)

/-- What the next read hands out of: the rest of the payload at hand, or the oldest that waits. -/
def upNext (endpoint : Endpoint) : Option Bytes :=
  match endpoint.stream.pending with
  | some cursor => some cursor.rest
  | none =>
    if endpoint.stream.closed then none
    else (endpoint.channel.queue.board.queueOf endpoint.stream.localId
      Command.write).head?.map (·.payload)

/-- What comes of a read when the connection is over. A payload that is used up cannot be
acknowledged, and its last bytes are lost. -/
def lastRead (wanted : Nat) (endpoint : Endpoint) : Except Failure Bytes :=
  if wanted = 0 then .ok []
  else
    match endpoint.upNext with
    | some payload =>
      if wanted < payload.length then .ok (payload.take wanted)
      else .error (.carried .brokenPipe .connectionClosed)
    | none =>
      if endpoint.stream.closed ||
          endpoint.channel.queue.board.isListening endpoint.stream.localId then .ok []
      else .error (.carried .other (.notListening endpoint.stream.localId))

/-- What is handed out next is the end of a payload that was received. -/
theorem suffix_of_upNext {payload : Bytes} (next : endpoint.upNext = some payload) :
    ∃ whole ∈ endpoint.held, payload <:+ whole := by
  unfold upNext at next
  unfold held
  cases pending : endpoint.stream.pending with
  | some cursor =>
    rw [pending] at next
    obtain rfl := Option.some.inj next
    refine ⟨cursor.payload, List.mem_append_left _ List.mem_cons_self, ?_⟩
    rw [cursor.rest_eq]
    exact List.drop_suffix ..
  | none =>
    rw [pending] at next
    simp only at next
    split at next
    · contradiction
    · obtain ⟨frame, first, rfl⟩ := Option.map_eq_some_iff.1 next
      exact ⟨frame.payload, List.mem_append_right _
        (List.mem_map_of_mem (List.mem_of_mem_head? first)), List.suffix_refl _⟩

/-- Whatever a read returns is part of a payload that was received. -/
theorem infix_of_lastRead {bytes : Bytes} (read : endpoint.lastRead wanted = .ok bytes) :
    bytes = [] ∨ ∃ whole ∈ endpoint.held, bytes <:+: whole := by
  unfold lastRead at read
  split at read
  · exact .inl (Except.ok.inj read).symm
  · split at read
    · next payload next =>
      split at read
      · obtain ⟨whole, member, suffix⟩ := suffix_of_upNext next
        rw [← Except.ok.inj read]
        exact .inr ⟨whole, member, (List.take_prefix ..).isInfix.trans suffix.isInfix⟩
      · contradiction
    · split at read
      · exact .inl (Except.ok.inj read).symm
      · contradiction

/-- A read is never told that its id is not registered, as long as open streams are. -/
theorem lastRead_ne_notListening
    (registered : endpoint.stream.closed = false →
      endpoint.channel.queue.board.isListening endpoint.stream.localId = true) (id : UInt32) :
    endpoint.lastRead wanted ≠ .error (.carried .other (.notListening id)) := by
  unfold lastRead
  split
  · simp
  · split
    · split <;> simp
    · cases closed : endpoint.stream.closed with
      | true => simp
      | false => simp [registered closed]

section Over

variable (is_over : endpoint.channel.IsOver)
include is_over

/-- Nothing can be acknowledged when the connection is over. -/
theorem acknowledge_of_over (pending : Option Cursor) :
    (endpoint.withPending pending).acknowledge =
      .error .connectionClosed (endpoint.withPending pending) := by
  rw [acknowledge, send, Channel.send, Transmitter.sendOkay]
  change ((endpoint.channel.transmitter.send Command.okay _ _ _).mapState _).mapState _ = _
  rw [Transmitter.send_of_closed is_over.closed]
  rfl

/-- A read out of the payload at hand succeeds as long as it leaves bytes of it. -/
theorem readSome_of_pending {cursor : Cursor} (pending : endpoint.stream.pending = some cursor)
    (some_wanted : wanted ≠ 0) :
    endpoint.readSome wanted =
      if wanted < cursor.rest.length then
        .ok (cursor.rest.take wanted)
          (endpoint.withPending (some (cursor.advance (cursor.rest.take wanted).length)))
      else .error .connectionClosed (endpoint.withPending none) := by
  have used_up : (cursor.advance (cursor.rest.take wanted).length).rest.isEmpty = true ↔
      ¬wanted < cursor.rest.length := by
    simp only [Cursor.advance, List.isEmpty_iff, List.drop_eq_nil_iff, List.length_take]
    omega
  rw [readSome_eq_turn some_wanted, turn]
  simp only [pending]
  by_cases part : wanted < cursor.rest.length
  · rw [if_neg (mt used_up.1 (not_not_intro part)), if_pos part]
  · rw [if_pos (used_up.2 part), if_neg part, acknowledge_of_over is_over]
    rfl

/-- What waits is still handed out; when nothing waits the stream ends, if it is registered. -/
theorem nextPayload_of_over (running : endpoint.stream.closed = false) :
    (∃ frame channel, (endpoint.channel.queue.board.queueOf endpoint.stream.localId
        Command.write).head? = some frame ∧ channel.IsOver ∧
      endpoint.nextPayload = .ok (some frame.payload) { endpoint with channel }) ∨
    (endpoint.channel.queue.board.queueOf endpoint.stream.localId Command.write = [] ∧
      endpoint.channel.queue.board.isListening endpoint.stream.localId = true ∧
      ∃ after, endpoint.nextPayload = .ok none after ∧ after.stream.pending = none) ∨
    (endpoint.channel.queue.board.queueOf endpoint.stream.localId Command.write = [] ∧
      endpoint.channel.queue.board.isListening endpoint.stream.localId = false ∧
      endpoint.nextPayload = .error (.notListening endpoint.stream.localId) endpoint) := by
  have dead : endpoint.channel.queue.board.isLive endpoint.stream.localId = false :=
    is_over.none_live _
  rw [nextPayload, running, if_neg Bool.false_ne_true]
  cases registered : endpoint.channel.queue.board.isListening endpoint.stream.localId with
  | false =>
    have turned : endpoint.channel.take endpoint.stream.localId Command.write =
        .error (.notListening endpoint.stream.localId) endpoint.channel := by
      rw [Channel.take, Queue.take, Switchboard.turnAway, registered, if_neg Bool.false_ne_true]
      rfl
    rw [turned]
    exact .inr (.inr ⟨Switchboard.queueOf_of_not_isListening registered, rfl, rfl⟩)
  | true =>
    have minds : endpoint.channel.Minds (.take endpoint.stream.localId Command.write) := trivial
    have still_over : (endpoint.channel.take endpoint.stream.localId Command.write).state.IsOver :=
      (is_over.afterAct minds).1
    have taken : (endpoint.channel.take endpoint.stream.localId Command.write).result = _ :=
      (Outcome.result_mapState ..).trans (Queue.take_of_not_isLive registered dead)
    cases found : endpoint.channel.take endpoint.stream.localId Command.write with
    | ok frame channel =>
      rw [found] at taken still_over
      split at taken
      · next front rest waiting =>
        rw [waiting, Except.ok.inj taken]
        exact .inl ⟨front, channel, rfl, still_over, rfl⟩
      · contradiction
    | error failure channel =>
      rw [found] at taken
      split at taken
      · contradiction
      · next empty =>
        obtain rfl := Except.error.inj taken
        refine .inr (.inl ⟨empty, rfl, _, rfl, ?_⟩)
        have closed := ({ endpoint with channel } : Endpoint).conducts_close
        refine closed.tidy ?_ (closed_close _)
        intro closed_before
        rw [running] at closed_before
        contradiction

/-- A payload at hand is handed out in part, or it is used up and lost. -/
theorem read_of_pending {cursor : Cursor} (pending : endpoint.stream.pending = some cursor)
    (some_wanted : wanted ≠ 0) :
    (endpoint.read wanted).result = (if wanted < cursor.rest.length then
        .ok (cursor.rest.take wanted)
      else .error (.carried .brokenPipe .connectionClosed)) ∧
      ∀ later, (endpoint.read wanted).state.stream.pending = some later →
        later.payload = cursor.payload := by
  rw [read, readSome_of_pending is_over pending some_wanted]
  split
  · refine ⟨rfl, fun later same => ?_⟩
    rw [← Option.some.inj same]
    rfl
  · exact ⟨rfl, fun later same => absurd same.symm (Option.some_ne_none later)⟩

/-- When the connection is over a read comes to `Endpoint.lastRead`, and what is at hand afterwards
was received before. -/
theorem read_of_over (wanted : Nat) :
    (endpoint.read wanted).result = endpoint.lastRead wanted ∧
      ∀ cursor, (endpoint.read wanted).state.stream.pending = some cursor →
        cursor.payload ∈ endpoint.held := by
  have kept (cursor : Cursor) (pending : endpoint.stream.pending = some cursor) :
      cursor.payload ∈ endpoint.held := by
    rw [held, pending]
    exact List.mem_append_left _ List.mem_cons_self
  by_cases none_wanted : wanted = 0
  · rw [read, readSome, lastRead, if_pos none_wanted, if_pos none_wanted]
    exact ⟨rfl, kept⟩
  · rw [lastRead, if_neg none_wanted]
    cases pending : endpoint.stream.pending with
    | some cursor =>
      obtain ⟨result, state⟩ := read_of_pending is_over pending none_wanted
      refine ⟨?_, fun later same => ?_⟩
      · rw [result, upNext, pending]
      · rw [state later same]
        exact kept cursor pending
    | none =>
      cases closed : endpoint.stream.closed with
      | true =>
        rw [read, readSome_eq_turn none_wanted, turn_of_closed pending closed, upNext, pending,
          closed]
        exact ⟨rfl, fun cursor same =>
          absurd (same.symm.trans pending) (Option.some_ne_none cursor)⟩
      | false =>
        rw [read, readSome_eq_turn none_wanted, turn, upNext]
        simp only [pending, closed, Bool.false_eq_true, if_false, Bool.false_or]
        obtain ⟨frame, channel, first, still_over, found⟩ |
          ⟨empty, registered, after, found, nothing⟩ | ⟨empty, unknown, found⟩ :=
            nextPayload_of_over is_over closed
        · let begun : Endpoint :=
            Endpoint.withPending (some (.atStart frame.payload)) { endpoint with channel }
          have begun_over : begun.channel.IsOver := still_over
          obtain ⟨result, state⟩ := read_of_pending begun_over rfl none_wanted
          simp only [found, first, Option.map_some, Outcome.andThen]
          refine ⟨result, fun cursor same => ?_⟩
          rw [state cursor same]
          exact List.mem_append_right _ (List.mem_map_of_mem (List.mem_of_mem_head? first))
        · simp only [found, empty, List.head?_nil, Option.map_none, registered, if_true,
            Outcome.andThen]
          exact ⟨rfl, fun cursor same =>
            absurd (same.symm.trans nothing) (Option.some_ne_none cursor)⟩
        · simp only [found, empty, List.head?_nil, Option.map_none, unknown, Bool.false_eq_true,
            if_false, Outcome.andThen]
          exact ⟨rfl, fun cursor same =>
          absurd (same.symm.trans pending) (Option.some_ne_none cursor)⟩

/-- Writing is refused. -/
theorem refusal_of_over : endpoint.refusal? =
    some (.carried .brokenPipe (.streamClosed endpoint.stream.localId)) := by
  have dead : endpoint.isLive = false := is_over.none_live _
  rw [refusal?, dead, Bool.not_false, Bool.or_true, if_pos rfl]
  rfl

/-- Writing is refused when the connection is over. -/
theorem write_of_over (bytes : Bytes) : endpoint.write bytes =
    .error (.carried .brokenPipe (.streamClosed endpoint.stream.localId)) endpoint := by
  rw [write, refusal_of_over is_over]

/-- Flushing is refused when the connection is over. -/
theorem flush_of_over : endpoint.flush =
    .error (.carried .brokenPipe (.streamClosed endpoint.stream.localId)) endpoint := by
  rw [flush, refusal_of_over is_over]

end Over

end Endpoint

namespace Session

/-- The payloads that were received for the streams with an id and are not used up. -/
def held (id : UInt32) (session : Session) : List Bytes :=
  ((session.streams.filter (·.localId == id)).filterMap
      fun stream => stream.pending.map (·.payload)) ++
    (session.connection.channel.queue.board.queueOf id Command.write).map (·.payload)

/-- The connection was closed. -/
structure IsOver (session : Session) : Prop where
  closed : session.connection.closed = true
  channel : session.connection.channel.IsOver

/-- No payload is at hand for a stream that is closed. -/
def IsTidy (session : Session) : Prop :=
  ∀ stream ∈ session.streams, stream.closed = true → stream.pending = none

/-- What is left of a session whose connection was closed. -/
structure Lingers (ended session : Session) : Prop where
  is_over : session.IsOver
  tidy : session.IsTidy
  subsides : ended.connection.channel.Subsides session.connection.channel
  pending : ∀ stream ∈ session.streams, ∀ cursor, stream.pending = some cursor →
    cursor.payload ∈ ended.held stream.localId

variable {ended session after : Session} {deed : Deed} {acts : List Channel.Act}
  {stream? : Option Stream} {stream : Stream}

/-- The payload at hand is one of those that were received for the stream. -/
theorem mem_held_of_pending {cursor : Cursor} (member : stream ∈ session.streams)
    (pending : stream.pending = some cursor) :
    cursor.payload ∈ session.held stream.localId := by
  refine List.mem_append_left _ (List.mem_filterMap.2 ⟨stream, ?_, ?_⟩)
  · exact List.mem_filter.2 ⟨member, beq_self_eq_true _⟩
  · rw [pending]
    rfl

theorem Lingers.refl (is_over : ended.IsOver) (tidy : ended.IsTidy) : ended.Lingers ended :=
  ⟨is_over, tidy, .refl _, fun _ member _ pending => mem_held_of_pending member pending⟩

/-- What a stream may still hand out was received before the end. -/
theorem Lingers.held (lingers : ended.Lingers session) (member : stream ∈ session.streams) :
    Endpoint.held ⟨stream, session.connection.channel⟩ ⊆ ended.held stream.localId := by
  intro payload kept
  obtain at_hand | waiting := List.mem_append.1 kept
  · obtain ⟨cursor, pending, rfl⟩ := Option.map_eq_some_iff.1 (Option.mem_toList.1 at_hand)
    exact lingers.pending stream member cursor pending
  · obtain ⟨frame, listed, rfl⟩ := List.mem_map.1 waiting
    exact List.mem_append_right _ (List.mem_map_of_mem (lingers.subsides.waiting _ _ listed))

/-- An operation on a stream leaves no more than there was if it puts nothing else up for being
handed out. -/
theorem Lingers.onStream (lingers : ended.Lingers session) {place : Nat}
    (found : session.streams[place]? = some stream)
    {operation : Endpoint → Outcome Endpoint Bytes}
    (conducts : Endpoint.Conducts ⟨stream, session.connection.channel⟩ acts
      (operation ⟨stream, session.connection.channel⟩).state)
    (pending : ∀ cursor, (operation ⟨stream, session.connection.channel⟩).state.stream.pending =
      some cursor → cursor.payload ∈ Endpoint.held ⟨stream, session.connection.channel⟩) :
    ended.Lingers (session.onStream place stream operation).state := by
  have member := List.mem_of_getElem? found
  have tidy : Endpoint.IsTidy ⟨stream, session.connection.channel⟩ := lingers.tidy stream member
  obtain ⟨still_over, subsides⟩ := lingers.is_over.channel.heeds (conducts.heeds tidy)
  rw [← conducts.channel] at still_over subsides
  rw [Session.onStream, Connection.onStream, Outcome.state_mapState, Outcome.state_mapState]
  refine ⟨⟨lingers.is_over.closed, still_over⟩, ?_, lingers.subsides.trans subsides, ?_⟩
  · intro other listed
    obtain before | rfl := List.mem_or_eq_of_mem_set listed
    · exact lingers.tidy other before
    · exact conducts.tidy tidy
  · intro other listed cursor at_hand
    obtain before | rfl := List.mem_or_eq_of_mem_set listed
    · exact lingers.pending other before cursor at_hand
    · rw [conducts.local_id]
      exact lingers.held member (pending cursor at_hand)

/-- A stream that goes out of use leaves no more than there was. -/
theorem Lingers.drops (lingers : ended.Lingers session) {place : Nat}
    (found : session.streams[place]? = some stream) :
    ended.Lingers (session.perform (.use place .drop)).state := by
  let endpoint : Endpoint := ⟨stream, session.connection.channel⟩
  have member := List.mem_of_getElem? found
  have heeds := endpoint.conducts_close.heeds (lingers.tidy stream member)
  obtain ⟨still_over, subsides⟩ := lingers.is_over.channel.heeds heeds
  have dropped : session.connection.dropStream stream =
      session.connection.afterActs endpoint.closeActs :=
    Connection.state_onStream endpoint.conducts_close
  rw [perform, Session.use, found]
  simp only [Outcome.state_ok, dropped]
  refine ⟨⟨lingers.is_over.closed, still_over⟩, ?_, lingers.subsides.trans subsides, ?_⟩
  · exact fun other listed => lingers.tidy other (List.mem_of_mem_eraseIdx listed)
  · exact fun other listed => lingers.pending other (List.mem_of_mem_eraseIdx listed)

/-- Nobody gets a stream from a connection that was closed. -/
theorem openStream_of_over (is_over : session.IsOver) (id : UInt32) (destination : String) :
    session.connection.openStream id destination =
      .error .connectionClosed session.connection := by
  rw [Connection.openStream, Connection.isClosed, is_over.closed, Bool.true_or, if_pos rfl]

/-- No stream is opened when the connection is over. -/
theorem perform_openStream_of_over (is_over : session.IsOver) (id : UInt32)
    (destination : String) :
    session.perform (.openStream id destination) = .error .connectionClosed session := by
  rw [perform, openStream_of_over is_over]
  rfl

/-- No stream is opened when the connection is over; a feature that is missing is told first. -/
theorem perform_openWith_of_over (is_over : session.IsOver) (feature : String) (id : UInt32)
    (destination : String) :
    session.perform (.openWith feature id destination) =
      .error (if session.connection.supports feature then .connectionClosed
        else .unsupportedFeature feature) session := by
  rw [perform, Connection.openWith]
  split
  · rw [openStream_of_over is_over]
    rfl
  · rfl

/-- No command is run when the connection is over. -/
theorem perform_shell_of_over (is_over : session.IsOver) (id : UInt32) (command : String) :
    session.perform (.shell id command) = .error .connectionClosed session := by
  rw [perform, Connection.shell, Connection.openShell, openStream_of_over is_over]
  rfl

/-- Every use of a stream leaves less of a session that is over, or as much. -/
theorem Lingers.uses (lingers : ended.Lingers session) (place : Nat) (use : Use) :
    ended.Lingers (session.perform (.use place use)).state := by
  cases found : session.streams[place]? with
  | none =>
    rw [perform, Session.use, found]
    exact lingers
  | some stream =>
    let endpoint : Endpoint := ⟨stream, session.connection.channel⟩
    have is_over : endpoint.channel.IsOver := lingers.is_over.channel
    have kept (cursor : Cursor) (pending : stream.pending = some cursor) :
        cursor.payload ∈ endpoint.held :=
      List.mem_append_left _ (Option.mem_toList.2 (Option.map_eq_some_iff.2 ⟨cursor, pending, rfl⟩))
    rw [perform, Session.use, found]
    cases use with
    | read wanted =>
      exact lingers.onStream found (endpoint.conducts_read wanted)
        (Endpoint.read_of_over is_over wanted).2
    | write bytes =>
      apply lingers.onStream found
      · rw [Outcome.state_map]
        exact endpoint.conducts_write bytes
      · rw [Outcome.state_map, Endpoint.write_of_over is_over]
        exact kept
    | flush =>
      apply lingers.onStream found
      · rw [Outcome.state_map]
        exact endpoint.conducts_flush
      · rw [Outcome.state_map, Endpoint.flush_of_over is_over]
        exact kept
    | close =>
      have tidy : endpoint.IsTidy := lingers.tidy stream (List.mem_of_getElem? found)
      have nothing := endpoint.conducts_close.tidy tidy endpoint.closed_close
      apply lingers.onStream found
      · rw [Outcome.state_map]
        exact endpoint.conducts_close
      · rw [Outcome.state_map]
        exact fun cursor pending =>
          absurd (pending.symm.trans nothing) (Option.some_ne_none cursor)
    | drop =>
      have dropped := lingers.drops found
      rwa [perform, Session.use, found] at dropped

/-- Only the use of a stream changes anything. -/
theorem after_entry_cases (is_over : session.IsOver) (deed : Deed) :
    (session.entry deed).after = session ∨ ∃ place use, deed = .use place use := by
  cases deed with
  | openStream id destination =>
    rw [Session.entry, perform_openStream_of_over is_over]
    exact .inl rfl
  | openWith feature id destination =>
    rw [Session.entry, perform_openWith_of_over is_over]
    exact .inl rfl
  | shell id command =>
    rw [Session.entry, perform_shell_of_over is_over]
    exact .inl rfl
  | use place use => exact .inr ⟨place, use, rfl⟩
  | close => exact .inl (entry_close_of_closed is_over.closed).2

/-- Every deed leaves no more than there was. -/
theorem Lingers.entry (lingers : ended.Lingers session) (deed : Deed) :
    ended.Lingers (session.entry deed).after := by
  obtain unchanged | ⟨place, use, rfl⟩ := after_entry_cases lingers.is_over deed
  · rwa [unchanged]
  · exact lingers.uses place use

/-- However a deed goes, no closed stream has a payload at hand after it. -/
theorem Goes.tidy {opened : Option Stream} (goes : session.Goes deed acts opened after)
    (tidy : session.IsTidy) : after.IsTidy := by
  cases goes with
  | idle | fails | runs => exact tidy
  | opens =>
    refine List.forall_mem_append.2 ⟨tidy, List.forall_mem_singleton.2 ?_⟩
    exact session.connection.isTidy_accepted session.connection.channel
  | uses found conducts =>
    rw [IsTidy, found] at tidy
    have still_tidy := tidy_exchanged tidy conducts (.inl rfl)
    rwa [List.append_assoc] at still_tidy
  | drops found conducts =>
    rw [IsTidy, found] at tidy
    have still_tidy := tidy_exchanged tidy conducts (.inr rfl)
    rwa [List.append_nil] at still_tidy

/-- No closed stream has a payload at hand after any deeds. -/
theorem isTidy_afterDeeds {deeds : List Deed} (tidy : session.IsTidy) :
    (session.afterDeeds deeds).IsTidy := by
  induction deeds generalizing session with
  | nil => exact tidy
  | cons deed deeds ih =>
    apply ih
    by_cases close : deed = .close
    · rw [close, Session.entry, session.perform_close.2]
      exact tidy
    · exact (session.goes_perform close).tidy tidy

/-- Only closing a connection marks it as closed. -/
theorem closed_afterDeeds {deeds : List Deed} (not_closed : .close ∉ deeds)
    (running : session.connection.closed = false) :
    (session.afterDeeds deeds).connection.closed = false := by
  induction deeds generalizing session with
  | nil => exact running
  | cons deed deeds ih =>
    rw [List.mem_cons, not_or] at not_closed
    exact ih not_closed.2
      ((session.leads_perform (Ne.symm not_closed.1)).closed.trans running)

/-- Closing the connection ends it, whatever fails of it. -/
theorem isOver_dropConnection (running : session.connection.closed = false) :
    session.dropConnection.IsOver := by
  rw [dropConnection, Connection.close, if_neg (by simp [running])]
  extract_lets channel sending teardown
  simp only [Outcome.state_ofResult]
  refine ⟨rfl, ?_, ?_, ?_⟩
  · simp only [sending, Channel.send, Outcome.state_mapState]
    exact Transmitter.isOpen_close _
  · simp only [sending, Channel.queue_send]
    rfl
  · intro id
    simp only [sending, Channel.isLive, Channel.queue_send]
    exact Switchboard.isLive_disconnect ..

/-- When a connection goes out of use its queue loses nothing but the mark of standing. -/
theorem queue_dropConnection (running : session.connection.closed = false) :
    session.dropConnection.connection.channel.queue =
      { session.connection.channel.queue with
        board := session.connection.channel.queue.board.disconnect } := by
  rw [dropConnection, Connection.close, if_neg (by simp [running])]
  extract_lets channel sending teardown
  simp only [Outcome.state_ofResult, sending, Channel.queue_send]
  rfl

/-- What was received stays. -/
theorem held_dropConnection (running : session.connection.closed = false) (id : UInt32) :
    session.dropConnection.held id = session.held id := by
  rw [held, queue_dropConnection running, Switchboard.queueOf_disconnect]
  rfl

/-- As long as there is order, an open stream in use is registered. -/
theorem InOrder.isListening {upcoming : List UInt32} {opened : Nat}
    (order : session.InOrder upcoming opened) (member : stream ∈ session.streams)
    (running : stream.closed = false) :
    session.connection.channel.queue.board.isListening stream.localId = true :=
  Switchboard.isListening_iff.2
    (order.registered.mem_iff.2 (mem_openIds.2 ⟨stream, member, rfl, running⟩))

/-- When the connection is over, every deed keeps the order. -/
theorem InOrder.entry_of_over {opened : Nat} (order : session.InOrder [] opened)
    (is_over : session.IsOver) (deed : Deed) : (session.entry deed).after.InOrder [] opened := by
  obtain unchanged | ⟨place, use, rfl⟩ := after_entry_cases is_over deed
  · rwa [unchanged]
  · exact (session.goes_use place use).inOrder order

/-- What a deed comes to when the connection is over. -/
structure Entry.ComesAfter (ended : Session) (entry : Entry) : Prop where
  /-- Nothing reaches the sink. -/
  sends_nothing :
    entry.after.connection.channel.transmitter = ended.connection.channel.transmitter
  receives_nothing :
    entry.after.connection.channel.queue.receiver = ended.connection.channel.queue.receiver
  opens_nothing : ∀ id destination, entry.deed = .openStream id destination →
    entry.result = .error .connectionClosed
  lacks_or_opens_nothing : ∀ feature id destination,
    entry.deed = .openWith feature id destination →
      entry.result = .error (if entry.before.connection.supports feature then .connectionClosed
        else .unsupportedFeature feature)
  runs_nothing : ∀ id command, entry.deed = .shell id command →
    entry.result = .error .connectionClosed
  writes_nothing : ∀ place stream bytes, entry.before.streams[place]? = some stream →
    entry.deed = .use place (.write bytes) →
      entry.result = .error (.carried .brokenPipe (.streamClosed stream.localId))
  flushes_nothing : ∀ place stream, entry.before.streams[place]? = some stream →
    entry.deed = .use place .flush →
      entry.result = .error (.carried .brokenPipe (.streamClosed stream.localId))
  reads : ∀ place stream wanted, entry.before.streams[place]? = some stream →
    entry.deed = .use place (.read wanted) →
      entry.result = Endpoint.lastRead wanted ⟨stream, entry.before.connection.channel⟩
  /-- Whatever is read was received before. -/
  received_before : ∀ place stream wanted bytes, entry.before.streams[place]? = some stream →
    entry.deed = .use place (.read wanted) → entry.result = .ok bytes →
      bytes = [] ∨ ∃ payload ∈ ended.held stream.localId, bytes <:+: payload

/-- Using a stream brings what its operation brings. -/
theorem result_onStream (place : Nat) (stream : Stream)
    (operation : Endpoint → Outcome Endpoint Bytes) (session : Session) :
    (session.onStream place stream operation).result =
      (operation ⟨stream, session.connection.channel⟩).result := by
  rw [Session.onStream, Outcome.result_mapState, Connection.onStream, Outcome.result_mapState]

/-- What the uses of a stream come to when the connection is over. -/
theorem results_of_over (is_over : session.IsOver) {place : Nat}
    (found : session.streams[place]? = some stream) :
    (∀ wanted, (session.entry (.use place (.read wanted))).result =
      Endpoint.lastRead wanted ⟨stream, session.connection.channel⟩) ∧
    (∀ bytes, (session.entry (.use place (.write bytes))).result =
      .error (.carried .brokenPipe (.streamClosed stream.localId))) ∧
    (session.entry (.use place .flush)).result =
      .error (.carried .brokenPipe (.streamClosed stream.localId)) := by
  have channel : (Endpoint.mk stream session.connection.channel).channel.IsOver := is_over.channel
  refine ⟨fun wanted => ?_, fun bytes => ?_, ?_⟩
  · rw [Session.entry, perform, Session.use, found]
    exact (session.result_onStream ..).trans (Endpoint.read_of_over channel wanted).1
  · rw [Session.entry, perform, Session.use, found]
    refine (session.result_onStream ..).trans ?_
    rw [Endpoint.write_of_over channel]
    rfl
  · rw [Session.entry, perform, Session.use, found]
    refine (session.result_onStream ..).trans ?_
    rw [Endpoint.flush_of_over channel]
    rfl

/-- Every deed on what is left of a session comes to what it must when the connection is over. -/
theorem Lingers.comesAfter (lingers : ended.Lingers session) (deed : Deed) :
    (session.entry deed).ComesAfter ended where
  sends_nothing := (lingers.entry deed).subsides.transmitter
  receives_nothing := (lingers.entry deed).subsides.receiver
  opens_nothing := by
    rintro id destination rfl
    rw [Session.entry, perform_openStream_of_over lingers.is_over]
    rfl
  lacks_or_opens_nothing := by
    rintro feature id destination rfl
    rw [Session.entry, perform_openWith_of_over lingers.is_over]
    rfl
  runs_nothing := by
    rintro id command rfl
    rw [Session.entry, perform_shell_of_over lingers.is_over]
    rfl
  writes_nothing := by
    rintro place stream bytes found rfl
    exact (results_of_over lingers.is_over found).2.1 bytes
  flushes_nothing := by
    rintro place stream found rfl
    exact (results_of_over lingers.is_over found).2.2
  reads := by
    rintro place stream wanted found rfl
    exact (results_of_over lingers.is_over found).1 wanted
  received_before := by
    rintro place stream wanted bytes found rfl result
    rw [(results_of_over lingers.is_over found).1] at result
    obtain nothing | ⟨payload, kept, part⟩ := Endpoint.infix_of_lastRead result
    · exact .inl nothing
    · exact .inr ⟨payload, lingers.held (List.mem_of_getElem? found) kept, part⟩

end Session

/-- **When the connection is over.** A connection is established over a transport that was not
used before; streams are opened, used, closed and dropped, and then the connection is closed, at
whatever moment, or goes out of use. From there on nothing reaches the sink and nothing is received;
nobody gets a stream; writing and flushing are refused. A read that has something to hand out
returns a part of a payload that was received before, as long as it does not use that payload up;
otherwise it fails, since it cannot acknowledge the payload, whose last bytes are lost. When there
is nothing to hand out the stream reads as ended; it is not registered only if another stream had
the same id. -/
theorem Connection.streams_after_close {keyPair : Option KeyPair} {source : Source} {sink : Sink}
    {teardown : Teardown} {connection : Connection}
    (established : establish keyPair
      { receiver := { source }, transmitter := { out := { sink } }, teardown } = .ok connection)
    {earlier : List Deed} (not_closed : .close ∉ earlier) (later : List Deed) :
    let session : Session := Session.afterDeeds earlier { connection }
    let ended := session.dropConnection
    (session.entry .close).after = ended ∧
    (∀ id, ended.held id = session.held id) ∧
    (∀ entry ∈ ended.log later, entry.ComesAfter ended) ∧
    ((Session.idsOf earlier).Nodup → ∀ entry ∈ ended.log later, ∀ place wanted id,
      entry.deed = .use place (.read wanted) →
        entry.result ≠ .error (.carried .other (.notListening id))) := by
  intro session ended
  have not_closed_yet : ({ connection } : Session).connection.closed = false := by
    obtain ⟨greeting, after, -, rfl⟩ := eq_of_establish established
    rfl
  have running : session.connection.closed = false :=
    Session.closed_afterDeeds not_closed not_closed_yet
  have tidy : session.IsTidy := Session.isTidy_afterDeeds (List.forall_mem_nil _)
  have lingers : ended.Lingers ended := .refl (Session.isOver_dropConnection running) tidy
  refine ⟨session.perform_close.2, Session.held_dropConnection running, ?_, ?_⟩
  · intro entry member
    have kept (session : Session) (deed : Deed) (lingers : ended.Lingers session) :
        ended.Lingers (session.entry deed).after := lingers.entry deed
    obtain ⟨same, before, -⟩ := Session.of_mem_log kept lingers member
    rw [same]
    exact before.comesAfter entry.deed
  · intro distinct entry member place wanted id read
    obtain ⟨opened, order⟩ : ∃ opened, ended.InOrder [] opened := by
      have order := (inOrder_of_establish established distinct).afterDeeds.close
      rw [Session.entry, session.perform_close.2] at order
      exact ⟨_, order⟩
    have kept (session : Session) (deed : Deed)
        (holds : ended.Lingers session ∧ session.InOrder [] opened) :
        ended.Lingers (session.entry deed).after ∧ (session.entry deed).after.InOrder [] opened :=
      ⟨holds.1.entry deed, holds.2.entry_of_over holds.1.is_over deed⟩
    obtain ⟨same, ⟨before, in_order⟩, -⟩ := Session.of_mem_log kept ⟨lingers, order⟩ member
    rw [same, read]
    cases found : entry.before.streams[place]? with
    | none =>
      rw [Session.entry, Session.perform, Session.use, found]
      simp [Outcome.result]
    | some stream =>
      rw [(Session.results_of_over before.is_over found).1]
      exact Endpoint.lastRead_ne_notListening
        (in_order.isListening (List.mem_of_getElem? found)) id

/-- A device that accepts the stream `1` and sends a payload of three bytes on it. -/
def Source.sendingOnce : Source :=
  [.bytes ([
    Frame.make Command.connect 0x01000000 4096 (Utf8.encode "device::features=cmd"),
    .make Command.okay 9 1 [], .make Command.write 9 1 (Utf8.encode "hey")].flatMap
      Frame.encode) 4096]

/-- The first byte was read before the end. The second one is read behind it, the third one is lost,
and then the stream has ended. -/
theorem Connection.streams_after_close_partly_read :
    ∃ connection, establish none { receiver := { source := .sendingOnce } } = .ok connection ∧
      let earlier : List Deed := [.openStream 1 "echo:", .use 0 (.read 1)]
      let later : List Deed :=
        [.use 0 (.read 1), .use 0 (.write (Utf8.encode "yo")), .use 0 (.read 8), .use 0 (.read 8)]
      let ended := (Session.afterDeeds earlier { connection }).dropConnection
      .close ∉ earlier ∧
      (ended.log later).map (fun entry => entry.result.toOption) =
        [some (Utf8.encode "e"), none, none, some []] ∧
      ∀ entry ∈ ended.log later,
        entry.after.connection.channel.transmitter = ended.connection.channel.transmitter := by
  have runs : (establish none { receiver := { source := .sendingOnce } }).toOption.map
      (fun connection =>
        let ended := (Session.afterDeeds [.openStream 1 "echo:", .use 0 (.read 1)]
          { connection }).dropConnection
        (ended.log [.use 0 (.read 1), .use 0 (.write (Utf8.encode "yo")), .use 0 (.read 8),
          .use 0 (.read 8)]).map fun entry => entry.result.toOption) =
      some [some (Utf8.encode "e"), none, none, some []] := by
    decide +kernel
  obtain ⟨connection, established, results⟩ := exists_of_map_establish runs
  have not_closed : (.close : Deed) ∉
      [Deed.openStream 1 "echo:", .use 0 (.read 1)] := by decide
  obtain ⟨-, -, comes_after, -⟩ := streams_after_close established not_closed
    [.use 0 (.read 1), .use 0 (.write (Utf8.encode "yo")), .use 0 (.read 8), .use 0 (.read 8)]
  exact ⟨connection, established, not_closed, results,
    fun entry member => (comes_after entry member).sends_nothing⟩

/-- Not every read returns bytes or the end of the stream: one that uses up the payload at hand
fails. -/
theorem Connection.read_fails_after_close :
    ∃ connection, establish none { receiver := { source := .sendingOnce } } = .ok connection ∧
      let session := Session.afterDeeds [.openStream 1 "echo:", .use 0 (.read 1)] { connection }
      let ended := (session.entry .close).after
      ¬∀ entry ∈ ended.log [.use 0 (.read 8)], ∃ bytes, entry.result = .ok bytes := by
  have runs : (establish none { receiver := { source := .sendingOnce } }).toOption.map
      (fun connection =>
        let session := Session.afterDeeds [.openStream 1 "echo:", .use 0 (.read 1)] { connection }
        ((session.entry .close).after.entry (.use 0 (.read 8))).result.toOption) = some none := by
    decide +kernel
  obtain ⟨connection, established, fails⟩ := exists_of_map_establish runs
  refine ⟨connection, established, fun reads => ?_⟩
  obtain ⟨bytes, read⟩ := reads _ List.mem_cons_self
  simp only [read] at fails
  contradiction

end DebugBridge

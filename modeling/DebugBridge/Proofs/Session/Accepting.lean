import DebugBridge.Proofs.Session.Deeds
import DebugBridge.Proofs.Session.Output
import DebugBridge.Proofs.Session.Spilling
import DebugBridge.Proofs.Session.Teardown

/-!
# What a write accepts

A write should tell how many bytes it took, at least one, or fail and take none. What it does is to
take the bytes that there is room for and, when they fill the room, to send. If that fails they
stay, although the call does not report them, and from then on there is no room. Writes without room
take nothing: one that sends what is collected succeeds with no bytes, and one that fails leaves
nothing behind. So the promise is kept exactly while no write fails to send.
-/

namespace DebugBridge

/-- What everything but a write makes of a stream's output: it stays collected or is done with. -/
structure Stream.Spares (before after : Stream) : Prop where
  limit : after.maxPayload = before.maxPayload
  outgoing : after.outgoing = before.outgoing ∨ after.outgoing = []

/-- There is room for at least one more byte. -/
def Stream.HasRoom (stream : Stream) : Prop :=
  stream.outgoing.length < stream.maxPayload

/-- Frames are not empty, and what is collected fits into one. -/
structure Stream.IsBounded (stream : Stream) : Prop where
  nonempty : 0 < stream.maxPayload
  bounded : stream.outgoing.length ≤ stream.maxPayload

namespace Stream

variable {before middle after : Stream}

theorem Spares.refl (stream : Stream) : stream.Spares stream :=
  ⟨rfl, .inl rfl⟩

theorem Spares.trans (first : before.Spares middle) (second : middle.Spares after) :
    before.Spares after where
  limit := second.limit.trans first.limit
  outgoing := by
    obtain same | gone := second.outgoing
    · rw [same]
      exact first.outgoing
    · exact .inr gone

/-- A stream that is spared has no more collected than before. -/
theorem Spares.length_le (spares : before.Spares after) :
    after.outgoing.length ≤ before.outgoing.length := by
  obtain same | gone := spares.outgoing
  · exact Nat.le_of_eq (congrArg List.length same)
  · rw [gone]
    exact Nat.zero_le _

/-- A stream that is spared still has room. -/
theorem Spares.hasRoom (spares : before.Spares after) (room : before.HasRoom) : after.HasRoom := by
  rw [HasRoom, spares.limit]
  exact Nat.lt_of_le_of_lt spares.length_le room

/-- What is collected still fits into a frame when a stream was spared. -/
theorem Spares.isBounded (spares : before.Spares after) (bounded : before.IsBounded) :
    after.IsBounded := by
  refine ⟨?_, ?_⟩ <;> rw [spares.limit]
  · exact bounded.nonempty
  · exact Nat.le_trans spares.length_le bounded.bounded

/-- What is collected fits into a frame if there is room for more. -/
theorem HasRoom.isBounded {stream : Stream} (room : stream.HasRoom) : stream.IsBounded :=
  ⟨Nat.zero_lt_of_lt room, Nat.le_of_lt room⟩

/-- A new stream has room, since nothing is collected and frames are not empty. -/
theorem hasRoom_opened (localId remoteId maxPayload : UInt32) :
    (opened localId remoteId maxPayload).HasRoom :=
  Nat.lt_of_lt_of_le Nat.zero_lt_one (Nat.le_max_right ..)

end Stream

namespace Endpoint

variable {endpoint : Endpoint}

/-- Sending spares a stream, whether it succeeds or not. -/
theorem spares_sendCollected (endpoint : Endpoint) :
    endpoint.stream.Spares endpoint.sendCollected.state.stream := by
  obtain ⟨stream, channel⟩ := endpoint
  simp only [sendCollected]
  split
  · exact .refl stream
  · split
    · exact ⟨rfl, .inr rfl⟩
    · rw [send]
      cases channel.send (Transmitter.sendWrite stream.localId stream.remoteId stream.outgoing) with
      | ok value after => exact ⟨rfl, .inr rfl⟩
      | error failure after => exact .refl stream

/-- Sending what is left spares a stream. -/
theorem spares_sendRemainder (endpoint : Endpoint) :
    endpoint.stream.Spares endpoint.sendRemainder.state.stream := by
  have collected := spares_sendCollected endpoint
  unfold sendRemainder
  split
  · next sent => rwa [sent] at collected
  · exact collected

/-- Closing spares a stream. -/
theorem spares_close (endpoint : Endpoint) :
    endpoint.stream.Spares endpoint.close.state.stream := by
  unfold close
  split
  · exact .refl endpoint.stream
  · have sent := spares_sendRemainder endpoint.shut
    rw [Outcome.state_ofResult, stream_retire]
    exact ⟨sent.limit, sent.outgoing⟩

/-- Looking for a payload spares a stream. -/
theorem spares_nextPayload (endpoint : Endpoint) :
    endpoint.stream.Spares endpoint.nextPayload.state.stream := by
  unfold nextPayload
  split
  · exact .refl endpoint.stream
  · split
    · exact .refl endpoint.stream
    · next failure channel taken =>
      dsimp only
      split
      · exact spares_close { endpoint with channel }
      · exact .refl endpoint.stream

/-- A turn of a read spares a stream. -/
theorem spares_turn (wanted : Nat) (endpoint : Endpoint) :
    endpoint.stream.Spares (endpoint.turn wanted).state.stream := by
  unfold turn
  split
  · extract_lets piece advanced
    split
    · rw [Outcome.state_map]
      obtain ⟨transmitter, acknowledged⟩ := state_acknowledge (endpoint.withPending none)
      rw [acknowledged]
      exact ⟨rfl, .inl rfl⟩
    · exact ⟨rfl, .inl rfl⟩
  · have next := spares_nextPayload endpoint
    cases found : endpoint.nextPayload with
    | error failure after => rwa [found] at next
    | ok payload after =>
      rw [found] at next
      cases payload with
      | none => exact next
      | some payload => exact ⟨next.limit, next.outgoing⟩

/-- A read spares a stream. -/
theorem spares_read (wanted : Nat) (endpoint : Endpoint) :
    endpoint.stream.Spares (endpoint.read wanted).state.stream := by
  let spares (before : Endpoint) (_ : List Channel.Act) (after : Endpoint) : Prop :=
    before.stream.Spares after.stream
  have reads : spares endpoint (endpoint.readActs wanted) (endpoint.read wanted).state :=
    endpoint.read_of_turns (fun endpoint => .refl endpoint.stream) .trans wanted
      (spares_turn wanted)
  exact reads

/-- A flush spares a stream. -/
theorem spares_flush (endpoint : Endpoint) :
    endpoint.stream.Spares endpoint.flush.state.stream := by
  unfold flush
  split
  · exact .refl endpoint.stream
  · rw [Outcome.state_mapFailure]
    exact spares_sendCollected endpoint

/-- How many more bytes there is room for. -/
def room (endpoint : Endpoint) : Nat :=
  endpoint.stream.maxPayload - endpoint.stream.outgoing.length

/-- A stream has room if there is room for at least one byte. -/
theorem hasRoom_iff : endpoint.stream.HasRoom ↔ 0 < endpoint.room :=
  Nat.sub_pos_iff_lt.symm

/-- The stream with more bytes collected. -/
def collecting (bytes : Bytes) (endpoint : Endpoint) : Endpoint :=
  endpoint.withOutgoing (endpoint.stream.outgoing ++ bytes)

/-- Between two states the stream has taken exactly these bytes, behind those that it had
collected. Either all are collected now, and of the frame with them a part may be on its way out; or
they have gone out in one frame. -/
inductive Takes (bytes : Bytes) (before after : Endpoint) : Prop
  | keeps (stream : after.stream = (before.collecting bytes).stream) {part : Bytes}
    (committed : after.committed = before.committed ++ part)
    (front : part <+: (before.collecting bytes).collectedFrame.encode)
  | sends (stream : after.stream = (before.withOutgoing []).stream)
    (committed : after.committed =
      before.committed ++ (before.collecting bytes).collectedFrame.encode)

/-- What is promised of a write: it tells how many bytes it took, at least one, and took just these
from the front on; or it fails and took none. -/
def Honours (bytes : Bytes) (endpoint : Endpoint) : Prop :=
  match endpoint.write bytes with
  | .ok count after =>
    1 ≤ count ∧ count ≤ bytes.length ∧ endpoint.Takes (bytes.take count) after
  | .error _ after => endpoint.Takes [] after

theorem takes_nil (endpoint : Endpoint) : endpoint.Takes [] endpoint := by
  refine .keeps ?_ (List.append_nil _).symm List.nil_prefix
  rw [collecting, List.append_nil]
  rfl

/-- No bytes are not some bytes: what was taken stays collected, or nothing does. -/
theorem Takes.eq_nil {bytes : Bytes} {after : Endpoint} (takes : endpoint.Takes [] after)
    (stays : after.stream.outgoing = endpoint.stream.outgoing ++ bytes) : bytes = [] := by
  cases takes with
  | keeps stream =>
    rw [stream] at stays
    simpa [collecting, withOutgoing] using stays
  | sends stream =>
    rw [stream] at stays
    exact (List.append_eq_nil_iff.1 stays.symm).2

/-- Sending what is collected succeeds, or fails and leaves it collected. -/
theorem sendCollected_cases_of_live (live : endpoint.isLive = true)
    (some_collected : endpoint.stream.outgoing ≠ []) :
    (∃ after, endpoint.sendCollected = .ok () after ∧
      after.stream = (endpoint.withOutgoing []).stream ∧
      after.committed = endpoint.committed ++ endpoint.collectedFrame.encode) ∨
    (∃ failure after part, endpoint.sendCollected = .error failure after ∧
      after.stream = endpoint.stream ∧ after.committed = endpoint.committed ++ part ∧
      part <+: endpoint.collectedFrame.encode) := by
  cases is_open : endpoint.channel.transmitter.isOpen with
  | false =>
    have refused := Transmitter.send_of_closed is_open Command.write endpoint.stream.localId
      endpoint.stream.remoteId endpoint.stream.outgoing
    exact .inr ⟨_, _, [], sendCollected_of_error live some_collected refused, rfl,
      (List.append_nil _).symm, List.nil_prefix⟩
  | true =>
    obtain ⟨transmitter, sent, -, committed, -⟩ | ⟨failure, transmitter, part, failed, -, committed,
      front, -⟩ := Transmitter.send_cases is_open Command.write endpoint.stream.localId
        endpoint.stream.remoteId endpoint.stream.outgoing
    · exact .inl ⟨_, sendCollected_of_ok live some_collected sent, rfl, committed⟩
    · exact .inr ⟨failure, _, part, sendCollected_of_error live some_collected failed, rfl,
        committed, front⟩

/-- A stream that takes writes is live. -/
theorem live_of_not_refused (taken : endpoint.refusal? = none) : endpoint.isLive = true := by
  unfold refusal? at taken
  split at taken
  · contradiction
  · next goes_on =>
    rw [Bool.or_eq_true, not_or, Bool.not_eq_true, Bool.not_eq_true'] at goes_on
    simpa using goes_on.2

/-- A write that is not refused takes the bytes that there is room for. When it gets through there
is room afterwards. It fails only when the bytes fill the room, and then they stay. -/
theorem write_cases (bounded : endpoint.stream.IsBounded) (accepted : endpoint.refusal? = none)
    {bytes : Bytes} (some_bytes : bytes ≠ []) :
    let taken := bytes.take endpoint.room
    (∃ after, endpoint.write bytes = .ok taken.length after ∧ endpoint.Takes taken after ∧
      after.stream.HasRoom) ∨
    (∃ failure after, endpoint.write bytes = .error failure after ∧ endpoint.Takes taken after ∧
      after.stream = (endpoint.collecting taken).stream ∧
      after.stream.outgoing.length = after.stream.maxPayload) := by
  intro taken
  have count : min endpoint.room bytes.length = taken.length := List.length_take.symm
  have same : bytes.take (min endpoint.room bytes.length) = taken := by
    rw [← List.take_take, List.take_length]
  have written : endpoint.write bytes =
      if (endpoint.collecting taken).stream.outgoing.length = endpoint.stream.maxPayload then
        ((endpoint.collecting taken).sendCollected.mapFailure Failure.asIo).map
          fun _ => taken.length
      else .ok taken.length (endpoint.collecting taken) := by
    rw [write, accepted]
    simp only [List.isEmpty_eq_false_iff.2 some_bytes, Bool.false_eq_true, if_false]
    rw [← room, same, count]
    rfl
  rw [written]
  split
  · next full =>
    have some_collected : (endpoint.collecting taken).stream.outgoing ≠ [] := by
      rw [← List.length_pos_iff, full]
      exact bounded.nonempty
    have live : (endpoint.collecting taken).isLive = true := live_of_not_refused accepted
    obtain ⟨after, sent, stream, committed⟩ | ⟨failure, after, part, failed, stream, committed,
      front⟩ := sendCollected_cases_of_live live some_collected
    · rw [sent]
      refine .inl ⟨after, rfl, .sends stream committed, ?_⟩
      rw [stream]
      exact bounded.nonempty
    · rw [failed]
      refine .inr ⟨_, after, rfl, .keeps stream committed front, stream, ?_⟩
      rw [stream]
      exact full
  · next not_full =>
    refine .inl ⟨_, rfl, .keeps rfl (List.append_nil _).symm List.nil_prefix, ?_⟩
    have at_most := bounded.bounded
    have fits :
        (endpoint.collecting taken).stream.outgoing.length ≤ endpoint.stream.maxPayload := by
      simp only [collecting, withOutgoing, List.length_append, taken, List.length_take, room]
      omega
    exact Nat.lt_of_le_of_ne fits not_full

/-- A write that is refused does nothing. -/
theorem write_of_refused {failure : Failure} (refused : endpoint.refusal? = some failure)
    (bytes : Bytes) : endpoint.write bytes = .error failure endpoint := by
  rw [write, refused]

/-- Unless it is refused the write gets through. -/
def Succeeds (bytes : Bytes) (endpoint : Endpoint) : Prop :=
  endpoint.refusal? = none → ∃ count, (endpoint.write bytes).result = .ok count

/-- A write that is not refused keeps the promise exactly if it gets through when there is room, and
fails when there is none. -/
theorem honours_iff_of_accepted (bounded : endpoint.stream.IsBounded)
    (accepted : endpoint.refusal? = none) {bytes : Bytes} (some_bytes : bytes ≠ []) :
    endpoint.Honours bytes ↔
      ((∃ count, (endpoint.write bytes).result = .ok count) ↔ endpoint.stream.HasRoom) := by
  have room_iff : endpoint.stream.HasRoom ↔ bytes.take endpoint.room ≠ [] := by
    rw [hasRoom_iff, ne_eq, List.take_eq_nil_iff, not_or]
    exact ⟨fun room => ⟨Nat.ne_of_gt room, some_bytes⟩, fun room => Nat.pos_of_ne_zero room.1⟩
  rw [room_iff, Honours]
  obtain ⟨after, written, takes, -⟩ | ⟨failure, after, written, takes, stream, -⟩ :=
    write_cases bounded accepted some_bytes
  · rw [written]
    have at_most : (bytes.take endpoint.room).length ≤ bytes.length := List.length_take_le' ..
    have same : bytes.take (bytes.take endpoint.room).length = bytes.take endpoint.room :=
      (List.prefix_iff_eq_take.1 (List.take_prefix ..)).symm
    have got_through : ∃ count, (Outcome.ok (bytes.take endpoint.room).length after).result =
        .ok count := ⟨_, rfl⟩
    rw [iff_true_left got_through, ← List.length_pos_iff]
    constructor
    · exact And.left
    · intro some_taken
      refine ⟨some_taken, at_most, ?_⟩
      rwa [same]
  · rw [written]
    have failed : ¬∃ count, (Outcome.error failure after : Outcome Endpoint Nat).result =
        .ok count := by simp [Outcome.result]
    rw [iff_false_left failed, ne_eq, Decidable.not_not]
    constructor
    · intro takes_none
      exact takes_none.eq_nil (congrArg Stream.outgoing stream)
    · intro none_taken
      rwa [none_taken] at takes

/-- A refused write keeps the promise. -/
theorem honours_of_refused {failure : Failure} (refused : endpoint.refusal? = some failure)
    (bytes : Bytes) : endpoint.Honours bytes := by
  rw [Honours, write_of_refused refused]
  exact endpoint.takes_nil

/-- A write that gets through leaves room, and one that is refused changes nothing. -/
theorem hasRoom_of_write (room : endpoint.stream.HasRoom) {bytes : Bytes} (some_bytes : bytes ≠ [])
    (succeeds : endpoint.Succeeds bytes) :
    (endpoint.write bytes).state.stream.HasRoom := by
  cases refused : endpoint.refusal? with
  | some failure => rwa [write_of_refused refused]
  | none =>
    obtain ⟨after, written, -, room_after⟩ | ⟨failure, after, written, -⟩ :=
      write_cases room.isBounded refused some_bytes
    · rwa [written]
    · obtain ⟨count, got_through⟩ := succeeds refused
      rw [written] at got_through
      contradiction

/-- Whatever comes of a write, what is collected fits into a frame. -/
theorem isBounded_of_write (bounded : endpoint.stream.IsBounded) {bytes : Bytes}
    (some_bytes : bytes ≠ []) : (endpoint.write bytes).state.stream.IsBounded := by
  cases refused : endpoint.refusal? with
  | some failure => rwa [write_of_refused refused]
  | none =>
    obtain ⟨after, written, -, room⟩ | ⟨failure, after, written, -, stream, full⟩ :=
      write_cases bounded refused some_bytes
    · rw [written]
      exact room.isBounded
    · rw [written]
      refine ⟨?_, Nat.le_of_eq full⟩
      rw [Outcome.state_error, stream]
      exact bounded.nonempty

theorem spares_write_nil (endpoint : Endpoint) :
    endpoint.stream.Spares (endpoint.write []).state.stream := by
  unfold write
  split <;> exact .refl endpoint.stream

end Endpoint

namespace Session

/-- The deed is a write of some bytes on a stream. -/
structure Entry.Writes (endpoint : Endpoint) (bytes : Bytes) (entry : Entry) : Prop where
  deed : ∃ place, entry.deed = .use place (.write bytes) ∧
    entry.before.streams[place]? = some endpoint.stream
  channel : endpoint.channel = entry.before.connection.channel
  some_bytes : bytes ≠ []

/-- Where a stream in use comes from: it was in use before and was spared, or has just been opened,
or was written to. -/
inductive Comes (entry : Entry) (stream : Stream) : Prop
  | spared {before : Stream} (member : before ∈ entry.before.streams)
    (spares : before.Spares stream)
  | opened (room : stream.HasRoom)
  | written {endpoint : Endpoint} {bytes : Bytes} (writes : entry.Writes endpoint bytes)
    (member : endpoint.stream ∈ entry.before.streams)
    (same : stream = (endpoint.write bytes).state.stream)

/-- A stream in use after a deed was spared, has just been opened, or was written to. -/
theorem comes_perform {session : Session} {deed : Deed} {stream : Stream}
    (member : stream ∈ (session.entry deed).after.streams) :
    Comes (session.entry deed) stream := by
  have arises : session.Arises deed stream := arises_of_perform member
  cases arises with
  | kept member => exact .spared member (.refl stream)
  | opened localId remoteId => exact .opened (Stream.hasRoom_opened ..)
  | @used place use old found =>
    have old_member : old ∈ session.streams := List.mem_of_getElem? found
    let endpoint : Endpoint := ⟨old, session.connection.channel⟩
    cases use with
    | read wanted => exact .spared old_member (endpoint.spares_read wanted)
    | write bytes =>
      by_cases none_given : bytes = []
      · subst none_given
        exact .spared old_member endpoint.spares_write_nil
      · have writes : (session.entry (.use place (.write bytes))).Writes endpoint bytes :=
          ⟨⟨place, rfl, found⟩, rfl, none_given⟩
        exact .written writes old_member rfl
    | flush => exact .spared old_member endpoint.spares_flush
    | close | drop => exact .spared old_member endpoint.spares_close

/-- What is collected for a stream in use fits into a frame. -/
def IsBounded (session : Session) : Prop :=
  ∀ stream ∈ session.streams, stream.IsBounded

/-- Every stream in use has room. -/
def HasRoom (session : Session) : Prop :=
  ∀ stream ∈ session.streams, stream.HasRoom

namespace Entry

/-- The promise of writes is kept by this deed, if it is a write. -/
def Honours (entry : Entry) : Prop :=
  ∀ endpoint bytes, entry.Writes endpoint bytes → endpoint.Honours bytes

/-- The deed is no write that fails to send. -/
def Succeeds (entry : Entry) : Prop :=
  ∀ endpoint bytes, entry.Writes endpoint bytes → endpoint.Succeeds bytes

/-- A stream that a deed writes to was in use. -/
theorem Writes.member {entry : Entry} {endpoint : Endpoint} {bytes : Bytes}
    (writes : entry.Writes endpoint bytes) : endpoint.stream ∈ entry.before.streams := by
  obtain ⟨place, -, found⟩ := writes.deed
  exact List.mem_of_getElem? found

/-- What is reported of the write. -/
theorem Writes.result {entry : Entry} {endpoint : Endpoint} {bytes : Bytes}
    (writes : entry.Writes endpoint bytes) (done : entry = entry.before.entry entry.deed) :
    entry.result = (endpoint.write bytes).result.map bytes.take := by
  obtain ⟨place, deed, found⟩ := writes.deed
  have channel := writes.channel
  rw [done, deed]
  change (entry.before.use place (.write bytes)).result = _
  simp only [Session.use, found, onStream, Connection.onStream, Outcome.result_mapState,
    Outcome.result_map, ← channel]

/-- With room a write keeps the promise if and only if it gets through. -/
theorem honours_iff_succeeds {entry : Entry} (room : entry.before.HasRoom) :
    entry.Honours ↔ entry.Succeeds := by
  refine forall_congr' fun endpoint => forall_congr' fun bytes => forall_congr' fun writes => ?_
  have some_room := room _ writes.member
  cases refused : endpoint.refusal? with
  | some failure =>
    refine iff_of_true (Endpoint.honours_of_refused refused bytes) ?_
    intro accepted
    rw [refused] at accepted
    contradiction
  | none =>
    rw [Endpoint.honours_iff_of_accepted some_room.isBounded refused writes.some_bytes,
      iff_true_right some_room]
    exact ⟨fun got_through _ => got_through, fun succeeds => succeeds refused⟩

end Entry

/-- Every deed keeps what is collected within a frame. -/
theorem IsBounded.entry {session : Session} (bounded : session.IsBounded) (deed : Deed) :
    (session.entry deed).after.IsBounded := by
  intro stream member
  cases comes_perform member with
  | spared member spares => exact spares.isBounded (bounded _ member)
  | opened room => exact room.isBounded
  | written writes member same =>
    rw [same]
    exact Endpoint.isBounded_of_write (bounded _ member) writes.some_bytes

/-- Every deed but a write that fails to send leaves room on all streams. -/
theorem HasRoom.entry {session : Session} (room : session.HasRoom) {deed : Deed}
    (succeeds : (session.entry deed).Succeeds) : (session.entry deed).after.HasRoom := by
  intro stream member
  cases comes_perform member with
  | spared member spares => exact spares.hasRoom (room _ member)
  | opened room => exact room
  | written writes member same =>
    rw [same]
    exact Endpoint.hasRoom_of_write (room _ member) writes.some_bytes (succeeds _ _ writes)

/-- The first write that fails to send breaks the promise, and before it there is always room. -/
theorem HasRoom.honours_iff_succeeds {session : Session} (room : session.HasRoom)
    (deeds : List Deed) :
    (∀ entry ∈ session.log deeds, entry.Honours) ↔ ∀ entry ∈ session.log deeds, entry.Succeeds := by
  induction deeds generalizing session with
  | nil => exact iff_of_true (by simp [log]) (by simp [log])
  | cons deed deeds ih =>
    rw [log, List.forall_mem_cons, List.forall_mem_cons, Entry.honours_iff_succeeds room]
    exact and_congr_right fun succeeds => ih (room.entry succeeds)

/-- **What writes accept.** On a connection any deeds are done. A write of some bytes is refused
when its stream has ended, and changes nothing. Any other one takes the bytes that there is room
for, from the front on; when it gets through it reports just these, and when it fails they stay
collected. So it keeps the promise of writes, to report at least one byte and take what it reports,
or fail and take nothing, exactly if it gets through when there is room and fails when there is
none. All writes keep it exactly if none fails to send. -/
theorem writes_honour_promise_iff (connection : Connection) (deeds : List Deed) :
    let log := Session.log deeds { connection }
    (∀ entry ∈ log, ∀ endpoint bytes, entry.Writes endpoint bytes →
      entry.result = (endpoint.write bytes).result.map bytes.take ∧
      (∀ failure, endpoint.refusal? = some failure →
        endpoint.write bytes = .error failure endpoint) ∧
      (endpoint.refusal? = none →
        let taken := bytes.take endpoint.room
        (∃ after, endpoint.write bytes = .ok taken.length after ∧ endpoint.Takes taken after) ∨
        (∃ failure after, endpoint.write bytes = .error failure after ∧
          endpoint.Takes taken after ∧
          after.stream.outgoing = endpoint.stream.outgoing ++ taken)) ∧
      (endpoint.Honours bytes ↔ (endpoint.refusal? = none →
        ((∃ count, (endpoint.write bytes).result = .ok count) ↔ 0 < endpoint.room)))) ∧
    ((∀ entry ∈ log, entry.Honours) ↔ ∀ entry ∈ log, entry.Succeeds) := by
  intro log
  have nothing : (Session.mk connection []).HasRoom := by simp [HasRoom]
  refine ⟨?_, nothing.honours_iff_succeeds deeds⟩
  intro entry member endpoint bytes writes
  have bounded : (Session.mk connection []).IsBounded := fun stream member =>
    (nothing stream member).isBounded
  obtain ⟨done, bounded_before, -⟩ := of_mem_log (P := IsBounded)
    (fun session deed bounded => bounded.entry deed) bounded member
  have fits := bounded_before _ writes.member
  refine ⟨?_, fun failure refused => Endpoint.write_of_refused refused bytes, ?_, ?_⟩
  · exact writes.result done
  · intro accepted
    obtain ⟨after, written, takes, -⟩ | ⟨failure, after, written, takes, stream, -⟩ :=
      Endpoint.write_cases fits accepted writes.some_bytes
    · exact .inl ⟨after, written, takes⟩
    · exact .inr ⟨failure, after, written, takes, congrArg Stream.outgoing stream⟩
  · cases refused : endpoint.refusal? with
    | some failure => exact iff_of_true (Endpoint.honours_of_refused refused bytes) (by simp)
    | none =>
      rw [Endpoint.honours_iff_of_accepted fits refused writes.some_bytes, Endpoint.hasRoom_iff]
      exact ⟨fun same _ => same, fun same => same rfl⟩

/-- Three bytes for frames of two: two of them go out at once, and the last one waits. -/
theorem writes_honour_promise_two_writes :
    let answers := [Frame.make Command.connect 0x01000000 2 (Utf8.encode "device::features=cmd"),
      .make Command.okay 9 1 []]
    ∃ connection, Connection.establish none
        { receiver := { source := [.bytes (answers.flatMap Frame.encode) 4096] } } =
          .ok connection ∧
      let deeds : List Deed := [.openStream 1 "echo:", .use 0 (.write [104, 101, 121]),
        .use 0 (.write [121])]
      (log deeds { connection }).map (·.result.toOption) =
        [some [], some [104, 101], some [121]] ∧
      ∀ entry ∈ log deeds { connection }, entry.Honours := by
  intro answers
  let deeds : List Deed := [.openStream 1 "echo:", .use 0 (.write [104, 101, 121]),
    .use 0 (.write [121])]
  have runs : (Connection.establish none
      { receiver := { source := [.bytes (answers.flatMap Frame.encode) 4096] } }).toOption.map
        (fun connection => (log deeds { connection }).map (·.result.toOption)) =
      some [some [], some [104, 101], some [121]] := by
    decide +kernel
  obtain ⟨connection, established, results⟩ := Connection.exists_of_map_establish runs
  refine ⟨connection, established, results, ?_⟩
  obtain ⟨reports, honours_iff⟩ := writes_honour_promise_iff connection deeds
  refine honours_iff.2 fun entry member endpoint bytes writes _ => ?_
  have reported := congrArg Except.toOption (reports entry member endpoint bytes writes).1
  have listed : entry.result.toOption ∈ (log deeds { connection }).map (·.result.toOption) :=
    List.mem_map_of_mem member
  rw [results, reported] at listed
  cases written : (endpoint.write bytes).result with
  | ok count => exact ⟨count, rfl⟩
  | error failure =>
    rw [written] at listed
    simp [Except.map, Except.toOption] at listed

end Session

/-- A write fails, and its bytes go out all the same, twice; the next write succeeds and takes
nothing. -/
theorem Endpoint.write_breaks_promise :
    let start : Endpoint := {
      stream := .opened 1 9 2
      channel := {
        queue := { board := ({} : Switchboard).listen 1, receiver := { source := [] } }
        transmitter := { out := { sink := { writes := [.fail .timedOut] } } } } }
    let first := start.write [104, 105]
    let second := first.state.write [120]
    first.result.toOption = none ∧ first.state.stream.outgoing = [104, 105] ∧
      ¬start.Honours [104, 105] ∧
    second.result = .ok 0 ∧ ¬first.state.Honours [120] ∧
      second.state.channel.transmitter.out.sink.accepted =
        (List.replicate 2 (Frame.make Command.write 1 9 [104, 105])).flatMap Frame.encode := by
  intro start first second
  have failed : first.result.toOption = none := by decide +kernel
  have written : second = .ok 0 second.state := Outcome.eq_ok_of_toOption (by decide +kernel)
  refine ⟨failed, by decide +kernel, ?_, congrArg Outcome.result written, ?_, by decide +kernel⟩
  · have bounded : start.stream.IsBounded := ⟨by decide, by decide⟩
    rw [honours_iff_of_accepted bounded rfl (by decide)]
    intro same
    obtain ⟨count, got_through⟩ := same.2 (show 0 < 2 by decide)
    rw [show first.result = .ok count from got_through] at failed
    contradiction
  · intro honours
    rw [Honours, show first.state.write [120] = .ok 0 second.state from written] at honours
    exact absurd honours.1 (by decide)

end DebugBridge

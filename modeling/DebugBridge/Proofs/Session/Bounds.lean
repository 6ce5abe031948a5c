import DebugBridge.Proofs.Session.Accepting
import DebugBridge.Proofs.Wire.Pieces

/-!
# Streams within their bounds

A stream subtracts what it has collected from what a frame may hold, cuts its pending payload where
it has stopped, and tells the length of a payload in 32 bits, all without a check. A stream that is
`Stream.IsProper` has room for that: what is collected fits into a frame, what has been handed out
of a payload was in it, and nothing is pending once the stream is closed. Every operation keeps a
stream proper and sends frames that fit (`Endpoint.Abides`), whatever comes of it: a payload that
could not be sent stays collected and fills the room at most, and a stream that is closed within a
read has nothing pending any more. Reads go from turn to turn over proper streams too.
-/

namespace DebugBridge

namespace Cursor

variable {cursor : Cursor}

/-- No more has been handed out than there was. -/
def IsInside (cursor : Cursor) : Prop :=
  cursor.position ≤ cursor.payload.length

/-- Nothing has been handed out at the start, so no more than there was. -/
theorem isInside_atStart (payload : Bytes) : (atStart payload).IsInside :=
  Nat.zero_le _

/-- What has been handed out and what is left make up the payload. -/
theorem IsInside.position_add_length_rest (inside : cursor.IsInside) :
    cursor.position + cursor.rest.length = cursor.payload.length := by
  rw [cursor.rest_eq, List.length_drop]
  exact Nat.add_sub_cancel' inside

/-- Handing out a piece of what is left stays inside. -/
theorem IsInside.advance (inside : cursor.IsInside) (wanted : Nat) :
    (cursor.advance (cursor.rest.take wanted).length).IsInside := by
  have whole := inside.position_add_length_rest
  have piece := List.length_take_le' wanted cursor.rest
  simp only [IsInside, Cursor.advance]
  omega

end Cursor

namespace Stream

/-- All that a stream relies on without a check. -/
structure IsProper (stream : Stream) : Prop extends stream.IsBounded where
  short : stream.maxPayload < UInt32.size
  inside : ∀ cursor, stream.pending = some cursor → cursor.IsInside
  tidy : stream.closed = true → stream.pending = none

variable {stream : Stream}

/-- A new stream has all that streams rely on. -/
theorem isProper_opened (localId remoteId maxPayload : UInt32) :
    (opened localId remoteId maxPayload).IsProper where
  toIsBounded := (hasRoom_opened localId remoteId maxPayload).isBounded
  short := Nat.max_lt.2 ⟨maxPayload.toNat_lt_size, by decide⟩
  inside := by simp [opened]
  tidy := fun _ => rfl

/-- Something else may be pending on a stream that is not closed. -/
theorem IsProper.withPending (proper : stream.IsProper) {pending : Option Cursor}
    (inside : ∀ cursor, pending = some cursor → cursor.IsInside)
    (tidy : stream.closed = true → pending = none) :
    { stream with pending }.IsProper :=
  { proper with inside, tidy }

/-- More may be collected, up to the size of a frame. -/
theorem IsProper.withOutgoing (proper : stream.IsProper) {outgoing : Bytes}
    (bounded : outgoing.length ≤ stream.maxPayload) : { stream with outgoing }.IsProper :=
  { proper with bounded }

end Stream

namespace Channel.Act

/-- If an act sends data, so many bytes at most, and the frame tells how many. -/
def Fits (limit : Nat) (act : Act) : Prop :=
  ∀ localId remoteId payload, act = .send Command.write localId remoteId payload →
    payload.length ≤ limit ∧
      (Frame.make Command.write localId remoteId payload).payloadLength.toNat = payload.length

/-- Frames other than data need not fit. -/
theorem fits_send_of_ne {command : UInt32} (other : command ≠ Command.write)
    (limit : Nat) (arg0 arg1 : UInt32) (payload : Bytes) :
    (send command arg0 arg1 payload).Fits limit := by
  rintro _ _ _ ⟨⟩
  exact absurd rfl other

/-- What a proper stream has collected fits into one frame, whose length tells all of it. -/
theorem fits_send_write {stream : Stream} (proper : stream.IsProper) (arg0 arg1 : UInt32) :
    (send Command.write arg0 arg1 stream.outgoing).Fits stream.maxPayload := by
  rintro _ _ _ ⟨⟩
  have short := Nat.lt_of_le_of_lt proper.bounded proper.short
  exact ⟨proper.bounded, UInt32.toNat_ofNat_of_lt short⟩

end Channel.Act

namespace Endpoint

open Channel (Act)

/-- An operation comes to these acts, keeps its stream as it should be and sends frames that fit. -/
structure Abides (before : Endpoint) (acts : List Act) (after : Endpoint) : Prop where
  limit : after.stream.maxPayload = before.stream.maxPayload
  proper : before.stream.IsProper → after.stream.IsProper
  fits : before.stream.IsProper → ∀ act ∈ acts, act.Fits before.stream.maxPayload

variable {before middle after endpoint : Endpoint} {acts more : List Act}

theorem Abides.refl (endpoint : Endpoint) : endpoint.Abides [] endpoint :=
  ⟨rfl, id, by simp⟩

theorem Abides.trans (first : before.Abides acts middle) (second : middle.Abides more after) :
    before.Abides (acts ++ more) after where
  limit := second.limit.trans first.limit
  proper := fun proper => second.proper (first.proper proper)
  fits := by
    intro proper
    have later := second.fits (first.proper proper)
    rw [first.limit] at later
    exact List.forall_mem_append.2 ⟨first.fits proper, later⟩

/-- Putting up something else for being handed out, or nothing. -/
theorem abides_of_pending {pending : Option Cursor}
    (same : after.stream = { before.stream with pending })
    (inside : before.stream.IsProper → ∀ cursor, pending = some cursor → cursor.IsInside)
    (tidy : before.stream.IsProper → before.stream.closed = true → pending = none)
    (fits : ∀ act ∈ acts, act.Fits before.stream.maxPayload) : before.Abides acts after where
  limit := by rw [same]
  proper := fun proper => same ▸ proper.withPending (inside proper) (tidy proper)
  fits := fun _ => fits

/-- What is sent of a proper stream fits into a frame. -/
theorem fits_collectedActs (proper : endpoint.stream.IsProper) :
    ∀ act ∈ endpoint.collectedActs, act.Fits endpoint.stream.maxPayload := by
  unfold collectedActs
  dsimp only
  split
  · simp
  · rw [List.forall_mem_cons]
    refine ⟨Act.fits_send_write proper _ _, ?_⟩
    cases endpoint.send _ with
    | ok value after => simp [Outcome.listed, Act.Fits]
    | error failure after => simp [Outcome.listed]

variable (endpoint : Endpoint)

/-- Sending keeps to the bounds: what fails to be sent stays collected, and that is all. -/
theorem abides_sendCollected :
    endpoint.Abides endpoint.collectedActs endpoint.sendCollected.state where
  limit := (spares_sendCollected endpoint).limit
  proper := by
    intro proper
    have fits := (spares_sendCollected endpoint).isBounded proper.toIsBounded
    obtain ⟨bytes, same⟩ := stream_sendCollected endpoint
    rw [same] at fits ⊢
    exact proper.withOutgoing fits.bounded
  fits := fits_collectedActs

/-- Closing keeps to the bounds and leaves nothing pending. -/
theorem abides_close : endpoint.Abides endpoint.closeActs endpoint.close.state where
  limit := (spares_close endpoint).limit
  proper := by
    intro proper
    have spares := spares_close endpoint
    have nothing : endpoint.close.state.stream.pending = none :=
      endpoint.conducts_close.tidy proper.tidy endpoint.closed_close
    exact { spares.isBounded proper.toIsBounded with
      short := spares.limit ▸ proper.short
      inside := by simp [nothing]
      tidy := fun _ => nothing }
  fits := by
    intro proper
    unfold closeActs
    split
    · simp
    · have shut : endpoint.shut.stream.IsProper :=
        { proper with inside := by simp [Endpoint.shut], tidy := fun _ => rfl }
      refine List.forall_mem_append.2 ⟨fits_collectedActs shut, ?_⟩
      simp only [Channel.farewell, List.forall_mem_cons]
      refine ⟨Act.fits_send_of_ne (by decide) _ _ _ _, ?_⟩
      simp [Act.Fits]

/-- Looking for a payload keeps to the bounds, also if it closes the stream. -/
theorem abides_nextPayload :
    endpoint.Abides endpoint.nextPayloadActs endpoint.nextPayload.state := by
  unfold nextPayload nextPayloadActs
  split
  · exact .refl endpoint
  · have taken (channel : Channel) : endpoint.Abides
        [.take endpoint.stream.localId Command.write] { endpoint with channel } :=
      abides_of_pending rfl (·.inside) (·.tidy) (by simp [Act.Fits])
    cases endpoint.channel.take endpoint.stream.localId Command.write with
    | ok frame channel => exact taken channel
    | error failure channel =>
      dsimp only
      split
      · exact (taken channel).trans (abides_close _)
      · exact taken channel

/-- A turn keeps to the bounds: it hands out no more than is left of a payload, and puts up a new
one from its start. -/
theorem abides_turn (wanted : Nat) :
    endpoint.Abides (endpoint.turnActs wanted) (endpoint.turn wanted).state := by
  cases pending : endpoint.stream.pending with
  | some cursor =>
    simp only [turn, turnActs, pending]
    split
    · rw [Outcome.state_map]
      obtain ⟨transmitter, acknowledged⟩ := state_acknowledge (endpoint.withPending none)
      rw [acknowledged]
      refine abides_of_pending rfl (by simp) (fun _ _ => rfl) ?_
      exact List.forall_mem_singleton.2 (Act.fits_send_of_ne (by decide) _ _ _ _)
    · refine abides_of_pending rfl ?_ ?_ (by simp)
      · rintro proper _ ⟨⟩
        exact (proper.inside cursor pending).advance wanted
      · intro proper closed
        rw [proper.tidy closed] at pending
        contradiction
  | none =>
    have found := endpoint.abides_nextPayload
    simp only [turn, turnActs, pending]
    cases next : endpoint.nextPayload with
    | error failure after => rwa [next] at found
    | ok given after =>
      cases given with
      | none => rwa [next] at found
      | some payload =>
        rw [next, Outcome.state_ok] at found
        rw [← List.append_nil endpoint.nextPayloadActs]
        refine found.trans (abides_of_pending rfl ?_ ?_ (by simp))
        · rintro _ _ ⟨⟩
          exact Cursor.isInside_atStart payload
        · -- The wait for the payload may have closed the stream, but then it found none.
          intro _ closed
          rw [running_of_nextPayload next] at closed
          contradiction

/-- A read keeps to the bounds from turn to turn. -/
theorem abides_read (wanted : Nat) :
    endpoint.Abides (endpoint.readActs wanted) (endpoint.read wanted).state :=
  endpoint.read_of_turns .refl .trans wanted fun endpoint => endpoint.abides_turn wanted

/-- A write keeps to the bounds: it collects no more than there is room for. -/
theorem abides_write (bytes : Bytes) :
    endpoint.Abides (endpoint.writeActs bytes) (endpoint.write bytes).state := by
  unfold write writeActs
  cases endpoint.refusal? with
  | some failure => exact .refl endpoint
  | none =>
    dsimp only
    split
    · exact .refl endpoint
    · have collect {outgoing : Bytes} (bounded : endpoint.stream.IsProper →
          outgoing.length ≤ endpoint.stream.maxPayload) :
          endpoint.Abides [] { endpoint with stream.outgoing := outgoing } :=
        ⟨rfl, fun proper => proper.withOutgoing (bounded proper), by simp⟩
      have room (proper : endpoint.stream.IsProper) : (endpoint.stream.outgoing ++ bytes.take
          (min (endpoint.stream.maxPayload - endpoint.stream.outgoing.length)
            bytes.length)).length ≤ endpoint.stream.maxPayload := by
        have bounded := proper.bounded
        rw [List.length_append, List.length_take]
        omega
      split
      · rw [Outcome.state_map, Outcome.state_mapFailure]
        exact (collect room).trans (abides_sendCollected _)
      · exact collect room

/-- A flush keeps to the bounds. -/
theorem abides_flush : endpoint.Abides endpoint.flushActs endpoint.flush.state := by
  unfold flush flushActs
  cases endpoint.refusal? with
  | some failure => exact .refl endpoint
  | none =>
    rw [Outcome.state_mapFailure]
    exact endpoint.abides_sendCollected

/-- Every use of a stream keeps to the bounds. -/
theorem abides_use (use : Use) :
    endpoint.Abides (endpoint.useActs use) (endpoint.afterUse use) := by
  cases use with
  | read wanted => exact endpoint.abides_read wanted
  | write bytes => exact endpoint.abides_write bytes
  | flush => exact endpoint.abides_flush
  | close | drop => exact endpoint.abides_close

variable {endpoint}

/-- Reads that follow each other keep to the bounds. -/
theorem Reads.abides (reads : endpoint.Reads acts after) :
    endpoint.Abides acts after := by
  induction reads with
  | rest endpoint => exact .refl endpoint
  | read wanted _ ih => exact (abides_read _ wanted).trans ih

/-- What a turn hands out is no longer than what was asked for. -/
theorem length_le_of_turn {wanted : Nat} {piece : Bytes}
    (turned : endpoint.turn wanted = .ok (some piece) after) : piece.length ≤ wanted := by
  unfold turn at turned
  split at turned
  · next cursor pending =>
    have short := List.length_take_le wanted cursor.rest
    dsimp only at turned
    split at turned
    · cases acknowledged : (endpoint.withPending none).acknowledge with
      | error failure last =>
        rw [acknowledged] at turned
        contradiction
      | ok value last =>
        rw [acknowledged] at turned
        obtain ⟨answer, -⟩ := Outcome.ok.inj turned
        split at answer
        · contradiction
        · cases answer
          exact short
    · cases turned
      exact short
  · cases found : endpoint.nextPayload with
    | error failure last =>
      rw [found] at turned
      contradiction
    | ok given last =>
      rw [found] at turned
      cases given with
      | none =>
        cases turned
        exact Nat.zero_le wanted
      | some payload => cases turned

/-- The states between the turns of a read of so many bytes. -/
inductive Passes (wanted : Nat) (start : Endpoint) : Endpoint → Prop
  | here : Passes wanted start start
  | turn {middle after : Endpoint} (passes : Passes wanted start middle)
    (turned : middle.turn wanted = .ok none after) : Passes wanted start after

/-- The turns of a read keep to the bounds up to each of them. -/
theorem Passes.abides {wanted : Nat} (passes : endpoint.Passes wanted middle) :
    ∃ acts, endpoint.Abides acts middle := by
  induction passes with
  | here => exact ⟨[], .refl endpoint⟩
  | @turn middle after _ turned ih =>
    obtain ⟨acts, abides⟩ := ih
    have next := middle.abides_turn wanted
    rw [turned] at next
    exact ⟨_, abides.trans next⟩

/-- From each of its turns a read goes on to the same end. -/
theorem Passes.readSome_eq {wanted : Nat} (some_wanted : wanted ≠ 0)
    (passes : endpoint.Passes wanted middle) :
    middle.readSome wanted = endpoint.readSome wanted := by
  induction passes with
  | here => rfl
  | @turn before after _ turned ih =>
    have goes_on : before.readSome wanted = after.readSome wanted := by
      rw [readSome_eq_turn some_wanted, turned]
    exact goes_on.symm.trans ih

end Endpoint

/-- The stream after uses, each on a channel in any state: whatever else is done to the channel. -/
def Stream.afterUses (uses : List (Use × Channel)) (stream : Stream) : Stream :=
  uses.foldl (fun stream (use, channel) => (Endpoint.afterUse use ⟨stream, channel⟩).stream) stream

/-- Whatever uses a stream has seen, it has all that it relies on, for the same size of frames. -/
theorem Stream.IsProper.afterUses {stream : Stream} (proper : stream.IsProper)
    (uses : List (Use × Channel)) :
    (stream.afterUses uses).IsProper ∧ (stream.afterUses uses).maxPayload = stream.maxPayload := by
  induction uses generalizing stream with
  | nil => exact ⟨proper, rfl⟩
  | cons first rest ih =>
    obtain ⟨use, channel⟩ := first
    have abides := Endpoint.abides_use ⟨stream, channel⟩ use
    obtain ⟨still_proper, limit⟩ := ih (abides.proper proper)
    exact ⟨still_proper, limit.trans abides.limit⟩

namespace Connection

open Channel (Act)

/-- Asking for a stream sends no data. -/
theorem fits_askActs (id : UInt32) (destination : String) (limit : Nat) :
    ∀ act ∈ askActs id destination, act.Fits limit := by
  rw [askActs, List.forall_mem_cons, List.forall_mem_singleton]
  exact ⟨by simp [Act.Fits], Act.fits_send_of_ne (by decide) _ _ _ _⟩

/-- Opening a stream sends no data, whatever comes of it. -/
theorem fits_openActs (id : UInt32) (destination : String) (connection : Connection)
    (limit : Nat) : ∀ act ∈ connection.openActs id destination, act.Fits limit := by
  have opens := connection.opens_openStream id destination
  generalize connection.openActs id destination = acts,
    (connection.openStream id destination).result = result at opens ⊢
  have asked := fits_askActs id destination limit
  cases opens with
  | refused => simp
  | failed _ _ waited =>
    refine List.forall_mem_append.2 ⟨asked, ?_⟩
    rcases waited with rfl | rfl <;> simp [Act.Fits]
  | opened =>
    refine List.forall_mem_append.2 ⟨asked, ?_⟩
    simp [Act.Fits]

/-- Running a command sends no data that would not fit into a frame. -/
theorem fits_shellActs (id : UInt32) (command : String) (connection : Connection) :
    ∀ act ∈ connection.shellActs id command,
      act.Fits (max connection.greeting.maxPayload.toNat 1) := by
  refine List.forall_mem_append.2 ⟨fits_openActs _ _ _ _, ?_⟩
  have opens := connection.opens_openStream id (Shell.destination command)
  generalize connection.openActs id (Shell.destination command) = acts at opens
  rw [openShell]
  cases outcome : connection.openStream id (Shell.destination command) with
  | error failure after => simp [Outcome.listed]
  | ok stream after =>
    rw [outcome] at opens
    cases opens with
    | @opened answer accepts =>
      let endpoint : Endpoint := ⟨connection.accepted id answer, after.channel⟩
      have abides := (Shell.reads_readAll endpoint).abides.trans (Endpoint.abides_close _)
      exact abides.fits (Stream.isProper_opened ..)

end Connection

namespace Session

/-- All streams in use are as they should be, for the size that was agreed upon. -/
structure IsProper (agreed : Greeting) (session : Session) : Prop where
  greeting : session.connection.greeting = agreed
  streams : ∀ stream ∈ session.streams,
    stream.IsProper ∧ stream.maxPayload = max agreed.maxPayload.toNat 1

variable {agreed : Greeting} {session : Session}

/-- No deed changes what was agreed upon when the connection was made. -/
theorem greeting_perform (deed : Deed) (session : Session) :
    (session.perform deed).state.connection.greeting = session.connection.greeting := by
  by_cases closing : deed = .close
  · subst closing
    rw [perform, Outcome.state_mapState, Outcome.state_map]
    unfold Connection.close
    split
    · rfl
    · simp only [Outcome.state_ofResult]
  · exact (session.leads_perform closing).greeting

/-- Every deed keeps all streams in use as they should be. -/
theorem IsProper.entry (proper : session.IsProper agreed) (deed : Deed) :
    (session.entry deed).after.IsProper agreed where
  greeting := (session.greeting_perform deed).trans proper.greeting
  streams := by
    intro stream member
    have arises : session.Arises deed stream := arises_of_perform member
    cases arises with
    | kept member => exact proper.streams stream member
    | @used place use old found =>
      obtain ⟨old_proper, limit⟩ := proper.streams old (List.mem_of_getElem? found)
      have abides := Endpoint.abides_use ⟨old, session.connection.channel⟩ use
      exact ⟨abides.proper old_proper, abides.limit.trans limit⟩
    | opened localId remoteId =>
      rw [proper.greeting]
      exact ⟨Stream.isProper_opened .., rfl⟩

/-- Whatever a deed sends as data fits into a frame. -/
theorem IsProper.fits (proper : session.IsProper agreed) (deed : Deed) :
    ∀ act ∈ session.acts deed, act.Fits (max agreed.maxPayload.toNat 1) := by
  cases deed with
  | openStream id destination => exact Connection.fits_openActs _ _ _ _
  | openWith feature id destination =>
    rw [acts]
    split
    · exact Connection.fits_openActs _ _ _ _
    · simp
  | shell id command =>
    rw [← proper.greeting]
    exact Connection.fits_shellActs id command session.connection
  | close => simp [acts]
  | use place use =>
    rw [acts, useActs]
    split
    · simp
    · next stream found =>
      obtain ⟨stream_proper, limit⟩ := proper.streams stream (List.mem_of_getElem? found)
      rw [← limit]
      exact (Endpoint.abides_use ⟨stream, session.connection.channel⟩ use).fits stream_proper

end Session

/-- **Streams stay within their bounds.** Deeds of any kind are done on a connection, and of the
streams that are then in use any one is used further, whatever others do to the channel in between
and whatever fails. What it has collected never exceeds the size of a frame, so the room left is a
true difference, and once it is closed nothing is pending. From turn to turn of a read no more has
been handed out of a pending payload than there was, so what is left of it is cut inside it, and
the piece that is handed out neither exceeds that nor what was asked for. Whatever a use or a deed
sends as data fits into a frame, and the frame tells its length in full. A receiver that knows the
size of a frame reads only while it has less, and no more than is missing. -/
theorem streams_within_bounds (connection : Connection) (deeds : List Deed) :
    let session := Session.afterDeeds deeds { connection }
    let largest := max connection.greeting.maxPayload.toNat 1
    (∀ stream ∈ session.streams, ∀ uses channel,
      let endpoint : Endpoint := ⟨stream.afterUses uses, channel⟩
      endpoint.stream.maxPayload = largest ∧ endpoint.stream.outgoing.length ≤ largest ∧
      endpoint.room + endpoint.stream.outgoing.length = largest ∧
      (endpoint.stream.closed = true → endpoint.stream.pending = none) ∧
      (∀ use, ∀ act ∈ endpoint.useActs use, act.Fits largest) ∧
      ∀ wanted middle, endpoint.Passes wanted middle →
        (wanted ≠ 0 → middle.readSome wanted = endpoint.readSome wanted) ∧
        (middle.stream.closed = true → middle.stream.pending = none) ∧
        (∀ cursor, middle.stream.pending = some cursor →
          cursor.position ≤ cursor.payload.length ∧
          cursor.position + cursor.rest.length = cursor.payload.length) ∧
        ∀ piece after, middle.turn wanted = .ok (some piece) after → piece.length ≤ wanted) ∧
    (∀ deed, ∀ act ∈ session.acts deed, act.Fits largest) ∧
    ∀ receiver : Receiver, ∀ request ∈ receiver.attempt.requests, ∀ size,
      Frame.pendingSize? request.buffered = some size →
        request.buffered.length < size ∧ request.buffered.length + request.wanted ≤ size := by
  intro session largest
  have nothing : (Session.mk connection []).IsProper connection.greeting := ⟨rfl, by simp⟩
  have proper : session.IsProper connection.greeting :=
    Session.of_afterDeeds (fun _ deed proper => proper.entry deed) nothing deeds
  refine ⟨?_, proper.fits, ?_⟩
  · intro stream member uses channel endpoint
    obtain ⟨stream_proper, agreed⟩ := proper.streams stream member
    obtain ⟨used_proper, same⟩ := stream_proper.afterUses uses
    have limit : endpoint.stream.maxPayload = largest := same.trans agreed
    refine ⟨limit, limit ▸ used_proper.bounded, ?_, used_proper.tidy, ?_, ?_⟩
    · rw [← limit]
      exact Nat.sub_add_cancel used_proper.bounded
    · intro use
      rw [← limit]
      exact (endpoint.abides_use use).fits used_proper
    · intro wanted middle passes
      obtain ⟨acts, abides⟩ := passes.abides
      have still_proper := abides.proper used_proper
      refine ⟨fun some_wanted => passes.readSome_eq some_wanted, still_proper.tidy, ?_,
        fun _ _ turned => Endpoint.length_le_of_turn turned⟩
      intro cursor pending
      have inside := still_proper.inside cursor pending
      exact ⟨inside, inside.position_add_length_rest⟩
  · intro receiver request member size announced
    have modest := receiver.accounts_attempt.modest request member
    have inside := modest.inside size announced
    have some_wanted := modest.some_wanted
    exact ⟨by omega, inside⟩

/-- A write of two bytes fills the room and fails to be sent, and of three bytes that came in one is
read: there is no room left, and two bytes are left to be read. -/
theorem streams_within_bounds_full_stream :
    let answers := [Frame.make Command.connect 0x01000000 2 (Utf8.encode "device::features=cmd"),
      .make Command.okay 9 1 [], .make Command.write 9 1 [104, 101, 121]]
    let transport : Transport := {
      receiver := { source := [.bytes (answers.flatMap Frame.encode) 4096] }
      transmitter := { out := { sink := { flushes := [none, none, some .timedOut] } } } }
    let deeds : List Deed := [.openStream 1 "echo:", .use 0 (.write [104, 105]), .use 0 (.read 1)]
    let cursor : Cursor := { payload := [104, 101, 121], position := 1 }
    ∃ connection stream, Connection.establish none transport = .ok connection ∧
      (Session.afterDeeds deeds { connection }).streams = [stream] ∧
      stream.outgoing = [104, 105] ∧ stream.pending = some cursor ∧
      ∀ channel, Endpoint.room ⟨stream, channel⟩ = 0 ∧
        cursor.position + cursor.rest.length = cursor.payload.length := by
  intro answers transport deeds cursor
  let stream : Stream := {
    localId := 1, remoteId := 9, maxPayload := 2, pending := some cursor, outgoing := [104, 105] }
  have runs : (Connection.establish none transport).toOption.map
      (fun connection => (Session.afterDeeds deeds { connection }).streams) = some [stream] := by
    decide +kernel
  obtain ⟨connection, established, in_use⟩ := Connection.exists_of_map_establish runs
  refine ⟨connection, stream, established, in_use, rfl, rfl, fun channel => ?_⟩
  obtain ⟨bounds, -⟩ := streams_within_bounds connection deeds
  have member : stream ∈ (Session.afterDeeds deeds { connection }).streams := by simp [in_use]
  obtain ⟨limit, -, room, -, -, turns⟩ := bounds stream member [] channel
  obtain ⟨-, -, inside, -⟩ := turns 1 _ .here
  exact ⟨Nat.add_right_cancel (room.trans limit.symm), (inside cursor rfl).2⟩

end DebugBridge

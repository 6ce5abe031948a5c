import DebugBridge.Proofs.Session.Acts
import DebugBridge.Proofs.Session.Output
import DebugBridge.Session.Transfer

/-!
# Where output is cut into frames

What is written on a stream goes out in frames of the largest size, whenever so much has come
together, and the rest goes out when the stream is flushed or closed. So the frames are those
points' doing alone: each stretch of bytes between two of them is cut into pieces of that size,
however the bytes were handed to the stream and whatever else is sent on the connection.
-/

namespace DebugBridge

/-- Cuts bytes into pieces of a size, from the front on. The last one may be shorter. -/
def cut (size : Nat) (bytes : Bytes) : List Bytes :=
  if bytes = [] ∨ size = 0 then []
  else bytes.take size :: cut size (bytes.drop size)
  termination_by bytes.length
  decreasing_by
    rename_i go_on
    have := List.length_pos_iff.2 (not_or.1 go_on).1
    simp only [List.length_drop]
    omega

/-- What makes pieces those of the bytes. -/
structure IsCut (size : Nat) (bytes : Bytes) (pieces : List Bytes) : Prop where
  flatten : pieces.flatten = bytes
  some_bytes : ∀ piece ∈ pieces, piece ≠ []
  bounded : ∀ piece ∈ pieces, piece.length ≤ size
  full : ∀ piece ∈ pieces.dropLast, piece.length = size
  number : pieces.length = (bytes.length + (size - 1)) / size

section Cut

variable {size : Nat}

@[simp] theorem cut_nil (size : Nat) : cut size [] = [] := by
  rw [cut, if_pos (.inl rfl)]

theorem cut_of_ne_nil (nonempty : 0 < size) {bytes : Bytes} (some_bytes : bytes ≠ []) :
    cut size bytes = bytes.take size :: cut size (bytes.drop size) := by
  rw [cut, if_neg]
  rintro (none_there | zero)
  · exact some_bytes none_there
  · omega

/-- Bytes for one piece are that piece. -/
theorem cut_of_le (nonempty : 0 < size) {bytes : Bytes} (some_bytes : bytes ≠ [])
    (bounded : bytes.length ≤ size) : cut size bytes = [bytes] := by
  rw [cut_of_ne_nil nonempty some_bytes, List.take_of_length_le bounded,
    List.drop_of_length_le bounded, cut_nil]

/-- Full pieces may be cut off first. -/
theorem cut_flatten_append (nonempty : 0 < size) {pieces : List Bytes}
    (full : ∀ piece ∈ pieces, piece.length = size) (rest : Bytes) :
    cut size (pieces.flatten ++ rest) = pieces ++ cut size rest := by
  induction pieces with
  | nil => rfl
  | cons piece pieces ih =>
    obtain ⟨whole, others⟩ := List.forall_mem_cons.1 full
    have some_bytes : piece ++ (pieces.flatten ++ rest) ≠ [] := by
      intro none_there
      rw [(List.append_eq_nil_iff.1 none_there).1, List.length_nil] at whole
      omega
    rw [List.flatten_cons, List.append_assoc, cut_of_ne_nil nonempty some_bytes,
      List.take_left' whole, List.drop_left' whole, ih others]
    rfl

theorem isCut_nil (nonempty : 0 < size) : IsCut size [] [] where
  flatten := rfl
  some_bytes := by simp
  bounded := by simp
  full := by simp
  number := by
    rw [Nat.div_eq_of_lt] <;> simp only [List.length_nil]
    omega

/-- A piece in front of those of the rest. -/
theorem IsCut.cons (nonempty : 0 < size) {bytes : Bytes} {pieces : List Bytes}
    (some_bytes : bytes ≠ []) (rest : IsCut size (bytes.drop size) pieces) :
    IsCut size bytes (bytes.take size :: pieces) where
  flatten := by rw [List.flatten_cons, rest.flatten, List.take_append_drop]
  some_bytes := by
    rw [List.forall_mem_cons]
    refine ⟨?_, rest.some_bytes⟩
    intro none_there
    obtain zero | none_at_all := List.take_eq_nil_iff.1 none_there
    · omega
    · exact some_bytes none_at_all
  bounded := by
    rw [List.forall_mem_cons]
    exact ⟨List.length_take_le .., rest.bounded⟩
  full := by
    cases pieces with
    | nil => simp
    | cons piece pieces =>
      rw [List.dropLast_cons_cons, List.forall_mem_cons]
      refine ⟨?_, rest.full⟩
      -- There is more behind the first piece, so it is full.
      have more : bytes.drop size ≠ [] := by
        rw [← rest.flatten]
        have some_there := rest.some_bytes piece List.mem_cons_self
        simp [some_there]
      have longer := List.length_pos_iff.2 more
      rw [List.length_drop] at longer
      rw [List.length_take]
      omega
  number := by
    have some_length := List.length_pos_iff.2 some_bytes
    rw [List.length_cons, rest.number, List.length_drop, ← Nat.add_div_right _ nonempty]
    by_cases short : bytes.length < size
    · have one : (bytes.length + (size - 1)) / size = 1 :=
        Nat.div_eq_of_lt_le (by omega) (by omega)
      rw [one]
      exact Nat.div_eq_of_lt_le (by omega) (by omega)
    · congr 1
      omega

/-- Cutting gives pieces of the bytes as they should be. -/
theorem isCut_cut (nonempty : 0 < size) (bytes : Bytes) : IsCut size bytes (cut size bytes) := by
  fun_induction cut size bytes with
  | case1 bytes stop =>
    obtain rfl | zero := stop
    · exact isCut_nil nonempty
    · omega
  | case2 bytes go_on ih => exact ih.cons nonempty (not_or.1 go_on).1

end Cut

namespace Channel

/-- Between two states of a channel frames have reached the sink. Those of them that carry data of
the stream with these ids carry the payloads. -/
def Sends (localId remoteId : UInt32) (before after : Channel) (payloads : List Bytes) : Prop :=
  ∃ frames : List Frame,
    after.transmitter.out.sink.accepted =
      before.transmitter.out.sink.accepted ++ frames.flatMap Frame.encode ∧
    (frames.filter (Endpoint.isOwn localId remoteId)).map (·.payload) = payloads

/-- The act sends no data of the stream with these ids. -/
def Act.IsForeign (localId remoteId : UInt32) : Act → Prop
  | .send command arg0 arg1 payload =>
    Endpoint.isOwn localId remoteId (.make command arg0 arg1 payload) = false
  | _ => True

variable {localId remoteId : UInt32} {before middle after channel : Channel}

/-- If the transmitter is left alone nothing has been sent. -/
theorem Sends.of_same (same : after.transmitter = before.transmitter) :
    Sends localId remoteId before after [] :=
  ⟨[], by simp [same], rfl⟩

theorem Sends.trans {payloads more : List Bytes}
    (first : Sends localId remoteId before middle payloads)
    (second : Sends localId remoteId middle after more) :
    Sends localId remoteId before after (payloads ++ more) := by
  obtain ⟨frames, arrived, rfl⟩ := first
  obtain ⟨later, arrived_later, rfl⟩ := second
  refine ⟨frames ++ later, ?_, ?_⟩
  · rw [arrived_later, arrived, List.append_assoc, List.flatMap_append]
  · rw [List.filter_append, List.map_append]

/-- What others do leaves the sink reliable and sends nothing of the stream. -/
theorem sends_foreign {act : Act} (foreign : act.IsForeign localId remoteId)
    (reliable : channel.transmitter.IsReliable) :
    (channel.afterAct act).transmitter.IsReliable ∧
      Sends localId remoteId channel (channel.afterAct act) [] := by
  have untouched {after : Channel} (same : after.transmitter = channel.transmitter) :
      after.transmitter.IsReliable ∧ Sends localId remoteId channel after [] :=
    ⟨same ▸ reliable, .of_same same⟩
  cases act with
  | send command arg0 arg1 payload =>
    obtain ⟨transmitter, sent, still_reliable, arrived⟩ :=
      reliable.send command arg0 arg1 payload
    rw [afterAct, send, sent]
    refine ⟨still_reliable, [.make command arg0 arg1 payload], ?_, ?_⟩
    · rw [List.flatMap_singleton]
      exact arrived
    · rw [List.filter_cons_of_neg (by simpa [Act.IsForeign] using foreign)]
      rfl
  | take id command => exact untouched (transmitter_take id command channel)
  | listen | unlisten | discard | countOpened | countClosed => exact untouched rfl

/-- Acts of others carry no data of the stream, and leave the connection reliable. -/
theorem sends_foreign_acts {acts : List Act}
    (foreign : ∀ act ∈ acts, act.IsForeign localId remoteId)
    (reliable : channel.transmitter.IsReliable) :
    (acts.foldl afterAct channel).transmitter.IsReliable ∧
      Sends localId remoteId channel (acts.foldl afterAct channel) [] := by
  induction acts generalizing channel with
  | nil => exact ⟨reliable, .of_same rfl⟩
  | cons act acts ih =>
    obtain ⟨first, others⟩ := List.forall_mem_cons.1 foreign
    obtain ⟨still_reliable, sent⟩ := sends_foreign first reliable
    obtain ⟨reliable_after, sent_later⟩ := ih others still_reliable
    exact ⟨reliable_after, sent.trans sent_later⟩

end Channel

namespace Endpoint

variable {endpoint : Endpoint}

/-- On a reliable sink everything collected goes out as one frame. -/
theorem sendCollected_sends (live : endpoint.isLive = true)
    (reliable : endpoint.channel.transmitter.IsReliable)
    (nonempty : 0 < endpoint.stream.maxPayload)
    (bounded : endpoint.stream.outgoing.length ≤ endpoint.stream.maxPayload) :
    ∃ after, endpoint.sendCollected = .ok () after ∧
      after.stream = (endpoint.withOutgoing []).stream ∧ after.isLive = true ∧
      after.channel.transmitter.IsReliable ∧
      Channel.Sends endpoint.stream.localId endpoint.stream.remoteId endpoint.channel after.channel
        (cut endpoint.stream.maxPayload endpoint.stream.outgoing) := by
  by_cases empty : endpoint.stream.outgoing = []
  · refine ⟨endpoint, ?_, ?_, live, reliable, ?_⟩
    · simp [sendCollected, empty]
    · rw [← empty]
      rfl
    · rw [empty, cut_nil]
      exact .of_same rfl
  · obtain ⟨transmitter, sent, still_reliable, arrived⟩ := reliable.send Command.write
      endpoint.stream.localId endpoint.stream.remoteId endpoint.stream.outgoing
    refine ⟨_, sendCollected_of_ok live empty sent, rfl, ?_, still_reliable,
      [endpoint.collectedFrame], ?_, ?_⟩
    · simpa [isLive, Channel.isLive, Channel.discard, Channel.onBoard] using live
    · rw [List.flatMap_singleton]
      exact arrived
    · rw [List.filter_cons_of_pos endpoint.isOwn_collectedFrame, cut_of_le nonempty empty bounded]
      rfl

/-- A stream in the middle of a stretch of output. What of it was sent went out in full pieces, and
the rest, which is less than a piece, is collected. -/
structure IsWriting (localId remoteId : UInt32) (size : Nat) (stretch : Bytes) (sent : List Bytes)
    (endpoint : Endpoint) : Prop where
  local_id : endpoint.stream.localId = localId
  remote_id : endpoint.stream.remoteId = remoteId
  limit : endpoint.stream.maxPayload = size
  running : endpoint.stream.closed = false
  live : endpoint.isLive = true
  reliable : endpoint.channel.transmitter.IsReliable
  so_far : sent.flatten ++ endpoint.stream.outgoing = stretch
  full : ∀ piece ∈ sent, piece.length = size
  room : endpoint.stream.outgoing.length < size

variable {localId remoteId : UInt32} {size : Nat} {stretch : Bytes} {sent : List Bytes}

/-- A write collects what there is room for, and sends it if that fills the room. -/
theorem write_eq (running : endpoint.stream.closed = false) (live : endpoint.isLive = true)
    (room : endpoint.stream.outgoing.length < endpoint.stream.maxPayload) (bytes : Bytes) :
    let count := min (endpoint.stream.maxPayload - endpoint.stream.outgoing.length) bytes.length
    let collected := endpoint.withOutgoing (endpoint.stream.outgoing ++ bytes.take count)
    endpoint.write bytes =
      if collected.stream.outgoing.length = endpoint.stream.maxPayload then
        (collected.sendCollected.mapFailure Failure.asIo).map fun _ => count
      else .ok count collected := by
  extract_lets count collected
  have taken : endpoint.refusal? = none := by simp [refusal?, running, live]
  rw [write, taken]
  cases bytes with
  | nil =>
    have same : collected = endpoint := by
      simp [collected, withOutgoing]
    have short : collected.stream.outgoing.length ≠ endpoint.stream.maxPayload := by
      rw [same]
      omega
    rw [if_neg short, same]
    simp [count]
  | cons byte more => rfl

/-- Some bytes are taken, and then the others are written. -/
theorem writeAll_of_write {bytes : Bytes} {count : Nat} {after : Endpoint} (some_taken : 0 < count)
    (some_bytes : bytes ≠ []) (written : endpoint.write bytes = .ok count after) :
    endpoint.writeAll bytes = after.writeAll (bytes.drop count) := by
  rw [writeAll, dif_neg some_bytes]
  split <;> rename_i again <;> rw [written] at again
  · obtain ⟨rfl, -⟩ := Outcome.ok.inj again
    contradiction
  · obtain ⟨rfl, rfl⟩ := Outcome.ok.inj again
    rfl
  · contradiction

namespace IsWriting

variable (writing : endpoint.IsWriting localId remoteId size stretch sent)
include writing

/-- The pieces of the stretch are those that were sent and what is collected. -/
theorem cut_stretch : sent ++ cut size endpoint.stream.outgoing = cut size stretch := by
  rw [← writing.so_far, cut_flatten_append (Nat.zero_lt_of_lt writing.room) writing.full]

/-- A stretch goes on, or a new one begins, when nothing has changed but what is collected and what
is being read. -/
theorem next {after : Endpoint} {bytes further : Bytes} {pending : Option Cursor}
    {pieces : List Bytes}
    (stream : after.stream = { endpoint.stream with outgoing := bytes, pending })
    (live : after.isLive = true) (reliable : after.channel.transmitter.IsReliable)
    (so_far : pieces.flatten ++ bytes = further) (full : ∀ piece ∈ pieces, piece.length = size)
    (room : bytes.length < size) : after.IsWriting localId remoteId size further pieces := by
  obtain ⟨old, channel⟩ := after
  obtain rfl : old = { endpoint.stream with outgoing := bytes, pending } := stream
  exact ⟨writing.local_id, writing.remote_id, writing.limit, writing.running, live, reliable,
    so_far, full, room⟩

/-- What is collected goes out as the last piece. -/
theorem rest_sends : ∃ after, endpoint.sendCollected = .ok () after ∧
    after.stream = (endpoint.withOutgoing []).stream ∧ after.isLive = true ∧
    after.channel.transmitter.IsReliable ∧
    Channel.Sends localId remoteId endpoint.channel after.channel
      (cut size endpoint.stream.outgoing) := by
  have room := writing.room
  obtain ⟨rfl, rfl, rfl, -, live, reliable, -⟩ := writing
  exact sendCollected_sends live reliable (Nat.zero_lt_of_lt room) (Nat.le_of_lt room)

/-- A write takes at least a byte if there is one, and sends at most a full piece. -/
theorem write (bytes : Bytes) : ∃ count after more, endpoint.write bytes = .ok count after ∧
    count ≤ bytes.length ∧ (bytes ≠ [] → 0 < count) ∧
    after.IsWriting localId remoteId size (stretch ++ bytes.take count) (sent ++ more) ∧
    Channel.Sends localId remoteId endpoint.channel after.channel more := by
  have limit := writing.limit
  have room := writing.room
  have written := write_eq writing.running writing.live (limit ▸ room) bytes
  extract_lets count collected at written
  rw [limit] at written
  have at_most : count ≤ bytes.length := Nat.min_le_right ..
  have some_taken : bytes ≠ [] → 0 < count := by
    intro some_bytes
    have some_length := List.length_pos_iff.2 some_bytes
    omega
  have bounded : collected.stream.outgoing.length ≤ size := by
    simp only [collected, withOutgoing, List.length_append, List.length_take]
    omega
  have so_far : sent.flatten ++ collected.stream.outgoing = stretch ++ bytes.take count := by
    rw [← writing.so_far, List.append_assoc]
    rfl
  by_cases filled : collected.stream.outgoing.length = size
  · rw [if_pos filled] at written
    have live : collected.isLive = true := writing.live
    obtain ⟨after, sent_all, stream, still_live, still_reliable, sends⟩ :=
      sendCollected_sends live writing.reliable (limit ▸ Nat.zero_lt_of_lt room) (limit ▸ bounded)
    rw [sent_all] at written
    have some_collected : collected.stream.outgoing ≠ [] := by
      intro empty
      rw [empty, List.length_nil] at filled
      omega
    refine ⟨count, after, [collected.stream.outgoing], written, at_most, some_taken, ?_, ?_⟩
    · refine writing.next stream still_live still_reliable ?_ ?_ (Nat.zero_lt_of_lt room)
      · rw [List.flatten_concat, List.append_nil, so_far]
      · rw [List.forall_mem_append, List.forall_mem_singleton]
        exact ⟨writing.full, filled⟩
    · have piece := cut_of_le (Nat.zero_lt_of_lt room) some_collected bounded
      rw [← piece, ← limit, ← writing.local_id, ← writing.remote_id]
      exact sends
  · rw [if_neg filled] at written
    have short : collected.stream.outgoing.length < size := Nat.lt_of_le_of_ne bounded filled
    refine ⟨count, collected, [], written, at_most, some_taken, ?_, .of_same rfl⟩
    rw [List.append_nil]
    exact ⟨writing.local_id, writing.remote_id, limit, writing.running, writing.live,
      writing.reliable, so_far, writing.full, short⟩

/-- Writing all bytes succeeds, by as many writes as it takes. -/
theorem writeAll (bytes : Bytes) : ∃ after more, endpoint.writeAll bytes = .ok () after ∧
    after.IsWriting localId remoteId size (stretch ++ bytes) (sent ++ more) ∧
    Channel.Sends localId remoteId endpoint.channel after.channel more := by
  induction length : bytes.length using Nat.strongRecOn
    generalizing bytes endpoint stretch sent with
  | ind length ih =>
    subst length
    by_cases empty : bytes = []
    · refine ⟨endpoint, [], ?_, ?_, .of_same rfl⟩
      · rw [Endpoint.writeAll, dif_pos empty]
      · rw [empty, List.append_nil, List.append_nil]
        exact writing
    · obtain ⟨count, middle, first, written, -, some_taken, still, sends⟩ := writing.write bytes
      have some_length := List.length_pos_iff.2 empty
      have fewer : (bytes.drop count).length < bytes.length := by
        have := some_taken empty
        rw [List.length_drop]
        omega
      obtain ⟨after, more, rest, writing_after, sends_later⟩ := ih _ fewer still _ rfl
      refine ⟨after, first ++ more, ?_, ?_, sends.trans sends_later⟩
      · rw [writeAll_of_write (some_taken empty) empty written, rest]
      · rw [List.append_assoc, List.take_append_drop] at writing_after
        rw [← List.append_assoc]
        exact writing_after

/-- A flush ends the stretch. -/
theorem flush : ∃ after rest, endpoint.flush = .ok () after ∧ sent ++ rest = cut size stretch ∧
    after.IsWriting localId remoteId size [] [] ∧ after.stream.outgoing = [] ∧
    Channel.Sends localId remoteId endpoint.channel after.channel rest := by
  obtain ⟨after, sent_all, stream, live, reliable, sends⟩ := writing.rest_sends
  refine ⟨after, _, ?_, writing.cut_stretch, ?_, ?_, sends⟩
  · have taken : endpoint.refusal? = none := by simp [refusal?, writing.running, writing.live]
    rw [Endpoint.flush, taken, sent_all]
    rfl
  · have none_sent : ∀ piece ∈ ([] : List Bytes), piece.length = size := by simp
    exact writing.next stream live reliable rfl none_sent (Nat.zero_lt_of_lt writing.room)
  · rw [stream]
    rfl

/-- Others may use the connection in the meantime, and the stream may be read. -/
theorem others {acts : List Channel.Act} {pending : Option Cursor}
    (foreign : ∀ act ∈ acts, act.IsForeign localId remoteId)
    (live : Endpoint.isLive ⟨{ endpoint.stream with pending },
      acts.foldl Channel.afterAct endpoint.channel⟩ = true) :
    IsWriting localId remoteId size stretch sent ⟨{ endpoint.stream with pending },
      acts.foldl Channel.afterAct endpoint.channel⟩ ∧
    Channel.Sends localId remoteId endpoint.channel
      (acts.foldl Channel.afterAct endpoint.channel) [] := by
  obtain ⟨reliable, sends⟩ := Channel.sends_foreign_acts foreign writing.reliable
  exact ⟨writing.next rfl live reliable writing.so_far writing.full writing.room, sends⟩

/-- Closing sends the rest and says goodbye. -/
theorem close : ∃ after frames, endpoint.close = .ok () after ∧ after.stream.outgoing = [] ∧
    after.channel.transmitter.IsReliable ∧
    after.channel.transmitter.out.sink.accepted = endpoint.channel.transmitter.out.sink.accepted ++
      (frames ++ [endpoint.closeFrame]).flatMap Frame.encode ∧
    sent ++ (frames.filter (isOwn localId remoteId)).map (·.payload) = cut size stretch := by
  have room := writing.room
  have rest := writing.cut_stretch
  obtain ⟨rfl, rfl, rfl, running, live, reliable, -⟩ := writing
  have still_live : endpoint.shut.isLive = true := live
  obtain ⟨middle, sent_all, stream, -, still_reliable, frames, arrived, pieces⟩ :=
    sendCollected_sends still_live reliable (Nat.zero_lt_of_lt room) (Nat.le_of_lt room)
  have flushed : endpoint.shut.sendRemainder = .ok () middle := by
    rw [sendRemainder, sent_all]
  obtain ⟨transmitter, announced, last_reliable, goodbye⟩ := still_reliable.send Command.close
    middle.stream.localId middle.stream.remoteId []
  have announced_all : middle.announceClose =
      .ok () { middle with channel.transmitter := transmitter } := by
    rw [announceClose, send, Channel.send, Transmitter.sendClose, announced]
    rfl
  refine ⟨Endpoint.retire { middle with channel.transmitter := transmitter }, frames, ?_, ?_,
    last_reliable, ?_, ?_⟩
  · simp only [Endpoint.close, running, flushed, announced_all, Outcome.state_ok]
    rfl
  · exact congrArg Stream.outgoing stream
  · have same_frame : Frame.make Command.close middle.stream.localId middle.stream.remoteId [] =
        endpoint.closeFrame := by
      rw [stream]
      rfl
    rw [List.flatMap_append, List.flatMap_singleton, ← List.append_assoc, ← same_frame]
    exact goodbye.trans (congrArg (· ++ _) arrived)
  · rw [← rest]
    exact congrArg (sent ++ ·) pieces

end IsWriting

/-- What happens to a stream that is written to. -/
inductive Doing where
  /-- One write, which may take a part of the bytes. -/
  | write (bytes : Bytes)
  /-- As many writes as it takes. -/
  | writeAll (bytes : Bytes)
  | flush
  /-- Others use the connection, or the stream is read, and then something else is being read. -/
  | others (acts : List Channel.Act) (pending : Option Cursor)

/-- What comes of it. The value is what was taken of the bytes to be written. -/
def undergo : Doing → Endpoint → Outcome Endpoint Bytes
  | .write bytes, endpoint => (endpoint.write bytes).map bytes.take
  | .writeAll bytes, endpoint => (endpoint.writeAll bytes).map fun _ => bytes
  | .flush, endpoint => endpoint.flush.map fun _ => []
  | .others acts pending, endpoint => .ok [] {
      stream := { endpoint.stream with pending }
      channel := acts.foldl Channel.afterAct endpoint.channel }

/-- Something that was done. -/
structure Done where
  doing : Doing
  result : Except Failure Bytes
  after : Endpoint

/-- The bytes that were taken. -/
def Done.taken (done : Done) : Bytes :=
  done.result.toOption.getD []

/-- What is done to a stream, with what comes of it. -/
def done (doing : Doing) (endpoint : Endpoint) : Done :=
  ⟨doing, (endpoint.undergo doing).result, (endpoint.undergo doing).state⟩

/-- One thing after the other, whatever comes of it. -/
def history : List Doing → Endpoint → List Done
  | [], _ => []
  | doing :: doings, endpoint =>
    endpoint.done doing :: history doings (endpoint.done doing).after

/-- The stream after all of it. -/
def afterDoings : List Doing → Endpoint → Endpoint
  | [], endpoint => endpoint
  | doing :: doings, endpoint => afterDoings doings (endpoint.done doing).after

/-- The stretches of bytes taken between two flushes: the one that has begun, and those to come. The
last one is still open. -/
def stretches (begun : Bytes) : List Done → List Bytes
  | [] => [begun]
  | done :: later =>
    match done.doing with
    | .flush => begun :: stretches [] later
    | _ => stretches (begun ++ done.taken) later

/-- What is to be said of something that was done. -/
structure Done.IsFine (done : Done) : Prop where
  /-- A write takes the bytes from the front on, and at least one of them. -/
  write : ∀ bytes, done.doing = .write bytes →
    ∃ taken, done.result = .ok taken ∧ taken <+: bytes ∧ (bytes ≠ [] → taken ≠ [])
  writeAll : ∀ bytes, done.doing = .writeAll bytes → done.result = .ok bytes
  /-- A flush leaves nothing behind. -/
  flush : done.doing = .flush → done.result = .ok [] ∧ done.after.stream.outgoing = [] ∧
    done.after.channel.transmitter.out.pending = []

/-- Others do nothing in the name of the stream. -/
def Doing.IsForeign (localId remoteId : UInt32) : Doing → Prop
  | .others acts _ => ∀ act ∈ acts, act.IsForeign localId remoteId
  | _ => True

/-- A flush ends the stretch that has begun. -/
theorem stretches_of_flush {done : Done} (flush : done.doing = .flush) (begun : Bytes)
    (later : List Done) : stretches begun (done :: later) = begun :: stretches [] later := by
  rw [stretches, flush]

/-- Anything but a flush adds what it takes to the stretch that has begun. -/
theorem stretches_of_ne_flush {done : Done} (other : done.doing ≠ .flush) (begun : Bytes)
    (later : List Done) :
    stretches begun (done :: later) = stretches (begun ++ done.taken) later := by
  rw [stretches]
  split
  · contradiction
  · rfl

section Run

variable {localId remoteId : UInt32} {size : Nat} {stretch : Bytes} {sent more : List Bytes}
  {middle last : Endpoint} {done : Done} {log : List Done}

/-- The pieces that were sent are those of the stretches that have ended, and the full ones of the
stretch that is still open. -/
def Tallies (localId remoteId : UInt32) (size : Nat) (stretch : Bytes) (sent : List Bytes)
    (endpoint : Endpoint) (log : List Done) (last : Endpoint) : Prop :=
  ∃ more ended begun pieces,
    Channel.Sends localId remoteId endpoint.channel last.channel more ∧
    last.IsWriting localId remoteId size begun pieces ∧
    stretches stretch log = ended ++ [begun] ∧ sent ++ more = ended.flatMap (cut size) ++ pieces

/-- As long as nothing is done the pieces are those of the stretch that is open. -/
theorem IsWriting.tallies (writing : endpoint.IsWriting localId remoteId size stretch sent) :
    Tallies localId remoteId size stretch sent endpoint [] endpoint :=
  ⟨[], [], stretch, sent, .of_same rfl, writing, rfl, List.append_nil sent⟩

/-- The tally may be told from before something that is no flush. -/
theorem Tallies.after_other (other : done.doing ≠ .flush)
    (sends : Channel.Sends localId remoteId endpoint.channel middle.channel more)
    (rest : Tallies localId remoteId size (stretch ++ done.taken) (sent ++ more) middle log last) :
    Tallies localId remoteId size stretch sent endpoint (done :: log) last := by
  obtain ⟨later, ended, begun, pieces, sends_later, writing, split, same⟩ := rest
  refine ⟨more ++ later, ended, begun, pieces, sends.trans sends_later, writing, ?_, ?_⟩
  · rw [stretches_of_ne_flush other, split]
  · rw [← List.append_assoc, same]

/-- The tally may be told from before a flush that has sent the rest of its stretch. -/
theorem Tallies.after_flush (flush : done.doing = .flush)
    (sends : Channel.Sends localId remoteId endpoint.channel middle.channel more)
    (whole : sent ++ more = cut size stretch)
    (rest : Tallies localId remoteId size [] [] middle log last) :
    Tallies localId remoteId size stretch sent endpoint (done :: log) last := by
  obtain ⟨later, ended, begun, pieces, sends_later, writing, split, same⟩ := rest
  refine ⟨more ++ later, stretch :: ended, begun, pieces, sends.trans sends_later, writing, ?_, ?_⟩
  · rw [stretches_of_flush flush, split]
    rfl
  · rw [← List.append_assoc, whole, List.flatMap_cons, List.append_assoc, ← same]
    rfl

/-- Whatever happens but a flush, the stretch goes on. -/
theorem IsWriting.done_other (writing : endpoint.IsWriting localId remoteId size stretch sent)
    {doing : Doing} (other : doing ≠ .flush) (foreign : doing.IsForeign localId remoteId)
    (live : (endpoint.done doing).after.isLive = true) :
    (endpoint.done doing).IsFine ∧ ∃ more,
      Channel.Sends localId remoteId endpoint.channel (endpoint.done doing).after.channel more ∧
      (endpoint.done doing).after.IsWriting localId remoteId size
        (stretch ++ (endpoint.done doing).taken) (sent ++ more) := by
  cases doing with
  | write bytes =>
    obtain ⟨count, after, more, written, -, some_taken, still, sends⟩ := writing.write bytes
    have same : endpoint.done (.write bytes) = ⟨.write bytes, .ok (bytes.take count), after⟩ := by
      rw [Endpoint.done, undergo, written]
      rfl
    rw [same]
    refine ⟨⟨?_, by simp, by simp⟩, more, sends, still⟩
    rintro _ ⟨⟩
    refine ⟨_, rfl, List.take_prefix .., ?_⟩
    intro some_bytes none_taken
    obtain zero | none_there := List.take_eq_nil_iff.1 none_taken
    · exact absurd zero (Nat.ne_of_gt (some_taken some_bytes))
    · exact some_bytes none_there
  | writeAll bytes =>
    obtain ⟨after, more, written, still, sends⟩ := writing.writeAll bytes
    have same : endpoint.done (.writeAll bytes) = ⟨.writeAll bytes, .ok bytes, after⟩ := by
      rw [Endpoint.done, undergo, written]
      rfl
    rw [same]
    refine ⟨⟨by simp, ?_, by simp⟩, more, sends, still⟩
    rintro _ ⟨⟩
    rfl
  | flush => contradiction
  | others acts pending =>
    obtain ⟨still, sends⟩ := writing.others foreign live
    have same : endpoint.done (.others acts pending) = ⟨.others acts pending, .ok [],
      { endpoint.stream with pending }, acts.foldl Channel.afterAct endpoint.channel⟩ := rfl
    rw [same]
    refine ⟨⟨by simp, by simp, by simp⟩, [], sends, ?_⟩
    simpa [Done.taken, Except.toOption] using still

/-- A flush ends the stretch, with its last piece. -/
theorem IsWriting.done_flush (writing : endpoint.IsWriting localId remoteId size stretch sent) :
    (endpoint.done .flush).IsFine ∧ ∃ rest,
      Channel.Sends localId remoteId endpoint.channel (endpoint.done .flush).after.channel rest ∧
      sent ++ rest = cut size stretch ∧
      (endpoint.done .flush).after.IsWriting localId remoteId size [] [] := by
  obtain ⟨after, rest, flushed, whole, still, empty, sends⟩ := writing.flush
  have same : endpoint.done .flush = ⟨.flush, .ok [], after⟩ := by
    rw [Endpoint.done, undergo, flushed]
    rfl
  rw [same]
  refine ⟨⟨by simp, by simp, ?_⟩, rest, sends, whole, still⟩
  exact fun _ => ⟨rfl, empty, still.reliable.gone⟩

/-- Whatever is done to a stream that stays live, all of it is fine and the tally is right. -/
theorem IsWriting.history (writing : endpoint.IsWriting localId remoteId size stretch sent)
    {doings : List Doing} (foreign : ∀ doing ∈ doings, doing.IsForeign localId remoteId)
    (live : ∀ done ∈ endpoint.history doings, done.after.isLive = true) :
    (∀ done ∈ endpoint.history doings, done.IsFine) ∧
      Tallies localId remoteId size stretch sent endpoint (endpoint.history doings)
        (endpoint.afterDoings doings) := by
  induction doings generalizing endpoint stretch sent with
  | nil => exact ⟨by simp [Endpoint.history], writing.tallies⟩
  | cons doing doings ih =>
    obtain ⟨first_foreign, others_foreign⟩ := List.forall_mem_cons.1 foreign
    obtain ⟨first_live, others_live⟩ := List.forall_mem_cons.1 live
    rw [Endpoint.history, List.forall_mem_cons]
    by_cases flush : doing = .flush
    · subst flush
      obtain ⟨fine, rest, sends, whole, still⟩ := writing.done_flush
      obtain ⟨others_fine, tallies⟩ := ih still others_foreign others_live
      exact ⟨⟨fine, others_fine⟩, tallies.after_flush rfl sends whole⟩
    · obtain ⟨fine, more, sends, still⟩ := writing.done_other flush first_foreign first_live
      obtain ⟨others_fine, tallies⟩ := ih still others_foreign others_live
      exact ⟨⟨fine, others_fine⟩, tallies.after_other flush sends⟩

end Run

/-- A new stream is at the beginning of its first stretch. -/
theorem isWriting_opened {localId remoteId maxPayload : UInt32} {channel : Channel}
    (live : channel.isLive localId = true) (reliable : channel.transmitter.IsReliable) :
    IsWriting localId remoteId (max maxPayload.toNat 1) [] []
      ⟨.opened localId remoteId maxPayload, channel⟩ where
  local_id := rfl
  remote_id := rfl
  limit := rfl
  running := rfl
  live := live
  reliable := reliable
  so_far := rfl
  full := by simp
  room := Nat.lt_of_lt_of_le Nat.zero_lt_one (Nat.le_max_right ..)

/-- **Frame boundaries depend on the flushes only.** A stream was opened on a reliable connection
and stays live, while it is written to and flushed and others use the connection as well. Then every
call succeeds, and a flush leaves nothing behind. When the stream is closed the frames with its data
are those of its stretches, each cut into pieces of the negotiated size, and a goodbye follows. How
the bytes of a stretch were handed over makes no difference. -/
theorem frames_cut_at_flushes {localId remoteId maxPayload : UInt32} {channel : Channel}
    {doings : List Doing} (live : channel.isLive localId = true)
    (reliable : channel.transmitter.IsReliable)
    (foreign : ∀ doing ∈ doings, doing.IsForeign localId remoteId)
    (stays_live : ∀ done ∈ history doings ⟨.opened localId remoteId maxPayload, channel⟩,
      done.after.isLive = true) :
    let start : Endpoint := ⟨.opened localId remoteId maxPayload, channel⟩
    let log := start.history doings
    let size := max maxPayload.toNat 1
    (∀ done ∈ log, done.IsFine) ∧
    (∃ final frames, (start.afterDoings doings).close = .ok () final ∧
      final.stream.outgoing = [] ∧ final.channel.transmitter.out.pending = [] ∧
      final.channel.transmitter.out.sink.accepted = channel.transmitter.out.sink.accepted ++
        (frames ++ [start.closeFrame]).flatMap Frame.encode ∧
      (frames.filter (isOwn localId remoteId)).map (·.payload) =
        (stretches [] log).flatMap (cut size)) ∧
    ∀ stretch ∈ stretches [] log, IsCut size stretch (cut size stretch) := by
  intro start log size
  have nonempty : 0 < size := Nat.lt_of_lt_of_le Nat.zero_lt_one (Nat.le_max_right ..)
  obtain ⟨fine, more, ended, begun, pieces, ⟨frames, arrived, own⟩, writing, split, same⟩ :=
    (isWriting_opened live reliable).history foreign stays_live
  obtain ⟨final, rest, closed, empty, gone, goodbye, whole⟩ := writing.close
  have closeFrame : (start.afterDoings doings).closeFrame = start.closeFrame := by
    rw [Endpoint.closeFrame, writing.local_id, writing.remote_id]
    rfl
  refine ⟨fine, ⟨final, frames ++ rest, closed, empty, gone.gone, ?_, ?_⟩,
    fun stretch _ => isCut_cut nonempty stretch⟩
  · rw [goodbye, arrived, closeFrame]
    simp only [List.append_assoc, List.flatMap_append]
  · rw [split, List.flatMap_append, List.flatMap_singleton, ← whole, ← List.append_assoc, ← same,
      List.filter_append, List.map_append, own]
    rfl

/-- Six bytes and one more, for frames of four: three frames, with one of another stream between
them. The sink takes three bytes at a time. -/
theorem frames_cut_at_flushes_short_writes :
    let start : Endpoint := {
      stream := .opened 1 9 4
      channel := {
        queue := {
          board := (({} : Switchboard).listen 1).listen 2
          receiver := { source := [] } }
        transmitter := { out := { sink := { writes := [.atMost 3, .atMost 3] } } } } }
    let doings := [.write [1, 2, 3], .others [.send Command.write 2 8 [0]] none,
      .writeAll [4, 5, 6], .flush, .flush, .write [7]]
    ∃ final frames, (start.afterDoings doings).close = .ok () final ∧
      final.channel.transmitter.out.sink.accepted =
        (frames ++ [start.closeFrame]).flatMap Frame.encode ∧
      (frames.filter (isOwn 1 9)).map (·.payload) = [[1, 2, 3, 4], [5, 6], [7]] := by
  intro start doings
  have checked : (start.history doings).all (·.after.isLive) = true := by decide +kernel
  have pieces : (stretches [] (start.history doings)).flatMap (cut 4) =
      [[1, 2, 3, 4], [5, 6], [7]] := by
    decide +kernel
  have foreign : ∀ doing ∈ doings, doing.IsForeign 1 9 := by
    simp [doings, Doing.IsForeign, Channel.Act.IsForeign, isOwn, Frame.make]
  have reliable : start.channel.transmitter.IsReliable := by
    refine ⟨rfl, rfl, ?_, ?_⟩ <;> simp [start]
  obtain ⟨-, ⟨final, frames, closed, -, -, arrived, own⟩, -⟩ :=
    @frames_cut_at_flushes 1 9 4 start.channel doings rfl reliable foreign
      fun done member => List.all_eq_true.mp checked done member
  exact ⟨final, frames, closed, arrived, own.trans pieces⟩

end Endpoint

end DebugBridge

import DebugBridge.Proofs.Session.Cutting
import DebugBridge.Proofs.Session.Packets
import DebugBridge.Session.Connection

/-!
# Input for a command

A packet that is written is flushed, so it is a stretch of output of its own: it begins with a frame
and ends with one, and in between it is cut wherever the frame size says. Nothing of that can be
seen behind the frames. Their payloads put together are the packets that were written, one behind
the other, and the grammar reads these packets and no others.
-/

namespace DebugBridge.Shell

/-- What is written as one packet. -/
structure Message where
  id : UInt8
  payload : Bytes
  deriving DecidableEq

/-- The bytes of a message. -/
def Message.encode (message : Message) : Bytes :=
  Shell.encode message.id message.payload

/-- Whether the length of the payload can be written in front of it. -/
def Message.Fits (message : Message) : Prop :=
  message.payload.length < UInt32.size

/-- A packet as a message. -/
def Packet.message (packet : Packet) : Message :=
  ⟨packet.id, packet.payload⟩

/-- The messages that make up a byte string: an id, the length of the payload, the payload, and then
the next message. -/
inductive Spells : List Message → Bytes → Prop
  | nil : Spells [] []
  | cons {id : UInt8} {length : UInt32} {payload rest : Bytes} {messages : List Message}
      (exact : payload.length = length.toNat) (others : Spells messages rest) :
      Spells (⟨id, payload⟩ :: messages) (header id length ++ (payload ++ rest))

section Messages

variable {messages : List Message} {bytes : Bytes}

/-- A message is as long as its header and its payload. -/
theorem Message.length_encode (message : Message) :
    message.encode.length = headerSize + message.payload.length := by
  have size : (header message.id (UInt32.ofNat message.payload.length)).length = headerSize := rfl
  rw [← size, ← List.length_append]
  rfl

/-- Messages that fit are spelled by their bytes, one behind the other. -/
theorem spells_encode (fit : ∀ message ∈ messages, message.Fits) :
    Spells messages (messages.flatMap Message.encode) := by
  induction messages with
  | nil => exact .nil
  | cons message messages ih =>
    obtain ⟨fits, others_fit⟩ := List.forall_mem_cons.mp fit
    have exact : message.payload.length = (UInt32.ofNat message.payload.length).toNat := by
      rw [UInt32.toNat_ofNat']
      exact (Nat.mod_eq_of_lt fits).symm
    have spells : Spells (message :: messages) (header message.id _ ++ (message.payload ++ _)) :=
      .cons exact (ih others_fit)
    rwa [← List.append_assoc] at spells

/-- No byte string is made up of other messages as well. -/
theorem Spells.unique {others : List Message} (spells : Spells messages bytes)
    (also : Spells others bytes) : messages = others := by
  induction spells generalizing others with
  | nil =>
    generalize empty : ([] : Bytes) = bytes at also
    cases also with
    | nil => rfl
    | cons => contradiction
  | @cons id length payload rest messages exact spells ih =>
    generalize same : header id length ++ (payload ++ rest) = bytes at also
    cases also with
    | nil => contradiction
    | @cons other_id other_length other_payload other_rest others other_exact other_spells =>
      obtain ⟨headers, bodies⟩ := List.append_inj same rfl
      obtain ⟨rfl, lengths⟩ := List.cons.inj headers
      have read := Word.split?_encode_append length []
      rw [lengths, Word.split?_encode_append, Option.some.injEq, Prod.mk.injEq] at read
      obtain ⟨rfl, -⟩ := read
      obtain ⟨rfl, rfl⟩ := List.append_inj bodies (exact.trans other_exact.symm)
      rw [ih other_spells]

end Messages

/-- What happens to a shell stream that is supplied with input. -/
inductive Supply where
  | packet (id : UInt8) (payload : Bytes)
  | stdin (data : Bytes)
  | closeStdin
  /-- Others use the connection, or the stream is read, and then something else is being read. -/
  | others (acts : List Channel.Act) (pending : Option Cursor)

namespace Supply

/-- The message that is written. -/
def message? : Supply → Option Message
  | packet id payload => some ⟨id, payload⟩
  | stdin data => some ⟨stdinId, data⟩
  | closeStdin => some ⟨closeStdinId, []⟩
  | others _ _ => none

/-- Others do nothing in the name of the stream. -/
def IsForeign (localId remoteId : UInt32) : Supply → Prop
  | others acts _ => ∀ act ∈ acts, act.IsForeign localId remoteId
  | _ => True

end Supply

/-- What comes of it. -/
def perform : Supply → Endpoint → Outcome Endpoint Unit
  | .packet id payload, endpoint => writePacket id payload endpoint
  | .stdin data, endpoint => writeStdin data endpoint
  | .closeStdin, endpoint => Shell.closeStdin endpoint
  | .others acts pending, endpoint => .ok () {
      stream := { endpoint.stream with pending }
      channel := acts.foldl Channel.afterAct endpoint.channel }

/-- Something that was done, with the stream before it and after it. -/
structure Supplied where
  supply : Supply
  before : Endpoint
  result : Except Failure Unit
  after : Endpoint

/-- What happens to a stream, with the stream after it. -/
def supplied (supply : Supply) (endpoint : Endpoint) : Supplied :=
  ⟨supply, endpoint, (perform supply endpoint).result, (perform supply endpoint).state⟩

/-- One thing after the other, whatever comes of it. -/
def history : List Supply → Endpoint → List Supplied
  | [], _ => []
  | supply :: supplies, endpoint =>
    supplied supply endpoint :: history supplies (supplied supply endpoint).after

/-- The stream after all of it. -/
def afterSupplies : List Supply → Endpoint → Endpoint
  | [], endpoint => endpoint
  | supply :: supplies, endpoint => afterSupplies supplies (supplied supply endpoint).after

/-- The messages that are written, in order. -/
def written (supplies : List Supply) : List Message :=
  supplies.filterMap Supply.message?

/-- The payloads in which a message is sent. -/
def Supply.pieces (size : Nat) (supply : Supply) : List Bytes :=
  supply.message?.toList.flatMap fun message => cut size message.encode

/-- What is to be said of something that was done: a message went out as a whole, in frames of its
own, and nothing was kept back. -/
structure Supplied.IsSent (localId remoteId : UInt32) (size : Nat) (entry : Supplied) : Prop where
  success : entry.result = .ok ()
  none_before : entry.before.stream.outgoing = []
  none_kept : entry.after.stream.outgoing = [] ∧ entry.after.channel.transmitter.out.pending = []
  sends : Channel.Sends localId remoteId entry.before.channel entry.after.channel
    (entry.supply.pieces size)

variable {localId remoteId : UInt32} {size : Nat} {endpoint : Endpoint}

/-- At the beginning of a stretch nothing is collected. -/
theorem outgoing_of_isWriting (writing : endpoint.IsWriting localId remoteId size [] []) :
    endpoint.stream.outgoing = [] :=
  writing.so_far

/-- A packet is cut into frames, and the last of them is flushed. -/
theorem writePacket_of_isWriting (writing : endpoint.IsWriting localId remoteId size [] [])
    (id : UInt8) (payload : Bytes) :
    ∃ after, writePacket id payload endpoint = .ok () after ∧
      after.IsWriting localId remoteId size [] [] ∧
      Channel.Sends localId remoteId endpoint.channel after.channel
        (cut size (encode id payload)) := by
  obtain ⟨middle, more, all_written, still, sends⟩ := writing.writeAll (encode id payload)
  obtain ⟨after, rest, flushed, whole, last, -, sends_rest⟩ := still.flush
  refine ⟨after, ?_, last, ?_⟩
  · rw [writePacket, all_written]
    exact flushed
  · rw [List.nil_append, List.nil_append] at whole
    rw [← whole]
    exact sends.trans sends_rest

/-- Every call writes the packet of its message. -/
theorem perform_of_message {supply : Supply} {message : Message}
    (writes : supply.message? = some message) :
    perform supply = writePacket message.id message.payload := by
  cases supply with
  | packet | stdin | closeStdin =>
    obtain rfl := Option.some.inj writes
    rfl
  | others => contradiction

/-- A message that is written goes out as a whole, and the stream is at the beginning of a stretch
again. -/
theorem supplied_of_isWriting (writing : endpoint.IsWriting localId remoteId size [] [])
    {supply : Supply} (foreign : supply.IsForeign localId remoteId)
    (live : (supplied supply endpoint).after.isLive = true) :
    (supplied supply endpoint).IsSent localId remoteId size ∧
      (supplied supply endpoint).after.IsWriting localId remoteId size [] [] := by
  have before := outgoing_of_isWriting writing
  cases writes : supply.message? with
  | some message =>
    obtain ⟨after, sent, still, sends⟩ :=
      writePacket_of_isWriting writing message.id message.payload
    have same : supplied supply endpoint = ⟨supply, endpoint, .ok (), after⟩ := by
      rw [supplied, perform_of_message writes, sent]
      rfl
    have pieces : supply.pieces size = cut size message.encode := by
      rw [Supply.pieces, writes, Option.toList_some, List.flatMap_singleton]
    rw [same]
    exact ⟨⟨rfl, before, ⟨outgoing_of_isWriting still, still.reliable.gone⟩, pieces ▸ sends⟩, still⟩
  | none =>
    cases supply with
    | packet | stdin | closeStdin => contradiction
    | others acts pending =>
      obtain ⟨still, sends⟩ := writing.others foreign live
      exact ⟨⟨rfl, before, ⟨before, still.reliable.gone⟩, sends⟩, still⟩

/-- Messages that are written go out one after the other, each in frames of its own. -/
theorem history_of_isWriting {supplies : List Supply}
    (writing : endpoint.IsWriting localId remoteId size [] [])
    (foreign : ∀ supply ∈ supplies, supply.IsForeign localId remoteId)
    (live : ∀ entry ∈ history supplies endpoint, entry.after.isLive = true) :
    (∀ entry ∈ history supplies endpoint, entry.IsSent localId remoteId size) ∧
      Channel.Sends localId remoteId endpoint.channel (afterSupplies supplies endpoint).channel
        (supplies.flatMap (Supply.pieces size)) := by
  induction supplies generalizing endpoint with
  | nil => exact ⟨fun _ member => absurd member List.not_mem_nil, .of_same rfl⟩
  | cons supply supplies ih =>
    obtain ⟨first_foreign, others_foreign⟩ := List.forall_mem_cons.mp foreign
    obtain ⟨first_live, others_live⟩ := List.forall_mem_cons.mp live
    obtain ⟨first_sent, still⟩ := supplied_of_isWriting writing first_foreign first_live
    obtain ⟨others_sent, sends_others⟩ := ih still others_foreign others_live
    refine ⟨List.forall_mem_cons.mpr ⟨first_sent, others_sent⟩, ?_⟩
    rw [List.flatMap_cons]
    exact first_sent.sends.trans sends_others

theorem written_cons (supply : Supply) (supplies : List Supply) :
    written (supply :: supplies) = supply.message?.toList ++ written supplies := by
  cases writes : supply.message? with
  | none => exact List.filterMap_cons_none writes
  | some message => exact List.filterMap_cons_some writes

/-- Cutting messages into pieces loses nothing of them. -/
theorem flatten_pieces (nonempty : 0 < size) (supplies : List Supply) :
    (supplies.flatMap (Supply.pieces size)).flatten =
      (written supplies).flatMap Message.encode := by
  induction supplies with
  | nil => rfl
  | cons supply supplies ih =>
    rw [List.flatMap_cons, List.flatten_append, ih, written_cons, List.flatMap_append,
      Supply.pieces]
    cases supply.message? with
    | none => rfl
    | some message =>
      rw [Option.toList_some, List.flatMap_singleton, List.flatMap_singleton,
        (isCut_cut nonempty message.encode).flatten]

/-- A stream that was opened can be written to. -/
theorem isWriting_of_openStream {id : UInt32} {destination : String}
    {connection opened : Connection} {stream : Stream}
    (success : connection.openStream id destination = .ok stream opened)
    (can_send : connection.channel.transmitter.CanSend)
    (live : opened.channel.isLive stream.localId = true) :
    Endpoint.IsWriting stream.localId stream.remoteId
      (max connection.greeting.maxPayload.toNat 1) [] [] ⟨stream, opened.channel⟩ := by
  obtain ⟨transmitter, sent, reliable, -⟩ := can_send.send Command.openStream id 0
    (Utf8.encode destination ++ [0])
  unfold Connection.openStream at success
  split at success
  · contradiction
  · split at success
    · next remoteId channel asked =>
      obtain ⟨rfl, rfl⟩ := Outcome.ok.inj success
      have sent_off : (connection.channel.listen id).send (Transmitter.sendOpen id destination) =
          .ok () { connection.channel.listen id with transmitter } :=
        congrArg (Outcome.mapState _) sent
      rw [Connection.request, sent_off] at asked
      have kept := Channel.transmitter_take id Command.okay
        { connection.channel.listen id with transmitter }
      have state := congrArg Outcome.state asked
      rw [Outcome.state_map] at state
      have same : channel.transmitter = transmitter :=
        (congrArg Channel.transmitter state).symm.trans kept
      exact Endpoint.isWriting_opened live (same ▸ reliable)
    · contradiction

/-- **Input arrives as the packets that were written.** A shell stream was opened with a sink that
does not fail, and stays live while packets are written and others use the connection as well. Every
call succeeds; its packet goes out in frames of its own, as many as the negotiated size asks for,
and nothing is kept back. The payloads of the frames put together are the packets that were written
and no others, so who reads them finds these packets. -/
theorem packets_written_arrive {id : UInt32} {command : String} {connection opened : Connection}
    {stream : Stream} {supplies : List Supply}
    (success : connection.openShell id command = .ok stream opened)
    (can_send : connection.channel.transmitter.CanSend)
    (live : opened.channel.isLive stream.localId = true)
    (fit : ∀ message ∈ written supplies, message.Fits)
    (foreign : ∀ supply ∈ supplies, supply.IsForeign stream.localId stream.remoteId)
    (stays_live : ∀ entry ∈ history supplies ⟨stream, opened.channel⟩,
      entry.after.isLive = true) :
    let start : Endpoint := ⟨stream, opened.channel⟩
    let size := max connection.greeting.maxPayload.toNat 1
    let payloads := supplies.flatMap (Supply.pieces size)
    (∀ entry ∈ history supplies start, entry.IsSent stream.localId stream.remoteId size) ∧
    (∀ message ∈ written supplies, IsCut size message.encode (cut size message.encode) ∧
      (cut size message.encode).length =
        (headerSize + message.payload.length + (size - 1)) / size) ∧
    Channel.Sends stream.localId stream.remoteId start.channel
      (afterSupplies supplies start).channel payloads ∧
    (∀ messages, Spells messages payloads.flatten ↔ messages = written supplies) ∧
    ∀ (packets : List Packet) (later : List Message) (reader : Endpoint),
      written supplies = packets.map Packet.message ++ later → reader.IsSound →
      payloads <+: reader.unfinished [] →
      (readPackets packets.length reader).1 = packets.map .ok := by
  intro start size payloads
  have nonempty : 0 < size := Nat.lt_of_lt_of_le Nat.zero_lt_one (Nat.le_max_right ..)
  have writing := isWriting_of_openStream success can_send live
  obtain ⟨all_sent, sends⟩ := history_of_isWriting writing foreign stays_live
  have whole : payloads.flatten = (written supplies).flatMap Message.encode :=
    flatten_pieces nonempty supplies
  refine ⟨all_sent, fun message _ => ?_, sends, fun messages => ?_, ?_⟩
  · have is_cut := isCut_cut nonempty message.encode
    exact ⟨is_cut, message.length_encode ▸ is_cut.number⟩
  · rw [whole]
    refine ⟨fun spells => spells.unique (spells_encode fit), ?_⟩
    rintro rfl
    exact spells_encode fit
  · intro packets later reader split sound arrived
    obtain ⟨more, unfinished⟩ := arrived
    have packets_fit : ∀ packet ∈ packets, packet.Fits := by
      intro packet member
      apply fit packet.message
      rw [split]
      exact List.mem_append_left _ (List.mem_map_of_mem member)
    have offers : reader.Offers reader.isEnding (packets.flatMap Packet.encode ++
        (later.flatMap Message.encode ++ more.flatten)) := by
      refine ⟨sound, rfl, ?_⟩
      rw [← unfinished, List.flatten_append, whole, split, List.flatMap_append, List.flatMap_map,
        List.append_assoc]
      rfl
    obtain ⟨after, -, found⟩ := readPackets_of_offers packets_fit offers
    rw [found]

/-- Three packets for frames of four bytes, which do not even hold a header, with a frame of another
stream in between. The sink takes three bytes at a time, and the reader's stream goes on. -/
theorem packets_written_arrive_small_frames :
    let connection : Connection := {
      channel := {
        queue := { receiver := {
          source := [.bytes (Frame.make Command.okay 9 1 []).encode 20] } }
        transmitter := { out := { sink := { writes := [.atMost 3, .atMost 3] } } } }
      greeting := {
        version := 0x01000000
        maxPayload := 4
        banner := ⟨"", "", "", [], []⟩ } }
    let supplies : List Supply := [.packet stdoutId [104, 105],
      .others [.send Command.write 2 8 [0]] none, .packet stderrId [], .packet exitId [7]]
    let payloads : List Bytes :=
      [[1, 2, 0, 0], [0, 104, 105], [2, 0, 0, 0], [0], [3, 1, 0, 0], [0, 7]]
    let reader : Endpoint := {
      stream := .opened 9 1 4096
      channel := { queue := {
        board := ({} : Switchboard).listen 9
        receiver := {
          source := [.bytes ((payloads.map (Frame.make Command.write 1 9)).flatMap Frame.encode)
            20] } } } }
    ∃ stream opened, connection.openShell 1 "cat" = .ok stream opened ∧
      Channel.Sends 1 9 opened.channel
        (afterSupplies supplies ⟨stream, opened.channel⟩).channel payloads ∧
      reader.IsSound ∧ reader.unfinished [] = payloads ∧
      (readPackets 3 reader).1 = [.ok (.stdout [104, 105]), .ok (.stderr []), .ok (.exit 7)] := by
  intro connection supplies payloads reader
  let opened := (connection.openShell 1 "cat").state
  have success : connection.openShell 1 "cat" = .ok (.opened 1 9 4) opened :=
    Outcome.eq_ok_of_toOption (by decide +kernel)
  have can_send : connection.channel.transmitter.CanSend := by
    refine ⟨rfl, ?_, ?_⟩ <;> simp [connection]
  have fit : ∀ message ∈ written supplies, message.payload.length < UInt32.size := by decide
  have foreign : ∀ supply ∈ supplies, supply.IsForeign 1 9 := by
    simp [supplies, Supply.IsForeign, Channel.Act.IsForeign, Endpoint.isOwn, Frame.make]
  have checked :
      (history supplies ⟨.opened 1 9 4, opened.channel⟩).all (·.after.isLive) = true := by
    decide +kernel
  obtain ⟨-, -, sends, -, reads⟩ := packets_written_arrive success can_send (by decide +kernel) fit
    foreign fun entry member => List.all_eq_true.mp checked entry member
  have pieces : supplies.flatMap (Supply.pieces 4) = payloads := by decide +kernel
  have sound : reader.IsSound :=
    .of_running rfl ⟨rfl, rfl, .of_regular rfl rfl⟩ ⟨rfl, rfl, Source.isClean_bytes _ _⟩
  have exact : ∀ frame ∈ payloads.map (Frame.make Command.write 1 9), frame.IsExact := by
    simp only [payloads, List.map_cons, List.map_nil, List.forall_mem_cons]
    exact ⟨rfl, rfl, rfl, rfl, rfl, rfl, fun _ member => absurd member List.not_mem_nil⟩
  have arrived : reader.unfinished [] = payloads := by
    rw [(Endpoint.unfinished_of_wire exact (List.append_nil _) rfl).1]
    rfl
  have found := reads [.stdout [104, 105], .stderr [], .exit 7] [] reader rfl sound
    (arrived.symm ▸ pieces ▸ List.prefix_rfl)
  exact ⟨_, opened, success, pieces ▸ sends, sound, arrived, found⟩

end DebugBridge.Shell

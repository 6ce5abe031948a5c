import DebugBridge.Proofs.Session.Transfers
import DebugBridge.Session.Shell

/-!
# Packets out of a stream

The grammar of packets is a relation between a byte string, what a call for a packet finds at its
front, and the bytes behind that. It is complete and unambiguous. On a connection that does not
fail, calls for packets find what the grammar says of the bytes that the stream carries, whatever
payloads those bytes were cut into. A packet that has arrived as a whole is found even if the stream
goes on behind it.
-/

namespace DebugBridge.Shell

/-- What stands in front of a payload. -/
def header (id : UInt8) (length : UInt32) : Bytes :=
  id :: Word.encode length

namespace Packet

/-- The id under which the device sends a packet. -/
def id : Packet → UInt8
  | stdout _ => stdoutId
  | stderr _ => stderrId
  | exit _ => exitId

/-- The data of a packet; of an exit it is the code. -/
def payload : Packet → Bytes
  | stdout data | stderr data => data
  | exit code => [code]

/-- The bytes of a packet. -/
def encode (packet : Packet) : Bytes :=
  Shell.encode packet.id packet.payload

/-- Whether the length of the payload can be written in front of it. -/
def Fits (packet : Packet) : Prop :=
  packet.payload.length < UInt32.size

/-- Whether a packet brings output of the command. -/
def IsOutput : Packet → Prop
  | stdout _ | stderr _ => True
  | exit _ => False

/-- What a packet adds to the output. -/
def output : Packet → Bytes
  | stdout data => data
  | stderr _ | exit _ => []

/-- What a packet adds to the error output. -/
def errorOutput : Packet → Bytes
  | stderr data => data
  | stdout _ | exit _ => []

end Packet

/-- What a call for a packet finds at the front of a byte string, and what is left behind it. -/
inductive Parses : Bytes → Except Failure Packet → Bytes → Prop
  | packet {packet : Packet} {rest : Bytes} (fits : packet.Fits) :
      Parses (packet.encode ++ rest) (.ok packet) rest
  /-- Of a packet with an unknown id the header is taken. -/
  | unknown {id : UInt8} {length : UInt32} {rest : Bytes} (not_stdout : id ≠ stdoutId)
      (not_stderr : id ≠ stderrId) (not_exit : id ≠ exitId) :
      Parses (header id length ++ rest)
        (.error (.shell s!"Invalid shell packet id: {id.toNat}")) rest
  /-- Of an exit packet with another length than one the header is taken. -/
  | odd {length : UInt32} {rest : Bytes} (not_one : length ≠ 1) :
      Parses (header exitId length ++ rest) (.error
        (.shell s!"Shell exit packet does not have payload length 1: {length.toNat}")) rest
  /-- The stream ends before a header or inside of it. -/
  | headerCut {bytes : Bytes} (short : bytes.length < headerSize) :
      Parses bytes (.error Endpoint.unfilled) []
  /-- The stream ends inside a packet of output. -/
  | outputCut {id : UInt8} {length : UInt32} {payload : Bytes}
      (output : id = stdoutId ∨ id = stderrId) (short : payload.length < length.toNat) :
      Parses (header id length ++ payload) (.error (.ofKind .unexpectedEof)) []
  /-- The stream ends before the exit code. -/
  | exitCut : Parses (header exitId 1) (.error Endpoint.unfilled) []

/-- What the bytes behind a header come to. -/
def parseBody (id : UInt8) (length : Nat) (bytes : Bytes) : Except Failure Packet × Bytes :=
  if id = stdoutId ∨ id = stderrId then
    if bytes.length < length then (.error (.ofKind .unexpectedEof), [])
    else
      let data := bytes.take length
      (.ok (if id = stdoutId then .stdout data else .stderr data), bytes.drop length)
  else if id = exitId then
    if length = 1 then
      if bytes = [] then (.error Endpoint.unfilled, [])
      else (.ok (.exit (bytes.headD 0)), bytes.tail)
    else (.error (.shell s!"Shell exit packet does not have payload length 1: {length}"), bytes)
  else (.error (.shell s!"Invalid shell packet id: {id.toNat}"), bytes)

/-- The grammar as a function. -/
def parse : Bytes → Except Failure Packet × Bytes
  | id :: bytes =>
    match Word.split? bytes with
    | some (length, body) => parseBody id length.toNat body
    | none => (.error Endpoint.unfilled, [])
  | [] => (.error Endpoint.unfilled, [])

/-- Behind a header the grammar goes on with the body. -/
theorem parse_header (id : UInt8) (length : UInt32) (bytes : Bytes) :
    parse (header id length ++ bytes) = parseBody id length.toNat bytes := by
  simp only [header, List.cons_append, parse, Word.split?_encode_append]

variable {bytes rest : Bytes} {result : Except Failure Packet} {packet : Packet}

/-- A packet is its header and its payload. -/
theorem Packet.encode_eq_header (packet : Packet) :
    packet.encode = header packet.id (UInt32.ofNat packet.payload.length) ++ packet.payload :=
  rfl

/-- A length that fits is read as it was written. -/
theorem Packet.Fits.toNat_length (fits : packet.Fits) :
    (UInt32.ofNat packet.payload.length).toNat = packet.payload.length := by
  rw [UInt32.toNat_ofNat']
  exact Nat.mod_eq_of_lt fits

/-- Bytes that hold no header are used up in vain. -/
theorem parse_of_short (short : bytes.length < headerSize) :
    parse bytes = (.error Endpoint.unfilled, []) := by
  unfold parse
  split
  · next id bytes =>
    split
    · next length body split =>
      rw [Word.eq_encode_append_of_split? split] at short
      simp only [headerSize, List.length_cons, List.length_append, Word.length_encode] at short
      omega
    · rfl
  · rfl

/-- The grammar is unambiguous: what it finds is what its function gives. -/
theorem Parses.parse_eq (parses : Parses bytes result rest) : parse bytes = (result, rest) := by
  cases parses with
  | @packet packet rest fits =>
    rw [packet.encode_eq_header, List.append_assoc, parse_header, fits.toNat_length]
    cases packet <;> simp [parseBody, Packet.id, Packet.payload, stdoutId, stderrId, exitId]
  | unknown not_stdout not_stderr not_exit =>
    rw [parse_header, parseBody, if_neg (by simp [not_stdout, not_stderr]), if_neg not_exit]
  | @odd length rest not_one =>
    have long : length.toNat ≠ 1 := fun one => not_one (UInt32.toNat_inj.mp one)
    rw [parse_header, parseBody, if_neg (by decide), if_pos rfl, if_neg long]
  | headerCut short => exact parse_of_short short
  | outputCut output short =>
    rw [parse_header, parseBody, if_pos output, if_pos short]
  | exitCut => rfl

/-- The header and what is behind it, of a byte string that is long enough to have one. -/
theorem exists_header (long : headerSize ≤ bytes.length) :
    ∃ id length body, bytes = header id length ++ body := by
  match bytes, long with
  | id :: bytes, long =>
    obtain ⟨length, split⟩ := Word.exists_split? bytes (Nat.le_of_succ_le_succ long)
    exact ⟨id, length, _, congrArg (id :: ·) (Word.eq_encode_append_of_split? split)⟩

/-- A payload of the announced length makes a packet. -/
theorem Parses.of_header {length : UInt32} (exact : packet.payload.length = length.toNat) :
    Parses (header packet.id length ++ (packet.payload ++ rest)) (.ok packet) rest := by
  have fits : packet.Fits := by
    rw [Packet.Fits, exact]
    exact length.toNat_lt
  have same : UInt32.ofNat packet.payload.length = length := by
    rw [exact, UInt32.ofNat_toNat]
  have parses : Parses (packet.encode ++ rest) (.ok packet) rest := .packet fits
  rwa [packet.encode_eq_header, same, List.append_assoc] at parses

/-- What the function makes of a body is in the grammar. -/
theorem parses_parseBody (id : UInt8) (length : UInt32) (bytes : Bytes) :
    Parses (header id length ++ bytes) (parseBody id length.toNat bytes).1
      (parseBody id length.toNat bytes).2 := by
  unfold parseBody
  split
  · next output =>
    split
    · next short => exact .outputCut output short
    · next enough =>
      have exact := List.length_take_of_le (Nat.not_lt.mp enough)
      have whole : Parses (header id length ++ (bytes.take length.toNat ++ bytes.drop length.toNat))
          (.ok (if id = stdoutId then .stdout (bytes.take length.toNat)
            else .stderr (bytes.take length.toNat))) (bytes.drop length.toNat) := by
        rcases output with rfl | rfl
        · exact @Parses.of_header _ (.stdout _) length exact
        · exact @Parses.of_header _ (.stderr _) length exact
      rwa [List.take_append_drop] at whole
  · next not_output =>
    split
    · next exits =>
      subst exits
      split
      · next one =>
        obtain rfl : length = 1 := UInt32.toNat_inj.mp one
        cases bytes with
        | nil => exact .exitCut
        | cons code rest => exact @Parses.of_header _ (.exit code) 1 rfl
      · next not_one => exact .odd fun one => not_one (congrArg UInt32.toNat one)
    · next not_exit =>
      exact .unknown (fun same => not_output (.inl same)) (fun same => not_output (.inr same))
        not_exit

/-- What the function gives is in the grammar, so something is always found. -/
theorem parses_parse (bytes : Bytes) : Parses bytes (parse bytes).1 (parse bytes).2 := by
  by_cases short : bytes.length < headerSize
  · rw [parse_of_short short]
    exact .headerCut short
  · obtain ⟨id, length, body, rfl⟩ := exists_header (Nat.not_lt.mp short)
    rw [parse_header]
    exact parses_parseBody id length body

/-- The grammar is complete and unambiguous. -/
theorem parses_iff : Parses bytes result rest ↔ parse bytes = (result, rest) := by
  refine ⟨Parses.parse_eq, fun parsed => ?_⟩
  have parses := parses_parse bytes
  rwa [parsed] at parses

example : parse [2, 1, 0, 0, 0, 33, 3, 1] = (.ok (.stderr [33]), [3, 1]) := rfl

variable {endpoint : Endpoint} {ending : Bool}

/-- A header that has arrived is read off the front. -/
theorem readHeader_of_offers {id : UInt8} {length : UInt32}
    (offers : endpoint.Offers ending (header id length ++ rest)) :
    ∃ after, after.Offers ending rest ∧ readHeader endpoint = .ok (id, length.toNat) after := by
  have size : (header id length).length = headerSize := rfl
  have long : headerSize ≤ (header id length ++ rest).length := by
    rw [List.length_append, size]
    exact Nat.le_add_right headerSize _
  have split : Word.split? (Word.encode length) = some (length, []) := by
    rw [← List.append_nil (Word.encode length), Word.split?_encode_append]
  obtain ⟨after, after_offers, read⟩ := offers.readExact headerSize (.inl long)
  rw [List.drop_left' size] at after_offers
  rw [if_pos long, List.take_left' size] at read
  refine ⟨after, after_offers, ?_⟩
  rw [readHeader, read]
  simp only [Outcome.ofResult, Outcome.andThen, header, split, Option.map_some, Option.getD_some]

/-- Without enough bytes for a header, what there is is taken. -/
theorem readHeader_of_short (offers : endpoint.Offers true bytes)
    (short : bytes.length < headerSize) :
    ∃ after, after.Offers true [] ∧ readHeader endpoint = .error Endpoint.unfilled after := by
  obtain ⟨after, after_offers, read⟩ := offers.readExact headerSize (.inr rfl)
  rw [List.drop_of_length_le (Nat.le_of_lt short)] at after_offers
  rw [if_neg (Nat.not_le.mpr short)] at read
  refine ⟨after, after_offers, ?_⟩
  rw [readHeader, read]
  rfl

/-- A payload is read off the front if there are bytes enough, and missed if the stream ends before.
-/
theorem readPayload_of_offers (offers : endpoint.Offers ending bytes) (length : Nat)
    (possible : length ≤ bytes.length ∨ ending = true) :
    ∃ after, after.Offers ending (bytes.drop length) ∧ readPayload length endpoint =
      .ofResult (if bytes.length < length then .error (.ofKind .unexpectedEof)
        else .ok (bytes.take length)) after := by
  obtain ⟨after, after_offers, read⟩ := offers.readUpTo length possible
  refine ⟨after, after_offers, ?_⟩
  have brought : (bytes.take length).length < length ↔ bytes.length < length := by
    rw [List.length_take]
    omega
  rw [readPayload, read]
  simp only [Outcome.andThen, brought]
  split <;> rfl

/-- Behind a header a call finds what the grammar says of the body. -/
theorem readBody_of_offers (offers : endpoint.Offers ending bytes) (id : UInt8) (length : Nat)
    (possible : length ≤ bytes.length ∨ ending = true) :
    ∃ after, after.Offers ending (parseBody id length bytes).2 ∧
      readBody id length endpoint = .ofResult (parseBody id length bytes).1 after := by
  by_cases output : id = stdoutId ∨ id = stderrId
  · obtain ⟨after, after_offers, read⟩ := readPayload_of_offers offers length possible
    have wrapped : readBody id length endpoint = (readPayload length endpoint).map
        fun data => if id = stdoutId then .stdout data else .stderr data := by
      rcases output with rfl | rfl <;> rfl
    rw [parseBody, if_pos output, wrapped, read]
    by_cases short : bytes.length < length
    · rw [List.drop_of_length_le (Nat.le_of_lt short)] at after_offers
      simp only [if_pos short]
      exact ⟨after, after_offers, rfl⟩
    · simp only [if_neg short]
      exact ⟨after, after_offers, rfl⟩
  · obtain ⟨not_stdout, not_stderr⟩ := not_or.mp output
    rw [parseBody, readBody, if_neg output, if_neg not_stdout, if_neg not_stderr]
    by_cases exits : id = exitId
    · rw [if_pos exits, if_pos exits]
      by_cases one : length = 1
      · obtain ⟨after, after_offers, read⟩ := offers.readExact 1 (one ▸ possible)
        rw [if_pos one, if_neg (not_not_intro one), read]
        cases bytes with
        | nil => exact ⟨after, after_offers, rfl⟩
        | cons code rest => exact ⟨after, after_offers, rfl⟩
      · rw [if_neg one, if_pos one]
        exact ⟨endpoint, offers, rfl⟩
    · rw [if_neg exits, if_neg exits]
      exact ⟨endpoint, offers, rfl⟩

/-- A call for a packet finds what the grammar says, and leaves what is behind it. -/
theorem readPacket_of_carries (carries : endpoint.Carries bytes) :
    ∃ after, after.Carries (parse bytes).2 ∧
      readPacket endpoint = .ofResult (parse bytes).1 after := by
  have offers := Endpoint.carries_iff.mp carries
  by_cases short : bytes.length < headerSize
  · obtain ⟨after, after_offers, read⟩ := readHeader_of_short offers short
    rw [parse_of_short short]
    refine ⟨after, Endpoint.carries_iff.mpr after_offers, ?_⟩
    rw [readPacket, read]
    rfl
  · obtain ⟨id, length, body, rfl⟩ := exists_header (Nat.not_lt.mp short)
    obtain ⟨behind, behind_offers, header_read⟩ := readHeader_of_offers offers
    obtain ⟨after, after_offers, read⟩ :=
      readBody_of_offers behind_offers id length.toNat (.inr rfl)
    rw [parse_header]
    refine ⟨after, Endpoint.carries_iff.mpr after_offers, ?_⟩
    rw [readPacket, header_read]
    exact read

/-- A packet that has arrived as a whole is found, whether the stream ends behind it or not. -/
theorem readPacket_of_offers (fits : packet.Fits)
    (offers : endpoint.Offers ending (packet.encode ++ rest)) :
    ∃ after, after.Offers ending rest ∧ readPacket endpoint = .ok packet after := by
  have parses : Parses (packet.encode ++ rest) (.ok packet) rest := .packet fits
  have parsed := parses.parse_eq
  rw [packet.encode_eq_header, List.append_assoc] at offers parsed
  rw [parse_header, fits.toNat_length] at parsed
  obtain ⟨middle, middle_offers, header_read⟩ := readHeader_of_offers offers
  have enough : packet.payload.length ≤ (packet.payload ++ rest).length := by
    rw [List.length_append]
    exact Nat.le_add_right _ _
  obtain ⟨after, after_offers, read⟩ :=
    readBody_of_offers middle_offers packet.id packet.payload.length (.inl enough)
  rw [parsed] at after_offers read
  refine ⟨after, after_offers, ?_⟩
  rw [readPacket, header_read, fits.toNat_length]
  exact read

/-- So many calls for a packet, whether they fail or not: what they find, and the stream after
them. -/
def readPackets : Nat → Endpoint → List (Except Failure Packet) × Endpoint
  | 0, endpoint => ([], endpoint)
  | count + 1, endpoint =>
    let first := readPacket endpoint
    let others := readPackets count first.state
    (first.result :: others.1, others.2)

/-- What one call after the other finds in a byte string, and what they leave. -/
inductive Finds : Bytes → List (Except Failure Packet) → Bytes → Prop
  | done {bytes : Bytes} : Finds bytes [] bytes
  | call {bytes middle rest : Bytes} {result : Except Failure Packet}
      {results : List (Except Failure Packet)} (first : Parses bytes result middle)
      (others : Finds middle results rest) : Finds bytes (result :: results) rest

/-- One call after the other finds what the grammar says, from the bytes that the one before has
left. -/
theorem readPackets_of_carries (carries : endpoint.Carries bytes) (count : Nat) :
    ∃ rest, Finds bytes (readPackets count endpoint).1 rest ∧
      (readPackets count endpoint).2.Carries rest := by
  induction count generalizing endpoint bytes with
  | zero => exact ⟨bytes, .done, carries⟩
  | succ count ih =>
    obtain ⟨after, after_carries, read⟩ := readPacket_of_carries carries
    obtain ⟨rest, others, last_carries⟩ := ih after_carries
    rw [readPackets, read, Outcome.state_ofResult, Outcome.result_ofResult]
    exact ⟨rest, .call (parses_parse bytes) others, last_carries⟩

/-- Packets that have arrived are found one after the other. -/
theorem readPackets_of_offers {packets : List Packet} (fit : ∀ packet ∈ packets, packet.Fits)
    (offers : endpoint.Offers ending (packets.flatMap Packet.encode ++ rest)) :
    ∃ after, after.Offers ending rest ∧
      readPackets packets.length endpoint = (packets.map .ok, after) := by
  induction packets generalizing endpoint with
  | nil => exact ⟨endpoint, offers, rfl⟩
  | cons packet packets ih =>
    obtain ⟨first_fits, others_fit⟩ := List.forall_mem_cons.mp fit
    rw [List.flatMap_cons, List.append_assoc] at offers
    obtain ⟨middle, middle_offers, first⟩ := readPacket_of_offers first_fits offers
    obtain ⟨after, after_offers, others⟩ := ih others_fit middle_offers
    refine ⟨after, after_offers, ?_⟩
    rw [List.length_cons, readPackets, first, Outcome.state_ok, others]
    rfl

/-- Whether these are packets of output that can be written. -/
def AreOutputs (packets : List Packet) : Prop :=
  ∀ packet ∈ packets, packet.IsOutput ∧ packet.Fits

/-- What a command leaves behind that brought these packets and exited. -/
def response (outputs : List Packet) (exitCode : UInt8) : Response where
  output := Utf8.lossy (outputs.flatMap Packet.output)
  errorOutput := Utf8.lossy (outputs.flatMap Packet.errorOutput)
  exitCode := exitCode

/-- A packet of output in front of others. -/
theorem AreOutputs.cons {packets : List Packet} (output : packet.IsOutput) (fits : packet.Fits)
    (others : AreOutputs packets) : AreOutputs (packet :: packets) := by
  intro other member
  rcases List.mem_cons.mp member with rfl | later
  · exact ⟨output, fits⟩
  · exact others other later

/-- Every byte string begins with packets of output, perhaps none, behind which there is an exit
code or a failure. -/
theorem exists_outputs (bytes : Bytes) :
    ∃ (outputs : List Packet) (tail : Bytes) (last : Except Failure UInt8) (rest : Bytes),
      AreOutputs outputs ∧ bytes = outputs.flatMap Packet.encode ++ tail ∧
        Parses tail (last.map .exit) rest := by
  have none_yet : AreOutputs [] := fun _ member => absurd member List.not_mem_nil
  induction size : bytes.length using Nat.strongRecOn generalizing bytes with
  | ind size ih =>
    subst size
    have parses := parses_parse bytes
    generalize (parse bytes).1 = result, (parse bytes).2 = rest at parses
    cases result with
    | error failure => exact ⟨[], bytes, .error failure, rest, none_yet, rfl, parses⟩
    | ok packet =>
      by_cases output : packet.IsOutput
      · obtain ⟨fits⟩ := parses
        have shorter : rest.length < (packet.encode ++ rest).length := by
          simp only [packet.encode_eq_header, header, List.length_append, List.length_cons]
          omega
        obtain ⟨outputs, tail, last, final, are_outputs, rfl, ends⟩ := ih _ shorter rest rfl
        refine ⟨packet :: outputs, tail, last, final, are_outputs.cons output fits, ?_, ends⟩
        rw [List.flatMap_cons, List.append_assoc]
      · cases packet with
        | exit code => exact ⟨[], bytes, .ok code, rest, none_yet, rfl, parses⟩
        | stdout | stderr => exact absurd trivial output

/-- Collecting goes from packet to packet until one tells the exit code. -/
theorem collect_eq (output errorOutput : List Bytes) (endpoint : Endpoint) :
    collect output errorOutput endpoint =
      match readPacket endpoint with
      | .error failure after => .error failure after
      | .ok (.stdout data) after => collect (data :: output) errorOutput after
      | .ok (.stderr data) after => collect output (data :: errorOutput) after
      | .ok (.exit exitCode) after =>
        .ok {
          output := Utf8.lossy output.reverse.flatten
          errorOutput := Utf8.lossy errorOutput.reverse.flatten
          exitCode } after := by
  rw [collect]
  split <;> rename_i read <;> simp only [read]

/-- Collecting goes through the packets of output and ends with what is behind them. -/
theorem collect_of_carries {outputs : List Packet} {tail : Bytes} {last : Except Failure UInt8}
    (are_outputs : AreOutputs outputs) (ends : Parses tail (last.map .exit) rest)
    (carries : endpoint.Carries (outputs.flatMap Packet.encode ++ tail))
    (output errorOutput : List Bytes) :
    ∃ after, after.Carries rest ∧ collect output errorOutput endpoint =
      .ofResult (last.map fun exitCode => {
        output := Utf8.lossy (output.reverse.flatten ++ outputs.flatMap Packet.output)
        errorOutput :=
          Utf8.lossy (errorOutput.reverse.flatten ++ outputs.flatMap Packet.errorOutput)
        exitCode }) after := by
  induction outputs generalizing endpoint output errorOutput with
  | nil =>
    obtain ⟨after, after_carries, read⟩ := readPacket_of_carries carries
    rw [List.flatMap_nil, List.nil_append, ends.parse_eq] at after_carries read
    refine ⟨after, after_carries, ?_⟩
    rw [collect_eq, read, List.flatMap_nil, List.flatMap_nil, List.append_nil, List.append_nil]
    cases last <;> rfl
  | cons packet outputs ih =>
    obtain ⟨is_output, fits⟩ := are_outputs packet List.mem_cons_self
    have first : Parses (packet.encode ++ (outputs.flatMap Packet.encode ++ tail)) (.ok packet)
        (outputs.flatMap Packet.encode ++ tail) := .packet fits
    rw [List.flatMap_cons, List.append_assoc] at carries
    obtain ⟨middle, middle_carries, read⟩ := readPacket_of_carries carries
    rw [first.parse_eq] at middle_carries read
    have others := ih (fun other member => are_outputs other (List.mem_cons_of_mem _ member))
      middle_carries
    rw [collect_eq, read]
    cases packet with
    | stdout data =>
      obtain ⟨after, after_carries, collected⟩ := others (data :: output) errorOutput
      refine ⟨after, after_carries, collected.trans ?_⟩
      simp [Packet.output, Packet.errorOutput]
    | stderr data =>
      obtain ⟨after, after_carries, collected⟩ := others output (data :: errorOutput)
      refine ⟨after, after_carries, collected.trans ?_⟩
      simp [Packet.output, Packet.errorOutput]
    | exit code => exact is_output.elim

/-- **Packets are read as the bytes have them.** A stream on a connection that does not fail is
read to which the device sends some payloads and then its end. Calls for packets find what the
grammar says of the payloads put together, one after the other, and take no byte more. Reading all
gives the output in front of the first exit code, decoded as a whole, or the first failure. -/
theorem packets_read_exactly {start : Endpoint} {payloads : List Bytes} (sound : start.IsSound)
    (ending : start.isEnding = true) (sent : start.unfinished [] = payloads) :
    (∀ bytes result rest, Parses bytes result rest ↔ parse bytes = (result, rest)) ∧
    (∀ count, ∃ rest, Finds payloads.flatten (readPackets count start).1 rest ∧
      (readPackets count start).2.Carries rest) ∧
    (∀ outputs tail (last : Except Failure UInt8) rest, AreOutputs outputs →
      payloads.flatten = outputs.flatMap Packet.encode ++ tail →
      Parses tail (last.map .exit) rest →
      ∃ after, readAll start = .ofResult (last.map (response outputs)) after ∧
        after.Carries rest) ∧
    (∃ outputs tail, ∃ last : Except Failure UInt8, ∃ rest, AreOutputs outputs ∧
      payloads.flatten = outputs.flatMap Packet.encode ++ tail ∧
      Parses tail (last.map .exit) rest) := by
  have carries : start.Carries payloads.flatten := ⟨sound, ending, congrArg List.flatten sent⟩
  refine ⟨fun _ _ _ => parses_iff, readPackets_of_carries carries, ?_,
    exists_outputs payloads.flatten⟩
  intro outputs tail last rest are_outputs split ends
  rw [split] at carries
  obtain ⟨after, after_carries, collected⟩ := collect_of_carries are_outputs ends carries [] []
  exact ⟨after, collected, after_carries⟩

/-- A character split between two packets, in payloads that end inside of a header, right behind
one, or have nothing in them, with another stream's frame in between. -/
theorem packets_read_exactly_split_character :
    let frames : List Frame := [.make Command.write 9 1 [1, 2, 0], .make Command.write 8 2 [3],
      .make Command.write 9 1 [], .make Command.write 9 1 [0, 0, 104, 195, 1, 1, 0, 0, 0],
      .make Command.write 9 1 [169, 2, 1, 0, 0, 0, 33, 3, 1, 0, 0, 0],
      .make Command.write 9 1 [7], .make Command.close 9 1 []]
    let start : Endpoint := {
      stream := .opened 1 9 4096
      channel := { queue := {
        board := ({} : Switchboard).listen 1
        receiver := { source := [.bytes (frames.flatMap Frame.encode) 20] } } } }
    let payloads : List Bytes := [[1, 2, 0], [], [0, 0, 104, 195, 1, 1, 0, 0, 0],
      [169, 2, 1, 0, 0, 0, 33, 3, 1, 0, 0, 0], [7]]
    start.IsSound ∧ start.isEnding = true ∧ start.unfinished [] = payloads ∧
      ∃ after, readAll start = .ok { output := "hé", errorOutput := "!", exitCode := 7 } after ∧
        after.Carries [] := by
  intro frames start payloads
  have sound : start.IsSound :=
    .of_running rfl ⟨rfl, rfl, .of_regular rfl rfl⟩ ⟨rfl, rfl, Source.isClean_bytes _ _⟩
  have exact : ∀ frame ∈ frames, frame.IsExact := by
    simp only [frames, List.forall_mem_cons]
    exact ⟨rfl, rfl, rfl, rfl, rfl, rfl, rfl, fun _ member => absurd member List.not_mem_nil⟩
  have wire : start.channel.queue.receiver.wire = frames.flatMap Frame.encode :=
    List.append_nil (frames.flatMap Frame.encode)
  have arriving := Endpoint.unfinished_of_wire exact wire rfl
  have sent : start.unfinished [] = payloads := arriving.1
  have ending : start.isEnding = true := arriving.2
  obtain ⟨-, -, all, -⟩ := packets_read_exactly sound ending sent
  let outputs : List Packet := [.stdout [104, 195], .stdout [169], .stderr [33]]
  have are_outputs : AreOutputs outputs := by
    simp [AreOutputs, outputs, Packet.IsOutput, Packet.Fits, Packet.payload, UInt32.size]
  have exits : Parses [3, 1, 0, 0, 0, 7] (.ok (.exit 7)) [] := parses_iff.mpr rfl
  obtain ⟨after, read, carries⟩ := all outputs [3, 1, 0, 0, 0, 7] (.ok 7) [] are_outputs rfl exits
  have text : response outputs 7 = { output := "hé", errorOutput := "!", exitCode := 7 } := by
    decide +kernel
  exact ⟨sound, ending, sent, after, text ▸ read, carries⟩

end DebugBridge.Shell

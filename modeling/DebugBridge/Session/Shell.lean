import DebugBridge.Session.Transfer

/-!
# The shell protocol

On a shell stream both sides talk in packets.

    id | length, least significant byte first | payload

The device sends what the command writes, and last the exit code in a packet of one byte. The
host sends input for the command, and one packet that ends the input. A packet that the host
writes is flushed, so it starts a frame of its own.
-/

namespace DebugBridge.Shell

/-- The ids of packets. The last one means the exit code from the device and the end of the input
from the host. -/
def stdinId : UInt8 := 0
def stdoutId : UInt8 := 1
def stderrId : UInt8 := 2
def exitId : UInt8 := 3
def closeStdinId : UInt8 := 3

/-- The size of what stands in front of a payload. -/
def headerSize : Nat := 5

/-- A packet of the device. -/
inductive Packet where
  | stdout (data : Bytes)
  | stderr (data : Bytes)
  | exit (code : UInt8)
  deriving DecidableEq, Repr

/-- A packet for people. -/
def Packet.describe : Packet → String
  | stdout data => "STDOUT: " ++ Utf8.lossy data
  | stderr data => "STDERR: " ++ Utf8.lossy data
  | exit code => s!"EXIT: {code.toNat}"

/-- A shell stream for people: the stream that carries it. -/
def describe (stream : String) : String :=
  s!"ShellStream \x7b stream: {stream} \x7d"

/-- Everything a command leaves behind. -/
structure Response where
  output : String
  errorOutput : String
  exitCode : UInt8
  deriving DecidableEq, Repr

/-- The output, and behind it the error output. -/
def Response.allOutput (response : Response) : String :=
  response.output ++ response.errorOutput

/-- A response for people. -/
def Response.describe (response : Response) : String :=
  s!"Shell response ({response.exitCode.toNat}):\n{response.allOutput}"

/-- The bytes of a packet. -/
def encode (id : UInt8) (payload : Bytes) : Bytes :=
  id :: Word.encode (UInt32.ofNat payload.length) ++ payload

/-- Where a stream to a command leads. -/
def destination (command : String) : String :=
  "shell,v2,raw:" ++ command

/-- The id and the announced length of a packet. -/
def readHeader (endpoint : Endpoint) : Outcome Endpoint (UInt8 × Nat) :=
  (endpoint.readExact headerSize).andThen fun bytes after =>
    match bytes with
    | id :: rest => .ok (id, ((Word.split? rest).map (·.1.toNat)).getD 0) after
    | [] => .ok (0, 0) after

/-- Reads so many bytes of payload; the stream must not end before. -/
def readPayload (length : Nat) (endpoint : Endpoint) : Outcome Endpoint Bytes :=
  (endpoint.readUpTo length).andThen fun payload after =>
    if payload.length < length then .error (.ofKind .unexpectedEof) after else .ok payload after

/-- Reads what a header announces. -/
def readBody (id : UInt8) (length : Nat) (endpoint : Endpoint) : Outcome Endpoint Packet :=
  if id = stdoutId then (readPayload length endpoint).map .stdout
  else if id = stderrId then (readPayload length endpoint).map .stderr
  else if id = exitId then
    if length ≠ 1 then
      .error (.shell s!"Shell exit packet does not have payload length 1: {length}") endpoint
    else (endpoint.readExact 1).map fun code => .exit (code.headD 0)
  else .error (.shell s!"Invalid shell packet id: {id.toNat}") endpoint

/-- Reads one packet. If the stream fails inside a packet, what was read of it is lost. -/
def readPacket (endpoint : Endpoint) : Outcome Endpoint Packet :=
  (readHeader endpoint).andThen fun (id, length) after => readBody id length after

theorem unread_readHeader {endpoint after : Endpoint} {header : UInt8 × Nat}
    (read : readHeader endpoint = .ok header after) : after.unread < endpoint.unread := by
  unfold readHeader at read
  cases bytes : endpoint.readExact headerSize with
  | error => simp only [bytes, Outcome.andThen, reduceCtorEq] at read
  | ok found last =>
    have less := Endpoint.unread_readExact_lt (by decide) bytes
    simp only [bytes, Outcome.andThen] at read
    split at read <;> (simp only [Outcome.ok.injEq] at read; exact read.2 ▸ less)

theorem unread_readPayload_le {length : Nat} {endpoint after : Endpoint} {payload : Bytes}
    (read : readPayload length endpoint = .ok payload after) :
    after.unread ≤ endpoint.unread := by
  unfold readPayload at read
  cases bytes : endpoint.readUpTo length with
  | error => simp only [bytes, Outcome.andThen, reduceCtorEq] at read
  | ok found last =>
    simp only [bytes, Outcome.andThen] at read
    split at read
    · simp only [reduceCtorEq] at read
    · simp only [Outcome.ok.injEq] at read
      exact read.2 ▸ Endpoint.unread_readUpTo_le bytes

theorem unread_readBody_le {id : UInt8} {length : Nat} {endpoint after : Endpoint}
    {packet : Packet} (read : readBody id length endpoint = .ok packet after) :
    after.unread ≤ endpoint.unread := by
  have payload : ∀ {wrap : Bytes → Packet},
      (readPayload length endpoint).map wrap = .ok packet after →
        after.unread ≤ endpoint.unread := by
    intro wrap mapped
    cases bytes : readPayload length endpoint with
    | error => simp only [bytes, Outcome.map, reduceCtorEq] at mapped
    | ok found last =>
      simp only [bytes, Outcome.map, Outcome.ok.injEq] at mapped
      exact mapped.2 ▸ unread_readPayload_le bytes
  unfold readBody at read
  split at read
  · exact payload read
  · split at read
    · exact payload read
    · split at read
      · split at read
        · simp only [reduceCtorEq] at read
        · cases bytes : endpoint.readExact 1 with
          | error => simp only [bytes, Outcome.map, reduceCtorEq] at read
          | ok found last =>
            simp only [bytes, Outcome.map, Outcome.ok.injEq] at read
            exact read.2 ▸ Endpoint.unread_readExact_le bytes
      · simp only [reduceCtorEq] at read

/-- Every packet leaves less to be read. -/
theorem unread_readPacket {endpoint after : Endpoint} {packet : Packet}
    (read : readPacket endpoint = .ok packet after) : after.unread < endpoint.unread := by
  unfold readPacket at read
  cases header : readHeader endpoint with
  | error => simp only [header, Outcome.andThen, reduceCtorEq] at read
  | ok found last =>
    simp only [header, Outcome.andThen] at read
    exact Nat.lt_of_le_of_lt (unread_readBody_le read) (unread_readHeader header)

/-- Reads packets until the exit code and collects both outputs, pieces in reverse order. -/
def collect (output errorOutput : List Bytes) (endpoint : Endpoint) :
    Outcome Endpoint Response :=
  match read : readPacket endpoint with
  | .error failure after => .error failure after
  | .ok (.stdout data) after =>
    have := unread_readPacket read
    collect (data :: output) errorOutput after
  | .ok (.stderr data) after =>
    have := unread_readPacket read
    collect output (data :: errorOutput) after
  | .ok (.exit exitCode) after =>
    .ok {
      output := Utf8.lossy output.reverse.flatten
      errorOutput := Utf8.lossy errorOutput.reverse.flatten
      exitCode } after
  termination_by endpoint.unread

/-- Reads packets until the exit code. -/
def readAll (endpoint : Endpoint) : Outcome Endpoint Response :=
  collect [] [] endpoint

/-- Writes one packet and flushes it. -/
def writePacket (id : UInt8) (payload : Bytes) (endpoint : Endpoint) : Outcome Endpoint Unit :=
  (endpoint.writeAll (encode id payload)).andThen fun _ after => after.flush

/-- Writes input for the command. -/
def writeStdin (data : Bytes) : Endpoint → Outcome Endpoint Unit :=
  writePacket stdinId data

/-- Ends the input of the command. -/
def closeStdin : Endpoint → Outcome Endpoint Unit :=
  writePacket closeStdinId []

end DebugBridge.Shell

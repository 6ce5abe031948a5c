import DebugBridge.Frame.Basic
import DebugBridge.Metrics
import DebugBridge.Text.Utf8
import DebugBridge.Wire.BufferedSink

/-!
# Sending frames

A transmitter writes header and payload of a frame one after the other and flushes them, so a
frame that was sent without failure has left the buffer. Once closed it lets go of its sink and
refuses every further frame.
-/

namespace DebugBridge

/-- The sending end of a connection. -/
structure Transmitter where
  out : BufferedSink := {}
  isOpen : Bool := true
  metrics : Metrics := {}

namespace Transmitter

/-- The version of the protocol that the host announces. -/
def hostVersion : UInt32 := 0x01000000

/-- The largest payload that the host accepts. -/
def hostMaxPayload : UInt32 := 1048576

/-- The banner of the host: its type, then an empty serial number and no properties. -/
def hostBanner : Bytes := Utf8.encode "host::\x00"

/-- The words that go out in front of a payload. -/
def header (command arg0 arg1 : UInt32) (payload : Bytes) : Bytes :=
  [command, arg0, arg1, UInt32.ofNat payload.length, Frame.checksumOf payload,
    command ^^^ 0xFFFFFFFF].flatMap Word.encode

@[simp] theorem length_header (command arg0 arg1 : UInt32) (payload : Bytes) :
    (header command arg0 arg1 payload).length = Header.size := rfl

/-- The words are the header of the frame, so that the frame goes out as it is encoded elsewhere. -/
theorem header_append (command arg0 arg1 : UInt32) (payload : Bytes) :
    header command arg0 arg1 payload ++ payload =
      (Frame.make command arg0 arg1 payload).encode := rfl

/-- Sends one frame. -/
def send (command arg0 arg1 : UInt32) (payload : Bytes) (transmitter : Transmitter) :
    Outcome Transmitter Unit :=
  if !transmitter.isOpen then .error .connectionClosed transmitter
  else
    let head := header command arg0 arg1 payload
    let written :=
      ((transmitter.out.write head).andThen fun _ out =>
        out.write payload).andThen fun _ out => out.flush
    match written with
    | .error failure out => .error failure { transmitter with out }
    | .ok () out =>
      let size := UInt64.ofNat (Header.size + payload.length)
      .ok () { transmitter with out, metrics := transmitter.metrics.frameSent size }

/-- Announces the host. -/
def sendConnect : Transmitter → Outcome Transmitter Unit :=
  send Command.connect hostVersion hostMaxPayload hostBanner

/-- Answers a request for authentication. -/
def sendAuth (type : UInt32) (payload : Bytes) : Transmitter → Outcome Transmitter Unit :=
  send Command.auth type 0 payload

/-- Asks for a stream to a destination, which is sent with a NUL at its end. -/
def sendOpen (localId : UInt32) (destination : String) : Transmitter → Outcome Transmitter Unit :=
  send Command.openStream localId 0 (Utf8.encode destination ++ [0])

/-- Sends data on a stream. -/
def sendWrite (localId remoteId : UInt32) (payload : Bytes) :
    Transmitter → Outcome Transmitter Unit :=
  send Command.write localId remoteId payload

/-- Ends a stream. -/
def sendClose (localId remoteId : UInt32) : Transmitter → Outcome Transmitter Unit :=
  send Command.close localId remoteId []

/-- Acknowledges data on a stream. -/
def sendOkay (localId remoteId : UInt32) : Transmitter → Outcome Transmitter Unit :=
  send Command.okay localId remoteId []

/-- Flushes and lets go of the sink. The transmitter is closed even if that fails. -/
def close (transmitter : Transmitter) : Outcome Transmitter Unit :=
  if !transmitter.isOpen then .ok () transmitter
  else
    transmitter.out.flush.mapState fun out =>
      { transmitter with out := out.release, isOpen := false }

/-- How many calls to the sink are still answered out of the ordinary. -/
abbrev irregular (transmitter : Transmitter) : Nat :=
  transmitter.out.irregular

/-- Sending adds no irregular answers. -/
theorem irregular_send_le (command arg0 arg1 : UInt32) (payload : Bytes)
    (transmitter : Transmitter) :
    (transmitter.send command arg0 arg1 payload).state.irregular ≤ transmitter.irregular := by
  unfold send
  split
  · exact Nat.le_refl _
  · extract_lets head written
    have fewer : written.state.irregular ≤ transmitter.irregular := by
      have first := BufferedSink.irregular_write_le head transmitter.out
      simp only [written]
      cases begun : transmitter.out.write head with
      | error => simpa only [Outcome.andThen, begun] using first
      | ok value out =>
        rw [begun] at first
        have second := BufferedSink.irregular_write_le payload out
        simp only [Outcome.andThen]
        cases body : out.write payload with
        | error =>
          rw [body] at second
          exact Nat.le_trans second first
        | ok value last =>
          rw [body] at second
          have third := BufferedSink.irregular_flush_le last
          exact Nat.le_trans third (Nat.le_trans second first)
    generalize written = result at fewer
    cases result <;> exact fewer

/-- Sending fails at a closed transmitter, or else it has used up an irregular answer. -/
theorem irregular_send_lt {command arg0 arg1 : UInt32} {payload : Bytes}
    {transmitter after : Transmitter} {failure : Failure}
    (failed : transmitter.send command arg0 arg1 payload = .error failure after) :
    failure = .connectionClosed ∨ after.irregular < transmitter.irregular := by
  unfold send at failed
  split at failed
  · simp only [Outcome.error.injEq] at failed
    exact .inl failed.1.symm
  · refine .inr ?_
    extract_lets head written at failed
    have first := BufferedSink.irregular_write_le head transmitter.out
    cases begun : transmitter.out.write head with
    | error =>
      simp only [written, begun, Outcome.andThen, Outcome.error.injEq] at failed
      rw [← failed.2]
      exact BufferedSink.irregular_write_lt begun
    | ok value out =>
      rw [begun] at first
      have second := BufferedSink.irregular_write_le payload out
      cases body : out.write payload with
      | error =>
        simp only [written, begun, body, Outcome.andThen, Outcome.error.injEq] at failed
        rw [← failed.2]
        exact Nat.lt_of_lt_of_le (BufferedSink.irregular_write_lt body) first
      | ok value last =>
        rw [body] at second
        cases flushed : last.flush with
        | ok => simp only [written, begun, body, flushed, Outcome.andThen, reduceCtorEq] at failed
        | error =>
          simp only [written, begun, body, flushed, Outcome.andThen, Outcome.error.injEq] at failed
          rw [← failed.2]
          exact Nat.lt_of_lt_of_le (BufferedSink.irregular_flush_lt flushed)
            (Nat.le_trans second first)

end Transmitter
end DebugBridge

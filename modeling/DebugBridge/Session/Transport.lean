import DebugBridge.Handshake
import DebugBridge.Wire.Receiver
import DebugBridge.Wire.Transmitter

/-!
# Connecting over a transport

A transport is a source and a sink, and perhaps a handle that tears both down. Connecting runs
the handshake over it. A receiver reads ahead, so bytes behind the last frame of the handshake
stay in its buffer for whoever uses the transport next. When the handshake fails the transport
is closed and torn down, and the failure that is reported is the one of the handshake.
-/

namespace DebugBridge

/-- The handle that tears a transport down. It works once. -/
structure Teardown where
  /-- The handle, while there is one: how it will answer, with success or a failure. -/
  handle : Option (Option IoKind) := none
  /-- How often the transport was torn down. -/
  calls : Nat := 0

/-- Uses the handle. Without one there is nothing to do. -/
def Teardown.run (teardown : Teardown) : Outcome Teardown Unit :=
  match teardown.handle with
  | none => .ok () teardown
  | some none => .ok () { handle := none, calls := teardown.calls + 1 }
  | some (some kind) => .error (.ofKind kind) { handle := none, calls := teardown.calls + 1 }

/-- A transport on which no connection has been established yet. -/
structure Transport where
  receiver : Receiver
  transmitter : Transmitter := {}
  teardown : Teardown := {}
  /-- Counts handshakes. -/
  metrics : Metrics := {}

namespace Transport

/-- Reads frames and answers them until the device has connected. -/
def exchange (handshake : Handshake) (transport : Transport) : Outcome Transport Greeting :=
  match read : transport.receiver.readFrame with
  | .error failure receiver => .error failure { transport with receiver }
  | .ok frame receiver =>
    have := Receiver.remaining_readFrame _ read
    match handshake.onFrame frame with
    | .error failure _ => .error failure { transport with receiver }
    | .ok (.connected greeting) _ => .ok greeting { transport with receiver }
    | .ok (.reply type payload) handshake =>
      match transport.transmitter.sendAuth type payload with
      | .error failure transmitter => .error failure { transport with receiver, transmitter }
      | .ok () transmitter => exchange handshake { transport with receiver, transmitter }
  termination_by transport.receiver.remaining
  decreasing_by simp only [Header.size] at this; omega

/-- Announces the host and runs the exchange that follows. -/
def negotiate (keyPair : Option KeyPair) (transport : Transport) : Outcome Transport Greeting :=
  match transport.transmitter.sendConnect with
  | .error failure transmitter => .error failure { transport with transmitter }
  | .ok () transmitter => exchange { keyPair } { transport with transmitter }

/-- Runs the handshake, and gives the transport up if it fails. -/
def connect (keyPair : Option KeyPair) (transport : Transport) : Outcome Transport Greeting :=
  match negotiate keyPair { transport with metrics := transport.metrics.handshakeAttempt } with
  | .ok greeting transport =>
    .ok greeting { transport with metrics := transport.metrics.handshakeSuccess }
  | .error failure transport =>
    .error failure { transport with
      transmitter := transport.transmitter.close.state
      teardown := transport.teardown.run.state
      metrics := transport.metrics.handshakeFailed }

end Transport
end DebugBridge

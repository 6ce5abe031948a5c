import DebugBridge.Session.Shell
import DebugBridge.Session.Transport

/-!
# Connections

A connection is what a successful handshake leaves: a channel, and what the device announced.
Streams are opened on it and share its channel, so they work as long as it is not closed; after
that they read as ended and refuse writes. Closing tears the transport down, once.
-/

namespace DebugBridge

/-- An established connection. -/
structure Connection where
  channel : Channel
  teardown : Teardown := {}
  /-- What the device announced. -/
  greeting : Greeting
  /-- Set by the first call that closes the connection. -/
  closed : Bool := false

namespace Connection

/-- Connects over a transport. A failure leaves the transport, given up. The queue takes over the
receiver with everything that it has read ahead. -/
def establish (keyPair : Option KeyPair) (transport : Transport) :
    Except (Failure × Transport) Connection :=
  match transport.connect keyPair with
  | .error failure transport => .error (failure, transport)
  | .ok greeting transport =>
    .ok {
      channel := {
        queue := { receiver := transport.receiver }
        transmitter := transport.transmitter
        metrics := transport.metrics }
      teardown := transport.teardown
      greeting }

/-- Whether the connection was closed or the transport has failed. -/
def isClosed (connection : Connection) : Bool :=
  connection.closed || connection.channel.queue.board.disconnected

/-- Whether the device has a feature. -/
def supports (feature : String) (connection : Connection) : Bool :=
  connection.greeting.banner.supports feature

/-- Everything counted on this connection and its streams. -/
def counts (connection : Connection) : Metrics :=
  connection.channel.counts

/-- Sends the request for a stream and waits for the device to accept it. The answer is the
device's own id for the stream. -/
def request (id : UInt32) (destination : String) (channel : Channel) : Outcome Channel UInt32 :=
  ((channel.send (Transmitter.sendOpen id destination)).andThen fun _ channel =>
    channel.take id Command.okay).map (·.arg0)

/-- Opens a stream under an id of the host's choice, which should not be in use. If that fails the
id is not registered any more. -/
def openStream (id : UInt32) (destination : String) (connection : Connection) :
    Outcome Connection Stream :=
  if connection.isClosed then .error .connectionClosed connection
  else
    match request id destination (connection.channel.listen id) with
    | .ok remoteId channel =>
      .ok (Stream.opened id remoteId connection.greeting.maxPayload)
        { connection with channel := { channel with metrics := channel.metrics.streamOpened } }
    | .error failure channel =>
      .error failure { connection with channel := channel.unlisten id }

/-- Runs an operation on a stream of this connection. -/
def onStream {Value : Type} (operation : Endpoint → Outcome Endpoint Value) (stream : Stream)
    (connection : Connection) : Outcome (Connection × Stream) Value :=
  (operation { stream, channel := connection.channel }).mapState fun endpoint =>
    ({ connection with channel := endpoint.channel }, endpoint.stream)

/-- Closes a stream that goes out of use, whether or not that succeeds. -/
def dropStream (stream : Stream) (connection : Connection) : Connection :=
  (connection.onStream Endpoint.close stream).state.1

/-- Opens a stream to a command. -/
def openShell (id : UInt32) (command : String) : Connection → Outcome Connection Stream :=
  openStream id (Shell.destination command)

/-- Runs a command to its end. If its stream cannot be closed, that failure is reported. -/
def shell (id : UInt32) (command : String) (connection : Connection) :
    Outcome Connection Shell.Response :=
  (connection.openShell id command).andThen fun stream connection =>
    let collected := connection.onStream Shell.readAll stream
    let (connection, stream) := collected.state
    let closed := connection.onStream Endpoint.close stream
    .ofResult (do closed.result; collected.result) closed.state.1

/-- Opens a stream that needs a feature of the device. -/
def openWith (feature : String) (id : UInt32) (destination : String) (connection : Connection) :
    Outcome Connection Stream :=
  if connection.supports feature then connection.openStream id destination
  else .error (.unsupportedFeature feature) connection

/-- Opens a stream to a command of the system's command line. -/
def execCmd (id : UInt32) (arguments : List String) : Connection → Outcome Connection Stream :=
  openWith "cmd" id ("exec:cmd " ++ " ".intercalate arguments)

/-- Opens a stream to a command of the bridge, whose arguments are separated by NULs. -/
def abbExec (id : UInt32) (arguments : List String) : Connection → Outcome Connection Stream :=
  openWith "abb_exec" id ("abb_exec:" ++ "\x00".intercalate arguments)

/-- Closes the connection: ends all streams, closes the transmitter and tears the transport down,
each of them whether or not the others fail. The first failure is reported. A second call does
nothing. -/
def close (connection : Connection) : Outcome Connection Unit :=
  if connection.closed then .ok () connection
  else
    let channel := connection.channel.onBoard Switchboard.disconnect
    let sending := channel.send Transmitter.close
    let teardown := connection.teardown.run
    .ofResult (do sending.result; teardown.result)
      { connection with channel := sending.state, teardown := teardown.state, closed := true }

/-- The connection for people. -/
def describe (connection : Connection) : String :=
  let banner := Text.quote connection.greeting.banner.raw
  let version := Text.hex connection.greeting.version.toNat
  let size := connection.greeting.maxPayload.toNat
  s!"Connection \x7b banner: {banner}, version: {version}, max_payload_size: {size}, " ++
    s!"closed: {connection.isClosed} \x7d"

end Connection
end DebugBridge

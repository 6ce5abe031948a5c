import DebugBridge.Session.Connection

/-!
# Clients

A client keeps one connection and uses it for every call, until it has been closed or its
transport has failed; the next call then makes a new one. A call that fails is not repeated. A
connection that a caller asks for stays usable until the caller gives it back, also when the
client has replaced it; once neither the client nor any caller holds it, it is closed.
-/

namespace DebugBridge

/-- A client, with everything it has made. How it gets connections is its own affair: `connect`
may change a state that each attempt passes on to the next. -/
structure Client (World : Type) where
  target : String
  connect : World → Except Failure Connection × World
  world : World
  /-- All connections made so far, in order. A connection is named by its place in the list. -/
  connections : List Connection := []
  /-- The connection that the client keeps. -/
  cached : Option Nat := none
  /-- The connections that callers hold, once for each time they were handed out. -/
  held : List Nat := []

namespace Client

variable {World Value : Type}

/-- Runs an operation on a connection of the client. A name that was never given to a connection
answers as one that is closed. -/
def onConnection (name : Nat) (operation : Connection → Outcome Connection Value)
    (client : Client World) : Outcome (Client World) Value :=
  match client.connections[name]? with
  | none => .error .connectionClosed client
  | some connection =>
    (operation connection).mapState fun connection =>
      { client with connections := client.connections.set name connection }

/-- Whether anyone still holds a connection. -/
def isHeld (name : Nat) (client : Client World) : Bool :=
  client.cached == some name || client.held.contains name

/-- Closes a connection that nobody holds any more. -/
def settle (name : Nat) (client : Client World) : Client World :=
  if client.isHeld name then client else (client.onConnection name Connection.close).state

/-- The connection that is kept, if it can still be used. -/
def usable? (client : Client World) : Option Nat :=
  client.cached.filter fun name =>
    (client.connections[name]?).any fun connection => !connection.isClosed

/-- Keeps a connection in place of the one kept before. -/
def keep (connection : Connection) (client : Client World) : Client World :=
  let replaced : Client World :=
    { client with
      connections := client.connections ++ [connection]
      cached := some client.connections.length }
  match client.cached with
  | none => replaced
  | some old => replaced.settle old

/-- The connection to use for a call: the one that is kept, or else a new one. -/
def current (client : Client World) : Outcome (Client World) Nat :=
  match client.usable? with
  | some name => .ok name client
  | none =>
    match client.connect client.world with
    | (.error failure, world) => .error failure { client with world }
    | (.ok connection, world) =>
      .ok client.connections.length (keep connection { client with world })

/-- Hands out the connection to use. -/
def connection (client : Client World) : Outcome (Client World) Nat :=
  client.current.andThen fun name client => .ok name { client with held := name :: client.held }

/-- Takes back a connection that was handed out. -/
def release (name : Nat) (client : Client World) : Client World :=
  settle name { client with held := client.held.erase name }

/-- Runs an operation on the connection to use. -/
def call (operation : Connection → Outcome Connection Value) (client : Client World) :
    Outcome (Client World) Value :=
  client.current.andThen fun name client => client.onConnection name operation

/-- Opens a stream. -/
def openStream (id : UInt32) (destination : String) :
    Client World → Outcome (Client World) Stream :=
  call (Connection.openStream id destination)

/-- Opens a stream to a command. -/
def openShell (id : UInt32) (command : String) :
    Client World → Outcome (Client World) Stream :=
  call (Connection.openShell id command)

/-- Runs a command to its end. -/
def shell (id : UInt32) (command : String) :
    Client World → Outcome (Client World) Shell.Response :=
  call (Connection.shell id command)

/-- Whether the device has a feature. -/
def supports (feature : String) : Client World → Outcome (Client World) Bool :=
  call fun connection => .ok (connection.supports feature) connection

/-- Closes the connection that is kept, and keeps it no longer. -/
def close (client : Client World) : Outcome (Client World) Unit :=
  match client.cached with
  | none => .ok () client
  | some name => onConnection name Connection.close { client with cached := none }

/-- Ends the client: the connection that it keeps is closed unless a caller holds it. -/
def finish (client : Client World) : Client World :=
  match client.cached with
  | none => client
  | some name => settle name { client with cached := none }

/-- The client for people, as its target alone. -/
def display (client : Client World) : String :=
  client.target

/-- The client for people. -/
def describe (client : Client World) : String :=
  s!"AdbClient \x7b target: {Text.quote client.target}, .. \x7d"

end Client
end DebugBridge

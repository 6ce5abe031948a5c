import DebugBridge.Client
import DebugBridge.Proofs.Session.Deeds

/-!
# One connection at a time

A client is called in any order, while the connections that it has made are used and closed by those
who hold them and their transports fail. Whatever is done with a connection, closing included, does
not open it again; so at every moment the only connection that may be open is the one that the
client keeps (`KeepsOne`), and its connector runs for a call exactly if that one cannot be used.
-/

namespace DebugBridge

/-- It makes no difference whether the value or the state is changed first. -/
theorem Outcome.map_mapState {State Whole Value Next : Type} (f : Value → Next)
    (place : State → Whole) (outcome : Outcome State Value) :
    (outcome.mapState place).map f = (outcome.map f).mapState place := by
  cases outcome <;> rfl

namespace Connection

/-- Acts do not open a connection that is closed. -/
theorem Leads.isClosed {before after : Connection} (leads : before.Leads after)
    (ended : before.isClosed = true) : after.isClosed = true := by
  rw [Connection.isClosed, Bool.or_eq_true] at ended ⊢
  rcases ended with closed | disconnected
  · exact .inl (leads.closed.trans closed)
  · exact .inr (leads.channel.keeps_all.disconnected disconnected)

theorem isClosed_close (connection : Connection) : connection.close.state.isClosed = true := by
  unfold close
  split
  · next closed => rw [Outcome.state_ok, isClosed, closed, Bool.true_or]
  · rw [Outcome.state_ofResult, isClosed, Bool.true_or]

/-- Something that is done with a connection and does not open it again. -/
structure Operation (Value : Type) where
  run : Connection → Outcome Connection Value
  lasting : ∀ connection, connection.isClosed = true → (run connection).state.isClosed = true

namespace Operation

variable {Value Next : Type}

/-- The same is done, and the answer is put in another form. -/
def map (f : Value → Next) (operation : Operation Value) : Operation Next where
  run connection := (operation.run connection).map f
  lasting connection ended := by
    rw [Outcome.state_map]
    exact operation.lasting connection ended

/-- A stream is opened. -/
def openStream (id : UInt32) (destination : String) : Operation Stream where
  run := Connection.openStream id destination
  lasting connection ended := by
    rw [state_openStream]
    exact (connection.leads_afterActs _).isClosed ended

/-- A command is run to its end. -/
def shell (id : UInt32) (command : String) : Operation Shell.Response where
  run := Connection.shell id command
  lasting connection ended := by
    rw [state_shell]
    exact (connection.leads_afterActs _).isClosed ended

/-- The holder asks for a feature. -/
def supports (feature : String) : Operation Bool where
  run connection := .ok (connection.supports feature) connection
  lasting _ ended := ended

/-- Everything that the holder of a connection may do with it and with streams on it. -/
def ofDeed (deed : Deed) (streams : List Stream) : Operation Bytes where
  run connection :=
    (Session.perform deed { connection, streams }).mapState Session.connection
  lasting connection ended := by
    rw [Outcome.state_mapState]
    by_cases close : deed = .close
    · rw [close, Session.perform, Outcome.state_mapState, Outcome.state_map]
      exact connection.isClosed_close
    · exact (Session.leads_perform ⟨connection, streams⟩ close).isClosed ended

end Operation
end Connection

namespace Client

variable {World Value Next : Type}

/-- What a call answers. -/
inductive Reply where
  | nothing
  | connection (name : Nat)
  | stream (stream : Stream)
  | response (response : Shell.Response)
  | flag (holds : Bool)

/-- A call that does something with the connection to use. -/
inductive Request where
  | openStream (id : UInt32) (destination : String)
  | openShell (id : UInt32) (command : String)
  | shell (id : UInt32) (command : String)
  | supports (feature : String)
  /-- One of these while others use the same connection or close it, or its transport fails. -/
  | meanwhile (operation : Connection.Operation Reply)

namespace Request

/-- What the call does with the connection. -/
def operation : Request → Connection.Operation Reply
  | openStream id destination => (Connection.Operation.openStream id destination).map .stream
  | openShell id command =>
    (Connection.Operation.openStream id (Shell.destination command)).map .stream
  | shell id command => (Connection.Operation.shell id command).map .response
  | supports feature => (Connection.Operation.supports feature).map .flag
  | meanwhile operation => operation

/-- Makes the call. -/
def ask (client : Client World) : Request → Outcome (Client World) Reply
  | openStream id destination => (client.openStream id destination).map .stream
  | openShell id command => (client.openShell id command).map .stream
  | shell id command => (client.shell id command).map .response
  | supports feature => (client.supports feature).map .flag
  | meanwhile operation => client.call operation.run

end Request

/-- The answer of an operation may be changed where it is run. -/
theorem map_onConnection (f : Value → Next) (name : Nat)
    (operation : Connection → Outcome Connection Value) (client : Client World) :
    (client.onConnection name operation).map f =
      client.onConnection name fun connection => (operation connection).map f := by
  unfold onConnection
  split
  · rfl
  · next connection _ => exact Outcome.map_mapState ..

theorem map_call (f : Value → Next) (operation : Connection → Outcome Connection Value)
    (client : Client World) :
    (client.call operation).map f =
      client.call fun connection => (operation connection).map f := by
  unfold call
  cases client.current with
  | ok name after => exact map_onConnection f name operation after
  | error failure after => rfl

/-- Every request is a call of its operation on the connection to use. -/
theorem Request.ask_eq_call (client : Client World) (request : Request) :
    request.ask client = client.call request.operation.run := by
  cases request with
  | meanwhile operation => rfl
  | openStream | openShell | shell | supports => exact map_call _ _ client

/-- What is done with a client and with the connections that it has made. -/
inductive Event where
  | connection
  | request (request : Request)
  | close
  /-- A connection that was handed out is given back. -/
  | release (name : Nat)
  /-- Something happens to a connection apart from calls of the client. -/
  | change (name : Nat) (operation : Connection.Operation Bytes)

/-- Whether this is a call that needs a connection. -/
def Event.needsConnection : Event → Bool
  | connection | request _ => true
  | close | release _ | change _ _ => false

/-- What comes of an event. -/
def perform (event : Event) (client : Client World) : Outcome (Client World) Reply :=
  match event with
  | .connection => client.connection.map .connection
  | .request request => request.ask client
  | .close => client.close.map fun _ => .nothing
  | .release name => .ok .nothing (client.release name)
  | .change name operation => (client.onConnection name operation.run).map fun _ => .nothing

/-- An event that has happened. -/
structure Entry (World : Type) where
  before : Client World
  event : Event
  result : Except Failure Reply
  after : Client World

/-- The event with what came of it. -/
def entry (event : Event) (client : Client World) : Entry World :=
  ⟨client, event, (client.perform event).result, (client.perform event).state⟩

/-- Events one after the other, whatever comes of them. -/
def log : List Event → Client World → List (Entry World)
  | [], _ => []
  | event :: events, client => client.entry event :: log events (client.entry event).after

theorem map_event_log (client : Client World) (events : List Event) :
    (log events client).map Entry.event = events := by
  induction events generalizing client with
  | nil => rfl
  | cons event events ih => exact congrArg (event :: ·) (ih _)

/-- A client whose connector gives these results one after the other. Its world is the number of
times that the connector has run. -/
def ofResults (target : String) (results : Nat → Except Failure Connection) : Client Nat where
  target
  connect runs := (results runs, runs + 1)
  world := 0

/-- The client keeps this connection, under this name. -/
structure Keeps (name : Nat) (connection : Connection) (client : Client World) : Prop where
  cached : client.cached = some name
  made : client.connections[name]? = some connection

/-- A client keeps one connection at most. -/
theorem Keeps.unique {name other : Nat} {connection kept : Connection} {client : Client World}
    (keeps : client.Keeps name connection) (also_keeps : client.Keeps other kept) :
    other = name ∧ kept = connection := by
  have same : other = name := Option.some.inj (also_keeps.cached.symm.trans keeps.cached)
  have made := also_keeps.made
  rw [same, keeps.made] at made
  exact ⟨same, (Option.some.inj made).symm⟩

/-- There is no connection to use: none is kept, or the one that is kept is closed. -/
inductive IsSpent (client : Client World) : Prop
  | empty (nothing : client.cached = none)
  | closed {name : Nat} {connection : Connection} (keeps : client.Keeps name connection)
    (ended : connection.isClosed = true)

/-- A connection that is kept and runs is the one to use. -/
theorem usable?_eq_some {name : Nat} {connection : Connection} {client : Client World}
    (keeps : client.Keeps name connection) (running : connection.isClosed = false) :
    client.usable? = some name := by
  simp only [usable?, keeps.cached, Option.filter_some, keeps.made, Option.any_some, running,
    Bool.not_false, if_true]

/-- A client that is spent has no connection to use. -/
theorem IsSpent.usable?_eq_none {client : Client World} (spent : client.IsSpent) :
    client.usable? = none := by
  cases spent with
  | empty nothing => rw [usable?, nothing, Option.filter_none]
  | closed keeps ended =>
    simp only [usable?, keeps.cached, Option.filter_some, keeps.made, Option.any_some, ended,
      Bool.not_true, Bool.false_eq_true, if_false]

/-- If a client is spent, what it keeps is closed. -/
theorem IsSpent.isClosed {name : Nat} {connection : Connection} {client : Client World}
    (spent : client.IsSpent) (keeps : client.Keeps name connection) :
    connection.isClosed = true := by
  cases spent with
  | empty nothing =>
    rw [keeps.cached] at nothing
    contradiction
  | closed also_keeps ended =>
    rwa [(keeps.unique also_keeps).2] at ended

/-- Connections may have been used and closed, but not opened, and nothing else has changed. -/
structure Ages (before after : Client World) : Prop where
  same : after = { before with connections := after.connections }
  length : after.connections.length = before.connections.length
  lasting : ∀ (name : Nat) (connection : Connection), after.connections[name]? = some connection →
    connection.isClosed = false →
      ∃ earlier, before.connections[name]? = some earlier ∧ earlier.isClosed = false

theorem Ages.refl (client : Client World) : client.Ages client :=
  ⟨rfl, rfl, fun _ connection found running => ⟨connection, found, running⟩⟩

/-- An operation on a connection that was made changes this one in its place. -/
theorem onConnection_of_made {name : Nat} {connection : Connection} {client : Client World}
    (made : client.connections[name]? = some connection)
    (operation : Connection → Outcome Connection Value) :
    client.onConnection name operation =
      (operation connection).mapState fun connection =>
        { client with connections := client.connections.set name connection } := by
  unfold onConnection
  rw [made]

/-- An operation that opens nothing lets a client age. -/
theorem ages_onConnection (operation : Connection → Outcome Connection Value)
    (lasting : ∀ connection, connection.isClosed = true →
      (operation connection).state.isClosed = true) (name : Nat) (client : Client World) :
    client.Ages (client.onConnection name operation).state := by
  cases made : client.connections[name]? with
  | none =>
    rw [onConnection, made]
    exact .refl client
  | some connection =>
    rw [onConnection_of_made made, Outcome.state_mapState]
    refine ⟨rfl, List.length_set, ?_⟩
    intro place later found running
    simp only [List.getElem?_set] at found
    split at found
    · next same =>
      subst same
      refine ⟨connection, made, ?_⟩
      split at found
      · rw [← Option.some.inj found] at running
        exact Bool.eq_false_iff.mpr fun ended =>
          absurd (lasting connection ended) (Bool.eq_false_iff.mp running)
      · contradiction
    · exact ⟨later, found, running⟩

/-- An operation on one connection leaves the others alone. -/
theorem made_onConnection {Value : Type} {name place : Nat} (other : place ≠ name)
    (operation : Connection → Outcome Connection Value) (client : Client World) :
    (client.onConnection place operation).state.connections[name]? = client.connections[name]? := by
  unfold onConnection
  split
  · rfl
  · rw [Outcome.state_mapState]
    exact List.getElem?_set_ne other

/-- Closing what nobody holds lets a client age. -/
theorem ages_settle (name : Nat) (client : Client World) : client.Ages (client.settle name) := by
  unfold settle
  split
  · exact .refl client
  · exact client.ages_onConnection _ (fun connection _ => connection.isClosed_close) name

section Results

variable {results : Nat → Except Failure Connection} {client before after : Client Nat}
  {name : Nat} {connection : Connection}

/-- Between calls: the connector gives these results, the connection that is kept has been made, and
it is the only one that may be open. -/
structure KeepsOne (results : Nat → Except Failure Connection) (client : Client Nat) : Prop where
  connect : client.connect = fun runs => (results runs, runs + 1)
  made : ∀ name, client.cached = some name → name < client.connections.length
  only : ∀ (name : Nat) (connection : Connection), client.connections[name]? = some connection →
    connection.isClosed = false → client.cached = some name

/-- A new client has made no connection. -/
theorem keepsOne_ofResults (target : String) : (ofResults target results).KeepsOne results where
  connect := rfl
  made _ cached := absurd cached (Option.some_ne_none _).symm
  only _ _ made := absurd made (Option.some_ne_none _).symm

/-- A client that ages keeps one connection as before. -/
theorem KeepsOne.ages (keeps_one : before.KeepsOne results) (ages : before.Ages after) :
    after.KeepsOne results := by
  have cached : after.cached = before.cached := by rw [ages.same]
  refine ⟨?_, fun name kept => ?_, fun name connection found running => ?_⟩
  · rw [ages.same]
    exact keeps_one.connect
  · rw [ages.length]
    exact keeps_one.made name (cached.symm.trans kept)
  · obtain ⟨earlier, made, ran⟩ := ages.lasting name connection found running
    exact cached.trans (keeps_one.only name earlier made ran)

/-- A name that is kept stands for a connection. -/
theorem KeepsOne.exists_keeps (keeps_one : client.KeepsOne results)
    (cached : client.cached = some name) : ∃ connection, client.Keeps name connection :=
  ⟨_, cached, List.getElem?_eq_getElem (keeps_one.made name cached)⟩

/-- Either there is no connection to use, or the one that is kept is open. -/
theorem KeepsOne.spent_or_running (keeps_one : client.KeepsOne results) :
    client.IsSpent ∨ ∃ name connection, client.Keeps name connection ∧
      connection.isClosed = false := by
  cases cached : client.cached with
  | none => exact .inl (.empty cached)
  | some name =>
    obtain ⟨connection, keeps⟩ := keeps_one.exists_keeps cached
    cases ended : connection.isClosed with
    | true => exact .inl (.closed keeps ended)
    | false => exact .inr ⟨name, connection, keeps, ended⟩

/-- With a new connection added and kept, before the old one is settled. -/
theorem KeepsOne.added (keeps_one : client.KeepsOne results) (spent : client.IsSpent)
    (connection : Connection) :
    KeepsOne results { client with
      connections := client.connections ++ [connection]
      cached := some client.connections.length } := by
  refine ⟨keeps_one.connect, fun name kept => ?_, fun name other found running => ?_⟩
  · cases kept
    rw [List.length_append]
    exact Nat.lt_succ_self _
  · rcases Nat.lt_trichotomy name client.connections.length with less | rfl | greater
    · rw [List.getElem?_append_left less] at found
      have ended := spent.isClosed ⟨keeps_one.only name other found running, found⟩
      rw [running] at ended
      contradiction
    · rfl
    · rw [List.getElem?_eq_none (by rw [List.length_append]; exact greater)] at found
      contradiction

/-- A client that had no connection to use has made this one. -/
structure Renews (results : Nat → Except Failure Connection) (before : Client Nat)
    (connection : Connection) (after : Client Nat) : Prop where
  runs : after.world = before.world + 1
  keeps : after.Keeps before.connections.length connection
  keeps_one : after.KeepsOne results

/-- A spent client that keeps a new connection has renewed it. -/
theorem KeepsOne.renews_keep (keeps_one : client.KeepsOne results) (spent : client.IsSpent)
    (connection : Connection) :
    Renews results client connection
      (keep connection { client with world := client.world + 1 }) := by
  have added := keeps_one.added spent connection
  unfold keep
  extract_lets replaced
  have replaced_keeps : replaced.Keeps client.connections.length connection :=
    ⟨rfl, List.getElem?_concat_length⟩
  have replaced_one : replaced.KeepsOne results := ⟨added.connect, added.made, added.only⟩
  split
  · exact ⟨rfl, replaced_keeps, replaced_one⟩
  · next old cached =>
    have ages := replaced.ages_settle old
    have other : old ≠ client.connections.length := Nat.ne_of_lt (keeps_one.made old cached)
    refine ⟨by rw [ages.same], ⟨by rw [ages.same], ?_⟩, replaced_one.ages ages⟩
    refine Eq.trans ?_ replaced_keeps.made
    unfold settle
    split
    · rfl
    · exact made_onConnection other Connection.close replaced

/-- A client whose connection runs goes on with it and does not connect. -/
theorem current_of_running (keeps : client.Keeps name connection)
    (running : connection.isClosed = false) : client.current = .ok name client := by
  unfold current
  rw [usable?_eq_some keeps running]

/-- A client that keeps nothing has nothing to close. -/
theorem close_of_empty (empty : client.cached = none) : client.close = .ok () client := by
  unfold close
  rw [empty]

/-- Closing a client closes the connection that it keeps, and keeps it no longer. -/
theorem close_of_keeps (keeps : client.Keeps name connection) :
    client.close = connection.close.mapState fun closed =>
      { client with cached := none, connections := client.connections.set name closed } := by
  have made : ({ client with cached := none } : Client Nat).connections[name]? = some connection :=
    keeps.made
  unfold close
  rw [keeps.cached]
  exact onConnection_of_made made Connection.close

namespace KeepsOne

variable (keeps_one : client.KeepsOne results)

include keeps_one

/-- The connector gives the result that is next, and counts. -/
theorem connect_run :
    client.connect client.world = (results client.world, client.world + 1) := by
  rw [keeps_one.connect]

/-- A spent client whose connector fails tells its failure and has changed nothing but the count. -/
theorem current_of_failed (spent : client.IsSpent) {failure : Failure}
    (failed : results client.world = .error failure) :
    client.current = .error failure { client with world := client.world + 1 } := by
  have ran := keeps_one.connect_run
  rw [failed] at ran
  unfold current
  rw [spent.usable?_eq_none]
  simp only [ran]

/-- A spent client whose connector succeeds goes on with the new connection. -/
theorem current_of_made (spent : client.IsSpent) (made : results client.world = .ok connection) :
    ∃ after, client.current = .ok client.connections.length after ∧
      Renews results client connection after := by
  have ran := keeps_one.connect_run
  rw [made] at ran
  refine ⟨_, ?_, keeps_one.renews_keep spent connection⟩
  unfold current
  rw [spent.usable?_eq_none]
  simp only [ran]

/-- A client keeps one connection after it has found the one to use. -/
theorem keepsOne_current : client.current.state.KeepsOne results := by
  rcases keeps_one.spent_or_running with spent | ⟨name, connection, keeps, running⟩
  · cases ran : results client.world with
    | error failure =>
      rw [keeps_one.current_of_failed spent ran]
      exact ⟨keeps_one.connect, keeps_one.made, keeps_one.only⟩
    | ok connection =>
      obtain ⟨after, current, renews⟩ := keeps_one.current_of_made spent ran
      rw [current]
      exact renews.keeps_one
  · rw [current_of_running keeps running]
    exact keeps_one

/-- A client keeps one connection after a call. -/
theorem keepsOne_call (operation : Connection.Operation Reply) :
    (client.call operation.run).state.KeepsOne results := by
  have current := keeps_one.keepsOne_current
  unfold call
  cases outcome : client.current <;> rw [outcome] at current
  · exact current.ages (ages_onConnection _ operation.lasting _ _)
  · exact current

/-- A client keeps one connection at most after it was closed. -/
theorem keepsOne_close : client.close.state.KeepsOne results := by
  cases cached : client.cached with
  | none =>
    rw [close_of_empty cached]
    exact keeps_one
  | some name =>
    obtain ⟨connection, keeps⟩ := keeps_one.exists_keeps cached
    rw [close_of_keeps keeps, Outcome.state_mapState]
    refine ⟨keeps_one.connect, fun _ kept => absurd kept (Option.some_ne_none _).symm, ?_⟩
    intro place later found running
    simp only [List.getElem?_set, keeps_one.made name cached, if_true] at found
    split at found
    · rw [← Option.some.inj found, connection.isClosed_close] at running
      contradiction
    · next other =>
      have kept := keeps_one.only place later found running
      exact absurd (Option.some.inj (cached.symm.trans kept)) other

/-- Whatever happens, a client keeps one connection. -/
theorem keepsOne_perform (event : Event) : (client.perform event).state.KeepsOne results := by
  cases event with
  | connection =>
    have current := keeps_one.keepsOne_current
    rw [perform, Outcome.state_map, connection]
    cases outcome : client.current <;> rw [outcome] at current <;>
      exact ⟨current.connect, current.made, current.only⟩
  | request request =>
    rw [perform, request.ask_eq_call]
    exact keeps_one.keepsOne_call request.operation
  | close =>
    rw [perform, Outcome.state_map]
    exact keeps_one.keepsOne_close
  | release name =>
    have taken : KeepsOne results { client with held := client.held.erase name } :=
      ⟨keeps_one.connect, keeps_one.made, keeps_one.only⟩
    exact taken.ages (ages_settle name _)
  | change name operation =>
    rw [perform, Outcome.state_map]
    exact keeps_one.ages (ages_onConnection _ operation.lasting name client)

end KeepsOne

/-- A call that gets no connection fails as the connector did. -/
theorem perform_of_current {event : Event} (needs : event.needsConnection = true)
    {failure : Failure} (failed : client.current = .error failure after) :
    client.perform event = .error failure after := by
  cases event with
  | connection => rw [perform, Client.connection, failed, Outcome.andThen, Outcome.map]
  | request request => rw [perform, request.ask_eq_call, call, failed, Outcome.andThen]
  | close | release | change => contradiction

/-- Who asks for a connection gets the one to use, and holds it. -/
theorem perform_connection_of_current (current : client.current = .ok name after) :
    client.perform .connection =
      .ok (.connection name) { after with held := name :: after.held } := by
  rw [perform, Client.connection, current, Outcome.andThen, Outcome.map]

/-- A request runs its operation on the connection to use. -/
theorem perform_request_of_current (request : Request)
    (current : client.current = .ok name after)
    (made : after.connections[name]? = some connection) :
    client.perform (.request request) = (request.operation.run connection).mapState
      fun used => { after with connections := after.connections.set name used } := by
  rw [perform, request.ask_eq_call, call, current, Outcome.andThen, onConnection_of_made made]

/-- A call that has its connection does not connect again. -/
theorem world_of_current {event : Event} (needs : event.needsConnection = true)
    (current : client.current = .ok name after)
    (made : after.connections[name]? = some connection) :
    (client.perform event).state.world = after.world := by
  cases event with
  | connection => rw [perform_connection_of_current current, Outcome.state_ok]
  | request request =>
    rw [perform_request_of_current request current made, Outcome.state_mapState]
  | close | release | change => contradiction

/-- What needs no connection does not connect. -/
theorem KeepsOne.world_of_rests (keeps_one : client.KeepsOne results) {event : Event}
    (rests : event.needsConnection = false) :
    (client.perform event).state.world = client.world := by
  cases event with
  | connection | request => contradiction
  | close =>
    rw [perform, Outcome.state_map]
    cases cached : client.cached with
    | none => rw [close_of_empty cached, Outcome.state_ok]
    | some name =>
      obtain ⟨connection, keeps⟩ := keeps_one.exists_keeps cached
      rw [close_of_keeps keeps, Outcome.state_mapState]
  | release name =>
    have ages := ages_settle name { client with held := client.held.erase name }
    rw [perform, Outcome.state_ok, release, ages.same]
  | change name operation =>
    have ages := ages_onConnection operation.run operation.lasting name client
    rw [perform, Outcome.state_map, ages.same]

/-- What a client owes its callers when something happens, if its connector gives these results. -/
structure Entry.IsRight (results : Nat → Except Failure Connection) (entry : Entry Nat) : Prop where
  /-- The connector runs once if the call needs a connection and there is none to use, and else not
  at all. -/
  runs : (entry.event.needsConnection = true ∧ entry.before.IsSpent ∧
      entry.after.world = entry.before.world + 1) ∨
    (¬(entry.event.needsConnection = true ∧ entry.before.IsSpent) ∧
      entry.after.world = entry.before.world)
  /-- A connection that is handed out is open and is the one that is kept from now on. -/
  hands_out : entry.event = .connection → ∀ reply, entry.result = .ok reply →
    ∃ name connection, reply = .connection name ∧ entry.after.Keeps name connection ∧
      connection.isClosed = false
  /-- As long as the connection that is kept is open it is the one to use, and the call comes to one
  operation on it. -/
  stays : ∀ name connection, entry.before.Keeps name connection → connection.isClosed = false →
    (entry.event = .connection → entry.result = .ok (.connection name) ∧
      entry.after = { entry.before with held := name :: entry.before.held }) ∧
    ∀ request, entry.event = .request request →
      entry.result = (request.operation.run connection).result ∧
      entry.after = { entry.before with
        connections := entry.before.connections.set name
          (request.operation.run connection).state }
  /-- A failure of the connector is told, and nothing changes. -/
  fails : entry.event.needsConnection = true → entry.before.IsSpent →
    ∀ failure, results entry.before.world = .error failure → entry.result = .error failure ∧
      entry.after = { entry.before with world := entry.before.world + 1 } ∧ entry.after.IsSpent
  /-- A new connection is kept from now on, and the call comes to one operation on it. -/
  renews : entry.event.needsConnection = true → entry.before.IsSpent →
    ∀ connection, results entry.before.world = .ok connection →
      let name := entry.before.connections.length
      (entry.event = .connection → entry.result = .ok (.connection name) ∧
        entry.after.Keeps name connection) ∧
      ∀ request, entry.event = .request request →
        entry.result = (request.operation.run connection).result ∧
        entry.after.Keeps name (request.operation.run connection).state
  /-- Behind a call that closes no connection is kept, and the one that was is closed, whatever
  comes of that. -/
  closes : entry.event = .close → entry.after.cached = none ∧
    ∀ name connection, entry.before.Keeps name connection →
      entry.result = connection.close.result.map (fun _ => .nothing) ∧
      entry.after.connections[name]? = some connection.close.state

/-- The connector runs once if a call needs a connection and there is none to use, and else not at
all. -/
theorem KeepsOne.runs_perform (keeps_one : client.KeepsOne results) (event : Event) :
    (event.needsConnection = true ∧ client.IsSpent ∧
        (client.perform event).state.world = client.world + 1) ∨
      (¬(event.needsConnection = true ∧ client.IsSpent) ∧
        (client.perform event).state.world = client.world) := by
  cases needs : event.needsConnection with
  | false =>
    refine .inr ⟨fun both => ?_, keeps_one.world_of_rests needs⟩
    exact absurd both.1 Bool.false_ne_true
  | true =>
    rcases keeps_one.spent_or_running with spent | ⟨name, connection, keeps, running⟩
    · refine .inl ⟨rfl, spent, ?_⟩
      cases ran : results client.world with
      | error failure =>
        rw [perform_of_current needs (keeps_one.current_of_failed spent ran), Outcome.state_error]
      | ok connection =>
        obtain ⟨after, current, renews⟩ := keeps_one.current_of_made spent ran
        rw [world_of_current needs current renews.keeps.made, renews.runs]
    · refine .inr ⟨fun both => ?_, ?_⟩
      · rw [both.2.isClosed keeps] at running
        contradiction
      · exact world_of_current needs (current_of_running keeps running) keeps.made

/-- What is done with the new connection does not change that it is the one kept. -/
theorem Renews.keeps_set (renews : Renews results before connection after) (used : Connection) :
    let name := before.connections.length
    Keeps name used { after with connections := after.connections.set name used } := by
  have there := (List.getElem?_eq_some_iff.mp renews.keeps.made).1
  exact ⟨renews.keeps.cached, List.getElem?_set_self there⟩

/-- Whatever happens, a client that keeps one connection gives its callers what it owes them. -/
theorem KeepsOne.isRight_entry (keeps_one : client.KeepsOne results)
    (open_when_made : ∀ run connection, results run = .ok connection → connection.isClosed = false)
    (event : Event) : (client.entry event).IsRight results where
  runs := keeps_one.runs_perform event
  hands_out := by
    intro asked reply told
    subst asked
    simp only [entry] at told ⊢
    rcases keeps_one.spent_or_running with spent | ⟨name, connection, keeps, running⟩
    · cases ran : results client.world with
      | error failure =>
        rw [perform_of_current rfl (keeps_one.current_of_failed spent ran)] at told
        contradiction
      | ok connection =>
        obtain ⟨after, current, renews⟩ := keeps_one.current_of_made spent ran
        rw [perform_connection_of_current current] at told ⊢
        refine ⟨_, connection, ?_, ⟨renews.keeps.cached, renews.keeps.made⟩,
          open_when_made _ connection ran⟩
        exact (Except.ok.inj told).symm
    · rw [perform_connection_of_current (current_of_running keeps running)] at told ⊢
      exact ⟨name, connection, (Except.ok.inj told).symm, ⟨keeps.cached, keeps.made⟩, running⟩
  stays := by
    intro name connection keeps running
    have current : client.current = .ok name client := current_of_running keeps running
    refine ⟨fun asked => ?_, fun request asked => ?_⟩
    · simp only [entry] at asked ⊢
      rw [asked, perform_connection_of_current current]
      exact ⟨rfl, rfl⟩
    · simp only [entry] at asked ⊢
      rw [asked, perform_request_of_current request current keeps.made, Outcome.result_mapState,
        Outcome.state_mapState]
      exact ⟨rfl, rfl⟩
  fails := by
    intro needs spent failure failed
    simp only [entry] at needs spent failed ⊢
    rw [perform_of_current needs (keeps_one.current_of_failed spent failed)]
    refine ⟨rfl, rfl, ?_⟩
    cases spent with
    | empty nothing => exact .empty nothing
    | closed keeps ended => exact .closed ⟨keeps.cached, keeps.made⟩ ended
  renews := by
    intro needs spent connection made name
    obtain ⟨after, current, renews⟩ := keeps_one.current_of_made spent made
    refine ⟨fun asked => ?_, fun request asked => ?_⟩
    · simp only [entry] at asked ⊢
      rw [asked, perform_connection_of_current current]
      exact ⟨rfl, ⟨renews.keeps.cached, renews.keeps.made⟩⟩
    · simp only [entry] at asked ⊢
      rw [asked, perform_request_of_current request current renews.keeps.made,
        Outcome.result_mapState, Outcome.state_mapState]
      exact ⟨rfl, renews.keeps_set _⟩
  closes := by
    intro asked
    simp only [entry] at asked ⊢
    rw [asked, perform]
    refine ⟨?_, fun name connection keeps => ?_⟩
    · rw [Outcome.state_map]
      cases cached : client.cached with
      | none => rwa [close_of_empty cached]
      | some name =>
        obtain ⟨connection, keeps⟩ := keeps_one.exists_keeps cached
        rw [close_of_keeps keeps, Outcome.state_mapState]
    · have there := (List.getElem?_eq_some_iff.mp keeps.made).1
      rw [close_of_keeps keeps, Outcome.result_map, Outcome.result_mapState, Outcome.state_map,
        Outcome.state_mapState]
      exact ⟨rfl, List.getElem?_set_self there⟩

/-- What happens one after the other. -/
theorem KeepsOne.of_mem_log (keeps_one : client.KeepsOne results) {events : List Event}
    {entry : Entry Nat} (member : entry ∈ client.log events) :
    entry = entry.before.entry entry.event ∧ entry.before.KeepsOne results ∧
      entry.after.KeepsOne results := by
  induction events generalizing client with
  | nil => contradiction
  | cons event events ih =>
    have still := keeps_one.keepsOne_perform event
    obtain rfl | later := List.mem_cons.mp member
    · exact ⟨rfl, keeps_one, still⟩
    · exact ih still later

end Results

/-- **One connection at a time.** Whatever the connector gives, if it is open when it is made, and
whatever is done with the client and its connections: a call that needs a connection runs the
connector exactly if none is kept or the one that is kept is closed, and then once. A connection
that is handed out is open and kept. A failure of the connector is told and changes nothing, a call
that fails is not repeated, and a call that closes keeps no connection. At every moment every
connection but the one that is kept is closed, so at most one of all that were made is open. -/
theorem keeps_one_connection (target : String) (results : Nat → Except Failure Connection)
    (open_when_made : ∀ run connection, results run = .ok connection → connection.isClosed = false)
    (events : List Event) :
    let client := ofResults target results
    (client.log events).map Entry.event = events ∧
    ∀ entry ∈ client.log events, entry.IsRight results ∧
      ∀ moment ∈ [entry.before, entry.after],
        (∀ (name : Nat) (connection : Connection), moment.connections[name]? = some connection →
          connection.isClosed = false → moment.cached = some name) ∧
        ∀ (first second : Nat) (connection other : Connection),
          moment.connections[first]? = some connection → connection.isClosed = false →
          moment.connections[second]? = some other → other.isClosed = false →
          first = second := by
  intro client
  refine ⟨client.map_event_log events, fun entry member => ?_⟩
  obtain ⟨same, before_one, after_one⟩ := (keepsOne_ofResults target).of_mem_log member
  refine ⟨?_, fun moment among => ?_⟩
  · rw [same]
    exact before_one.isRight_entry open_when_made entry.event
  · have one : moment.KeepsOne results := by
      rcases List.mem_cons.mp among with rfl | last
      · exact before_one
      · rw [List.mem_singleton.mp last]
        exact after_one
    refine ⟨one.only, ?_⟩
    intro first second connection other made running also_made also_running
    have kept := one.only first connection made running
    have also_kept := one.only second other also_made also_running
    exact Option.some.inj (kept.symm.trans also_kept)

/-- The connector fails, then a device answers nothing, and of the connections that follow one is
closed by a caller and one by the client. Both are told that the transport cannot be torn down. -/
theorem keeps_one_connection_through_failures :
    let silent : Connection := {
      channel := { queue := { receiver := { source := [] } } }
      teardown := { handle := some (some .brokenPipe) }
      greeting := {
        version := 16777216
        maxPayload := 4096
        banner := {
          raw := "device::", systemType := "device", serial := "", properties := []
          features := [] } } }
    let results : Nat → Except Failure Connection :=
      fun run => if run = 0 then .error .connectionClosed else .ok silent
    let events : List Event := [
      .request (.supports "cmd"), .connection, .request (.openShell 7 "id"),
      .request (.supports "cmd"), .change 1 (.ofDeed .close []), .connection, .close]
    let log := (ofResults "device" results).log events
    (∀ run connection, results run = .ok connection → connection.isClosed = false) ∧
      (∀ entry ∈ log, entry.IsRight results) ∧
      log.map (fun entry => (entry.result.isOk, entry.after.world, entry.after.cached)) =
        [(false, 1, none), (true, 2, some 0), (false, 2, some 0), (true, 3, some 1),
          (false, 3, some 1), (true, 4, some 2), (false, 4, none)] := by
  intro silent results events log
  have open_when_made : ∀ run connection, results run = .ok connection →
      connection.isClosed = false := by
    intro run connection made
    simp only [results] at made
    split at made
    · contradiction
    · rw [← Except.ok.inj made]
      rfl
  obtain ⟨-, right⟩ := keeps_one_connection "device" results open_when_made events
  exact ⟨open_when_made, fun entry member => (right entry member).1, by decide +kernel⟩

end Client
end DebugBridge

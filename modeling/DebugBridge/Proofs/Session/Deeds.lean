import DebugBridge.Proofs.Session.Conduct
import DebugBridge.Session.Connection

/-!
# Sessions

A session is a connection with the streams that were opened on it and are still in someone's hands.
Its user opens streams, uses them and closes the connection, in any order. All of this comes to
acts on the channel, closing the connection apart.
-/

namespace DebugBridge

/-- What is done with a stream. -/
inductive Use where
  | read (wanted : Nat)
  | write (bytes : Bytes)
  | flush
  | close
  /-- The stream goes out of use. -/
  | drop
  deriving DecidableEq

/-- What is done with a connection and its streams. A stream is named by its place among those that
are in use. -/
inductive Deed where
  | openStream (id : UInt32) (destination : String)
  | openWith (feature : String) (id : UInt32) (destination : String)
  | shell (id : UInt32) (command : String)
  | use (place : Nat) (use : Use)
  | close
  deriving DecidableEq

/-- The id and the destination with which a deed opens a stream. -/
def Deed.opening? : Deed → Option (UInt32 × String)
  | .openStream id destination | .openWith _ id destination => some (id, destination)
  | .shell id command => some (id, Shell.destination command)
  | .use _ _ | .close => none

/-- The id of the stream that a deed opens. -/
def Deed.id? (deed : Deed) : Option UInt32 :=
  deed.opening?.map (·.1)

/-- A deed that opens a stream names its id. -/
theorem Deed.id?_of_opening {deed : Deed} {id : UInt32} {destination : String}
    (opening : deed.opening? = some (id, destination)) : deed.id? = some id := by
  rw [Deed.id?, opening]
  rfl

/-- A connection with the streams in use. -/
structure Session where
  connection : Connection
  streams : List Stream := []

namespace Session

/-- Takes a stream that was opened into use. -/
def keep (session : Session) : Outcome Connection Stream → Outcome Session Bytes
  | .ok stream connection => .ok [] { connection, streams := session.streams ++ [stream] }
  | .error failure connection => .error failure { session with connection }

/-- Runs an operation on the stream at a place. -/
def onStream (place : Nat) (stream : Stream) (operation : Endpoint → Outcome Endpoint Bytes)
    (session : Session) : Outcome Session Bytes :=
  (session.connection.onStream operation stream).mapState fun (connection, stream) =>
    { connection, streams := session.streams.set place stream }

/-- Uses the stream at a place, if there is one. The value is what was read, or how much of what
was to be written was taken. -/
def use (place : Nat) (use : Use) (session : Session) : Outcome Session Bytes :=
  match session.streams[place]? with
  | none => .ok [] session
  | some stream =>
    match use with
    | .read wanted => session.onStream place stream fun endpoint => endpoint.read wanted
    | .write bytes =>
      session.onStream place stream fun endpoint => (endpoint.write bytes).map bytes.take
    | .flush => session.onStream place stream fun endpoint => endpoint.flush.map fun _ => []
    | .close => session.onStream place stream fun endpoint => endpoint.close.map fun _ => []
    | .drop =>
      .ok [] {
        connection := session.connection.dropStream stream
        streams := session.streams.eraseIdx place }

/-- Does a deed. -/
def perform (deed : Deed) (session : Session) : Outcome Session Bytes :=
  match deed with
  | .openStream id destination => session.keep (session.connection.openStream id destination)
  | .openWith feature id destination =>
    session.keep (session.connection.openWith feature id destination)
  | .shell id command =>
    ((session.connection.shell id command).map fun _ => []).mapState fun connection =>
      { session with connection }
  | .use place use => session.use place use
  | .close =>
    (session.connection.close.map fun _ => []).mapState fun connection =>
      { session with connection }

/-- Whether a deed asks the device for a stream. -/
def asks (deed : Deed) (session : Session) : Bool :=
  match deed with
  | .openStream _ _ | .shell _ _ => !session.connection.isClosed
  | .openWith feature _ _ => session.connection.supports feature && !session.connection.isClosed
  | .use _ _ | .close => false

/-- The stream that a deed opens, if the device accepts it. -/
def opened? (deed : Deed) (session : Session) : Option Stream :=
  match deed with
  | .openStream id destination =>
    (session.connection.openStream id destination).result.toOption
  | .openWith feature id destination =>
    (session.connection.openWith feature id destination).result.toOption
  | .shell id command => (session.connection.openShell id command).result.toOption
  | .use _ _ | .close => none

/-- The connection goes out of use. Its streams may stay. -/
def dropConnection (session : Session) : Session :=
  { session with connection := session.connection.close.state }

/-- A deed that was done. -/
structure Entry where
  before : Session
  deed : Deed
  result : Except Failure Bytes
  after : Session

/-- The deed with what comes of it. -/
def entry (deed : Deed) (session : Session) : Entry :=
  ⟨session, deed, (session.perform deed).result, (session.perform deed).state⟩

/-- Deeds one after the other, whatever comes of them. -/
def log : List Deed → Session → List Entry
  | [], _ => []
  | deed :: deeds, session => session.entry deed :: log deeds (session.entry deed).after

/-- The session after deeds. -/
def afterDeeds : List Deed → Session → Session
  | [], session => session
  | deed :: deeds, session => afterDeeds deeds (session.entry deed).after

/-- The session after its streams were used. -/
def afterUses (uses : List (Nat × Use)) (session : Session) : Session :=
  session.afterDeeds (uses.map fun (place, use) => .use place use)

theorem map_deed_log (session : Session) (deeds : List Deed) :
    (log deeds session).map Entry.deed = deeds := by
  induction deeds generalizing session with
  | nil => rfl
  | cons deed deeds ih => exact congrArg (deed :: ·) (ih _)

/-- What every deed keeps holds before and after each deed that was done. -/
theorem of_mem_log {P : Session → Prop} (kept : ∀ session deed, P session →
    P (session.entry deed).after) {session : Session} (holds : P session) {deeds : List Deed}
    {entry : Entry} (member : entry ∈ session.log deeds) :
    entry = entry.before.entry entry.deed ∧ P entry.before ∧ P entry.after := by
  induction deeds generalizing session with
  | nil => contradiction
  | cons deed deeds ih =>
    have holds_still := kept session deed holds
    obtain rfl | later := List.mem_cons.1 member
    · exact ⟨rfl, holds, holds_still⟩
    · exact ih holds_still later

/-- What every deed keeps holds after deeds. -/
theorem of_afterDeeds {P : Session → Prop} (kept : ∀ session deed, P session →
    P (session.entry deed).after) {session : Session} (holds : P session) (deeds : List Deed) :
    P (session.afterDeeds deeds) := by
  induction deeds generalizing session with
  | nil => exact holds
  | cons deed deeds ih => exact ih (kept session deed holds)

end Session

namespace Connection

/-- What was done to a connection has not closed it and comes to acts on its channel. -/
structure Leads (before after : Connection) : Prop where
  channel : before.channel.Leads after.channel
  teardown : after.teardown = before.teardown
  greeting : after.greeting = before.greeting
  closed : after.closed = before.closed

/-- The connection after acts on its channel. -/
def afterActs (acts : List Channel.Act) (connection : Connection) : Connection :=
  { connection with channel := connection.channel.afterActs acts }

theorem afterActs_append (acts more : List Channel.Act) (connection : Connection) :
    connection.afterActs (acts ++ more) = (connection.afterActs acts).afterActs more := by
  simp only [afterActs, Channel.afterActs_append]

/-- Acts on the channel change nothing else of a connection. -/
theorem leads_afterActs (acts : List Channel.Act) (connection : Connection) :
    connection.Leads (connection.afterActs acts) :=
  ⟨⟨acts, rfl⟩, rfl, rfl, rfl⟩

/-- Registering an id and asking for a stream. -/
def askActs (id : UInt32) (destination : String) : List Channel.Act :=
  [.listen id, .send Command.openStream id 0 (Utf8.encode destination ++ [0])]

/-- Opening a stream comes to asking for it and waiting for the answer. -/
def openActs (id : UInt32) (destination : String) (connection : Connection) : List Channel.Act :=
  if connection.isClosed then []
  else
    askActs id destination ++
      match (connection.channel.listen id).send (Transmitter.sendOpen id destination) with
      | .error _ _ => [.unlisten id]
      | .ok _ channel =>
        .take id Command.okay ::
          match channel.take id Command.okay with
          | .error _ _ => [.unlisten id]
          | .ok _ _ => [.countOpened]

/-- Whatever comes of opening a stream, the connection is left as its acts leave it. -/
theorem state_openStream (id : UInt32) (destination : String) (connection : Connection) :
    (connection.openStream id destination).state =
      connection.afterActs (connection.openActs id destination) := by
  unfold openStream openActs
  split
  · rfl
  · have asked : connection.channel.afterActs (askActs id destination) =
        ((connection.channel.listen id).send (Transmitter.sendOpen id destination)).state := rfl
    simp only [afterActs, Channel.afterActs_append, asked, request]
    cases (connection.channel.listen id).send (Transmitter.sendOpen id destination) with
    | error failure channel => rfl
    | ok value channel =>
      have taken : channel.afterAct (.take id Command.okay) =
        (channel.take id Command.okay).state := rfl
      simp only [Outcome.state_ok, Outcome.andThen, Channel.afterActs_cons, taken]
      cases channel.take id Command.okay <;> rfl

/-- Asking, and counting the stream once the device has answered. -/
def acceptActs (id : UInt32) (destination : String) : List Channel.Act :=
  askActs id destination ++ [.take id Command.okay, .countOpened]

/-- The device accepts a stream with this answer. -/
structure Accepts (id : UInt32) (destination : String) (answer : Frame) (connection : Connection) :
    Prop where
  running : connection.isClosed = false
  answered : ((connection.channel.afterActs (askActs id destination)).take id
    Command.okay).result = .ok answer

/-- The stream that the device accepts with this answer, which tells its own id for it. -/
def accepted (id : UInt32) (answer : Frame) (connection : Connection) : Stream :=
  .opened id answer.arg0 connection.greeting.maxPayload

/-- A stream that has just been accepted hands out nothing yet. -/
theorem isTidy_accepted {id : UInt32} {answer : Frame} (connection : Connection)
    (channel : Channel) : Endpoint.IsTidy ⟨connection.accepted id answer, channel⟩ :=
  fun closed => absurd closed Bool.false_ne_true

/-- What can come of opening a stream, and the acts to which it comes. -/
inductive Opens (id : UInt32) (destination : String) (connection : Connection) :
    List Channel.Act → Except Failure Stream → Prop
  /-- The connection has ended. -/
  | refused (ended : connection.isClosed = true) :
    Opens id destination connection [] (.error .connectionClosed)
  /-- Asking fails, or there is no answer. -/
  | failed (running : connection.isClosed = false) (failure : Failure) {rest : List Channel.Act}
    (waited : rest = [] ∨ rest = [.take id Command.okay]) :
    Opens id destination connection (askActs id destination ++ (rest ++ [.unlisten id]))
      (.error failure)
  | opened {answer : Frame} (accepts : connection.Accepts id destination answer) :
    Opens id destination connection (acceptActs id destination)
      (.ok (connection.accepted id answer))

/-- Opening a stream ends in one of the ways that `Opens` lists, with the acts of that way. -/
theorem opens_openStream (id : UInt32) (destination : String) (connection : Connection) :
    connection.Opens id destination (connection.openActs id destination)
      (connection.openStream id destination).result := by
  unfold openStream openActs
  split
  · next ended => exact .refused ended
  · next running =>
    rw [Bool.not_eq_true] at running
    have asked : connection.channel.afterActs (askActs id destination) =
        ((connection.channel.listen id).send (Transmitter.sendOpen id destination)).state := rfl
    simp only [request]
    cases sent : (connection.channel.listen id).send (Transmitter.sendOpen id destination) with
    | error failure channel => exact .failed running failure (.inl rfl)
    | ok value channel =>
      rw [sent, Outcome.state_ok] at asked
      simp only [Outcome.andThen]
      cases taken : channel.take id Command.okay with
      | error failure after => exact .failed running failure (.inr rfl)
      | ok answer after =>
        have answered := congrArg Outcome.result taken
        rw [← asked] at answered
        exact .opened ⟨running, answered⟩

/-- Running a command comes to opening its stream, reading and closing it. -/
def shellActs (id : UInt32) (command : String) (connection : Connection) : List Channel.Act :=
  connection.openActs id (Shell.destination command) ++
    (connection.openShell id command).listed fun stream after =>
      Shell.collectActs ⟨stream, after.channel⟩ ++
        (Shell.readAll ⟨stream, after.channel⟩).state.closeActs

/-- A connection whose stream is used is left as the acts of the use leave it. -/
theorem state_onStream {Value : Type} {operation : Endpoint → Outcome Endpoint Value}
    {stream : Stream} {connection : Connection} {acts : List Channel.Act}
    (conducts : Endpoint.Conducts ⟨stream, connection.channel⟩ acts
      (operation ⟨stream, connection.channel⟩).state) :
    (connection.onStream operation stream).state.1 = connection.afterActs acts := by
  rw [onStream, Outcome.state_mapState, afterActs, ← conducts.channel]

/-- All reading and the closing behind it. -/
theorem conducts_shell (endpoint : Endpoint) :
    endpoint.Conducts (Shell.collectActs endpoint ++ (Shell.readAll endpoint).state.closeActs)
      (Shell.readAll endpoint).state.close.state :=
  (Shell.reads_readAll endpoint).conducts.trans (Endpoint.conducts_close _)

/-- Whatever comes of running a command, the connection is left as its acts leave it. -/
theorem state_shell (id : UInt32) (command : String) (connection : Connection) :
    (connection.shell id command).state =
      connection.afterActs (connection.shellActs id command) := by
  have opened := connection.state_openStream id (Shell.destination command)
  unfold shell shellActs openShell
  cases found : connection.openStream id (Shell.destination command) with
  | error failure after =>
    rw [found] at opened
    rw [Outcome.listed, List.append_nil]
    exact opened
  | ok stream after =>
    rw [found, Outcome.state_ok] at opened
    have read := conducts_shell ⟨stream, after.channel⟩
    rw [Outcome.andThen, Outcome.state_ofResult, afterActs_append, ← opened, Outcome.listed]
    rw [afterActs, ← read.channel]
    simp only [onStream, Outcome.state_mapState]

end Connection

namespace Endpoint

/-- The stream at its channel after a use. -/
def afterUse (use : Use) (endpoint : Endpoint) : Endpoint :=
  match use with
  | .read wanted => (endpoint.read wanted).state
  | .write bytes => (endpoint.write bytes).state
  | .flush => endpoint.flush.state
  | .close | .drop => endpoint.close.state

/-- The acts of a use. -/
def useActs (use : Use) (endpoint : Endpoint) : List Channel.Act :=
  match use with
  | .read wanted => endpoint.readActs wanted
  | .write bytes => endpoint.writeActs bytes
  | .flush => endpoint.flushActs
  | .close | .drop => endpoint.closeActs

end Endpoint

namespace Session

variable (session : Session)

/-- The acts of using the stream at a place. -/
def useActs (place : Nat) (use : Use) : List Channel.Act :=
  match session.streams[place]? with
  | none => []
  | some stream => Endpoint.useActs use ⟨stream, session.connection.channel⟩

/-- The acts of a deed. Closing the connection is none. -/
def acts (deed : Deed) : List Channel.Act :=
  match deed with
  | .openStream id destination => session.connection.openActs id destination
  | .openWith feature id destination =>
    if session.connection.supports feature then session.connection.openActs id destination else []
  | .shell id command => session.connection.shellActs id command
  | .use place use => session.useActs place use
  | .close => []

/-- The session after acts on its channel. -/
def afterActs (acts : List Channel.Act) (session : Session) : Session :=
  { session with connection := session.connection.afterActs acts }

/-- What can come of a deed: its acts, the stream that it opens and the session after it. -/
inductive Goes (session : Session) : Deed → List Channel.Act → Option Stream → Session → Prop
  /-- The connection has ended or lacks a feature, or there is no stream at the place. -/
  | idle {deed : Deed} (quiet : session.asks deed = false) : Goes session deed [] none session
  /-- The device is asked for a stream in vain. -/
  | fails {deed : Deed} {id : UInt32} {destination : String} {rest : List Channel.Act}
    (opening : deed.opening? = some (id, destination)) (asked : session.asks deed = true)
    (running : session.connection.isClosed = false)
    (waited : rest = [] ∨ rest = [.take id Command.okay]) :
    Goes session deed (Connection.askActs id destination ++ (rest ++ [.unlisten id])) none
      (session.afterActs (Connection.askActs id destination ++ (rest ++ [.unlisten id])))
  /-- A stream is opened and taken into use. -/
  | opens {deed : Deed} {id : UInt32} {destination : String} {answer : Frame}
    (opening : deed.opening? = some (id, destination)) (asked : session.asks deed = true)
    (accepts : session.connection.Accepts id destination answer) :
    Goes session deed (Connection.acceptActs id destination)
      (some (session.connection.accepted id answer))
      { session.afterActs (Connection.acceptActs id destination) with
        streams := session.streams ++ [session.connection.accepted id answer] }
  /-- A stream is opened, used and closed at once. -/
  | runs {deed : Deed} {id : UInt32} {destination : String} {answer : Frame}
    {acts : List Channel.Act} {after : Endpoint}
    (opening : deed.opening? = some (id, destination)) (asked : session.asks deed = true)
    (accepts : session.connection.Accepts id destination answer)
    (conducts : Endpoint.Conducts ⟨session.connection.accepted id answer,
      session.connection.channel.afterActs (Connection.acceptActs id destination)⟩ acts after)
    (closed : after.stream.closed = true) :
    Goes session deed (Connection.acceptActs id destination ++ acts)
      (some (session.connection.accepted id answer))
      (session.afterActs (Connection.acceptActs id destination ++ acts))
  /-- A stream is used. -/
  | uses {place : Nat} {use : Use} {front back : List Stream} {stream : Stream}
    {acts : List Channel.Act} {after : Endpoint} (found : session.streams = front ++ stream :: back)
    (conducts : Endpoint.Conducts ⟨stream, session.connection.channel⟩ acts after) :
    Goes session (.use place use) acts none
      { session.afterActs acts with streams := front ++ after.stream :: back }
  /-- A stream is closed and goes out of use. -/
  | drops {place : Nat} {front back : List Stream} {stream : Stream} {acts : List Channel.Act}
    {after : Endpoint} (found : session.streams = front ++ stream :: back)
    (conducts : Endpoint.Conducts ⟨stream, session.connection.channel⟩ acts after)
    (closed : after.stream.closed = true) :
    Goes session (.use place .drop) acts none
      { session.afterActs acts with streams := front ++ back }

variable {session} in
/-- A deed that opens a stream goes as opening it does. -/
theorem goes_openStream {deed : Deed} {id : UInt32} {destination : String}
    (opening : deed.opening? = some (id, destination))
    (asks : session.asks deed = !session.connection.isClosed) :
    session.Goes deed (session.connection.openActs id destination)
      (session.connection.openStream id destination).result.toOption
      (session.keep (session.connection.openStream id destination)).state := by
  have state := session.connection.state_openStream id destination
  have result := session.connection.opens_openStream id destination
  generalize session.connection.openActs id destination = acts at state result
  cases outcome : session.connection.openStream id destination with
  | error failure after =>
    rw [outcome] at state result
    have kept : (session.keep (.error failure after)).state = session.afterActs acts :=
      congrArg (fun connection => { session with connection }) state
    rw [kept]
    cases result with
    | refused ended =>
      rw [ended] at asks
      exact .idle asks
    | failed running _ waited =>
      rw [running] at asks
      exact .fails opening asks running waited
  | ok stream after =>
    rw [outcome] at state result
    have kept : (session.keep (.ok stream after)).state =
        { session.afterActs acts with streams := session.streams ++ [stream] } :=
      congrArg (fun connection => Session.mk connection (session.streams ++ [stream])) state
    rw [kept]
    cases result with
    | opened accepts =>
      rw [accepts.running] at asks
      exact .opens opening asks accepts

/-- Running a command opens a stream that nobody gets. -/
theorem goes_shell (id : UInt32) (command : String) :
    session.Goes (.shell id command) (session.connection.shellActs id command)
      (session.connection.openShell id command).result.toOption
      (session.perform (.shell id command)).state := by
  have state := session.connection.state_openStream id (Shell.destination command)
  have result := session.connection.opens_openStream id (Shell.destination command)
  have performed : (session.perform (.shell id command)).state =
      session.afterActs (session.connection.shellActs id command) := by
    rw [perform, Outcome.state_mapState, Outcome.state_map, Connection.state_shell]
    rfl
  rw [performed, Connection.shellActs, Connection.openShell]
  generalize session.connection.openActs id (Shell.destination command) = acts at state result ⊢
  cases outcome : session.connection.openStream id (Shell.destination command) with
  | error failure after =>
    rw [outcome] at result
    rw [Outcome.listed, List.append_nil]
    cases result with
    | refused ended => exact .idle (by rw [asks, ended, Bool.not_true])
    | failed running _ waited =>
      exact .fails rfl (by rw [asks, running, Bool.not_false]) running waited
  | ok stream after =>
    rw [outcome] at state result
    cases result with
    | opened accepts =>
      rw [Outcome.state_ok] at state
      rw [Outcome.listed, state]
      refine .runs rfl (by rw [asks, accepts.running, Bool.not_false]) accepts
        (Connection.conducts_shell _) (Endpoint.closed_close _)

/-- The streams around the one at a place. -/
theorem exists_around {streams : List Stream} {place : Nat} {stream : Stream}
    (found : streams[place]? = some stream) :
    ∃ front back, streams = front ++ stream :: back ∧
      (∀ other, streams.set place other = front ++ other :: back) ∧
      streams.eraseIdx place = front ++ back := by
  obtain ⟨inside, rfl⟩ := List.getElem?_eq_some_iff.1 found
  refine ⟨streams.take place, streams.drop (place + 1), ?_, ?_, ?_⟩
  · rw [List.getElem_cons_drop, List.take_append_drop]
  · exact fun other => List.set_eq_take_append_cons_drop.trans (if_pos inside)
  · exact List.eraseIdx_eq_take_drop_succ ..

variable {session} in
/-- A use of a stream goes as its operation does on the channel. -/
theorem goes_onStream {place : Nat} {use : Use} {stream : Stream} {acts : List Channel.Act}
    {operation : Endpoint → Outcome Endpoint Bytes}
    (found : session.streams[place]? = some stream)
    (conducts : Endpoint.Conducts ⟨stream, session.connection.channel⟩ acts
      (operation ⟨stream, session.connection.channel⟩).state) :
    session.Goes (.use place use) acts none (session.onStream place stream operation).state := by
  obtain ⟨front, back, split, replaced, -⟩ := exists_around found
  have used : session.Goes (.use place use) acts none _ := .uses split conducts
  rw [← replaced, afterActs, ← Connection.state_onStream conducts] at used
  rw [onStream, Outcome.state_mapState]
  simpa only [Connection.onStream, Outcome.state_mapState] using used

/-- Every use of a stream goes as `Goes` says, with its acts. -/
theorem goes_use (place : Nat) (use : Use) :
    session.Goes (.use place use) (session.useActs place use) none
      (session.use place use).state := by
  unfold Session.use useActs
  split
  · exact .idle rfl
  · next stream found =>
    let endpoint : Endpoint := ⟨stream, session.connection.channel⟩
    cases use with
    | read wanted => exact goes_onStream found (endpoint.conducts_read wanted)
    | write bytes =>
      apply goes_onStream found
      rw [Outcome.state_map]
      exact endpoint.conducts_write bytes
    | flush =>
      apply goes_onStream found
      rw [Outcome.state_map]
      exact endpoint.conducts_flush
    | close =>
      apply goes_onStream found
      rw [Outcome.state_map]
      exact endpoint.conducts_close
    | drop =>
      obtain ⟨front, back, split, -, erased⟩ := exists_around found
      have dropped : session.connection.dropStream stream =
          session.connection.afterActs endpoint.closeActs :=
        Connection.state_onStream endpoint.conducts_close
      rw [Outcome.state_ok, dropped, erased]
      exact .drops split endpoint.conducts_close endpoint.closed_close

/-- Every deed but closing the connection goes one of these ways. -/
theorem goes_perform {deed : Deed} (other : deed ≠ .close) :
    session.Goes deed (session.acts deed) (session.opened? deed) (session.perform deed).state := by
  cases deed with
  | openStream id destination => exact goes_openStream rfl rfl
  | openWith feature id destination =>
    rw [perform, Connection.openWith, opened?, Connection.openWith, acts]
    split
    · next supported =>
      apply goes_openStream rfl
      rw [asks, supported, Bool.true_and]
    · next unsupported =>
      rw [Bool.not_eq_true] at unsupported
      exact .idle (by rw [asks, unsupported, Bool.false_and])
  | shell id command => exact session.goes_shell id command
  | use place use => exact session.goes_use place use
  | close => contradiction

variable {session} in
/-- However a deed goes, the connection is left as its acts leave it. -/
theorem Goes.connection {deed : Deed} {acts : List Channel.Act} {opened : Option Stream}
    {after : Session} (goes : session.Goes deed acts opened after) :
    after.connection = session.connection.afterActs acts := by
  cases goes <;> rfl

/-- No deed but closing does anything to a connection except acts on its channel. -/
theorem leads_perform {deed : Deed} (other : deed ≠ .close) :
    session.connection.Leads (session.perform deed).state.connection := by
  rw [(session.goes_perform other).connection]
  exact session.connection.leads_afterActs _

/-- Where a stream that is in use after a deed comes from. -/
inductive Arises (session : Session) : Deed → Stream → Prop
  | kept {deed : Deed} {stream : Stream} (member : stream ∈ session.streams) :
    Arises session deed stream
  | used {place : Nat} {use : Use} {stream : Stream}
    (found : session.streams[place]? = some stream) :
    Arises session (.use place use)
      (Endpoint.afterUse use ⟨stream, session.connection.channel⟩).stream
  | opened {deed : Deed} (localId remoteId : UInt32) :
    Arises session deed (.opened localId remoteId session.connection.greeting.maxPayload)

variable {session} in
/-- A stream that is in use after a use was there before, or is the one that was used. -/
theorem arises_of_use {place : Nat} {use : Use} {stream : Stream}
    (member : stream ∈ (session.use place use).state.streams) :
    session.Arises (.use place use) stream := by
  unfold Session.use at member
  split at member
  · exact .kept member
  · next old found =>
    have used {operation : Endpoint → Outcome Endpoint Bytes}
        (same : (operation ⟨old, session.connection.channel⟩).state =
          Endpoint.afterUse use ⟨old, session.connection.channel⟩)
        (member : stream ∈ (session.onStream place old operation).state.streams) :
        session.Arises (.use place use) stream := by
      rw [onStream, Outcome.state_mapState, Connection.onStream, Outcome.state_mapState,
        same] at member
      obtain member | rfl := List.mem_or_eq_of_mem_set member
      · exact .kept member
      · exact .used found
    cases use with
    | read wanted => exact used rfl member
    | write | flush | close => exact used (Outcome.state_map ..) member
    | drop => exact .kept (List.mem_of_mem_eraseIdx member)

variable {session} in
/-- A stream that is in use after a deed was there before, was used, or was opened by it. -/
theorem arises_of_perform {deed : Deed} {stream : Stream}
    (member : stream ∈ (session.perform deed).state.streams) : session.Arises deed stream := by
  have opened {id : UInt32} {destination : String}
      (member : stream ∈
        (session.keep (session.connection.openStream id destination)).state.streams) :
      session.Arises deed stream := by
    have opens := session.connection.opens_openStream id destination
    generalize session.connection.openActs id destination = acts at opens
    cases outcome : session.connection.openStream id destination with
    | error failure after =>
      rw [outcome] at member
      exact .kept member
    | ok given after =>
      rw [outcome] at member opens
      cases opens with
      | opened accepts =>
        obtain member | member := List.mem_append.1 member
        · exact .kept member
        · rw [List.mem_singleton.1 member]
          exact .opened id _
  cases deed with
  | openStream id destination => exact opened member
  | openWith feature id destination =>
    rw [perform, Connection.openWith] at member
    split at member
    · exact opened member
    · exact .kept member
  | use place use => exact arises_of_use member
  | shell | close =>
    rw [perform, Outcome.state_mapState] at member
    exact .kept member

end Session
end DebugBridge

import DebugBridge.Proofs.Session.Deeds

/-!
# A transport is torn down once

A handshake that fails gives its transport up: the transmitter is closed and the handle used, and
what is reported is the failure of the handshake. One that succeeds leaves both to the connection,
which gives them up when it is closed or goes out of use, whichever comes first. After that there
is no handle left to use.
-/

namespace DebugBridge

/-- A handle can be used once, whatever it answers. -/
theorem Teardown.state_run (answer : Option IoKind) (calls : Nat) :
    (run { handle := some answer, calls }).state = { handle := none, calls := calls + 1 } := by
  cases answer <;> rfl

namespace Transport

/-- Everything counted on this transport. -/
def counts (transport : Transport) : Metrics :=
  transport.metrics + transport.transmitter.metrics + transport.receiver.metrics

/-- What a handshake leaves alone. -/
structure Keeps (before after : Transport) : Prop where
  teardown : after.teardown = before.teardown
  metrics : after.metrics = before.metrics
  transmitter :
    after.transmitter.metrics.apartFromFrames = before.transmitter.metrics.apartFromFrames
  receiver : after.receiver.metrics.apartFromFrames = before.receiver.metrics.apartFromFrames

theorem Keeps.trans {before middle after : Transport} (first : before.Keeps middle)
    (second : middle.Keeps after) : before.Keeps after where
  teardown := second.teardown.trans first.teardown
  metrics := second.metrics.trans first.metrics
  transmitter := second.transmitter.trans first.transmitter
  receiver := second.receiver.trans first.receiver

theorem keeps_of_read {transport : Transport} {outcome : Outcome Receiver Frame}
    (read : transport.receiver.readFrame = outcome) :
    transport.Keeps { transport with receiver := outcome.state } := by
  subst read
  exact ⟨rfl, rfl, rfl, transport.receiver.apartFromFrames_readFrame⟩

theorem keeps_of_send (transport : Transport) {command arg0 arg1 : UInt32} {payload : Bytes}
    {outcome : Outcome Transmitter Unit}
    (sent : transport.transmitter.send command arg0 arg1 payload = outcome) :
    transport.Keeps { transport with transmitter := outcome.state } := by
  subst sent
  exact ⟨rfl, rfl, Transmitter.apartFromFrames_send .., rfl⟩

theorem keeps_exchange (handshake : Handshake) (transport : Transport) :
    transport.Keeps (exchange handshake transport).state := by
  fun_induction exchange handshake transport with
  | case1 handshake transport failure receiver read => exact keeps_of_read read
  | case2 handshake transport frame receiver read less failure last refused =>
    exact keeps_of_read read
  | case3 handshake transport frame receiver read less greeting last connected =>
    exact keeps_of_read read
  | case4 handshake transport frame receiver read less type payload next answered failure
      transmitter failed =>
    apply (keeps_of_read read).trans
    exact keeps_of_send { transport with receiver } failed
  | case5 handshake transport frame receiver read less type payload next answered transmitter
      succeeded ih =>
    apply (keeps_of_read read).trans
    exact (keeps_of_send { transport with receiver } succeeded).trans ih

/-- A negotiation leaves the handle alone, and counts no handshake. -/
theorem keeps_negotiate (keyPair : Option KeyPair) (transport : Transport) :
    transport.Keeps (negotiate keyPair transport).state := by
  unfold negotiate
  split <;> rename_i sent
  · exact transport.keeps_of_send sent
  · exact (transport.keeps_of_send sent).trans (keeps_exchange _ _)

/-- The transport when its handshake begins. -/
def begun (transport : Transport) : Transport :=
  { transport with metrics := transport.metrics.handshakeAttempt }

/-- A transport that was not used yet, with a handle that will answer so. -/
def fresh (source : Source) (sink : Sink) (answer : Option IoKind) : Transport where
  receiver := { source }
  transmitter := { out := { sink } }
  teardown := { handle := some answer }

section Fresh

variable {source : Source} {sink : Sink} {answer : Option IoKind} {keyPair : Option KeyPair}
  {after : Transport}

/-- A handshake that fails gives the transport up, and tells its own failure. -/
theorem connect_of_failed {failure : Failure}
    (failed : (fresh source sink answer).begun.negotiate keyPair = .error failure after) :
    ∃ last, (fresh source sink answer).connect keyPair = .error failure last ∧
      last.transmitter.isOpen = false ∧ last.teardown = { handle := none, calls := 1 } ∧
      last.counts.handshakes = (1, 0, 1) := by
  have kept := (fresh source sink answer).begun.keeps_negotiate keyPair
  rw [failed, Outcome.state_error] at kept
  refine ⟨{ after with
    transmitter := after.transmitter.close.state
    teardown := after.teardown.run.state
    metrics := after.metrics.handshakeFailed }, ?_, ?_, ?_, ?_⟩
  · rw [connect, ← begun, failed]
  · exact Transmitter.isOpen_close after.transmitter
  · rw [kept.teardown]
    exact Teardown.state_run answer 0
  · simp only [counts, Transmitter.metrics_close, kept.metrics]
    exact Metrics.handshakes_congr (Metrics.apartFromFrames_add_congr
      (Metrics.apartFromFrames_add_congr rfl kept.transmitter) kept.receiver)

/-- A handshake that succeeds leaves the handle to the connection. -/
theorem establish_of_succeeded {greeting : Greeting}
    (succeeded : (fresh source sink answer).begun.negotiate keyPair = .ok greeting after) :
    ∃ connection, Connection.establish keyPair (fresh source sink answer) = .ok connection ∧
      connection.greeting = greeting ∧ connection.closed = false ∧
      connection.teardown = { handle := some answer } ∧
      connection.counts.handshakes = (1, 1, 0) := by
  have kept := (fresh source sink answer).begun.keeps_negotiate keyPair
  rw [succeeded, Outcome.state_ok] at kept
  have connected : (fresh source sink answer).connect keyPair =
      .ok greeting { after with metrics := after.metrics.handshakeSuccess } := by
    rw [connect, ← begun, succeeded]
  rw [Connection.establish, connected]
  refine ⟨_, rfl, rfl, rfl, kept.teardown, ?_⟩
  simp only [Connection.counts, Channel.counts, kept.metrics]
  exact Metrics.handshakes_congr (Metrics.apartFromFrames_add_congr
    (Metrics.apartFromFrames_add_congr
      (Metrics.apartFromFrames_add_congr rfl kept.transmitter) rfl) kept.receiver)

end Fresh

end Transport

namespace Connection

/-- A connection is what a successful handshake leaves. -/
theorem eq_of_establish {keyPair : Option KeyPair} {transport : Transport}
    {connection : Connection} (established : establish keyPair transport = .ok connection) :
    ∃ greeting after, transport.begun.negotiate keyPair = .ok greeting after ∧
      connection = {
        channel := {
          queue := { receiver := after.receiver }
          transmitter := after.transmitter
          metrics := after.metrics.handshakeSuccess }
        teardown := after.teardown
        greeting } := by
  rw [establish, Transport.connect, ← Transport.begun] at established
  cases negotiated : transport.begun.negotiate keyPair with
  | error failure after =>
    rw [negotiated] at established
    contradiction
  | ok greeting after =>
    rw [negotiated, Except.ok.injEq] at established
    exact ⟨greeting, after, rfl, established.symm⟩

/-- What is computed from a connection that gets established is computed from that connection. -/
theorem exists_of_map_establish {Value : Type} {keyPair : Option KeyPair} {transport : Transport}
    {run : Connection → Value} {value : Value}
    (runs : (establish keyPair transport).toOption.map run = some value) :
    ∃ connection, establish keyPair transport = .ok connection ∧ run connection = value := by
  cases established : establish keyPair transport with
  | error _ =>
    rw [established] at runs
    contradiction
  | ok connection =>
    rw [established] at runs
    exact ⟨connection, rfl, Option.some.inj runs⟩

/-- The connection was not closed, and its handle not used. -/
structure IsHeld (answer : Option IoKind) (connection : Connection) : Prop where
  not_closed : connection.closed = false
  teardown : connection.teardown = { handle := some answer }

/-- Everything is given up: the streams are ended, the transmitter is closed, and the handle was
used once. -/
structure IsReleased (connection : Connection) : Prop where
  closed : connection.closed = true
  ended : connection.channel.queue.board.disconnected = true
  transmitter : connection.channel.transmitter.isOpen = false
  teardown : connection.teardown = { handle := none, calls := 1 }

variable {before after connection : Connection} {answer : Option IoKind}

/-- Acts on the channel do not close a connection. -/
theorem IsHeld.leads (held : before.IsHeld answer) (leads : before.Leads after) :
    after.IsHeld answer :=
  ⟨leads.closed.trans held.not_closed, leads.teardown.trans held.teardown⟩

/-- Acts on the channel bring nothing back that was given up. -/
theorem IsReleased.leads (released : before.IsReleased) (leads : before.Leads after) :
    after.IsReleased where
  closed := leads.closed.trans released.closed
  ended := leads.channel.keeps_all.disconnected released.ended
  transmitter := by
    rw [leads.channel.keeps_all.closed released.transmitter]
    exact released.transmitter
  teardown := leads.teardown.trans released.teardown

/-- Closing a closed connection does nothing. -/
theorem close_of_closed (closed : connection.closed = true) :
    connection.close = .ok () connection := by
  rw [close, if_pos closed]

/-- Closing gives everything up, whatever fails of it. -/
theorem IsHeld.isReleased_close (held : connection.IsHeld answer) :
    connection.close.state.IsReleased := by
  rw [close, if_neg (by simp [held.not_closed])]
  extract_lets channel sending teardown
  rw [Outcome.state_ofResult]
  refine ⟨rfl, ?_, ?_, ?_⟩
  · simp only [sending, Channel.queue_send]
    exact Switchboard.disconnected_disconnect connection.channel.queue.board
  · simp only [sending, Channel.send, Outcome.state_mapState]
    exact Transmitter.isOpen_close _
  · simp only [teardown, held.teardown]
    exact Teardown.state_run answer 0

/-- No stream is live behind a call that closes the connection. -/
theorem IsHeld.isLive_close (held : connection.IsHeld answer) (id : UInt32) :
    connection.close.state.channel.isLive id = false := by
  rw [close, if_neg (by simp [held.not_closed])]
  extract_lets channel sending teardown
  simp only [Outcome.state_ofResult, sending, Channel.isLive, Channel.queue_send]
  exact Switchboard.isLive_disconnect ..

/-- The first failure is told: the transmitter's, or else the handle's. -/
theorem IsHeld.result_close (held : connection.IsHeld answer) :
    connection.close.result =
      match connection.channel.transmitter.close.result with
      | .error failure => .error failure
      | .ok () => (Teardown.run { handle := some answer }).result := by
  have sent : ((connection.channel.onBoard Switchboard.disconnect).send Transmitter.close).result =
      connection.channel.transmitter.close.result := by
    rw [Channel.send, Outcome.result_mapState]
    rfl
  rw [close, if_neg (by simp [held.not_closed])]
  simp only [Outcome.result_ofResult, sent, held.teardown]
  cases connection.channel.transmitter.close.result <;> rfl

theorem apartFromFrames_close (connection : Connection) :
    connection.close.state.counts.apartFromFrames = connection.counts.apartFromFrames := by
  rw [close]
  split
  · rfl
  · extract_lets channel sending teardown
    rw [Outcome.state_ofResult]
    apply Channel.apartFromFrames_congr
    · simp only [sending, Channel.send, Outcome.state_mapState]
      rfl
    · simp only [sending, Channel.send, Outcome.state_mapState, Transmitter.metrics_close]
      rfl
    · simp only [sending, Channel.queue_send]
      rfl
    · simp only [sending, Channel.queue_send]
      rfl

end Connection

namespace Session

variable {session : Session} {answer : Option IoKind} {deeds : List Deed}

/-- The deed of closing is closing the connection; the streams in use stay. -/
theorem perform_close (session : Session) :
    (session.perform .close).result = session.connection.close.result.map (fun _ => []) ∧
      (session.perform .close).state =
        { session with connection := session.connection.close.state } := by
  simp only [perform, Outcome.result_mapState, Outcome.result_map, Outcome.state_mapState,
    Outcome.state_map, and_self]

/-- The deed of closing does nothing to a connection that is closed. -/
theorem entry_close_of_closed (closed : session.connection.closed = true) :
    (session.entry .close).result = .ok [] ∧ (session.entry .close).after = session := by
  obtain ⟨result, state⟩ := session.perform_close
  rw [Connection.close_of_closed closed] at result state
  exact ⟨result, state⟩

/-- Whatever was given up stays so in every deed. -/
theorem isReleased_entry (released : session.connection.IsReleased) (deed : Deed) :
    (session.entry deed).after.connection.IsReleased := by
  by_cases close : deed = .close
  · rw [close, (entry_close_of_closed released.closed).2]
    exact released
  · exact released.leads (session.leads_perform close)

/-- Whatever was given up stays so in all deeds. -/
theorem isReleased_afterDeeds (released : session.connection.IsReleased) (deeds : List Deed) :
    (session.afterDeeds deeds).connection.IsReleased := by
  induction deeds generalizing session with
  | nil => exact released
  | cons deed deeds ih => exact ih (isReleased_entry released deed)

/-- The deed of closing gives everything up. -/
theorem isReleased_of_close (held : session.connection.IsHeld answer) :
    (session.entry .close).after.connection.IsReleased := by
  rw [entry, session.perform_close.2]
  exact held.isReleased_close

/-- The handle stays as long as the connection is not closed, and is used when that happens. -/
theorem isHeld_or_isReleased (held : session.connection.IsHeld answer) (deeds : List Deed) :
    (.close ∉ deeds ∧ (session.afterDeeds deeds).connection.IsHeld answer) ∨
      (.close ∈ deeds ∧ (session.afterDeeds deeds).connection.IsReleased) := by
  induction deeds generalizing session with
  | nil => exact .inl ⟨List.not_mem_nil, held⟩
  | cons deed deeds ih =>
    by_cases close : deed = .close
    · subst close
      exact .inr ⟨List.mem_cons_self, isReleased_afterDeeds (isReleased_of_close held) deeds⟩
    · have still : (session.entry deed).after.connection.IsHeld answer :=
        held.leads (session.leads_perform close)
      have elsewhere : Deed.close ∈ deed :: deeds ↔ Deed.close ∈ deeds := by
        rw [List.mem_cons, or_iff_right (Ne.symm close)]
      rw [elsewhere]
      exact ih still

/-- No deeds count a handshake. -/
theorem handshakes_afterDeeds (session : Session) (deeds : List Deed) :
    (session.afterDeeds deeds).connection.counts.handshakes =
      session.connection.counts.handshakes := by
  induction deeds generalizing session with
  | nil => rfl
  | cons deed deeds ih =>
    rw [afterDeeds, ih]
    by_cases close : deed = .close
    · rw [close, entry, session.perform_close.2]
      exact Metrics.handshakes_congr session.connection.apartFromFrames_close
    · exact (session.leads_perform close).channel.keeps_all.handshakes

/-- What the first call that closes the connection does, whatever fails of it. -/
structure Entry.ClosesFirst (answer : Option IoKind) (entry : Entry) : Prop where
  not_used : entry.before.connection.teardown.calls = 0
  released : entry.after.connection.IsReleased
  none_live : ∀ id, entry.after.connection.channel.isLive id = false
  /-- The transmitter's failure is told, or else the handle's. -/
  transmitter_failed : ∀ failure,
    entry.before.connection.channel.transmitter.close.result = .error failure →
      entry.result = .error failure
  transmitter_closed : entry.before.connection.channel.transmitter.close.result = .ok () →
    entry.result = match answer with
      | none => .ok []
      | some kind => .error (.ofKind kind)

/-- The first call that closes a connection does what `Entry.ClosesFirst` says. -/
theorem closesFirst_of_isHeld (held : session.connection.IsHeld answer) :
    (session.entry .close).ClosesFirst answer := by
  obtain ⟨result, state⟩ := session.perform_close
  rw [held.result_close] at result
  refine ⟨?_, isReleased_of_close held, ?_, ?_, ?_⟩
  · exact congrArg Teardown.calls held.teardown
  · rw [entry, state]
    exact held.isLive_close
  · intro failure failed
    change session.connection.channel.transmitter.close.result = .error failure at failed
    rw [entry, result, failed]
    rfl
  · intro succeeded
    change session.connection.channel.transmitter.close.result = .ok () at succeeded
    rw [entry, result, succeeded]
    cases answer <;> rfl

/-- Every deed that was done is the one of its place, behind the deeds before. -/
theorem exists_of_log_eq {earlier later : List Entry} {entry : Entry}
    (log : session.log deeds = earlier ++ entry :: later) :
    entry = (session.afterDeeds (earlier.map Entry.deed)).entry entry.deed := by
  induction earlier generalizing deeds session with
  | nil =>
    cases deeds with
    | nil => contradiction
    | cons deed deeds =>
      obtain ⟨rfl, -⟩ := List.cons.inj log
      rfl
  | cons first earlier ih =>
    cases deeds with
    | nil => contradiction
    | cons deed deeds =>
      obtain ⟨rfl, rest⟩ := List.cons.inj log
      exact ih rest

/-- The handle is used by the first call that closes the connection, and never again. -/
theorem calls_afterDeeds (held : session.connection.IsHeld answer) (deeds : List Deed) :
    (session.afterDeeds deeds).connection.teardown.calls = if .close ∈ deeds then 1 else 0 := by
  obtain ⟨never, still⟩ | ⟨once, released⟩ := isHeld_or_isReleased held deeds
  · rw [if_neg never]
    exact congrArg Teardown.calls still.teardown
  · rw [if_pos once]
    exact congrArg Teardown.calls released.teardown

/-- A connection that goes out of use is given up, if it was not closed before. -/
theorem isReleased_dropConnection (held : session.connection.IsHeld answer) (deeds : List Deed) :
    (session.afterDeeds deeds).dropConnection.connection.IsReleased := by
  obtain ⟨-, still⟩ | ⟨-, released⟩ := isHeld_or_isReleased held deeds
  · exact still.isReleased_close
  · rw [dropConnection, Connection.close_of_closed released.closed]
    exact released

/-- The first call that closes the connection gives everything up, and the others do nothing. -/
theorem closes_of_log_eq (held : session.connection.IsHeld answer) {earlier later : List Entry}
    {entry : Entry} (log : session.log deeds = earlier ++ entry :: later)
    (close : entry.deed = .close) :
    ((∀ past ∈ earlier, past.deed ≠ .close) → entry.ClosesFirst answer) ∧
      ((∃ past ∈ earlier, past.deed = .close) →
        entry.result = .ok [] ∧ entry.after = entry.before) := by
  have same := exists_of_log_eq log
  rw [close] at same
  subst same
  obtain ⟨never, still⟩ | ⟨once, released⟩ :=
    isHeld_or_isReleased held (earlier.map Entry.deed)
  · refine ⟨fun _ => closesFirst_of_isHeld still, ?_⟩
    rintro ⟨past, member, closed_before⟩
    exact absurd (List.mem_map.2 ⟨past, member, closed_before⟩) never
  · refine ⟨?_, fun _ => entry_close_of_closed released.closed⟩
    intro none_before
    obtain ⟨past, member, closed_before⟩ := List.mem_map.1 once
    exact absurd closed_before (none_before past member)

end Session

/-- **A transport is torn down exactly once.** A handshake that fails is told as such, with the
transmitter closed, the handle used once and the failure counted. A handshake that succeeds is
counted and leaves the handle to the connection. Then streams may be opened and used and the
connection be closed, in any order and any number of times: the first call that closes it gives
everything up whatever fails of that, later ones do nothing, and if there was none the connection
does it when it goes out of use. What is done with its streams after that changes nothing. -/
theorem Connection.torn_down_once (keyPair : Option KeyPair) (source : Source) (sink : Sink)
    (answer : Option IoKind) :
    let transport := Transport.fresh source sink answer
    match (transport.begun.negotiate keyPair).result with
    | .error failure => ∃ last, establish keyPair transport = .error (failure, last) ∧
        last.transmitter.isOpen = false ∧ last.teardown.calls = 1 ∧
        last.counts.handshakes = (1, 0, 1)
    | .ok greeting => ∃ connection, establish keyPair transport = .ok connection ∧
        connection.greeting = greeting ∧ connection.teardown.calls = 0 ∧
        connection.counts.handshakes = (1, 1, 0) ∧
        ∀ (deeds : List Deed) (uses : List (Nat × Use)),
          let start : Session := { connection }
          let last := start.afterDeeds deeds
          let final := last.dropConnection.afterUses uses
          (start.log deeds).map Session.Entry.deed = deeds ∧
          last.connection.teardown.calls = (if .close ∈ deeds then 1 else 0) ∧
          (∀ earlier entry later, start.log deeds = earlier ++ entry :: later →
            entry.deed = .close →
              ((∀ past ∈ earlier, past.deed ≠ .close) → entry.ClosesFirst answer) ∧
              ((∃ past ∈ earlier, past.deed = .close) →
                entry.result = .ok [] ∧ entry.after = entry.before)) ∧
          last.dropConnection.connection.IsReleased ∧
          final.connection.IsReleased ∧
          final.connection.counts.handshakes = (1, 1, 0) := by
  intro transport
  cases negotiated : transport.begun.negotiate keyPair with
  | error failure after =>
    obtain ⟨last, connected, closed, torn_down, counted⟩ := Transport.connect_of_failed negotiated
    refine ⟨last, ?_, closed, congrArg Teardown.calls torn_down, counted⟩
    rw [establish, connected]
  | ok greeting after =>
    obtain ⟨connection, established, announced, not_closed, teardown, counted⟩ :=
      Transport.establish_of_succeeded negotiated
    refine ⟨connection, established, announced, congrArg Teardown.calls teardown, counted, ?_⟩
    intro deeds uses start last final
    have held : start.connection.IsHeld answer := ⟨not_closed, teardown⟩
    have dropped : last.dropConnection.connection.IsReleased :=
      Session.isReleased_dropConnection held deeds
    refine ⟨start.map_deed_log deeds, Session.calls_afterDeeds held deeds, ?_, dropped,
      Session.isReleased_afterDeeds dropped _, ?_⟩
    · intro earlier entry later split close
      exact Session.closes_of_log_eq held split close
    · apply (Session.handshakes_afterDeeds _ _).trans
      apply (Metrics.handshakes_congr (apartFromFrames_close _)).trans
      exact (Session.handshakes_afterDeeds _ _).trans counted

end DebugBridge

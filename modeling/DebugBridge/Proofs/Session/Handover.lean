import DebugBridge.Proofs.Dispatch.Arriving
import DebugBridge.Proofs.Dispatch.Journal
import DebugBridge.Proofs.Handshake
import DebugBridge.Proofs.Session.Speaking

/-!
# From the handshake to the queue

The handshake reads ahead, so when the device has connected the receiver may have more in its
buffer: frames that came together with the announcement, and parts of frames. It is this receiver
that the queue of the connection goes on reading from, so the first frame the queue routes is the
one behind the announcement, and none is missing after that (`Connection.Continues`).
-/

namespace DebugBridge

namespace Handshake

/-- The frames with which a device connects: an opening and an announcement. -/
inductive Connects (keyPair : Option KeyPair) : List Frame → Greeting → Prop
  | behind {front : List Frame} {last : Frame} {stage : Stage} {greeting : Greeting}
      (opening : Opening keyPair front stage) (announced : IsGreeting last greeting) :
      Connects keyPair (front ++ [last]) greeting

/-- These frames are replied to, all but the last, which connects. -/
inductive Leads : Handshake → List Frame → Greeting → Prop
  | connects {handshake after : Handshake} {frame : Frame} {greeting : Greeting}
      (answered : handshake.onFrame frame = .ok (.connected greeting) after) :
      Leads handshake [frame] greeting
  | replies {handshake next : Handshake} {frame : Frame} {frames : List Frame}
      {greeting : Greeting} {type : UInt32} {payload : Bytes}
      (answered : handshake.onFrame frame = .ok (.reply type payload) next)
      (later : Leads next frames greeting) : Leads handshake (frame :: frames) greeting

variable {keyPair : Option KeyPair} {handshake next : Handshake} {frame : Frame}
  {frames : List Frame} {greeting : Greeting} {answer : Answer}

/-- A device connects with one frame at least and three at most. -/
theorem Connects.length (connects : Connects keyPair frames greeting) :
    1 ≤ frames.length ∧ frames.length ≤ 3 := by
  obtain ⟨opening, -⟩ := connects
  cases opening with
  | start | challenged | inquired => simp

/-- A frame is taken in with an answer exactly if that is a good one, and the key pair stays. -/
theorem onFrame_eq_ok_iff : handshake.onFrame frame = .ok answer next ↔
    Answers handshake.keyPair frame handshake.stage answer next.stage ∧
      next.keyPair = handshake.keyPair := by
  rw [← advance_eq_ok_iff, onFrame]
  obtain ⟨stage, keyPair⟩ := next
  cases advanced : handshake.advance frame with
  | error failure => simp
  | ok good =>
    obtain ⟨answer, stage⟩ := good
    simp [and_assoc, eq_comm]

/-- Behind an opening only frames lead on that connect with it. -/
theorem Leads.connects_behind {front : List Frame} (leads : Leads handshake frames greeting)
    (opening : Opening handshake.keyPair front handshake.stage) :
    Connects handshake.keyPair (front ++ frames) greeting := by
  induction leads generalizing front with
  | connects answered =>
    obtain ⟨answers, -⟩ := onFrame_eq_ok_iff.1 answered
    exact .behind opening (answers_connected_iff.1 ⟨_, answers⟩).2
  | @replies handshake next frame frames greeting type payload answered later ih =>
    obtain ⟨answers, same⟩ := onFrame_eq_ok_iff.1 answered
    have going : ¬ IsFinal next.stage := by
      rw [← isFinal_of_answers answers]
      simp
    have opened := (opening_of_answers opening answers).resolve_right going
    rw [← same] at opened ⊢
    rw [List.append_cons]
    exact ih opened

/-- An announcement leads to a greeting at every stage that is not the end. -/
theorem leads_of_announced {stage : Stage} (going : ¬ IsFinal stage)
    (announced : IsGreeting frame greeting) : Leads { keyPair, stage } [frame] greeting := by
  have answers : Answers keyPair frame stage (.connected greeting) .connected :=
    .connects going announced
  have answered : ({ keyPair, stage } : Handshake).onFrame frame =
      .ok (.connected greeting) { keyPair, stage := .connected } :=
    onFrame_eq_ok_iff.2 ⟨answers, rfl⟩
  exact .connects answered

/-- A frame that is replied to leads where those behind it lead. -/
theorem leads_of_replied {stage behind : Stage} {type : UInt32} {payload : Bytes}
    (answers : Answers keyPair frame stage (.reply type payload) behind)
    (later : Leads { keyPair, stage := behind } frames greeting) :
    Leads { keyPair, stage } (frame :: frames) greeting := by
  have answered : ({ keyPair, stage } : Handshake).onFrame frame =
      .ok (.reply type payload) { keyPair, stage := behind } := onFrame_eq_ok_iff.2 ⟨answers, rfl⟩
  exact .replies answered later

/-- The frames that lead from the start to a greeting are those with which a device connects. -/
theorem leads_iff : Leads { keyPair } frames greeting ↔ Connects keyPair frames greeting := by
  constructor
  · intro leads
    exact leads.connects_behind .start
  · rintro ⟨opening, announced⟩
    have last := @leads_of_announced keyPair _ _ _ (not_isFinal_of_opening opening) announced
    cases opening with
    | start => exact last
    | challenged challenge => exact leads_of_replied (.signs challenge) last
    | inquired challenge inquiry =>
      exact leads_of_replied (.signs challenge) (leads_of_replied (.offers inquiry) last)

end Handshake

namespace Transport

open Handshake (Leads Connects)

variable {handshake : Handshake} {transport after : Transport} {greeting : Greeting}

/-- An exchange that connects reads the frames of the handshake, one behind the other. -/
theorem reads_exchange (connected : exchange handshake transport = .ok greeting after) :
    ∃ frames, handshake.Leads frames greeting ∧
      Crowd.Gives transport.receiver (frames.map .ok) after.receiver := by
  fun_induction exchange handshake transport with
  | case1 => contradiction
  | case2 => contradiction
  | case3 handshake transport frame receiver read less announced last answered =>
    obtain ⟨rfl, rfl⟩ := Outcome.ok.inj connected
    exact ⟨[frame], .connects answered, .of_readFrame read rfl .nothing⟩
  | case4 => contradiction
  | case5 handshake transport frame receiver read less type payload next answered transmitter
      succeeded ih =>
    obtain ⟨frames, leads, gives⟩ := ih connected
    exact ⟨frame :: frames, .replies answered leads, .of_readFrame read rfl gives⟩

section Turns

variable {frame : Frame} {receiver : Receiver} {next : Handshake}

/-- An exchange ends with the frame that connects, and reads nothing behind it. -/
theorem exchange_of_announced (read : transport.receiver.readFrame = .ok frame receiver)
    (answered : handshake.onFrame frame = .ok (.connected greeting) next) :
    exchange handshake transport = .ok greeting { transport with receiver } := by
  rw [exchange]
  split <;> rename_i same <;> rw [read] at same
  · contradiction
  · cases same
    simp only [answered]

/-- An exchange goes on behind a frame that is replied to, once the reply has been sent. -/
theorem exchange_of_replied {type : UInt32} {payload : Bytes} {transmitter : Transmitter}
    (read : transport.receiver.readFrame = .ok frame receiver)
    (answered : handshake.onFrame frame = .ok (.reply type payload) next)
    (sent : transport.transmitter.sendAuth type payload = .ok () transmitter) :
    exchange handshake transport =
      exchange next { transport with receiver, transmitter } := by
  rw [exchange]
  split <;> rename_i same <;> rw [read] at same
  · contradiction
  · cases same
    simp only [answered, sent]

end Turns

/-- In whatever pieces the frames of a handshake come, they connect. -/
theorem exchange_of_leads {frames : List Frame} {rest : Bytes}
    (leads : handshake.Leads frames greeting) (exact : ∀ frame ∈ frames, frame.IsExact)
    (clean : transport.receiver.IsClean) (reliable : transport.transmitter.IsReliable)
    (wire : transport.receiver.wire = frames.flatMap Frame.encode ++ rest) :
    ∃ after, exchange handshake transport = .ok greeting after ∧
      Crowd.Gives transport.receiver (frames.map .ok) after.receiver := by
  induction leads generalizing transport with
  | @connects handshake last frame greeting answered =>
    rw [List.flatMap_singleton] at wire
    obtain ⟨receiver, read, -⟩ := clean.readFrame_of_wire (exact frame List.mem_cons_self) wire
    exact ⟨{ transport with receiver }, exchange_of_announced read answered,
      .of_readFrame read rfl .nothing⟩
  | @replies handshake next frame frames greeting type payload answered later ih =>
    rw [List.flatMap_cons, List.append_assoc] at wire
    rw [List.forall_mem_cons] at exact
    obtain ⟨receiver, read, still_clean, left⟩ := clean.readFrame_of_wire exact.1 wire
    obtain ⟨transmitter, sent, still_reliable, -⟩ := reliable.send Command.auth type 0 payload
    obtain ⟨after, connected, gives⟩ :=
      @ih { transport with receiver, transmitter } exact.2 still_clean still_reliable left
    refine ⟨after, ?_, .of_readFrame read rfl gives⟩
    rw [exchange_of_replied read answered sent, connected]

/-- Sending counts no frame as received. -/
theorem framesReceived_exchange (handshake : Handshake) (transport : Transport) :
    (exchange handshake transport).state.transmitter.metrics.framesReceived =
      transport.transmitter.metrics.framesReceived := by
  fun_induction exchange handshake transport with
  | case1 | case2 | case3 => rfl
  | case4 handshake transport frame receiver read less type payload next answered failure
      transmitter failed =>
    exact (Transmitter.incoming_send failed).1
  | case5 handshake transport frame receiver read less type payload next answered transmitter
      succeeded ih =>
    exact ih.trans (Transmitter.incoming_send succeeded).1

/-- Negotiating counts received frames at the receiver, not at the transmitter. -/
theorem framesReceived_negotiate (keyPair : Option KeyPair) (transport : Transport) :
    (negotiate keyPair transport).state.transmitter.metrics.framesReceived =
      transport.transmitter.metrics.framesReceived := by
  unfold negotiate
  split <;> rename_i sent
  · exact (Transmitter.incoming_send sent).1
  · exact (framesReceived_exchange ..).trans (Transmitter.incoming_send sent).1

variable {keyPair : Option KeyPair} {frames : List Frame}

/-- A negotiation that succeeds has read frames with which a device connects, and nothing else. -/
theorem reads_negotiate (connected : negotiate keyPair transport = .ok greeting after) :
    ∃ frames, Connects keyPair frames greeting ∧
      Crowd.Gives transport.receiver (frames.map .ok) after.receiver := by
  unfold negotiate at connected
  split at connected
  · contradiction
  · obtain ⟨frames, leads, gives⟩ := reads_exchange connected
    exact ⟨frames, Handshake.leads_iff.1 leads, gives⟩

/-- A negotiation succeeds if the device sends such frames and sending works, whatever comes behind
them. -/
theorem negotiate_of_connects {rest : Bytes} (connects : Connects keyPair frames greeting)
    (exact : ∀ frame ∈ frames, frame.IsExact) (clean : transport.receiver.IsClean)
    (can_send : transport.transmitter.CanSend)
    (wire : transport.receiver.wire = frames.flatMap Frame.encode ++ rest) :
    ∃ after, negotiate keyPair transport = .ok greeting after ∧
      Crowd.Gives transport.receiver (frames.map .ok) after.receiver := by
  obtain ⟨transmitter, sent, reliable, -⟩ := can_send.send Command.connect
    Transmitter.hostVersion Transmitter.hostMaxPayload Transmitter.hostBanner
  have announced : transport.transmitter.sendConnect = .ok () transmitter := sent
  rw [negotiate, announced]
  exact @exchange_of_leads _ { transport with transmitter } _ _ _ (Handshake.leads_iff.2 connects)
    exact clean reliable wire

end Transport

/-- The frame of the device that is routed. -/
def Incident.routed? : Incident → Option Frame
  | routes frame _ => some frame
  | hands _ | ends => none

/-- A queue that reads a source of bytes, and has not ended before its last frame. -/
structure Queue.IsLossless (queue : Queue) : Prop where
  clean : queue.receiver.IsClean
  ended : queue.board.disconnected = true → queue.receiver.frames = []

namespace Queue

variable {queue : Queue}

/-- While a frame is awaited the next frames are routed, in order. -/
theorem frames_await (id command : UInt32) (queue : Queue) :
    queue.receiver.frames = (queue.awaitIncidents id command).filterMap Incident.routed? ++
      (queue.await id command).state.receiver.frames := by
  fun_induction await id command queue with
  | case1 queue frame board polled | case2 queue failure board polled =>
    rw [awaitIncidents_eq, polled]
    rfl
  | case3 queue board polled frame receiver read less ih =>
    rw [awaitIncidents_eq, polled, read, Receiver.frames_of_readFrame read, ih]
    rfl
  | case4 queue board polled failure receiver read =>
    have same := queue.receiver.frames_readFrame
    rw [read] at same
    have nothing : (if failure.isTransient then [] else [Incident.ends]).filterMap
        Incident.routed? = [] := by
      split <;> rfl
    rw [awaitIncidents_eq, polled, read, nothing]
    exact same

/-- Of the frames in front of a queue a take routes the first ones and leaves the others. -/
theorem frames_take (id command : UInt32) (queue : Queue) :
    queue.receiver.frames = (queue.takeIncidents id command).filterMap Incident.routed? ++
      (queue.take id command).state.receiver.frames := by
  unfold takeIncidents take
  cases queue.board.turnAway id with
  | some failure => rfl
  | none => exact queue.frames_await id command

/-- Waiting for a frame keeps a queue from losing any. -/
theorem IsLossless.await (lossless : queue.IsLossless) (id command : UInt32) :
    (queue.await id command).state.IsLossless := by
  fun_induction Queue.await id command queue with
  | case1 queue frame board polled =>
    obtain ⟨-, -, -, disconnected, -⟩ := Switchboard.poll_frame polled
    exact ⟨lossless.clean, fun ended => lossless.ended (disconnected.symm.trans ended)⟩
  | case2 queue failure board polled =>
    obtain ⟨rfl, -⟩ := Switchboard.poll_refused polled
    exact lossless
  | case3 queue board polled frame receiver read less ih =>
    obtain ⟨rfl, unanswered⟩ := Switchboard.poll_nothing_iff.1 polled
    have clean := lossless.clean.readFrame_state
    rw [read] at clean
    refine ih ⟨clean, fun ended => ?_⟩
    rw [Switchboard.disconnected_route, unanswered.connected] at ended
    contradiction
  | case4 queue board polled failure receiver read =>
    have clean := lossless.clean.readFrame_state
    rw [read] at clean
    exact ⟨clean, fun _ => lossless.clean.frames_of_failed read⟩

/-- Taking a frame keeps a queue from losing any. -/
theorem IsLossless.take (lossless : queue.IsLossless) (id command : UInt32) :
    (queue.take id command).state.IsLossless := by
  unfold Queue.take
  cases queue.board.turnAway id with
  | some failure => exact lossless
  | none => exact lossless.await id command

end Queue

namespace Channel

variable {channel : Channel}

/-- Of the frames in front of a channel an act routes the first ones and leaves the others. -/
theorem frames_act (act : Act) (channel : Channel) :
    channel.queue.receiver.frames = (act.incidents channel).filterMap Incident.routed? ++
      (channel.afterAct act).queue.receiver.frames := by
  cases act with
  | take id command =>
    rw [afterAct, take, Outcome.state_mapState]
    exact channel.queue.frames_take id command
  | send command arg0 arg1 payload =>
    rw [afterAct, queue_send]
    rfl
  | listen | unlisten | discard | countOpened | countClosed => rfl

/-- Acts route the next frames, in order. -/
theorem frames_afterActs (acts : List Act) (channel : Channel) :
    channel.queue.receiver.frames = (channel.incidents acts).filterMap Incident.routed? ++
      (channel.afterActs acts).queue.receiver.frames := by
  induction acts generalizing channel with
  | nil => rfl
  | cons act acts ih =>
    rw [frames_act act, ih, incidents, List.filterMap_append, List.append_assoc]
    rfl

/-- No act makes a queue lose frames. -/
theorem isLossless_act (act : Act) (lossless : channel.queue.IsLossless) :
    (channel.afterAct act).queue.IsLossless := by
  cases act with
  | take id command =>
    rw [afterAct, take, Outcome.state_mapState]
    exact lossless.take id command
  | send command arg0 arg1 payload =>
    rw [afterAct, queue_send]
    exact lossless
  | discard id command =>
    refine ⟨lossless.clean, fun ended => lossless.ended ?_⟩
    rwa [← Switchboard.disconnected_discard]
  | listen | unlisten | countOpened | countClosed => exact ⟨lossless.clean, lossless.ended⟩

/-- Acts that follow each other make a queue lose no frames. -/
theorem isLossless_afterActs (acts : List Act) (lossless : channel.queue.IsLossless) :
    (channel.afterActs acts).queue.IsLossless := by
  induction acts generalizing channel with
  | nil => exact lossless
  | cons act acts ih => exact ih (isLossless_act act lossless)

end Channel

namespace Session

variable {session : Session}

/-- Of the frames in front of a session a deed routes the first ones and leaves the others. -/
theorem frames_entry (deed : Deed) (session : Session) :
    session.connection.channel.queue.receiver.frames =
      (session.incidents deed).filterMap Incident.routed? ++
        (session.entry deed).after.connection.channel.queue.receiver.frames := by
  by_cases close : deed = .close
  · subst close
    rw [entry, session.perform_close.2, Connection.close, incidents]
    split
    · rfl
    · simp only [Outcome.state_ofResult, Channel.queue_send]
      rfl
  · rw [incidents_of_ne_close close, entry, (session.goes_perform close).connection]
    exact Channel.frames_afterActs _ _

/-- Deeds route the next frames, in order. -/
theorem frames_afterDeeds (deeds : List Deed) (session : Session) :
    session.connection.channel.queue.receiver.frames =
      (session.history deeds).filterMap Incident.routed? ++
        (session.afterDeeds deeds).connection.channel.queue.receiver.frames := by
  induction deeds generalizing session with
  | nil => rfl
  | cons deed deeds ih =>
    rw [frames_entry deed, ih, history_cons, List.filterMap_append, List.append_assoc]
    rfl

/-- As long as nobody closes the connection it ends behind the last frame only. -/
theorem isLossless_afterDeeds {deeds : List Deed} (never : .close ∉ deeds)
    (lossless : session.connection.channel.queue.IsLossless)
    (running : session.connection.closed = false) :
    (session.afterDeeds deeds).connection.channel.queue.IsLossless ∧
      (session.afterDeeds deeds).connection.closed = false := by
  induction deeds generalizing session with
  | nil => exact ⟨lossless, running⟩
  | cons deed deeds ih =>
    rw [List.mem_cons, not_or] at never
    have other := Ne.symm never.1
    have leads := session.leads_perform other
    refine ih never.2 ?_ (leads.closed.trans running)
    rw [entry, (session.goes_perform other).connection]
    exact Channel.isLossless_afterActs _ lossless

end Session

namespace Connection

open Handshake (Connects)

variable {keyPair : Option KeyPair} {source : Source} {sink : Sink} {teardown : Teardown}
  {greeting : Greeting} {frames : List Frame} {rest : Bytes} {connection : Connection}

/-- What a connection gets from a handshake during which these frames were read. -/
structure Inherits (source : Source) (frames : List Frame) (connection : Connection) : Prop where
  gives : Crowd.Gives { source } (frames.map .ok) connection.channel.queue.receiver
  board : connection.channel.queue.board = {}
  running : connection.closed = false
  counted : connection.counts.framesReceived = UInt64.ofNat frames.length

/-- A connection takes over what its handshake leaves, and this counts nothing. -/
theorem inherits_of_negotiated {after : Transport}
    (negotiated : (Transport.begun
      { receiver := { source }, transmitter := { out := { sink } }, teardown }).negotiate keyPair =
        .ok greeting after)
    (gives : Crowd.Gives { source } (frames.map .ok) after.receiver) :
    Inherits source frames {
      channel := {
        queue := { receiver := after.receiver }
        transmitter := after.transmitter
        metrics := after.metrics.handshakeSuccess }
      teardown := after.teardown
      greeting } := by
  have kept := Transport.keeps_negotiate keyPair (Transport.begun
    { receiver := { source }, transmitter := { out := { sink } }, teardown })
  have sent := Transport.framesReceived_negotiate keyPair (Transport.begun
    { receiver := { source }, transmitter := { out := { sink } }, teardown })
  rw [negotiated, Outcome.state_ok] at kept sent
  have received := gives.counted.1
  rw [Crowd.filterMap_map_ok] at received
  refine ⟨gives, rfl, rfl, ?_⟩
  change after.metrics.framesReceived + after.transmitter.metrics.framesReceived + 0 +
    after.receiver.metrics.framesReceived = _
  rw [kept.metrics, sent, received]
  change 0 + 0 + 0 + (0 + UInt64.ofNat frames.length) = UInt64.ofNat frames.length
  simp only [UInt64.zero_add]

/-- Every connection that was established has inherited its receiver from a handshake. -/
theorem exists_inherits (established : establish keyPair
    { receiver := { source }, transmitter := { out := { sink } }, teardown } = .ok connection) :
    ∃ frames, Connects keyPair frames connection.greeting ∧ connection.Inherits source frames := by
  obtain ⟨greeting, after, negotiated, rfl⟩ := eq_of_establish established
  obtain ⟨frames, connects, gives⟩ := Transport.reads_negotiate negotiated
  exact ⟨frames, connects, inherits_of_negotiated negotiated gives⟩

/-- A connection is established if the device sends frames with which it connects and nothing fails,
whatever comes behind them. -/
theorem establish_of_connects (connects : Connects keyPair frames greeting)
    (exact : ∀ frame ∈ frames, frame.IsExact) (clean : source.IsClean) (reliable : sink.IsReliable)
    (content : source.content = frames.flatMap Frame.encode ++ rest) :
    ∃ connection, establish keyPair
        { receiver := { source }, transmitter := { out := { sink } }, teardown } =
          .ok connection ∧
      connection.greeting = greeting ∧ connection.Inherits source frames := by
  obtain ⟨after, negotiated, gives⟩ := @Transport.negotiate_of_connects (Transport.begun
    { receiver := { source }, transmitter := { out := { sink } }, teardown }) _ _ _ _
    connects exact clean ⟨rfl, reliable⟩ content
  refine ⟨_, ?_, rfl, inherits_of_negotiated negotiated gives⟩
  rw [establish, Transport.connect, ← Transport.begun, negotiated]

/-- What is to be said of a connection whose handshake has read these frames, when this is the rest
of what its device sends. -/
structure Continues (source : Source) (frames : List Frame) (rest : Bytes)
    (connection : Connection) : Prop where
  content : source.content = frames.flatMap Frame.encode ++ rest
  /-- The frames of the handshake are all that was counted. -/
  counted : connection.counts.framesReceived = UInt64.ofNat frames.length
  /-- Whatever is done in a session routes the next frames in order, and if the connection has ended
  by itself it has routed all. -/
  session : ∀ deeds, let start : Session := { connection }
    let last := start.afterDeeds deeds
    let routed := (start.history deeds).filterMap Incident.routed?
    Frame.sequence rest = routed ++ last.connection.channel.queue.receiver.frames ∧
    (source.IsClean → .close ∉ deeds → last.connection.isClosed = true →
      routed = Frame.sequence rest)
  /-- The same holds when many threads take frames: what they have routed, what the reader has in
  hand and what is still to be read are the frames, in order. -/
  crowd : ∀ (Thread : Type) [DecidableEq Thread] (events : List (Event Thread))
    (crowd : Crowd Thread) (after : Receiver),
    Crowd.Runs (Crowd.fresh connection.channel.queue.board.metrics) events crowd →
    Crowd.Gives connection.channel.queue.receiver (events.filterMap Event.read?) after →
    ∃ held, crowd.InHand held ∧
      let routed := events.filterMap Event.routed?
      Frame.sequence rest = routed ++ held ++ after.frames ∧
      (source.IsClean → (∃ failure, .error failure ∈ events.filterMap Event.read?) →
        routed ++ held = Frame.sequence rest)

/-- The frames of the handshake and what the queue has in front of it are all that the source sends.
-/
theorem Inherits.content (inherits : connection.Inherits source frames) :
    source.content =
      frames.flatMap Frame.encode ++ connection.channel.queue.receiver.wire := by
  have wire := inherits.gives.wire.1
  rw [Crowd.filterMap_map_ok] at wire
  exact wire

/-- The frames of the handshake are as long as their headers say. -/
theorem Inherits.exact (inherits : connection.Inherits source frames) :
    ∀ frame ∈ frames, frame.IsExact := by
  have exact := inherits.gives.wire.2
  rwa [Crowd.filterMap_map_ok] at exact

/-- The queue of a connection begins without a loss. -/
theorem Inherits.isLossless (inherits : connection.Inherits source frames)
    (clean : source.IsClean) : connection.channel.queue.IsLossless := by
  refine ⟨inherits.gives.isClean clean, fun ended => ?_⟩
  rw [inherits.board] at ended
  contradiction

/-- The queue goes on where the handshake has stopped. -/
theorem Inherits.continues (inherits : connection.Inherits source frames) :
    connection.Continues source frames connection.channel.queue.receiver.wire where
  content := inherits.content
  counted := inherits.counted
  session := by
    intro deeds start last routed
    have balance := start.frames_afterDeeds deeds
    rw [Frame.sequence_eq_splitAll]
    refine ⟨balance, fun clean never ended => ?_⟩
    obtain ⟨lossless, still_running⟩ :=
      @Session.isLossless_afterDeeds start deeds never (inherits.isLossless clean) inherits.running
    have disconnected : last.connection.channel.queue.board.disconnected = true := by
      rwa [isClosed, still_running, Bool.false_or] at ended
    rw [lossless.ended disconnected, List.append_nil] at balance
    exact balance.symm
  crowd := by
    intro Thread _ events crowd after ran gives
    obtain ⟨held, hand, order⟩ := ran.inHand
    have balance := gives.frames
    rw [← Crowd.filterMap_arrival?, order] at balance
    rw [Frame.sequence_eq_splitAll]
    refine ⟨held, hand, balance, ?_⟩
    rintro clean ⟨failure, failed⟩
    have nothing := gives.frames_of_failed (inherits.gives.isClean clean) failed
    rw [nothing, List.append_nil] at balance
    exact balance.symm

/-- **No frame is lost between handshake and queue.** When a device has connected, in whatever
pieces its bytes came, one to three frames were read and answered as the handshake requires, and
these are the frames that were counted. The frames that the queue routes from then on are those
behind them, the very next one first. And if a device sends the frames of a handshake, in whatever
pieces and with whatever behind them, it is connected. -/
theorem no_frame_lost (keyPair : Option KeyPair) (source : Source) (sink : Sink)
    (teardown : Teardown) :
    let transport : Transport :=
      { receiver := { source }, transmitter := { out := { sink } }, teardown }
    (∀ connection, establish keyPair transport = .ok connection →
      ∃ frames rest, Connects keyPair frames connection.greeting ∧
        1 ≤ frames.length ∧ frames.length ≤ 3 ∧ (∀ frame ∈ frames, frame.IsExact) ∧
        connection.Continues source frames rest) ∧
    (∀ frames greeting rest, Connects keyPair frames greeting →
      (∀ frame ∈ frames, frame.IsExact) → source.IsClean → sink.IsReliable →
      source.content = frames.flatMap Frame.encode ++ rest →
      ∃ connection, establish keyPair transport = .ok connection ∧
        connection.greeting = greeting ∧ connection.Continues source frames rest) := by
  intro transport
  constructor
  · intro connection established
    obtain ⟨frames, connects, inherits⟩ := exists_inherits established
    exact ⟨frames, _, connects, connects.length.1, connects.length.2, inherits.exact,
      inherits.continues⟩
  · intro frames greeting rest connects exact clean reliable content
    obtain ⟨connection, established, announced, inherits⟩ :=
      establish_of_connects connects exact clean reliable content
    have same := inherits.content.symm.trans content
    rw [List.append_cancel_left_eq] at same
    exact ⟨connection, established, announced, same ▸ inherits.continues⟩

/-- The announcement comes in the same piece as the first bytes behind it. -/
theorem no_frame_lost_same_piece :
    let announcement :=
      Frame.make Command.connect 0x01000000 4096 (Utf8.encode "device::features=cmd")
    let later := [Frame.make Command.okay 9 1 [], .make Command.write 9 1 [104, 105]]
    let source : Source := [.bytes ((announcement :: later).flatMap Frame.encode) 60]
    ∃ connection, establish none { receiver := { source } } = .ok connection ∧
      connection.counts.framesReceived = 1 ∧
      connection.channel.queue.receiver.buffer ≠ [] ∧
      ∀ deeds, (Session.history deeds { connection }).filterMap Incident.routed? <+: later := by
  intro announcement later source
  obtain ⟨banner, parsed⟩ : ∃ banner, Banner.parse announcement.payload = .ok banner := by
    have read : (Banner.parse announcement.payload).toOption.isSome = true := by decide +kernel
    cases parsed : Banner.parse announcement.payload with
    | ok banner => exact ⟨banner, rfl⟩
    | error failure =>
      rw [parsed] at read
      contradiction
  have connects : Connects none [announcement] ⟨0x01000000, 4096, banner⟩ :=
    .behind .start ⟨rfl, by decide, rfl, rfl, parsed⟩
  have exact_announcement : announcement.IsExact := Frame.isExact_make _ _ _ (by decide)
  have exact_later : ∀ frame ∈ later, frame.IsExact := by
    simp only [later, List.forall_mem_cons]
    exact ⟨Frame.isExact_make _ _ _ (by decide), Frame.isExact_make _ _ _ (by decide),
      List.forall_mem_nil _⟩
  have clean : source.IsClean := fun item member => ⟨_, _, List.mem_singleton.1 member⟩
  have reliable : Sink.IsReliable {} := ⟨List.forall_mem_nil _, List.forall_mem_nil _⟩
  have content : source.content =
      [announcement].flatMap Frame.encode ++ later.flatMap Frame.encode := by
    rw [← List.flatMap_append]
    exact List.append_nil _
  obtain ⟨connection, established, -, continues⟩ := (no_frame_lost none source {} {}).2
    _ _ _ connects (List.forall_mem_singleton.2 exact_announcement) clean reliable content
  refine ⟨connection, established, continues.counted, ?_, fun deeds => ?_⟩
  · have buffered : (establish none { receiver := { source } }).toOption.map
        (·.channel.queue.receiver.buffer.isEmpty) = some false := by decide +kernel
    intro empty
    rw [show establish none { receiver := { source } } = _ from established, Except.toOption,
      Option.map_some, empty] at buffered
    contradiction
  · have balance := (continues.session deeds).1
    rw [Frame.sequence_eq_splitAll, Frame.splitAll_flatMap_encode exact_later] at balance
    exact ⟨_, balance.symm⟩

end Connection
end DebugBridge

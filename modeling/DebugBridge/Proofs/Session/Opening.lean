import DebugBridge.Proofs.Dispatch.Arriving
import DebugBridge.Proofs.Session.Registration

/-!
# Opening a stream, from end to end

A request for a stream is one frame. Then the frames of the device are read, whoever they are for,
until one of them or a failure settles the matter. What is read for others reaches them, what is
read for the new stream waits for it, and a request in vain leaves no trace in the register.
-/

namespace DebugBridge.Connection

/-- The frame that asks for a stream. -/
def openFrame (id : UInt32) (destination : String) : Frame :=
  .make Command.openStream id 0 (Utf8.encode destination ++ [0])

/-- None of these frames answers a request. -/
def Undecided (id : UInt32) (front : List Frame) : Prop :=
  ∀ frame ∈ front, frame.arg1 = id →
    frame.command ≠ Command.okay ∧ frame.command ≠ Command.close

/-- The reading that settles a request for a stream, and what comes of it. -/
inductive Settles (id : UInt32) (maxPayload : UInt32) : Reply → Except Failure Stream → Prop
  /-- The device accepts, and tells its own id. -/
  | accepts {answer : Frame} (own : answer.arg1 = id) (okay : answer.command = Command.okay) :
    Settles id maxPayload (.ok answer) (.ok (.opened id answer.arg0 maxPayload))
  | refuses {close : Frame} (closes : close.closes id = true) :
    Settles id maxPayload (.ok close) (.error (.streamClosed id))
  /-- No frame can be read. -/
  | fails (failure : Failure) : Settles id maxPayload (.error failure) (.error failure)

/-- What is to be said of a request for a stream during which these frames and then the last reading
were read. -/
structure Requests (id : UInt32) (destination : String) (before : Connection) (front : List Frame)
    (last : Reply) (result : Except Failure Stream) (after : Connection) : Prop where
  /-- Nothing else was read. -/
  reads : Crowd.Gives before.channel.queue.receiver (front.map .ok ++ [last])
    after.channel.queue.receiver
  /-- These are the next frames of the device. -/
  wire : before.channel.queue.receiver.wire =
    (front ++ last.toOption.toList).flatMap Frame.encode ++ after.channel.queue.receiver.wire
  /-- One frame was sent. -/
  sends : after.channel.transmitter.committed =
    before.channel.transmitter.committed ++ (openFrame id destination).encode
  /-- Nothing is held back. -/
  gone : after.channel.transmitter.out.pending = []
  /-- No earlier frame answers the request. -/
  undecided : Undecided id front
  settles : Settles id before.greeting.maxPayload last result
  /-- What was read for another stream waits for it, in order, or has cut it off. -/
  others : ∀ other, other ≠ id → before.channel.queue.board.isListening other = true →
    after.channel.queue.board.isListening other = true ∧
    (∀ command, after.channel.queue.board.queueOf other command =
      before.channel.queue.board.queueOf other command ++
        (front ++ last.toOption.toList).filter (Frame.isMailFor ⟨other, command⟩)) ∧
    after.channel.isLive other = (before.channel.isLive other &&
      (front.map Except.ok ++ [last]).all fun reading => !Reply.silences other reading)
  /-- What was read for nobody is counted. -/
  dropped : after.counts.framesDropped = before.counts.framesDropped +
    UInt64.ofNat ((front ++ last.toOption.toList).countP fun frame =>
      frame.arg1 != id && !before.channel.queue.board.isListening frame.arg1)
  /-- A stream that was opened is live, and everything else that was read for it waits for it. -/
  opened : ∀ stream, result = .ok stream → after.channel.isLive id = true ∧
    (∀ other, after.channel.queue.board.isListening other = true ↔
      other = id ∨ before.channel.queue.board.isListening other = true) ∧
    (∀ command, after.channel.queue.board.queueOf id command =
      front.filter (Frame.isMailFor ⟨id, command⟩)) ∧
    after.counts.streamsOpened = before.counts.streamsOpened + 1
  /-- A request in vain leaves the register as it was. -/
  failed : ∀ failure, result = .error failure →
    (∀ other, after.channel.queue.board.isListening other =
      before.channel.queue.board.isListening other) ∧
    after.counts.streamsOpened = before.counts.streamsOpened

/-- The frames among readings of which only the last may be a failure. -/
theorem filterMap_readings (front : List Frame) (last : Reply) :
    (front.map Except.ok ++ [last]).filterMap Except.toOption =
      front ++ last.toOption.toList := by
  rw [List.filterMap_append, Crowd.filterMap_map_ok]
  cases last <;> rfl

/-- The board once a new id was registered, readings were noted and the answer was handed out. -/
def consulted (id : UInt32) (readings : List Reply) (board : Switchboard) : Switchboard :=
  (((board.listen id).notes readings).poll id Command.okay).2

section Consulted

variable {board : Switchboard} {id other : UInt32} {front : List Frame} {answer : Frame}

/-- The new id is registered, and everyone else who was. -/
theorem isListening_consulted (id other : UInt32) (readings : List Reply) (board : Switchboard) :
    (consulted id readings board).isListening other =
      (other = id || board.isListening other) := by
  obtain ⟨same, -, -, -⟩ :=
    Switchboard.poll_leaves id Command.okay ((board.listen id).notes readings)
  rw [← Switchboard.isListening_listen]
  exact (same other).trans (Switchboard.isListening_notes ..)

/-- An id is live if it is new or was live before, and no reading has silenced it. -/
theorem isLive_consulted (id other : UInt32) (readings : List Reply) (board : Switchboard) :
    (consulted id readings board).isLive other =
      ((other = id || board.isLive other) &&
        readings.all fun reading => !reading.silences other) := by
  obtain ⟨-, same, -, -⟩ :=
    Switchboard.poll_leaves id Command.okay ((board.listen id).notes readings)
  rw [← Switchboard.isLive_listen]
  exact (same other).trans (Switchboard.isLive_notes ..)

/-- What was read for another registered id joins its queues. -/
theorem queueOf_consulted (differs : other ≠ id) (registered : board.isListening other = true)
    (readings : List Reply) (command : UInt32) :
    (consulted id readings board).queueOf other command = board.queueOf other command ++
      (readings.filterMap Except.toOption).filter (Frame.isMailFor ⟨other, command⟩) := by
  obtain ⟨-, -, same, -⟩ :=
    Switchboard.poll_leaves id Command.okay ((board.listen id).notes readings)
  refine (same other command fun asked => differs asked.1).trans ?_
  rw [Switchboard.queueOf_notes (by simp [registered]), Switchboard.queueOf_listen, if_neg differs]

/-- What was read for nobody was dropped. -/
theorem framesDropped_consulted (id : UInt32) (readings : List Reply) (board : Switchboard) :
    (consulted id readings board).metrics.framesDropped =
      board.metrics.framesDropped + UInt64.ofNat ((readings.filterMap Except.toOption).countP
        fun frame => frame.arg1 != id && !board.isListening frame.arg1) := by
  obtain ⟨-, -, -, metrics⟩ :=
    Switchboard.poll_leaves id Command.okay ((board.listen id).notes readings)
  have same : (fun frame : Frame => !(board.listen id).isListening frame.arg1) =
      fun frame => frame.arg1 != id && !board.isListening frame.arg1 := by
    funext frame
    rw [Switchboard.isListening_listen, Bool.not_or]
    rfl
  rw [consulted, metrics, Switchboard.framesDropped_notes, Switchboard.metrics_listen, same]

/-- Frames that answer no request hold no acceptance. -/
theorem Undecided.filter_eq_nil (undecided : Undecided id front) :
    front.filter (Frame.isMailFor ⟨id, Command.okay⟩) = [] := by
  refine List.filter_eq_nil_iff.2 fun frame member mail => ?_
  have wanted : frame.want = ⟨id, Command.okay⟩ := by
    simp only [Frame.isMailFor, Bool.and_eq_true, decide_eq_true_iff] at mail
    exact mail.1
  obtain ⟨own, okay⟩ := Frame.want_eq_iff.1 wanted
  exact (undecided frame member own).1 okay

/-- Accepting a stream and closing it are different commands. -/
theorem okay_ne_close : Command.okay ≠ Command.close := by decide

/-- A stream is live when its request is granted. -/
theorem Undecided.isLive_consulted (undecided : Undecided id front)
    (okay : answer.command = Command.okay) (board : Switchboard) :
    (consulted id (front.map .ok ++ [.ok answer]) board).isLive id = true := by
  have open_still (reading : Reply) (member : reading ∈ front.map Except.ok ++ [Except.ok answer]) :
      (!reading.silences id) = true := by
    rw [List.mem_append, List.mem_map, List.mem_singleton] at member
    rw [Bool.not_eq_true', ← Bool.not_eq_true]
    obtain ⟨frame, listed, rfl⟩ | rfl := member
    · intro closes
      obtain ⟨own, close⟩ := Frame.closes_iff.1 closes
      exact (undecided frame listed own).2 close
    · intro closes
      exact okay_ne_close (okay.symm.trans (Frame.closes_iff.1 closes).2)
  rw [Connection.isLive_consulted, List.all_eq_true.2 open_still, decide_eq_true rfl]
  rfl

/-- The answer is handed out, and what came before it waits for the stream. -/
theorem Undecided.queueOf_consulted (undecided : Undecided id front) (own : answer.arg1 = id)
    (okay : answer.command = Command.okay) (board : Switchboard) (command : UInt32) :
    (consulted id (front.map .ok ++ [.ok answer]) board).queueOf id command =
      front.filter (Frame.isMailFor ⟨id, command⟩) := by
  obtain ⟨-, -, queues, -⟩ := Switchboard.poll_leaves id Command.okay
    ((board.listen id).notes (front.map .ok ++ [.ok answer]))
  have waiting (command : UInt32) : ((board.listen id).notes
      (front.map .ok ++ [.ok answer])).queueOf id command =
        (front ++ [answer]).filter (Frame.isMailFor ⟨id, command⟩) := by
    rw [Switchboard.queueOf_notes (by simp), filterMap_readings, Switchboard.queueOf_listen,
      if_pos rfl]
    rfl
  by_cases wanted : command = Command.okay
  · have mail : answer.isMailFor ⟨id, Command.okay⟩ = true := by
      simp [Frame.isMailFor, Frame.want, own, okay, okay_ne_close]
    have alone := waiting Command.okay
    rw [List.filter_append, undecided.filter_eq_nil, List.filter_cons_of_pos mail] at alone
    rw [wanted, undecided.filter_eq_nil]
    exact Switchboard.poll_of_single alone
  · have not_mail : [answer].filter (Frame.isMailFor ⟨id, command⟩) = [] := by
      simp [Frame.isMailFor, Frame.want, okay, Ne.symm wanted]
    refine (queues id command fun asked => wanted asked.2).trans ?_
    rw [waiting, List.filter_append, not_mail, List.append_nil]

end Consulted

section Running

variable {connection : Connection} {id : UInt32} {destination : String} {transmitter : Transmitter}

/-- The queue on which the answer is awaited. -/
def askedQueue (id : UInt32) (connection : Connection) : Queue :=
  { connection.channel.queue with board := connection.channel.queue.board.listen id }

/-- The wait for the answer. -/
def awaitAnswer (id : UInt32) (connection : Connection) : Outcome Queue Frame :=
  (connection.askedQueue id).await id Command.okay

/-- Once the request is sent all depends on what is awaited. -/
theorem openStream_of_sent (running : connection.isClosed = false)
    (sent : connection.channel.transmitter.send Command.openStream id 0
      (Utf8.encode destination ++ [0]) = .ok () transmitter) :
    connection.openStream id destination =
      match connection.awaitAnswer id with
      | .ok answer queue => .ok (.opened id answer.arg0 connection.greeting.maxPayload)
          { connection with
            channel := { queue, transmitter, metrics := connection.channel.metrics.streamOpened } }
      | .error failure queue => .error failure
          { connection with
            channel := { connection.channel with
              queue := { queue with board := queue.board.unlisten id }
              transmitter } } := by
  have asked : (connection.channel.listen id).send (Transmitter.sendOpen id destination) =
      .ok () { connection.channel.listen id with transmitter } := by
    rw [Channel.send, Transmitter.sendOpen]
    change (connection.channel.transmitter.send _ _ _ _).mapState _ = _
    rw [sent]
    rfl
  have taken : (connection.askedQueue id).take id Command.okay =
      connection.awaitAnswer id := by
    rw [awaitAnswer, Queue.take, Switchboard.turnAway_eq_none_iff.2 (by simp [askedQueue])]
  have awaited :
      ({ connection.channel.listen id with transmitter } : Channel).take id Command.okay =
        (connection.awaitAnswer id).mapState
          fun queue => { connection.channel with queue, transmitter } := by
    rw [Channel.take, ← taken]
    rfl
  simp only [openStream, running, Bool.false_eq_true, if_false, request, asked, Outcome.andThen,
    awaited]
  cases connection.awaitAnswer id <;> rfl

/-- Streams are counted as they are accepted. -/
theorem streamsOpened_openStream (id : UInt32) (destination : String) (connection : Connection) :
    (connection.openStream id destination).state.counts.streamsOpened =
      connection.counts.streamsOpened +
        if (connection.openStream id destination).result.toBool then 1 else 0 := by
  have counted := congrArg Prod.fst
    (Channel.streams_afterActs (connection.openActs id destination) connection.channel)
  have opens := connection.opens_openStream id destination
  rw [state_openStream]
  refine counted.trans ?_
  generalize connection.openActs id destination = acts at opens
  generalize (connection.openStream id destination).result = result at opens
  cases opens with
  | refused ended => exact (UInt64.add_zero _).symm
  | failed running failure waited =>
    obtain rfl | rfl := waited <;> exact (UInt64.add_zero _).symm
  | opened accepts => rfl

/-- What the reading that decides comes to. -/
theorem settles_of_verdict {last verdict : Reply} (maxPayload : UInt32)
    (decides : Want.verdict? ⟨id, Command.okay⟩ last = some verdict) :
    Settles id maxPayload last
      (verdict.map fun answer => Stream.opened id answer.arg0 maxPayload) := by
  cases last with
  | error failure =>
    obtain rfl : .error failure = verdict := Option.some.inj decides
    exact .fails failure
  | ok frame =>
    obtain ⟨wanted, rfl⟩ | ⟨closes, rfl⟩ := Want.verdict?_ok_eq_some decides
    · obtain ⟨own, okay⟩ := Frame.want_eq_iff.1 wanted
      exact .accepts own okay
    · exact .refuses closes

/-- What became of the wait, in the connection after it. -/
structure Concludes (id : UInt32) (before : Connection) (transmitter : Transmitter)
    (answered : Except Failure Stream) (after : Connection) : Prop where
  result : answered = (before.awaitAnswer id).result.map fun answer =>
    .opened id answer.arg0 before.greeting.maxPayload
  receiver : after.channel.queue.receiver = (before.awaitAnswer id).state.receiver
  board : after.channel.queue.board =
    if answered.toBool then (before.awaitAnswer id).state.board
    else (before.awaitAnswer id).state.board.unlisten id
  transmitter : after.channel.transmitter = transmitter
  framesDropped : after.channel.metrics.framesDropped = before.channel.metrics.framesDropped
  streamsOpened : after.counts.streamsOpened =
    before.counts.streamsOpened + if answered.toBool then 1 else 0

/-- Once the request has been sent, opening a stream ends as its wait does. -/
theorem concludes_openStream (running : connection.isClosed = false)
    (sent : connection.channel.transmitter.send Command.openStream id 0
      (Utf8.encode destination ++ [0]) = .ok () transmitter) :
    Concludes id connection transmitter (connection.openStream id destination).result
      (connection.openStream id destination).state := by
  have tallied := connection.streamsOpened_openStream id destination
  rw [openStream_of_sent running sent] at tallied ⊢
  cases awaited : connection.awaitAnswer id <;>
    · rw [awaited] at tallied
      refine ⟨?_, ?_, ?_, rfl, rfl, tallied⟩ <;> rw [awaited] <;> rfl

/-- What was read during the wait for the answer, and what it did. -/
structure Waits (id : UInt32) (before : Connection) (front : List Frame) (last : Reply) :
    Prop where
  gives : Crowd.Gives before.channel.queue.receiver (front.map .ok ++ [last])
    (before.awaitAnswer id).state.receiver
  undecided : Undecided id front
  decides : Want.verdict? ⟨id, Command.okay⟩ last = some (before.awaitAnswer id).result
  board : (before.awaitAnswer id).state.board =
    consulted id (front.map .ok ++ [last]) before.channel.queue.board

/-- The wait for an answer reads some frames that decide nothing, and then the reading that settles
it. -/
theorem exists_waits (running : connection.isClosed = false) (id : UInt32) :
    ∃ front last, connection.Waits id front last := by
  have unanswered : (connection.askedQueue id).board.Unanswered id Command.okay := {
    listening := by simp [askedQueue]
    live := by simp [askedQueue]
    connected := (Bool.or_eq_false_iff.1 running).2
    empty := by simp [askedQueue] }
  obtain ⟨front, last, verdict, gives, none_decides, decides, result, board⟩ :=
    @Queue.await_reads ⟨id, Command.okay⟩ (connection.askedQueue id) okay_ne_close unanswered
  refine ⟨front, last, gives, fun frame member own => ?_, ?_, board⟩
  · obtain ⟨other, open_still⟩ := Want.verdict?_ok_eq_none (none_decides frame member)
    refine ⟨fun okay => other (Frame.want_eq_iff.2 ⟨own, okay⟩), fun close => ?_⟩
    rw [Frame.closes_iff.2 ⟨own, close⟩] at open_still
    contradiction
  · rw [decides, ← result]
    rfl

/-- Dropped frames are counted in four places. -/
theorem framesDropped_counts (connection : Connection) :
    connection.counts.framesDropped =
      connection.channel.metrics.framesDropped +
        connection.channel.transmitter.metrics.framesDropped +
        connection.channel.queue.board.metrics.framesDropped +
        connection.channel.queue.receiver.metrics.framesDropped := rfl

variable {after : Connection} {answered : Except Failure Stream} {front : List Frame} {last : Reply}

/-- What was read for others has reached them, whether or not the registration is withdrawn. -/
theorem Concludes.others (concludes : Concludes id connection transmitter answered after)
    (waits : connection.Waits id front last) {other : UInt32} (differs : other ≠ id)
    (registered : connection.channel.queue.board.isListening other = true) :
    after.channel.queue.board.isListening other = true ∧
    (∀ command, after.channel.queue.board.queueOf other command =
      connection.channel.queue.board.queueOf other command ++
        (front ++ last.toOption.toList).filter (Frame.isMailFor ⟨other, command⟩)) ∧
    after.channel.isLive other = (connection.channel.isLive other &&
      (front.map Except.ok ++ [last]).all fun reading => !Reply.silences other reading) := by
  have same : let board := (connection.awaitAnswer id).state.board
      after.channel.queue.board.isListening other = board.isListening other ∧
      (∀ command, after.channel.queue.board.queueOf other command =
        board.queueOf other command) ∧
      after.channel.queue.board.isLive other = board.isLive other := by
    rw [concludes.board]
    cases answered.toBool with
    | true => exact ⟨rfl, fun _ => rfl, rfl⟩
    | false => simp [differs]
  obtain ⟨listening, queues, live⟩ := same
  rw [waits.board] at listening queues live
  refine ⟨?_, fun command => ?_, ?_⟩
  · rw [listening, isListening_consulted, registered, Bool.or_true]
  · rw [queues, queueOf_consulted differs registered, filterMap_readings]
  · rw [Channel.isLive, live, isLive_consulted, decide_eq_false differs, Bool.false_or]
    rfl

/-- Frames that were read for nobody are counted as dropped, and no others. -/
theorem Concludes.dropped (concludes : Concludes id connection transmitter answered after)
    (waits : connection.Waits id front last)
    (sent : connection.channel.transmitter.send Command.openStream id 0
      (Utf8.encode destination ++ [0]) = .ok () transmitter) :
    after.counts.framesDropped = connection.counts.framesDropped +
      UInt64.ofNat ((front ++ last.toOption.toList).countP fun frame =>
        frame.arg1 != id && !connection.channel.queue.board.isListening frame.arg1) := by
  have same : after.channel.queue.board.metrics =
      (connection.awaitAnswer id).state.board.metrics := by
    rw [concludes.board]
    split <;> rfl
  have on_board := framesDropped_consulted id (front.map .ok ++ [last])
    connection.channel.queue.board
  rw [← waits.board, ← same, filterMap_readings] at on_board
  have on_receiver := waits.gives.counted.2
  rw [← concludes.receiver] at on_receiver
  have on_transmitter : transmitter.metrics.framesDropped =
      connection.channel.transmitter.metrics.framesDropped := (Transmitter.incoming_send sent).2
  rw [framesDropped_counts, framesDropped_counts, concludes.framesDropped, concludes.transmitter,
    on_transmitter, on_board, on_receiver]
  ac_rfl

/-- A stream that was opened is registered and live, and has its early frames. -/
theorem Concludes.opened {stream : Stream}
    (concludes : Concludes id connection transmitter (.ok stream) after)
    (waits : connection.Waits id front last) :
    after.channel.isLive id = true ∧
    (∀ other, after.channel.queue.board.isListening other = true ↔
      other = id ∨ connection.channel.queue.board.isListening other = true) ∧
    (∀ command, after.channel.queue.board.queueOf id command =
      front.filter (Frame.isMailFor ⟨id, command⟩)) ∧
    after.counts.streamsOpened = connection.counts.streamsOpened + 1 := by
  have decides := waits.decides
  have granted := concludes.result
  cases awaited : (connection.awaitAnswer id).result with
  | error failure =>
    rw [awaited] at granted
    contradiction
  | ok answer =>
    rw [awaited] at decides
    obtain ⟨rfl, wanted⟩ := Want.verdict?_eq_ok decides
    obtain ⟨own, okay⟩ := Frame.want_eq_iff.1 wanted
    have board : after.channel.queue.board = _ := concludes.board.trans (if_pos rfl)
    rw [waits.board] at board
    refine ⟨?_, fun other => ?_, fun command => ?_, concludes.streamsOpened⟩
    · rw [Channel.isLive, board]
      exact waits.undecided.isLive_consulted okay _
    · rw [board, isListening_consulted, Bool.or_eq_true, decide_eq_true_iff]
    · rw [board]
      exact waits.undecided.queueOf_consulted own okay _ command

/-- A request in vain leaves the register as it was. -/
theorem Concludes.failed {failure : Failure}
    (concludes : Concludes id connection transmitter (.error failure) after)
    (waits : connection.Waits id front last)
    (fresh : connection.channel.queue.board.isListening id = false) :
    (∀ other, after.channel.queue.board.isListening other =
      connection.channel.queue.board.isListening other) ∧
    after.counts.streamsOpened = connection.counts.streamsOpened := by
  have board : after.channel.queue.board = _ := concludes.board.trans (if_neg Bool.false_ne_true)
  refine ⟨fun other => ?_, concludes.streamsOpened.trans (UInt64.add_zero _)⟩
  rw [board, Switchboard.isListening_unlisten, waits.board, isListening_consulted]
  by_cases same : other = id
  · simp [same, fresh]
  · simp [same]

/-- A request on a connection that stands. -/
theorem requests_openStream (running : connection.isClosed = false)
    (fresh : connection.channel.queue.board.isListening id = false)
    (can_send : connection.channel.transmitter.CanSend) :
    ∃ front last, Requests id destination connection front last
      (connection.openStream id destination).result
      (connection.openStream id destination).state := by
  obtain ⟨transmitter, sent, reliable, committed⟩ := can_send.send Command.openStream id 0
    (Utf8.encode destination ++ [0])
  obtain ⟨front, last, waits⟩ := exists_waits running id
  have concludes := concludes_openStream running sent
  generalize (connection.openStream id destination).state = after at concludes ⊢
  generalize (connection.openStream id destination).result = answered at concludes ⊢
  have wire := waits.gives.wire.1
  rw [filterMap_readings] at wire
  refine ⟨front, last, ?_⟩
  exact {
    reads := concludes.receiver ▸ waits.gives
    wire := concludes.receiver ▸ wire
    sends := concludes.transmitter ▸ committed
    gone := concludes.transmitter ▸ reliable.gone
    undecided := waits.undecided
    settles := concludes.result ▸ settles_of_verdict _ waits.decides
    others := fun other => concludes.others waits
    dropped := concludes.dropped waits sent
    opened := fun stream success => (success ▸ concludes).opened waits
    failed := fun failure refused => (refused ▸ concludes).failed waits fresh }

end Running

variable {id maxPayload : UInt32} {last : Reply} {result : Except Failure Stream}

/-- An OKAY is all that opens a stream. -/
theorem Settles.isOk_iff (settles : Settles id maxPayload last result) :
    (∃ stream, result = .ok stream) ↔
      ∃ answer, last = .ok answer ∧ answer.arg1 = id ∧ answer.command = Command.okay := by
  cases settles with
  | accepts own okay => exact iff_of_true ⟨_, rfl⟩ ⟨_, rfl, own, okay⟩
  | @refuses close closes =>
    refine iff_of_false (by simp) ?_
    rintro ⟨answer, same, -, okay⟩
    cases same
    rw [(Frame.closes_iff.1 closes).2] at okay
    contradiction
  | fails failure => exact iff_of_false (by simp) (by simp)

/-- **Opening a stream.** On a connection that is closed the request is turned down, and nothing is
sent or read. Otherwise, under an id that is not in use and with a sink that does not fail, one
frame is sent that asks for the stream. Then frames are read up to the first that answers, or up to
the first failure, and no further. The stream is opened exactly if this last reading is an OKAY for
its id. What was read meanwhile reaches whom it is for. -/
theorem openStream_settled_by_first_answer (id : UInt32) (destination : String)
    (connection : Connection) :
    let outcome := connection.openStream id destination
    (connection.isClosed = true → outcome = .error .connectionClosed connection) ∧
    (connection.isClosed = false → connection.channel.queue.board.isListening id = false →
      connection.channel.transmitter.CanSend →
      ∃ front last, Requests id destination connection front last outcome.result outcome.state ∧
        ((∃ stream, outcome.result = .ok stream) ↔
          ∃ answer, last = .ok answer ∧ answer.arg1 = id ∧ answer.command = Command.okay)) := by
  intro outcome
  constructor
  · intro ended
    simp only [outcome, openStream, ended, if_true]
  · intro running fresh can_send
    obtain ⟨front, last, requests⟩ := requests_openStream running fresh can_send
    exact ⟨front, last, requests, requests.settles.isOk_iff⟩

/-- A connection with the stream `1`, for which data is on its way. It comes, together with early
data for the stream `2` and a frame for nobody, before the device accepts the stream `2`. -/
def busy : Connection where
  channel := {
    queue := {
      board := ({} : Switchboard).listen 1
      receiver := {
        source := [.bytes ([
          Frame.make Command.write 9 1 [104], .make Command.write 8 2 [105],
          .make Command.okay 7 3 [], .make Command.okay 8 2 [],
          .make Command.close 9 1 []].flatMap Frame.encode) 4096] } } }
  greeting := {
    version := 0x01000000
    maxPayload := 4096
    banner := { raw := "", systemType := "", serial := "", properties := [], features := [] } }

/-- The stream `2` is opened; the stream `1` has its data, and is not closed yet. -/
theorem openStream_settled_by_first_answer_busy :
    let outcome := busy.openStream 2 "echo:"
    busy.isClosed = false ∧ busy.channel.queue.board.isListening 2 = false ∧
      busy.channel.transmitter.CanSend ∧
      outcome.result = .ok (.opened 2 8 4096) ∧
      outcome.state.channel.queue.board.queueOf 1 Command.write =
        [.make Command.write 9 1 [104]] ∧
      outcome.state.channel.isLive 1 = true ∧ outcome.state.channel.isLive 2 = true ∧
      outcome.state.counts.framesDropped = 1 ∧
      ∃ front last, Requests 2 "echo:" busy front last outcome.result outcome.state := by
  intro outcome
  have running : busy.isClosed = false := by decide
  have fresh : busy.channel.queue.board.isListening 2 = false := by decide
  have can_send : busy.channel.transmitter.CanSend :=
    ⟨rfl, ⟨List.forall_mem_nil _, List.forall_mem_nil _⟩⟩
  obtain ⟨-, standing⟩ := openStream_settled_by_first_answer 2 "echo:" busy
  obtain ⟨front, last, requests, -⟩ := standing running fresh can_send
  have opened : outcome.result = .ok (.opened 2 8 4096) := by decide +kernel
  refine ⟨running, fresh, can_send, opened, by decide +kernel, by decide +kernel,
    (requests.opened _ opened).1, by decide +kernel, front, last, requests⟩

end DebugBridge.Connection

import DebugBridge.Proofs.Dispatch.Crowd
import DebugBridge.Proofs.Dispatch.Repeating
import DebugBridge.Proofs.Dispatch.Upcoming

/-!
# What arrives while someone waits

A taker for whom nothing waits reads on behalf of all. Each frame is routed and each failure noted,
and the first reading that concerns the taker ends its wait: the frame that it wants, the frame that
closes its mailbox, or a failure (`Queue.await_reads`). Nothing is read beyond that one. What the
readings do to the board is told apart for each id: the frames for it join its queue in order, a
CLSE among them or the end of the connection cuts it off, and the frames for nobody are counted.
-/

namespace DebugBridge

namespace Crowd

variable {receiver after : Receiver} {answers : List Reply}

/-- The frames among readings of which none failed. -/
theorem filterMap_map_ok (frames : List Frame) :
    (frames.map Except.ok : List Reply).filterMap Except.toOption = frames := by
  rw [List.filterMap_map]
  exact List.filterMap_some

/-- The bytes of the frames that were read are those by which what is on its way in got shorter. -/
theorem Gives.wire (gives : Gives receiver answers after) :
    receiver.wire = (answers.filterMap Except.toOption).flatMap Frame.encode ++ after.wire ∧
      ∀ frame ∈ answers.filterMap Except.toOption, frame.IsExact := by
  induction gives with
  | nothing => exact ⟨rfl, by simp⟩
  | @next receiver after answers later ih =>
    cases read : receiver.readFrame with
    | ok frame middle =>
      rw [read] at ih
      have split := Receiver.split?_wire_of_readFrame read
      simp only [Outcome.result, Except.toOption, List.filterMap_cons, List.flatMap_cons,
        List.forall_mem_cons]
      refine ⟨?_, Frame.isExact_of_split? split, ih.2⟩
      rw [Frame.eq_encode_append_of_split? split, List.append_assoc, ← ih.1]
      rfl
    | error failure middle =>
      rw [read] at ih
      simp only [Outcome.result, Except.toOption, List.filterMap_cons]
      rw [← Receiver.wire_of_readFrame_error read]
      exact ih

/-- Every frame that was read is counted as received, and none as dropped. -/
theorem Gives.counted (gives : Gives receiver answers after) :
    after.metrics.framesReceived = receiver.metrics.framesReceived +
        UInt64.ofNat (answers.filterMap Except.toOption).length ∧
      after.metrics.framesDropped = receiver.metrics.framesDropped := by
  induction gives with
  | nothing => exact ⟨(UInt64.add_zero _).symm, rfl⟩
  | @next receiver after answers later ih =>
    have counted := receiver.metrics_readFrame
    cases read : receiver.readFrame with
    | ok frame middle =>
      rw [read] at counted ih
      simp only [Outcome.result, Outcome.state_ok] at counted ih
      rw [counted] at ih
      refine ⟨?_, ih.2⟩
      simp only [Outcome.result, Except.toOption, List.filterMap_cons, List.length_cons]
      rw [ih.1, UInt64.ofNat_add, UInt64.add_comm (UInt64.ofNat (List.length _)),
        ← UInt64.add_assoc]
      rfl
    | error failure middle =>
      rw [read] at counted ih
      simp only [Outcome.result, Outcome.state_error] at counted ih
      rw [counted] at ih
      exact ih

/-- What a receiver gives is the front of the frames in front of it. -/
theorem Gives.frames (gives : Gives receiver answers after) :
    receiver.frames = answers.filterMap Except.toOption ++ after.frames := by
  induction gives with
  | nothing => rfl
  | @next receiver after answers later ih =>
    rw [receiver.frames_readFrame, ih, List.filterMap_cons]
    cases receiver.readFrame.result <;> rfl

/-- A receiver whose source does not fail still has such a source when it has given something. -/
theorem Gives.isClean (gives : Gives receiver answers after) (clean : receiver.IsClean) :
    after.IsClean := by
  induction gives with
  | nothing => exact clean
  | next later ih => exact ih clean.readFrame_state

/-- What arrives at many threads is what the reads give. -/
theorem filterMap_arrival? {Thread : Type} (events : List (Event Thread)) :
    events.filterMap Event.arrival? =
      (events.filterMap Event.read?).filterMap Except.toOption := by
  rw [List.filterMap_filterMap]
  congr 1
  funext event
  cases event with
  | reads thread read => cases read <;> rfl
  | calls | looks | delivers | reports | stirs | listens | unlistens | discards | shutsDown => rfl

/-- Once a read of a clean receiver has failed all frames are out. -/
theorem Gives.frames_of_failed (gives : Gives receiver answers after) (clean : receiver.IsClean)
    {failure : Failure} (failed : .error failure ∈ answers) : after.frames = [] := by
  induction gives with
  | nothing => contradiction
  | @next receiver after answers later ih =>
    obtain now | later_on := List.mem_cons.1 failed
    · cases read : receiver.readFrame with
      | ok frame middle =>
        rw [read] at now
        contradiction
      | error cause middle =>
        have nothing := clean.frames_of_failed read
        have left := later.frames
        rw [read, Outcome.state_error, nothing] at left
        exact (List.append_eq_nil_iff.1 left.symm).2
    · exact ih clean.readFrame_state later_on

end Crowd

namespace Want

variable {want : Want} {frame : Frame}

/-- How a reading answers a taker, if it does. -/
def verdict? (want : Want) : Reply → Option Reply
  | .error failure => some (.error failure)
  | .ok frame =>
    if frame.want = want then some (.ok frame)
    else if frame.closes want.id then some (.error (.streamClosed want.id))
    else none

/-- A frame that decides nothing is neither the one that is waited for nor closes the mailbox. -/
theorem verdict?_ok_eq_none (undecided : want.verdict? (.ok frame) = none) :
    frame.want ≠ want ∧ frame.closes want.id = false := by
  unfold verdict? at undecided
  simp only at undecided
  split at undecided
  · contradiction
  · next other =>
    split at undecided
    · contradiction
    · next open_still => exact ⟨other, Bool.eq_false_iff.2 open_still⟩

/-- A frame decides an attempt by being the one that is waited for or by closing the mailbox. -/
theorem verdict?_ok_eq_some {verdict : Reply} (decides : want.verdict? (.ok frame) = some verdict) :
    frame.want = want ∧ verdict = .ok frame ∨
      frame.closes want.id = true ∧ verdict = .error (.streamClosed want.id) := by
  unfold verdict? at decides
  simp only at decides
  split at decides
  · next wanted => exact .inl ⟨wanted, (Option.some.inj decides).symm⟩
  · split at decides
    · next closes => exact .inr ⟨closes, (Option.some.inj decides).symm⟩
    · contradiction

/-- A taker gets what it wanted. -/
theorem verdict?_eq_ok {last : Reply} {answer : Frame}
    (decides : want.verdict? last = some (.ok answer)) :
    last = .ok answer ∧ answer.want = want := by
  cases last with
  | error failure => cases Option.some.inj decides
  | ok frame =>
    obtain ⟨wanted, same⟩ | ⟨-, same⟩ := verdict?_ok_eq_some decides
    · cases same
      exact ⟨rfl, wanted⟩
    · cases same

end Want

/-- A reading ends the life of the mailbox of an id. -/
def Reply.silences (id : UInt32) : Reply → Bool
  | .ok frame => frame.closes id
  | .error failure => !failure.isTransient

namespace Switchboard

/-- Takes note of a reading. -/
def note (board : Switchboard) : Reply → Switchboard
  | .ok frame => board.route frame
  | .error failure => board.readFailed failure

/-- Takes note of readings. -/
def notes (readings : List Reply) (board : Switchboard) : Switchboard :=
  readings.foldl note board

variable {board : Switchboard} {id command : UInt32}

/-- A reading registers nobody and forgets nobody. -/
theorem isListening_note (reading : Reply) (id : UInt32) (board : Switchboard) :
    (board.note reading).isListening id = board.isListening id := by
  cases reading with
  | ok frame => exact isListening_route frame id board
  | error failure => exact isListening_readFailed id failure board

/-- A reading ends the life of the ids that it silences and of no others. -/
theorem isLive_note (reading : Reply) (id : UInt32) (board : Switchboard) :
    (board.note reading).isLive id = (board.isLive id && !reading.silences id) := by
  cases reading with
  | ok frame => exact Frame.isLive_route frame id board
  | error failure =>
    rw [note, isLive_readFailed, Reply.silences, Bool.not_not, Bool.and_comm]

/-- Readings register nobody and forget nobody. -/
theorem isListening_notes (readings : List Reply) (id : UInt32) (board : Switchboard) :
    (board.notes readings).isListening id = board.isListening id := by
  induction readings generalizing board with
  | nil => rfl
  | cons reading readings ih => exact (ih (board.note reading)).trans (isListening_note ..)

/-- An id stays live until a reading silences it. -/
theorem isLive_notes (readings : List Reply) (id : UInt32) (board : Switchboard) :
    (board.notes readings).isLive id =
      (board.isLive id && readings.all fun reading => !reading.silences id) := by
  induction readings generalizing board with
  | nil => exact (Bool.and_true _).symm
  | cons reading readings ih =>
    rw [List.all_cons, ← Bool.and_assoc, ← isLive_note]
    exact ih (board.note reading)

/-- The frames for a registered id join its queues in the order in which they were read. -/
theorem queueOf_notes (registered : board.isListening id = true) (readings : List Reply)
    (command : UInt32) :
    (board.notes readings).queueOf id command = board.queueOf id command ++
      (readings.filterMap Except.toOption).filter (Frame.isMailFor ⟨id, command⟩) := by
  induction readings generalizing board with
  | nil => exact (List.append_nil _).symm
  | cons reading readings ih =>
    have still_registered := (isListening_note reading id board).trans registered
    refine (ih still_registered).trans ?_
    cases reading with
    | ok frame =>
      have routed := @queueOf_route_of_isListening ⟨id, command⟩ board frame registered
      rw [show board.note (.ok frame) = board.route frame from rfl, routed, List.append_assoc,
        ← List.filter_append]
      rfl
    | error failure =>
      have noted : (board.note (.error failure)).queueOf id command = board.queueOf id command :=
        queueOf_readFailed ..
      rw [noted]
      rfl

/-- The frames for nobody are counted. -/
theorem framesDropped_notes (readings : List Reply) (board : Switchboard) :
    (board.notes readings).metrics.framesDropped = board.metrics.framesDropped +
      UInt64.ofNat ((readings.filterMap Except.toOption).countP
        fun frame => !board.isListening frame.arg1) := by
  induction readings generalizing board with
  | nil => exact (UInt64.add_zero _).symm
  | cons reading readings ih =>
    refine (ih (board.note reading)).trans ?_
    simp only [isListening_note]
    cases reading with
    | ok frame =>
      have counted : (if board.landing frame = .dropped then (1 : UInt64) else 0) =
          UInt64.ofNat (if !board.isListening frame.arg1 then 1 else 0) := by
        unfold landing
        by_cases registered : board.isListening frame.arg1 = true
        · by_cases close : frame.command = Command.close <;> simp [registered, close]
        · simp [registered]
      have routed := framesDropped_route frame board
      rw [counted] at routed
      simp only [note, List.filterMap_cons, Except.toOption, List.countP_cons, routed,
        UInt64.ofNat_add, UInt64.add_assoc]
      exact congrArg (board.metrics.framesDropped + ·) (UInt64.add_comm ..)
    | error failure =>
      have noted : (board.note (.error failure)).metrics = board.metrics := metrics_readFailed ..
      rw [noted]
      rfl

/-- The oldest frame that waits is handed out. -/
theorem poll_of_waiting {frame : Frame} {others : List Frame}
    (waits : board.queueOf id command = frame :: others) :
    ∃ after, board.poll id command = (.frame frame, after) := by
  obtain ⟨first, after, polled⟩ | ⟨failure, polled⟩ | ⟨unanswered, -⟩ :=
    board.poll_cases id command
  · have front := (poll_frame polled).1 id command
    rw [if_pos ⟨rfl, rfl⟩, waits] at front
    rw [(List.cons.inj front).1]
    exact ⟨after, polled⟩
  · rw [(poll_refused polled).2] at waits
    contradiction
  · rw [unanswered.empty] at waits
    contradiction

/-- When nothing waits polling changes nothing. -/
theorem poll_of_empty (empty : board.queueOf id command = []) :
    (board.poll id command).2 = board := by
  obtain ⟨frame, after, polled⟩ | ⟨failure, polled⟩ | ⟨unanswered, polled⟩ :=
    board.poll_cases id command
  · have front := (poll_frame polled).1 id command
    rw [if_pos ⟨rfl, rfl⟩, empty] at front
    contradiction
  · rw [polled]
  · rw [polled]

/-- A taker whose mailbox is closed and empty is told so. -/
theorem poll_of_closed (empty : board.queueOf id command = []) (dead : board.isLive id = false) :
    board.poll id command = (.refused (.streamClosed id), board) := by
  obtain ⟨frame, after, polled⟩ | ⟨failure, polled⟩ | ⟨unanswered, polled⟩ :=
    board.poll_cases id command
  · have front := (poll_frame polled).1 id command
    rw [if_pos ⟨rfl, rfl⟩, empty] at front
    contradiction
  · obtain ⟨-, rfl⟩ | ⟨live, -⟩ := poll_refused_cases polled
    · exact polled
    · rw [live] at dead
      contradiction
  · rw [unanswered.live] at dead
    contradiction

/-- Polling concerns the queue of its want only. -/
theorem poll_leaves (id command : UInt32) (board : Switchboard) :
    (∀ other, (board.poll id command).2.isListening other = board.isListening other) ∧
    (∀ other, (board.poll id command).2.isLive other = board.isLive other) ∧
    (∀ other wanted, ¬(other = id ∧ wanted = command) →
      (board.poll id command).2.queueOf other wanted = board.queueOf other wanted) ∧
    (board.poll id command).2.metrics = board.metrics := by
  obtain ⟨frame, after, polled⟩ | ⟨failure, polled⟩ | ⟨unanswered, polled⟩ :=
    board.poll_cases id command
  · obtain ⟨queues, listening, live, -, metrics⟩ := poll_frame polled
    rw [polled]
    refine ⟨listening, live, fun other wanted differs => ?_, metrics⟩
    rw [queues, if_neg differs]
  · rw [polled]
    exact ⟨fun _ => rfl, fun _ => rfl, fun _ _ _ => rfl, rfl⟩
  · rw [polled]
    exact ⟨fun _ => rfl, fun _ => rfl, fun _ _ _ => rfl, rfl⟩

/-- The only frame that waits is handed out, and then none waits. -/
theorem poll_of_single {frame : Frame} (waits : board.queueOf id command = [frame]) :
    (board.poll id command).2.queueOf id command = [] := by
  obtain ⟨after, polled⟩ := poll_of_waiting waits
  have front := (poll_frame polled).1 id command
  rw [if_pos ⟨rfl, rfl⟩, waits] at front
  rw [polled]
  exact (List.cons.inj front).2.symm

end Switchboard

namespace Queue

variable {want : Want} {queue : Queue}

/-- A frame that does not answer a taker leaves its want unanswered. -/
theorem unanswered_route {board : Switchboard} {frame : Frame}
    (unanswered : board.Unanswered want.id want.command)
    (undecided : want.verdict? (.ok frame) = none) :
    (board.route frame).Unanswered want.id want.command := by
  obtain ⟨other, open_still⟩ := Want.verdict?_ok_eq_none undecided
  obtain ⟨listening, live, connected, empty⟩ := unanswered
  refine ⟨?_, ?_, ?_, ?_⟩
  · rwa [Switchboard.isListening_route]
  · rw [Frame.isLive_route, live, open_still]
    rfl
  · rwa [Switchboard.disconnected_route]
  · rw [Switchboard.queueOf_route_of_isListening frame listening, empty]
    simp [Frame.isMailFor, other]

/-- A frame that answers a taker is what the taker finds next. -/
theorem await_of_decided {board : Switchboard} {frame : Frame} {verdict : Reply}
    (receiver : Receiver) (not_close : want.command ≠ Command.close)
    (unanswered : board.Unanswered want.id want.command)
    (decides : want.verdict? (.ok frame) = some verdict) :
    let outcome := await want.id want.command { board := board.route frame, receiver }
    outcome.result = verdict ∧ outcome.state.receiver = receiver ∧
      outcome.state.board = ((board.route frame).poll want.id want.command).2 := by
  have waiting := Switchboard.queueOf_route_of_isListening frame unanswered.listening
  rw [unanswered.empty, List.nil_append] at waiting
  obtain ⟨wanted, rfl⟩ | ⟨closes, rfl⟩ := Want.verdict?_ok_eq_some decides
  · have mail : frame.isMailFor want = true := by
      have open_still : frame.command ≠ Command.close := by
        rw [(Frame.want_eq_iff.1 wanted).2]
        exact not_close
      simp [Frame.isMailFor, wanted, open_still]
    rw [List.filter_cons_of_pos mail] at waiting
    obtain ⟨after, polled⟩ := Switchboard.poll_of_waiting waiting
    rw [polled, await_of_frame polled]
    exact ⟨rfl, rfl, rfl⟩
  · have close := (Frame.closes_iff.1 closes).2
    have no_mail : frame.isMailFor want = false := by simp [Frame.isMailFor, close]
    have dead : (board.route frame).isLive want.id = false := by
      rw [Frame.isLive_route, closes, Bool.not_true, Bool.and_false]
    rw [List.filter_cons_of_neg (by simp [no_mail])] at waiting
    have polled := Switchboard.poll_of_closed waiting dead
    rw [polled, await_of_refused polled]
    exact ⟨rfl, rfl, rfl⟩

/-- **The reading that decides.** A taker without an answer reads frames until one of them, or a
failure, decides, and ends as that one tells. All readings are noted on the board, and a frame that
is handed out is taken off it. -/
theorem await_reads (not_close : want.command ≠ Command.close)
    (unanswered : queue.board.Unanswered want.id want.command) :
    ∃ (front : List Frame) (last verdict : Reply),
      let readings : List Reply := front.map .ok ++ [last]
      Crowd.Gives queue.receiver readings (queue.await want.id want.command).state.receiver ∧
      (∀ frame ∈ front, want.verdict? (.ok frame) = none) ∧ want.verdict? last = some verdict ∧
      (queue.await want.id want.command).result = verdict ∧
      (queue.await want.id want.command).state.board =
        ((queue.board.notes readings).poll want.id want.command).2 := by
  obtain ⟨id, command⟩ := want
  dsimp only at *
  have polled_nothing {board : Switchboard} (unanswered : board.Unanswered id command) :
      board.poll id command = (.nothing, board) :=
    Switchboard.poll_nothing_iff.2 ⟨rfl, unanswered⟩
  fun_induction await id command queue with
  | case1 queue frame board polled =>
    cases polled.symm.trans (polled_nothing unanswered)
  | case2 queue failure board polled =>
    cases polled.symm.trans (polled_nothing unanswered)
  | case3 queue board polled frame receiver read less ih =>
    obtain ⟨rfl, -⟩ := Switchboard.poll_nothing_iff.1 polled
    cases decides : Want.verdict? ⟨id, command⟩ (.ok frame) with
    | none =>
      obtain ⟨front, last, verdict, gives, undecided, decided, result, after⟩ :=
        ih (unanswered_route unanswered decides)
      refine ⟨frame :: front, last, verdict, .of_readFrame read rfl gives, ?_, decided, result,
        after⟩
      exact List.forall_mem_cons.2 ⟨decides, undecided⟩
    | some verdict =>
      obtain ⟨result, received, after⟩ :=
        await_of_decided receiver not_close unanswered decides
      refine ⟨[], .ok frame, verdict, .of_readFrame read rfl ?_, by simp, decides, result, after⟩
      rw [received]
      exact .nothing
  | case4 queue board polled failure receiver read =>
    obtain ⟨rfl, -⟩ := Switchboard.poll_nothing_iff.1 polled
    refine ⟨[], .error failure, .error failure, .of_readFrame read rfl .nothing, by simp, rfl, rfl,
      ?_⟩
    have empty : (queue.board.readFailed failure).queueOf id command = [] := by
      rw [Switchboard.queueOf_readFailed]
      exact unanswered.empty
    exact (Switchboard.poll_of_empty empty).symm

end Queue
end DebugBridge

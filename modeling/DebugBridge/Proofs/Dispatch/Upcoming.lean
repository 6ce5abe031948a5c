import DebugBridge.Proofs.Dispatch.Flow
import DebugBridge.Proofs.Wire.Input

/-!
# What a taker will get

Whoever takes frames alone, from a source without failures, gets what waits in its queue and then
what is on the wire for it, up to the frame that closes its mailbox. Which frames have already been
routed makes no difference to this, nor do the frames for others that stand in between.
-/

namespace DebugBridge

/-- A refusal of a registered id on a connection that stands means that its mailbox is closed. -/
theorem Switchboard.poll_refused_of_connected {id command : UInt32} {board after : Switchboard}
    {failure : Failure} (connected : board.disconnected = false)
    (polled : board.poll id command = (.refused failure, after)) :
    failure = .streamClosed id ∧ board.isLive id = false := by
  rcases poll_refused_cases polled with ⟨dead, same⟩ | ⟨-, ended, -⟩
  · exact ⟨same, dead⟩
  · rw [connected] at ended
    contradiction

namespace Queue

/-- The frames that takers with this want will still get. -/
def upcoming (want : Want) (queue : Queue) : List Frame :=
  queue.board.queueOf want.id want.command ++
    if queue.board.isLive want.id then
      (queue.receiver.frames.takeWhile (!·.closes want.id)).filter (Frame.isMailFor want)
    else []

/-- Whether the mailbox of an id is closed or will be. -/
def isEnding (id : UInt32) (queue : Queue) : Bool :=
  !queue.board.isLive id || queue.receiver.frames.any (Frame.closes id)

/-- The id is registered, the connection stands and the source does not fail. -/
structure IsSteady (id : UInt32) (queue : Queue) : Prop where
  listening : queue.board.isListening id = true
  connected : queue.board.disconnected = false
  clean : queue.receiver.IsClean

section Reading

variable {want : Want} {queue : Queue} {frame : Frame} {receiver : Receiver}

/-- The frame that a taker reads on behalf of all was already among those that it will get, if it
is one of them. -/
theorem upcoming_route (listening : queue.board.isListening want.id = true)
    (live : queue.board.isLive want.id = true)
    (read : queue.receiver.readFrame = .ok frame receiver) :
    upcoming want { board := queue.board.route frame, receiver } = queue.upcoming want := by
  simp only [upcoming, Receiver.frames_of_readFrame read, live, if_true, List.append_assoc,
    Switchboard.queueOf_route_of_isListening frame listening, Frame.isLive_route, Bool.true_and]
  congr 1
  cases closing : frame.closes want.id with
  | true =>
    have not_mail : Frame.isMailFor want frame = false := by
      have close : frame.command = Command.close := (Frame.closes_iff.mp closing).2
      simp [Frame.isMailFor, close]
    simp [closing, not_mail]
  | false =>
    rw [List.takeWhile_cons_of_pos (by simp [closing]), Bool.not_false, if_pos rfl,
      ← List.filter_append, List.singleton_append]

/-- Routing a frame brings the end of an id no nearer and no further. -/
theorem isEnding_route (id : UInt32) (read : queue.receiver.readFrame = .ok frame receiver) :
    isEnding id { board := queue.board.route frame, receiver } = queue.isEnding id := by
  simp only [isEnding, Receiver.frames_of_readFrame read, Frame.isLive_route, List.any_cons,
    Bool.not_and, Bool.not_not, Bool.or_assoc]

/-- A queue stays steady when a frame is read and routed. -/
theorem IsSteady.route (steady : queue.IsSteady want.id) (clean : receiver.IsClean) :
    IsSteady want.id { board := queue.board.route frame, receiver } := by
  refine ⟨?_, ?_, clean⟩
  · rw [Switchboard.isListening_route]
    exact steady.listening
  · rw [Switchboard.disconnected_route]
    exact steady.connected

/-- Polling hands out the first of the frames that a taker will get. -/
theorem upcoming_poll {board : Switchboard}
    (polled : queue.board.poll want.id want.command = (.frame frame, board)) :
    queue.upcoming want = frame :: upcoming want { queue with board } := by
  obtain ⟨queues, -, live, -⟩ := Switchboard.poll_frame polled
  simp only [upcoming, queues want.id want.command, and_self, if_true, live, List.cons_append]

end Reading

/-- Taking from a steady queue gives the next frame to come if there is one. Otherwise it tells of
the end of the stream, or of the end of the input if the device has not ended the stream. -/
theorem await_cases {want : Want} {queue : Queue} (steady : queue.IsSteady want.id) :
    (∃ frame after, queue.await want.id want.command = .ok frame after ∧ after.IsSteady want.id ∧
      queue.upcoming want = frame :: after.upcoming want ∧
      after.isEnding want.id = queue.isEnding want.id) ∨
    (∃ after, queue.await want.id want.command = .error (.streamClosed want.id) after ∧
      after.IsSteady want.id ∧ after.board.isLive want.id = false ∧ queue.upcoming want = [] ∧
      after.upcoming want = [] ∧ queue.isEnding want.id = true) ∨
    (∃ expected actual after,
      queue.await want.id want.command = .error (.truncatedFrame expected actual) after ∧
      after.board.isLive want.id = false ∧ queue.upcoming want = [] ∧ after.upcoming want = [] ∧
      queue.isEnding want.id = false) := by
  fun_induction Queue.await want.id want.command queue with
  | case1 queue frame board polled =>
    obtain ⟨-, listening, live, connected, -⟩ := Switchboard.poll_frame polled
    refine .inl ⟨frame, _, rfl, ⟨?_, ?_, steady.clean⟩, upcoming_poll polled, ?_⟩
    · rw [listening]
      exact steady.listening
    · rw [connected]
      exact steady.connected
    · simp only [isEnding, live]
  | case2 queue failure board polled =>
    obtain ⟨rfl, empty⟩ := Switchboard.poll_refused polled
    obtain ⟨rfl, dead⟩ := Switchboard.poll_refused_of_connected steady.connected polled
    have nothing : queue.upcoming want = [] := by simp [upcoming, empty, dead]
    refine .inr (.inl ⟨_, rfl, steady, dead, nothing, nothing, ?_⟩)
    simp [isEnding, dead]
  | case3 queue board polled frame receiver read _ ih =>
    obtain ⟨rfl, unanswered⟩ := Switchboard.poll_nothing_iff.mp polled
    have clean : receiver.IsClean := by
      rcases steady.clean.readFrame with ⟨_, _, same, clean⟩ | ⟨_, _, _, failed, -⟩
      · rw [read, Outcome.ok.injEq] at same
        rw [same.2]
        exact clean
      · rw [read] at failed
        contradiction
    have routed := upcoming_route unanswered.listening unanswered.live read
    have ending := isEnding_route want.id read
    rw [← routed, ← ending]
    exact ih (steady.route clean)
  | case4 queue board polled failure receiver read =>
    obtain ⟨rfl, unanswered⟩ := Switchboard.poll_nothing_iff.mp polled
    rcases steady.clean.readFrame with ⟨_, _, same, -⟩ | ⟨expected, actual, _, failed, none⟩
    · rw [read] at same
      contradiction
    · rw [read, Outcome.error.injEq] at failed
      obtain ⟨rfl, -⟩ := failed
      have dead : (queue.board.readFailed (.truncatedFrame expected actual)).isLive want.id =
          false := Switchboard.isLive_disconnect want.id queue.board
      refine .inr (.inr ⟨expected, actual, _, rfl, dead, ?_, ?_, ?_⟩)
      · simp [upcoming, unanswered.empty, none]
      · simp [upcoming, unanswered.empty, dead]
      · simp [isEnding, unanswered.live, none]

/-- The same for a taker whose id is registered. -/
theorem take_of_isSteady {want : Want} {queue : Queue} (steady : queue.IsSteady want.id) :
    queue.take want.id want.command = queue.await want.id want.command := by
  rw [take, Switchboard.turnAway_eq_none_iff.mpr steady.listening]

end Queue
end DebugBridge

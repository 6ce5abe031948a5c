import DebugBridge.Proofs.Dispatch.Flow
import DebugBridge.Proofs.Wire.Lasting

/-!
# Taking a frame again

A taker that fails temporarily has routed what it read before, and whoever repeats the attempt goes
on from there. Nothing but the tape of the receiver and the board decides what takers get.
-/

namespace DebugBridge.Queue

variable {id command : UInt32} {queue : Queue}

/-- Queues that differ in temporary failures at most, and in how much they have buffered. -/
structure Agrees (first second : Queue) : Prop where
  board : first.board = second.board
  receiver : first.receiver.Agrees second.receiver

/-- A queue whose source has no temporary failure to report. -/
def IsCalm (queue : Queue) : Prop :=
  queue.receiver.IsCalm

/-- The failures in store, beside those of a sink. -/
def troubles (writes : Nat) (queue : Queue) : Troubles :=
  queue.receiver.troubles writes

section Turns

variable {board : Switchboard} {frame : Frame} {failure : Failure} {receiver : Receiver}

/-- A frame that waits is handed out without a read. -/
theorem await_of_frame (polled : queue.board.poll id command = (.frame frame, board)) :
    queue.await id command = .ok frame { queue with board } := by
  rw [await, polled]

/-- One who is refused is told so without a read. -/
theorem await_of_refused (polled : queue.board.poll id command = (.refused failure, board)) :
    queue.await id command = .error failure { queue with board } := by
  rw [await, polled]

/-- While nothing waits a frame is read and routed, and the wait goes on. -/
theorem await_of_read (polled : queue.board.poll id command = (.nothing, board))
    (read : queue.receiver.readFrame = .ok frame receiver) :
    queue.await id command = await id command { board := board.route frame, receiver } := by
  rw [await, polled]
  simp only
  split <;> rename_i same <;> rw [read] at same
  · cases same
    rfl
  · contradiction

/-- While nothing waits a failed read ends the attempt, and the board takes note of it. -/
theorem await_of_read_error (polled : queue.board.poll id command = (.nothing, board))
    (read : queue.receiver.readFrame = .error failure receiver) :
    queue.await id command = .error failure { board := board.readFailed failure, receiver } := by
  rw [await, polled]
  simp only
  split <;> rename_i same <;> rw [read] at same
  · contradiction
  · cases same
    rfl

/-- When nothing waits for a taker, all that matters about the receiver is what it reads. -/
theorem await_congr (polled : queue.board.poll id command = (.nothing, board))
    (same : receiver.readFrame = queue.receiver.readFrame) :
    await id command { queue with receiver } = queue.await id command := by
  have other_polled : ({ queue with receiver } : Queue).board.poll id command =
      (.nothing, board) := polled
  cases read : queue.receiver.readFrame with
  | ok frame after =>
    rw [await_of_read polled read, await_of_read other_polled (same.trans read)]
  | error failure after =>
    rw [await_of_read_error polled read, await_of_read_error other_polled (same.trans read)]

end Turns

/-- Waiting reports the failures in store one at a time, since it ends with the first that a read
reports. -/
theorem await_reports (writes : Nat) (queue : Queue) :
    Reports (troubles writes) queue (queue.await id command) := by
  fun_induction await id command queue with
  | case1 queue frame board polled => exact .ok rfl (Nat.le_refl writes)
  | case2 queue failure board polled =>
    refine .nothing rfl (Nat.le_refl writes) fun other failed => ?_
    cases failed
    refine ⟨?_, Switchboard.interrupted_poll polled⟩
    rcases Switchboard.poll_refused_cases polled with ⟨-, rfl⟩ | ⟨-, -, rfl⟩ <;> rfl
  | case3 queue board polled frame receiver read _ ih =>
    have reading := Receiver.readFrame_reports writes queue.receiver
    rw [read] at reading
    exact ih.of_before reading.of_ok.1 reading.of_ok.2
  | case4 queue board polled failure receiver read =>
    have reading := Receiver.readFrame_reports writes queue.receiver
    rw [read] at reading
    exact reading.pass_on rfl rfl

/-- Taking a frame reports the failures in store one at a time. -/
theorem take_reports (writes : Nat) (queue : Queue) :
    Reports (troubles writes) queue (queue.take id command) := by
  unfold take
  split
  · next failure turned =>
    refine .nothing rfl (Nat.le_refl writes) fun other failed => ?_
    cases failed
    rw [Switchboard.failure_of_turnAway turned]
    exact ⟨rfl, rfl⟩
  · exact await_reports writes queue

/-- A calm queue that has a mailbox for the id. -/
def Serves (id : UInt32) (queue : Queue) : Prop :=
  queue.IsCalm ∧ queue.board.isListening id = true

/-- Queues that agree give their takers the same answers. -/
theorem Agrees.poll {first second : Queue} {polled : Poll × Switchboard}
    (agrees : first.Agrees second) (same : first.board.poll id command = polled) :
    second.board.poll id command = polled := by
  rwa [← agrees.board]

/-- Waiting fares as it does without temporary failures, or it fails temporarily where the calm
queue comes past, with the same frames routed. -/
theorem await_resumes {rough smooth : Queue} (agrees : rough.Agrees smooth)
    (serves : smooth.Serves id) :
    Resumes Agrees (Serves id) (await id command) rough smooth := by
  fun_induction await id command rough generalizing smooth with
  | case1 queue frame board polled =>
    have same_polled := agrees.poll polled
    refine .settled ?_
    rw [await_of_frame polled, await_of_frame same_polled]
    exact .ok ⟨rfl, agrees.receiver⟩
  | case2 queue failure board polled =>
    have same_polled := agrees.poll polled
    refine .settled ?_
    rw [await_of_refused polled, await_of_refused same_polled]
    exact .error ⟨rfl, agrees.receiver⟩
  | case3 queue board polled frame receiver read _ ih =>
    have same_polled := agrees.poll polled
    cases Receiver.readFrame_resumes agrees.receiver serves.1 with
    | settled outcomes =>
      rw [read] at outcomes
      obtain ⟨other, same_read, receivers⟩ := outcomes.of_ok
      have reading := Receiver.readFrame_reports 0 smooth.receiver
      rw [same_read] at reading
      have agree : Agrees { board := board.route frame, receiver }
          { board := board.route frame, receiver := other } := ⟨rfl, receivers⟩
      have still_serves : Serves id { board := board.route frame, receiver := other } := by
        refine ⟨reading.calm serves.1, ?_⟩
        obtain ⟨rfl, -⟩ := Switchboard.poll_nothing_iff.mp same_polled
        rw [Switchboard.isListening_route]
        exact serves.2
      exact (ih agree still_serves).of_before (await_of_read polled read)
        (await_of_read same_polled same_read)
    | again failed =>
      rw [read] at failed
      contradiction
  | case4 queue board polled failure receiver read =>
    have same_polled := agrees.poll polled
    cases Receiver.readFrame_resumes agrees.receiver serves.1 with
    | settled outcomes =>
      rw [read] at outcomes
      obtain ⟨other, same_read, receivers⟩ := outcomes.of_error
      refine .settled ?_
      rw [await_of_read_error polled read, await_of_read_error same_polled same_read]
      exact .error ⟨rfl, receivers⟩
    | @again other after middle failed transient receivers still_calm same =>
      rw [read] at failed
      cases failed
      have kept : queue.board.readFailed failure = smooth.board := by
        rw [Switchboard.readFailed, if_pos transient, agrees.board]
      obtain ⟨rfl, -⟩ := Switchboard.poll_nothing_iff.mp polled
      have agree : Agrees { board := queue.board.readFailed failure, receiver }
          { smooth with receiver := middle } := ⟨kept, receivers⟩
      exact .again (await_of_read_error polled read) transient agree ⟨still_calm, serves.2⟩
        (await_congr same_polled same)

/-- Taking fares as it does without temporary failures, or it fails temporarily and may be repeated.
-/
theorem take_resumes {rough smooth : Queue} (agrees : rough.Agrees smooth)
    (calm : smooth.IsCalm) : Resumes Agrees IsCalm (take id command) rough smooth := by
  cases turned : smooth.board.turnAway id with
  | some failure =>
    have same_turned := turned
    rw [← agrees.board] at same_turned
    refine .settled ?_
    rw [take, take, turned, same_turned]
    exact .error agrees
  | none =>
    have taking {queue : Queue} (listening : queue.board.isListening id = true) :
        queue.take id command = queue.await id command := by
      rw [take, Switchboard.turnAway_eq_none_iff.mpr listening]
    have listening := Switchboard.turnAway_eq_none_iff.mp turned
    have rough_taking : rough.take id command = rough.await id command := by
      rw [← agrees.board] at listening
      exact taking listening
    cases @await_resumes id command _ _ agrees ⟨calm, listening⟩ with
    | settled outcomes =>
      refine .settled ?_
      rw [rough_taking, taking listening]
      exact outcomes
    | again failed transient states still_serves same =>
      refine .again (rough_taking.trans failed) transient states still_serves.1 ?_
      rw [taking still_serves.2, taking listening, same]

end DebugBridge.Queue

import DebugBridge.Dispatch.Switchboard
import DebugBridge.Wire.Receiver

/-!
# The dispatch queue

A dispatch queue is a switchboard with the receiver that feeds it. `Queue.take` is what a single
taker does: it polls its mailbox and, while there is nothing in it, reads frames and routes them,
to itself and to others, until its own frame arrives or no more can come.
-/

namespace DebugBridge

/-- A switchboard and the receiver that feeds it. -/
structure Queue where
  board : Switchboard := {}
  receiver : Receiver

namespace Queue

/-- How much the queue can still hand out: what waits and what has not been received yet. -/
def backlog (queue : Queue) : Nat :=
  queue.board.weight + queue.receiver.remaining

/-- Polls and reads until there is an answer. -/
def await (id command : UInt32) (queue : Queue) : Outcome Queue Frame :=
  match queue.board.poll id command with
  | (.frame frame, board) => .ok frame { queue with board }
  | (.refused failure, board) => .error failure { queue with board }
  | (.nothing, board) =>
    match read : queue.receiver.readFrame with
    | .ok frame receiver =>
      have := Receiver.remaining_readFrame _ read
      await id command { board := board.route frame, receiver }
    | .error failure receiver => .error failure { board := board.readFailed failure, receiver }
  termination_by queue.receiver.remaining
  decreasing_by simp only [Header.size] at this; omega

/-- The next frame with a command for an id, which must be registered. -/
def take (id command : UInt32) (queue : Queue) : Outcome Queue Frame :=
  match queue.board.turnAway id with
  | some failure => .error failure queue
  | none => queue.await id command

/-- What is taken leaves the backlog. -/
theorem backlog_await {id command : UInt32} {queue after : Queue} {frame : Frame}
    (taken : queue.await id command = .ok frame after) :
    after.backlog + (frame.payload.length + 2) ≤ queue.backlog := by
  fun_induction await id command queue with
  | case1 queue found board polled =>
    simp only [Outcome.ok.injEq] at taken
    obtain ⟨rfl, rfl⟩ := taken
    have := Switchboard.weight_poll polled
    simp only [backlog]
    omega
  | case2 => simp only [reduceCtorEq] at taken
  | case3 queue board polled arrived receiver read cost ih =>
    have := ih taken
    have polling := Switchboard.weight_poll_le id command queue.board
    rw [polled] at polling
    have routing := board.weight_route_le arrived
    simp only [backlog, Header.size] at this cost polling ⊢
    omega
  | case4 => simp only [reduceCtorEq] at taken

/-- A failing attempt never adds to the backlog. -/
theorem backlog_await_error {id command : UInt32} {queue after : Queue} {failure : Failure}
    (failed : queue.await id command = .error failure after) :
    after.backlog ≤ queue.backlog := by
  fun_induction await id command queue with
  | case1 => simp only [reduceCtorEq] at failed
  | case2 queue refused board polled =>
    simp only [Outcome.error.injEq] at failed
    obtain ⟨-, rfl⟩ := failed
    have polling := Switchboard.weight_poll_le id command queue.board
    rw [polled] at polling
    simp only [backlog] at polling ⊢
    omega
  | case3 queue board polled arrived receiver read cost ih =>
    have := ih failed
    have polling := Switchboard.weight_poll_le id command queue.board
    rw [polled] at polling
    have routing := board.weight_route_le arrived
    simp only [backlog, Header.size] at this cost polling ⊢
    omega
  | case4 queue board polled refused receiver read =>
    simp only [Outcome.error.injEq] at failed
    obtain ⟨-, rfl⟩ := failed
    have polling := Switchboard.weight_poll_le id command queue.board
    rw [polled] at polling
    have reading := Receiver.remaining_readFrame_error _ read
    simp only [backlog, Switchboard.weight_readFailed] at polling ⊢
    omega

theorem backlog_take {id command : UInt32} {queue after : Queue} {frame : Frame}
    (taken : queue.take id command = .ok frame after) :
    after.backlog + (frame.payload.length + 2) ≤ queue.backlog := by
  unfold take at taken
  split at taken
  · simp only [reduceCtorEq] at taken
  · exact backlog_await taken

theorem backlog_take_error {id command : UInt32} {queue after : Queue} {failure : Failure}
    (failed : queue.take id command = .error failure after) : after.backlog ≤ queue.backlog := by
  unfold take at failed
  split at failed
  · simp only [Outcome.error.injEq] at failed
    exact Nat.le_of_eq (by rw [← failed.2])
  · exact backlog_await_error failed

/-- Interrupted reads are repeated, so no taker is told of an interruption. -/
theorem interrupted_await {id command : UInt32} {queue after : Queue} {failure : Failure}
    (failed : queue.await id command = .error failure after) :
    failure.isInterrupted = false := by
  fun_induction await id command queue with
  | case1 => simp only [reduceCtorEq] at failed
  | case2 queue refused board polled =>
    simp only [Outcome.error.injEq] at failed
    exact failed.1 ▸ Switchboard.interrupted_poll polled
  | case3 _ _ _ _ _ _ _ ih => exact ih failed
  | case4 queue board polled refused receiver read =>
    simp only [Outcome.error.injEq] at failed
    exact failed.1 ▸ Receiver.interrupted_readFrame read

/-- No attempt to take a frame is reported as interrupted. -/
theorem interrupted_take {id command : UInt32} {queue after : Queue} {failure : Failure}
    (failed : queue.take id command = .error failure after) : failure.isInterrupted = false := by
  unfold take at failed
  split at failed
  · next refused unknown =>
    simp only [Outcome.error.injEq] at failed
    unfold Switchboard.turnAway at unknown
    split at unknown
    · contradiction
    · simp only [Option.some.injEq] at unknown
      rw [← failed.1, ← unknown]
      rfl
  · exact interrupted_await failed

end Queue
end DebugBridge

import DebugBridge.Dispatch.Mailbox
import DebugBridge.Failure
import DebugBridge.Metrics

/-!
# The switchboard

Many streams share one receiver. The switchboard is what they share under one lock: the mailboxes
and the mark that the connection has ended. Each function here is one step made while the lock is
held. A taker whose id is not registered is turned away; any other polls its mailbox until it has
an answer. While it has none, one taker at a time reads a frame on behalf of all, which is then
routed.
-/

namespace DebugBridge

/-- The shared state of all takers. -/
structure Switchboard where
  boxes : Mailboxes := {}
  /-- Set once the connection has ended. -/
  disconnected : Bool := false
  metrics : Metrics := {}

/-- What polling a mailbox finds. -/
inductive Poll where
  | frame (frame : Frame)
  | refused (failure : Failure)
  /-- Nothing yet: the taker has to read, or to wait for the taker that reads. -/
  | nothing

namespace Switchboard

/-- Registers an id with a fresh, live mailbox. -/
def listen (id : UInt32) (board : Switchboard) : Switchboard :=
  { board with boxes := board.boxes.put id {} }

/-- Ends the registration of an id; its waiting frames are lost. -/
def unlisten (id : UInt32) (board : Switchboard) : Switchboard :=
  { board with boxes := board.boxes.erase id }

/-- How many frames with a command wait for an id. -/
def waitingCount (id command : UInt32) (board : Switchboard) : Nat :=
  match board.boxes.find? id with
  | none => 0
  | some box => (box.queue command).length

/-- Throws away the frames with a command that wait for an id. -/
def discard (id command : UInt32) (board : Switchboard) : Switchboard :=
  match board.boxes.find? id with
  | none => board
  | some box => { board with boxes := board.boxes.put id (box.discard command) }

/-- Whether an id is registered. -/
def isListening (id : UInt32) (board : Switchboard) : Bool :=
  (board.boxes.find? id).isSome

/-- Whether an id is registered and neither the device nor the end of the connection closed it. -/
def isLive (id : UInt32) (board : Switchboard) : Bool :=
  match board.boxes.find? id with
  | none => false
  | some box => box.live

/-- How many ids are registered. -/
def listeningCount (board : Switchboard) : Nat :=
  board.boxes.entries.length

/-- Ends the connection: no mailbox is live any more. -/
def disconnect (board : Switchboard) : Switchboard :=
  { board with disconnected := true, boxes := board.boxes.silence }

/-- A taker whose id is not registered is turned away. -/
def turnAway (id : UInt32) (board : Switchboard) : Option Failure :=
  if board.isListening id then none else some (.notListening id)

/-- Looks for a frame with a command for an id. A waiting frame is handed out even if the
connection has ended. -/
def poll (id command : UInt32) (board : Switchboard) : Poll × Switchboard :=
  match board.boxes.find? id with
  | none => (.refused (.streamClosed id), board)
  | some box =>
    match box.pop? command with
    | some (frame, box) => (.frame frame, { board with boxes := board.boxes.put id box })
    | none =>
      if !box.live then (.refused (.streamClosed id), board)
      else if board.disconnected then (.refused .connectionClosed, board)
      else (.nothing, board)

/-- Delivers a frame that was read: a CLSE ends the life of the mailbox it is for, any other
frame is put into it, and a frame for an unregistered id is dropped. -/
def route (frame : Frame) (board : Switchboard) : Switchboard :=
  match board.boxes.find? frame.arg1 with
  | none => { board with metrics := board.metrics.frameDropped }
  | some box =>
    let box := if frame.command = Command.close then { box with live := false } else box.push frame
    { board with boxes := board.boxes.put frame.arg1 box }

/-- Takes note of a failed read: the connection ends unless a retry may help. -/
def readFailed (failure : Failure) (board : Switchboard) : Switchboard :=
  if failure.isTransient then board else board.disconnect

/-- What all waiting frames amount to. -/
def weight (board : Switchboard) : Nat :=
  board.boxes.weight

theorem weight_unlisten_le (id : UInt32) (board : Switchboard) :
    (board.unlisten id).weight ≤ board.weight :=
  Mailboxes.weight_erase_le id board.boxes

theorem weight_discard_le (id command : UInt32) (board : Switchboard) :
    (board.discard id command).weight ≤ board.weight := by
  unfold discard
  split
  · exact Nat.le_refl _
  · next box registered =>
    have lighter := Mailbox.weight_discard_le command box
    have replaced := Mailboxes.weight_put_le (box.discard command) registered
    simp only [weight]
    omega

/-- A frame handed out takes its weight along. -/
theorem weight_poll {id command : UInt32} {board after : Switchboard} {frame : Frame}
    (found : board.poll id command = (.frame frame, after)) :
    after.weight + (frame.payload.length + 2) ≤ board.weight := by
  unfold poll at found
  split at found
  · simp only [Prod.mk.injEq, reduceCtorEq, false_and] at found
  · next box registered =>
    split at found
    · next popped rest pop =>
      simp only [Prod.mk.injEq, Poll.frame.injEq] at found
      obtain ⟨rfl, rfl⟩ := found
      have lighter := Mailbox.weight_pop? pop
      have replaced := Mailboxes.weight_put_le rest registered
      simp only [weight]
      omega
    · split at found
      · simp only [Prod.mk.injEq, reduceCtorEq, false_and] at found
      · split at found <;> simp only [Prod.mk.injEq, reduceCtorEq, false_and] at found

/-- Polling never adds weight. -/
theorem weight_poll_le (id command : UInt32) (board : Switchboard) :
    (board.poll id command).2.weight ≤ board.weight := by
  match found : board.poll id command with
  | (.frame frame, after) => exact Nat.le_of_add_right_le (weight_poll found)
  | (.refused failure, after) | (.nothing, after) =>
    unfold poll at found
    split at found
    · simp_all
    · split at found
      · simp at found
      · split at found
        · simp_all
        · split at found <;> simp_all

/-- No refusal is an interruption. -/
theorem interrupted_poll {id command : UInt32} {board after : Switchboard} {failure : Failure}
    (polled : board.poll id command = (.refused failure, after)) :
    failure.isInterrupted = false := by
  unfold poll at polled
  split at polled
  · simp only [Prod.mk.injEq, Poll.refused.injEq] at polled
    rw [← polled.1]
    rfl
  · split at polled
    · simp only [Prod.mk.injEq, reduceCtorEq, false_and] at polled
    · split at polled
      · simp only [Prod.mk.injEq, Poll.refused.injEq] at polled
        rw [← polled.1]
        rfl
      · split at polled
        · simp only [Prod.mk.injEq, Poll.refused.injEq] at polled
          rw [← polled.1]
          rfl
        · simp only [Prod.mk.injEq, reduceCtorEq, false_and] at polled

/-- A frame that is routed adds at most its own weight. -/
theorem weight_route_le (frame : Frame) (board : Switchboard) :
    (board.route frame).weight ≤ board.weight + (frame.payload.length + 2) := by
  unfold route
  split
  · simp only [weight]
    omega
  · next box registered =>
    extract_lets next
    have lighter : next.weight ≤ box.weight + (frame.payload.length + 2) := by
      simp only [next]
      split
      · simp [Mailbox.weight]
      · simp
    have replaced := Mailboxes.weight_put_le next registered
    simp only [weight]
    omega

theorem weight_readFailed (failure : Failure) (board : Switchboard) :
    (board.readFailed failure).weight = board.weight := by
  unfold readFailed
  split
  · rfl
  · exact Mailboxes.weight_silence board.boxes

end Switchboard
end DebugBridge

import DebugBridge.Dispatch.Queue
import DebugBridge.Wire.Transmitter

/-!
# Channels

The channel is what a connection and all its streams share: the queue that frames are taken from
and the transmitter that sends them. It outlives neither of its halves being closed; what was
closed refuses further work.
-/

namespace DebugBridge

/-- The two halves of an established connection. -/
structure Channel where
  queue : Queue
  transmitter : Transmitter := {}
  /-- What is counted neither by the queue nor by the transmitter. -/
  metrics : Metrics := {}

namespace Channel

/-- Everything counted on this channel. -/
def counts (channel : Channel) : Metrics :=
  channel.metrics + channel.transmitter.metrics + channel.queue.board.metrics +
    channel.queue.receiver.metrics

/-- Changes the switchboard. -/
def onBoard (step : Switchboard → Switchboard) (channel : Channel) : Channel :=
  { channel with queue.board := step channel.queue.board }

/-- Registers an id. -/
def listen (id : UInt32) : Channel → Channel :=
  onBoard (Switchboard.listen id)

/-- Ends the registration of an id. -/
def unlisten (id : UInt32) : Channel → Channel :=
  onBoard (Switchboard.unlisten id)

/-- Throws away the frames with a command that wait for an id. -/
def discard (id command : UInt32) : Channel → Channel :=
  onBoard (Switchboard.discard id command)

/-- Whether the stream with this id is neither closed nor cut off. -/
def isLive (id : UInt32) (channel : Channel) : Bool :=
  channel.queue.board.isLive id

/-- Takes the next frame with a command for an id. -/
def take (id command : UInt32) (channel : Channel) : Outcome Channel Frame :=
  (channel.queue.take id command).mapState fun queue => { channel with queue }

/-- Has the transmitter send something. -/
def send (step : Transmitter → Outcome Transmitter Unit) (channel : Channel) :
    Outcome Channel Unit :=
  (step channel.transmitter).mapState fun transmitter => { channel with transmitter }

/-- How much the queue can still hand out. -/
abbrev backlog (channel : Channel) : Nat :=
  channel.queue.backlog

/-- How many calls to the sink are still answered out of the ordinary. -/
abbrev irregular (channel : Channel) : Nat :=
  channel.transmitter.irregular

@[simp] theorem queue_send (step : Transmitter → Outcome Transmitter Unit) (channel : Channel) :
    (channel.send step).state.queue = channel.queue := by
  simp [send]

@[simp] theorem backlog_send (step : Transmitter → Outcome Transmitter Unit) (channel : Channel) :
    (channel.send step).state.backlog = channel.backlog := by
  simp only [backlog, queue_send]

@[simp] theorem transmitter_take (id command : UInt32) (channel : Channel) :
    (channel.take id command).state.transmitter = channel.transmitter := by
  simp [take]

theorem backlog_unlisten_le (id : UInt32) (channel : Channel) :
    (channel.unlisten id).backlog ≤ channel.backlog :=
  Nat.add_le_add_right (Switchboard.weight_unlisten_le id channel.queue.board) _

theorem backlog_discard_le (id command : UInt32) (channel : Channel) :
    (channel.discard id command).backlog ≤ channel.backlog :=
  Nat.add_le_add_right (Switchboard.weight_discard_le id command channel.queue.board) _

/-- A frame taken leaves the backlog. -/
theorem backlog_take {id command : UInt32} {channel after : Channel} {frame : Frame}
    (taken : channel.take id command = .ok frame after) :
    after.backlog + (frame.payload.length + 2) ≤ channel.backlog := by
  unfold take at taken
  cases result : channel.queue.take id command with
  | error failure queue => simp only [result, Outcome.mapState, reduceCtorEq] at taken
  | ok found queue =>
    simp only [result, Outcome.mapState, Outcome.ok.injEq] at taken
    obtain ⟨rfl, rfl⟩ := taken
    exact Queue.backlog_take result

theorem backlog_take_error {id command : UInt32} {channel after : Channel} {failure : Failure}
    (failed : channel.take id command = .error failure after) :
    after.backlog ≤ channel.backlog := by
  unfold take at failed
  cases result : channel.queue.take id command with
  | ok found queue => simp only [result, Outcome.mapState, reduceCtorEq] at failed
  | error reason queue =>
    simp only [result, Outcome.mapState, Outcome.error.injEq] at failed
    obtain ⟨rfl, rfl⟩ := failed
    exact Queue.backlog_take_error result

/-- Taking is never reported as interrupted. -/
theorem interrupted_take {id command : UInt32} {channel after : Channel} {failure : Failure}
    (failed : channel.take id command = .error failure after) :
    failure.isInterrupted = false := by
  unfold take at failed
  cases result : channel.queue.take id command with
  | ok found queue => simp only [result, Outcome.mapState, reduceCtorEq] at failed
  | error reason queue =>
    simp only [result, Outcome.mapState, Outcome.error.injEq] at failed
    exact failed.1 ▸ Queue.interrupted_take result

end Channel
end DebugBridge

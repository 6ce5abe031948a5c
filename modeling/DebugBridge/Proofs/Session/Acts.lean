import DebugBridge.Proofs.Dispatch.Ending
import DebugBridge.Proofs.Session.Reading
import DebugBridge.Proofs.Wire.Output
import DebugBridge.Session.Shell

/-!
# What streams do to their channel

Whatever is done with a stream comes, on its channel, to a few acts one after the other: ids are
registered, their frames are taken or thrown away, frames are sent and streams are counted. What
every act keeps is therefore kept by all use of streams.
-/

namespace DebugBridge.Channel

/-- What is done to a channel on behalf of a stream. -/
inductive Act where
  | listen (id : UInt32)
  | unlisten (id : UInt32)
  | discard (id command : UInt32)
  | take (id command : UInt32)
  | send (command arg0 arg1 : UInt32) (payload : Bytes)
  | countOpened
  | countClosed

/-- The channel after an act, whether it succeeds or not. -/
def afterAct (channel : Channel) : Act → Channel
  | .listen id => channel.listen id
  | .unlisten id => channel.unlisten id
  | .discard id command => channel.discard id command
  | .take id command => (channel.take id command).state
  | .send command arg0 arg1 payload =>
    (channel.send (Transmitter.send command arg0 arg1 payload)).state
  | .countOpened => { channel with metrics := channel.metrics.streamOpened }
  | .countClosed => { channel with metrics := channel.metrics.streamClosed }

/-- Acts lead from one state of a channel to another. -/
def Leads (before after : Channel) : Prop :=
  ∃ acts : List Act, after = acts.foldl afterAct before

/-- What every act keeps is kept. -/
theorem Leads.keeps {before after : Channel} (leads : before.Leads after) {P : Channel → Prop}
    (kept : ∀ act channel, P channel → P (channel.afterAct act)) (holds : P before) : P after := by
  obtain ⟨acts, rfl⟩ := leads
  induction acts generalizing before with
  | nil => exact holds
  | cons act acts ih => exact ih (kept act before holds)

end DebugBridge.Channel

namespace DebugBridge.Metrics

/-- The counters apart from those of frames, which count nothing. -/
def apartFromFrames (counts : Metrics) : Metrics :=
  { counts with
    framesSent := 0, framesReceived := 0, framesDropped := 0, bytesSent := 0, bytesReceived := 0 }

variable {left right leftToo rightToo : Metrics}

theorem apartFromFrames_add_congr (same : left.apartFromFrames = leftToo.apartFromFrames)
    (also_same : right.apartFromFrames = rightToo.apartFromFrames) :
    (left + right).apartFromFrames = (leftToo + rightToo).apartFromFrames := by
  change left.apartFromFrames + right.apartFromFrames = _
  rw [same, also_same]
  rfl

/-- The counters of handshakes: begun, succeeded, failed. -/
def handshakes (counts : Metrics) : UInt64 × UInt64 × UInt64 :=
  (counts.handshakesTotal, counts.handshakesSuccess, counts.handshakesFailed)

theorem handshakes_congr
    (same : left.apartFromFrames = right.apartFromFrames) : left.handshakes = right.handshakes := by
  have counted := congrArg handshakes same
  exact counted

end DebugBridge.Metrics

namespace DebugBridge

/-- Reading a frame counts frames and bytes at most. -/
theorem Receiver.apartFromFrames_readFrame (receiver : Receiver) :
    receiver.readFrame.state.metrics.apartFromFrames = receiver.metrics.apartFromFrames := by
  fun_induction readFrame receiver with
  | case1 => rfl
  | case2 receiver incomplete pieces source after _ _ _ _ outcome ih => exact ih
  | case3 => rfl
  | case4 => rfl

/-- Routing a frame counts frames at most. -/
theorem Switchboard.apartFromFrames_route (frame : Frame) (board : Switchboard) :
    (board.route frame).metrics.apartFromFrames = board.metrics.apartFromFrames := by
  unfold route
  split <;> rfl

/-- Sending a frame counts frames and bytes at most. -/
theorem Transmitter.apartFromFrames_send (command arg0 arg1 : UInt32) (payload : Bytes)
    (transmitter : Transmitter) :
    (transmitter.send command arg0 arg1 payload).state.metrics.apartFromFrames =
      transmitter.metrics.apartFromFrames := by
  rw [metrics_send]
  split <;> rfl

/-- What taking a frame leaves alone. -/
structure Queue.Keeps (before after : Queue) : Prop where
  on_board : after.board.metrics.apartFromFrames = before.board.metrics.apartFromFrames
  on_receiver : after.receiver.metrics.apartFromFrames = before.receiver.metrics.apartFromFrames
  disconnected : before.board.disconnected = true → after.board.disconnected = true

/-- What each of two operations leaves alone is left alone by one after the other. -/
theorem Queue.Keeps.trans {before middle after : Queue} (first : before.Keeps middle)
    (second : middle.Keeps after) : before.Keeps after where
  on_board := second.on_board.trans first.on_board
  on_receiver := second.on_receiver.trans first.on_receiver
  disconnected := fun ended => second.disconnected (first.disconnected ended)

/-- Waiting for a frame counts frames at most and takes no mark of the end back. -/
theorem Queue.keeps_await (id command : UInt32) (queue : Queue) :
    queue.Keeps (queue.await id command).state := by
  fun_induction await id command queue with
  | case1 queue frame board polled =>
    obtain ⟨-, -, -, disconnected, metrics⟩ := Switchboard.poll_frame polled
    exact ⟨congrArg _ metrics, rfl, fun ended => disconnected.trans ended⟩
  | case2 queue failure board polled =>
    obtain ⟨rfl, -⟩ := Switchboard.poll_refused polled
    exact ⟨rfl, rfl, fun ended => ended⟩
  | case3 queue board polled frame receiver read less ih =>
    obtain ⟨rfl, -⟩ := Switchboard.poll_nothing_iff.1 polled
    have received := queue.receiver.apartFromFrames_readFrame
    rw [read] at received
    refine Keeps.trans ⟨Switchboard.apartFromFrames_route .., received, ?_⟩ ih
    intro ended
    rw [Switchboard.disconnected_route, ended]
  | case4 queue board polled failure receiver read =>
    obtain ⟨rfl, -⟩ := Switchboard.poll_nothing_iff.1 polled
    have received := queue.receiver.apartFromFrames_readFrame
    rw [read] at received
    refine ⟨?_, received, fun ended => by simp [ended]⟩
    rw [Outcome.state_error, Switchboard.metrics_readFailed]

/-- Taking a frame counts frames at most and takes no mark of the end back. -/
theorem Queue.keeps_take (id command : UInt32) (queue : Queue) :
    queue.Keeps (queue.take id command).state := by
  unfold take
  split
  · exact ⟨rfl, rfl, fun ended => ended⟩
  · exact queue.keeps_await id command

namespace Channel

/-- Counters stay the same if each part keeps its own. -/
theorem apartFromFrames_congr {before after : Channel}
    (own : after.metrics.apartFromFrames = before.metrics.apartFromFrames)
    (sent : after.transmitter.metrics.apartFromFrames =
      before.transmitter.metrics.apartFromFrames)
    (on_board : after.queue.board.metrics.apartFromFrames =
      before.queue.board.metrics.apartFromFrames)
    (received : after.queue.receiver.metrics.apartFromFrames =
      before.queue.receiver.metrics.apartFromFrames) :
    after.counts.apartFromFrames = before.counts.apartFromFrames :=
  Metrics.apartFromFrames_add_congr
    (Metrics.apartFromFrames_add_congr (Metrics.apartFromFrames_add_congr own sent) on_board)
    received

/-- How an act counts, apart from frames. -/
def Act.counting : Act → Metrics → Metrics
  | .countOpened => Metrics.streamOpened
  | .countClosed => Metrics.streamClosed
  | .listen _ | .unlisten _ | .discard _ _ | .take _ _ | .send _ _ _ _ => id

theorem apartFromFrames_act (act : Act) (channel : Channel) :
    (channel.afterAct act).counts.apartFromFrames =
      act.counting channel.counts.apartFromFrames := by
  cases act with
  | listen id => rfl
  | unlisten id => rfl
  | discard id command =>
    exact apartFromFrames_congr rfl rfl (congrArg _ (Switchboard.metrics_discard ..)) rfl
  | take id command =>
    have kept := channel.queue.keeps_take id command
    rw [afterAct, take, Outcome.state_mapState]
    exact apartFromFrames_congr rfl rfl kept.on_board kept.on_receiver
  | send command arg0 arg1 payload =>
    rw [afterAct, send, Outcome.state_mapState]
    exact apartFromFrames_congr rfl (Transmitter.apartFromFrames_send ..) rfl rfl
  | countOpened =>
    have moved (own sent on_board received : UInt64) :
        own + 1 + sent + on_board + received = own + sent + on_board + received + 1 := by
      ac_rfl
    exact congrArg (fun opened =>
      { channel.counts.apartFromFrames with streamsOpened := opened }) (moved ..)
  | countClosed =>
    have moved (own sent on_board received : UInt64) :
        own + 1 + sent + on_board + received = own + sent + on_board + received + 1 := by
      ac_rfl
    exact congrArg (fun closed =>
      { channel.counts.apartFromFrames with streamsClosed := closed }) (moved ..)

/-- What use of streams leaves alone: the counters of handshakes, the mark that the connection has
ended, and a closed transmitter. -/
structure Keeps (before after : Channel) : Prop where
  handshakes : after.counts.handshakes = before.counts.handshakes
  disconnected : before.queue.board.disconnected = true → after.queue.board.disconnected = true
  closed : before.transmitter.isOpen = false → after.transmitter = before.transmitter

theorem Keeps.refl (channel : Channel) : channel.Keeps channel :=
  ⟨rfl, id, fun _ => rfl⟩

theorem Keeps.trans {before middle after : Channel} (first : before.Keeps middle)
    (second : middle.Keeps after) : before.Keeps after where
  handshakes := second.handshakes.trans first.handshakes
  disconnected := fun ended => second.disconnected (first.disconnected ended)
  closed := by
    intro closed
    have same := first.closed closed
    rw [← same] at closed ⊢
    exact second.closed closed

/-- No act takes the mark of the end back. -/
theorem disconnected_act (act : Act) {channel : Channel}
    (ended : channel.queue.board.disconnected = true) :
    (channel.afterAct act).queue.board.disconnected = true := by
  cases act with
  | discard id command =>
    rw [← ended]
    exact Switchboard.disconnected_discard ..
  | take id command =>
    rw [afterAct, take, Outcome.state_mapState]
    exact (channel.queue.keeps_take id command).disconnected ended
  | send command arg0 arg1 payload =>
    rw [afterAct, queue_send, ended]
  | listen | unlisten | countOpened | countClosed => exact ended

/-- No act changes a transmitter that is closed. -/
theorem transmitter_act (act : Act) {channel : Channel}
    (closed : channel.transmitter.isOpen = false) :
    (channel.afterAct act).transmitter = channel.transmitter := by
  cases act with
  | take id command => exact channel.transmitter_take id command
  | send command arg0 arg1 payload =>
    rw [afterAct, send, Outcome.state_mapState, Transmitter.send_of_closed closed]
    rfl
  | listen | unlisten | discard | countOpened | countClosed => rfl

/-- Every act keeps what `Keeps` lists. -/
theorem keeps_act (act : Act) (channel : Channel) : channel.Keeps (channel.afterAct act) where
  handshakes := by
    have counted := congrArg Metrics.handshakes (apartFromFrames_act act channel)
    cases act <;> exact counted
  disconnected := disconnected_act act
  closed := transmitter_act act

/-- Acts that follow each other keep what every one of them keeps. -/
theorem Leads.keeps_all {before after : Channel} (leads : before.Leads after) :
    before.Keeps after :=
  leads.keeps (P := before.Keeps) (fun act channel kept => kept.trans (channel.keeps_act act))
    (.refl before)

end Channel
end DebugBridge

import DebugBridge.Proofs.Dispatch.Upcoming
import DebugBridge.Proofs.Wire.Lasting

/-!
# Waiting patiently

A source that gives bytes and temporary failures, and nothing else, keeps its taker waiting but
loses nothing: an attempt gives the next frame to come, or fails temporarily and leaves to come what
was to come before. Only once nothing is left to come can it fail for good.
-/

namespace DebugBridge

namespace Source

/-- A source that gives bytes and temporary failures and nothing else. -/
def IsPatient (source : Source) : Prop :=
  ∀ item ∈ source, (∃ bytes limit, item = .bytes bytes limit) ∨
    ∃ kind, item = .fail kind ∧ kind.isTemporary = true

/-- A patient source stands for its bytes and nothing else, since temporary failures leave no trace.
-/
theorem IsPatient.signals {source : Source} (patient : source.IsPatient) :
    source.signals = source.content.map .byte := by
  induction source with
  | nil => rfl
  | cons item tail ih =>
    obtain ⟨first, others⟩ := List.forall_mem_cons.mp patient
    rw [signals_cons, ih others]
    rcases first with ⟨bytes, limit, rfl⟩ | ⟨kind, rfl, temporary⟩
    · rw [content, List.map_append]
      rfl
    · rw [signalsOf, if_pos temporary]
      rfl

end Source

namespace Receiver

/-- Nothing but bytes and temporary failures is on its way in. -/
def IsPatient (receiver : Receiver) : Prop :=
  receiver.tape.signals = receiver.wire.map .byte

/-- Whatever a receiver has buffered, it is as patient as its source. -/
theorem isPatient_of_source {receiver : Receiver} (patient : receiver.source.IsPatient) :
    receiver.IsPatient := by
  rw [IsPatient, tape, patient.signals, wire, List.map_append]

variable {receiver : Receiver}

/-- Everything that a patient receiver has in front of it are bytes. -/
theorem IsPatient.lead_tape (patient : receiver.IsPatient) :
    Signal.lead receiver.tape.signals = receiver.wire := by
  have front := Signal.lead_append receiver.wire []
  rw [List.append_nil, ← patient] at front
  exact front.trans (List.append_nil _)

/-- Nothing stops a patient receiver before its bytes are used up. -/
theorem IsPatient.behind_tape (patient : receiver.IsPatient) :
    Signal.behind receiver.tape.signals = [] := by
  have back := Signal.behind_append receiver.wire []
  rwa [List.append_nil, ← patient] at back

/-- A patient receiver reads the next frame, or fails temporarily and leaves to come what was to
come, or has no frame left to read. -/
theorem IsPatient.readFrame (patient : receiver.IsPatient) :
    (∃ frame after, receiver.readFrame = .ok frame after ∧ after.IsPatient) ∨
    (∃ kind after, receiver.readFrame = .error (.ofKind kind) after ∧
      (Failure.ofKind kind).isTransient = true ∧ after.IsPatient ∧ after.frames = receiver.frames) ∨
    (∃ failure after, receiver.readFrame = .error failure after ∧ failure.isTransient = false ∧
      receiver.frames = []) := by
  rcases receiver.readFrame_cases with
    ⟨kind, after, failed, transient, unmoved, -⟩ | ⟨moved, -, lasting⟩
  · have wire := wire_of_readFrame_error failed
    refine .inr (.inl ⟨kind, after, failed, transient, ?_, ?_⟩)
    · rw [IsPatient, unmoved, wire]
      exact patient
    · rw [frames, wire, frames]
  · rw [Tape.next, patient.lead_tape, patient.behind_tape] at moved
    cases read : receiver.readFrame with
    | ok frame after =>
      rw [read, split?_wire_of_readFrame read] at moved
      have signals := congrArg Tape.signals (Outcome.ok.inj moved).2
      exact .inl ⟨frame, after, rfl, signals.trans (List.append_nil _)⟩
    | error failure after =>
      refine .inr (.inr ⟨failure, after, rfl, lasting failure (by rw [read]; rfl), ?_⟩)
      cases split : Frame.split? receiver.wire with
      | some pair =>
        rw [read, split] at moved
        contradiction
      | none => rw [frames, Frame.splitAll_of_split?_eq_none split]

end Receiver

namespace Queue

/-- The id is registered, the connection stands and the source keeps takers waiting at most. -/
structure IsPatient (id : UInt32) (queue : Queue) : Prop where
  listening : queue.board.isListening id = true
  connected : queue.board.disconnected = false
  receiving : queue.receiver.IsPatient

variable {want : Want} {queue : Queue}

/-- How an attempt to take a frame fares. -/
inductive Waits (want : Want) (before : Queue) : Outcome Queue Frame → Prop
  /-- The next frame is there. -/
  | taken {frame : Frame} {after : Queue} (patient : after.IsPatient want.id)
      (first : before.upcoming want = frame :: after.upcoming want) :
      Waits want before (.ok frame after)
  | again {kind : IoKind} {after : Queue} (transient : (Failure.ofKind kind).isTransient = true)
      (patient : after.IsPatient want.id) (same : after.upcoming want = before.upcoming want) :
      Waits want before (.error (.ofKind kind) after)
  /-- Nothing is left to come. -/
  | ended {failure : Failure} {after : Queue} (lasting : failure.isTransient = false)
      (none_left : before.upcoming want = []) (none_later : after.upcoming want = []) :
      Waits want before (.error failure after)

/-- An attempt may be seen from before a frame was read. -/
theorem Waits.of_before {before : Queue} {outcome : Outcome Queue Frame}
    (waits : Waits want queue outcome) (same : queue.upcoming want = before.upcoming want) :
    Waits want before outcome := by
  cases waits with
  | taken patient first => exact .taken patient (same.symm.trans first)
  | again transient patient kept => exact .again transient patient (kept.trans same)
  | ended lasting none_left none_later =>
    exact .ended lasting (same.symm.trans none_left) none_later

/-- A wait on a patient queue fares as `Waits` says, by the readings of its loop. -/
theorem IsPatient.waits_await (patient : queue.IsPatient want.id) :
    Waits want queue (queue.await want.id want.command) := by
  fun_induction Queue.await want.id want.command queue with
  | case1 queue frame board polled =>
    obtain ⟨-, listening, live, connected, -⟩ := Switchboard.poll_frame polled
    refine .taken ⟨?_, ?_, patient.receiving⟩ (upcoming_poll polled)
    · rw [listening]
      exact patient.listening
    · rw [connected]
      exact patient.connected
  | case2 queue failure board polled =>
    obtain ⟨rfl, empty⟩ := Switchboard.poll_refused polled
    obtain ⟨rfl, dead⟩ := Switchboard.poll_refused_of_connected patient.connected polled
    have nothing : queue.upcoming want = [] := by simp [upcoming, empty, dead]
    exact .ended rfl nothing nothing
  | case3 queue board polled frame receiver read _ ih =>
    obtain ⟨rfl, unanswered⟩ := Switchboard.poll_nothing_iff.mp polled
    have receiving : receiver.IsPatient := by
      rcases patient.receiving.readFrame with
        ⟨_, _, same, receiving⟩ | ⟨_, _, failed, -⟩ | ⟨_, _, failed, -⟩
      · rw [read, Outcome.ok.injEq] at same
        rw [same.2]
        exact receiving
      · rw [read] at failed
        contradiction
      · rw [read] at failed
        contradiction
    refine (ih ⟨?_, ?_, receiving⟩).of_before
      (upcoming_route unanswered.listening unanswered.live read)
    · rw [Switchboard.isListening_route]
      exact patient.listening
    · rw [Switchboard.disconnected_route]
      exact patient.connected
  | case4 queue board polled failure receiver read =>
    obtain ⟨rfl, unanswered⟩ := Switchboard.poll_nothing_iff.mp polled
    rcases patient.receiving.readFrame with ⟨_, _, same, -⟩ |
      ⟨kind, _, failed, transient, receiving, frames⟩ | ⟨_, _, failed, lasting, none⟩
    · rw [read] at same
      contradiction
    · rw [read, Outcome.error.injEq] at failed
      obtain ⟨rfl, rfl⟩ := failed
      rw [Switchboard.readFailed, if_pos transient]
      refine .again transient ⟨patient.listening, patient.connected, receiving⟩ ?_
      simp only [upcoming, frames]
    · rw [read, Outcome.error.injEq] at failed
      obtain ⟨rfl, rfl⟩ := failed
      have dead : (queue.board.readFailed failure).isLive want.id = false := by
        rw [Switchboard.readFailed, lasting]
        exact Switchboard.isLive_disconnect want.id queue.board
      refine .ended lasting ?_ ?_
      · simp [upcoming, unanswered.empty, none]
      · simp [upcoming, unanswered.empty, dead]

/-- An attempt on a patient queue fares as `Waits` says. -/
theorem IsPatient.waits_take (patient : queue.IsPatient want.id) :
    Waits want queue (queue.take want.id want.command) := by
  rw [take, Switchboard.turnAway_eq_none_iff.mpr patient.listening]
  exact patient.waits_await

end Queue
end DebugBridge

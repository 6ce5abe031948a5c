import DebugBridge.Dispatch.Queue
import DebugBridge.Proofs.Dispatch.Board

/-!
# Many takers at one switchboard

Any number of threads take frames from one switchboard. A thread that finds no answer to its want
either gets hold of the one reader token and reads on behalf of all, or parks until it is notified.
A step is what a thread does while it holds the lock on the switchboard, or the return of a read,
or a wake-up without a reason. What a read returns is left open, so the runs are those of every
source. `Crowd.runs_take` ties the steps to `Queue.take`, which is a run of one thread alone.
-/

namespace DebugBridge

/-- What a taker asks for. -/
structure Want where
  id : UInt32
  command : UInt32
  deriving DecidableEq, Repr

/-- What an attempt to take a frame, or to read one, ends with. -/
abbrev Reply := Except Failure Frame

/-- Where a thread is in its attempt to take a frame. -/
inductive Phase where
  /-- It takes no frame. -/
  | away
  /-- It has called and has not had the lock yet. -/
  | arriving (want : Want)
  /-- It has the reader token and is inside the read, without the lock. -/
  | reading (want : Want)
  /-- It has the reader token and what the read gave, and waits for the lock. -/
  | carrying (want : Want) (read : Reply)
  /-- It waits to be notified. -/
  | parked (want : Want)
  /-- It was woken and waits for the lock. -/
  | woken (want : Want)

namespace Phase

/-- Whether a thread has the reader token. -/
def holdsToken : Phase → Bool
  | reading _ | carrying _ _ => true
  | _ => false

/-- Whether nothing but the lock keeps a thread from going on. -/
def isReady : Phase → Bool
  | arriving _ | carrying _ _ | woken _ => true
  | _ => false

/-- The phase after everyone was notified. -/
def notified : Phase → Phase
  | parked want => woken want
  | phase => phase

@[simp] theorem holdsToken_notified (phase : Phase) :
    phase.notified.holdsToken = phase.holdsToken := by
  cases phase <;> rfl

@[simp] theorem notified_ne_parked (phase : Phase) (want : Want) :
    phase.notified ≠ parked want := by
  cases phase <;> simp [notified]

/-- Notifying makes nobody carry a reading and takes none away. -/
theorem notified_eq_carrying_iff {phase : Phase} {want : Want} {read : Reply} :
    phase.notified = carrying want read ↔ phase = carrying want read := by
  cases phase <;> simp [notified]

end Phase

/-- Threads at a switchboard. -/
structure Crowd (Thread : Type) where
  board : Switchboard := {}
  /-- Whether the reader token is taken. -/
  tokenTaken : Bool := false
  phase : Thread → Phase := fun _ => .away

/-- What happens in one step. -/
inductive Event (Thread : Type) where
  /-- A thread begins an attempt. -/
  | calls (thread : Thread) (want : Want)
  /-- A thread looks for an answer, with the lock: for the first time or after it was woken. -/
  | looks (thread : Thread) (want : Want) (answer : Option Reply)
  /-- The read of the thread with the token returns. -/
  | reads (thread : Thread) (read : Reply)
  /-- The reader routes its frame, hands back the token, notifies everyone and looks again. -/
  | delivers (thread : Thread) (want : Want) (frame : Frame) (landing : Switchboard.Landing)
    (answer : Option Reply)
  /-- The reader takes note of a failed read, hands back the token, notifies everyone and ends
  its attempt with the failure. -/
  | reports (thread : Thread) (want : Want) (failure : Failure)
  /-- A parked thread wakes without being notified. -/
  | stirs (thread : Thread)
  | listens (id : UInt32)
  | unlistens (id : UInt32)
  | discards (id command : UInt32)
  | shutsDown

namespace Crowd

variable {Thread : Type}

/-- Changes the switchboard. -/
def onBoard (step : Switchboard → Switchboard) (crowd : Crowd Thread) : Crowd Thread :=
  { crowd with board := step crowd.board }

/-- Wakes everyone who is parked. -/
def notifyAll (crowd : Crowd Thread) : Crowd Thread :=
  { crowd with phase := fun thread => (crowd.phase thread).notified }

@[simp] theorem board_onBoard (step : Switchboard → Switchboard) (crowd : Crowd Thread) :
    (crowd.onBoard step).board = step crowd.board := rfl

@[simp] theorem tokenTaken_onBoard (step : Switchboard → Switchboard) (crowd : Crowd Thread) :
    (crowd.onBoard step).tokenTaken = crowd.tokenTaken := rfl

@[simp] theorem phase_onBoard (step : Switchboard → Switchboard) (crowd : Crowd Thread) :
    (crowd.onBoard step).phase = crowd.phase := rfl

@[simp] theorem board_notifyAll (crowd : Crowd Thread) :
    crowd.notifyAll.board = crowd.board := rfl

@[simp] theorem tokenTaken_notifyAll (crowd : Crowd Thread) :
    crowd.notifyAll.tokenTaken = crowd.tokenTaken := rfl

@[simp] theorem phase_notifyAll (thread : Thread) (crowd : Crowd Thread) :
    crowd.notifyAll.phase thread = (crowd.phase thread).notified := rfl

variable [DecidableEq Thread]

/-- Puts a thread into a phase. -/
def place (thread : Thread) (phase : Phase) (crowd : Crowd Thread) : Crowd Thread :=
  { crowd with phase := fun other => if other = thread then phase else crowd.phase other }

/-- Hands back the token and wakes everyone who is parked. The reader goes on with its own want. -/
def release (thread : Thread) (want : Want) (crowd : Crowd Thread) : Crowd Thread :=
  ({ crowd with tokenTaken := false }.notifyAll).place thread (.woken want)

/-- What a thread does at the head of its loop: it polls and, while there is no answer, reads if it
gets the token and parks if it does not. -/
def look (thread : Thread) (want : Want) (crowd : Crowd Thread) : Crowd Thread × Option Reply :=
  match crowd.board.poll want.id want.command with
  | (.frame frame, board) => ({ crowd with board }.place thread .away, some (.ok frame))
  | (.refused failure, board) => ({ crowd with board }.place thread .away, some (.error failure))
  | (.nothing, board) =>
    if crowd.tokenTaken then ({ crowd with board }.place thread (.parked want), none)
    else ({ crowd with board, tokenTaken := true }.place thread (.reading want), none)

/-- What a thread does first: unless it is turned away it looks. -/
def enter (thread : Thread) (want : Want) (crowd : Crowd Thread) : Crowd Thread × Option Reply :=
  match crowd.board.turnAway want.id with
  | some failure => (crowd.place thread .away, some (.error failure))
  | none => crowd.look thread want

/-- What the reader does with a frame. -/
def deliver (thread : Thread) (want : Want) (frame : Frame) (crowd : Crowd Thread) :
    Crowd Thread × Option Reply :=
  ((crowd.onBoard (Switchboard.route frame)).release thread want).look thread want

/-- What the reader does with a failure. -/
def report (thread : Thread) (want : Want) (failure : Failure) (crowd : Crowd Thread) :
    Crowd Thread :=
  ((crowd.onBoard (Switchboard.readFailed failure)).release thread want).place thread .away

/-- One step of anyone. Registering and discarding notify nobody. -/
inductive Step : Crowd Thread → Event Thread → Crowd Thread → Prop where
  | calls {crowd : Crowd Thread} {thread : Thread} (want : Want)
      (free : crowd.phase thread = .away) :
      Step crowd (.calls thread want) (crowd.place thread (.arriving want))
  | enters {crowd : Crowd Thread} {thread : Thread} {want : Want}
      (arriving : crowd.phase thread = .arriving want) :
      Step crowd (.looks thread want (crowd.enter thread want).2) (crowd.enter thread want).1
  | resumes {crowd : Crowd Thread} {thread : Thread} {want : Want}
      (woken : crowd.phase thread = .woken want) :
      Step crowd (.looks thread want (crowd.look thread want).2) (crowd.look thread want).1
  | reads {crowd : Crowd Thread} {thread : Thread} {want : Want} (read : Reply)
      (reading : crowd.phase thread = .reading want) :
      Step crowd (.reads thread read) (crowd.place thread (.carrying want read))
  | delivers {crowd : Crowd Thread} {thread : Thread} {want : Want} {frame : Frame}
      (carrying : crowd.phase thread = .carrying want (.ok frame)) :
      Step crowd
        (.delivers thread want frame (crowd.board.landing frame)
          (crowd.deliver thread want frame).2)
        (crowd.deliver thread want frame).1
  | reports {crowd : Crowd Thread} {thread : Thread} {want : Want} {failure : Failure}
      (carrying : crowd.phase thread = .carrying want (.error failure)) :
      Step crowd (.reports thread want failure) (crowd.report thread want failure)
  | stirs {crowd : Crowd Thread} {thread : Thread} {want : Want}
      (parked : crowd.phase thread = .parked want) :
      Step crowd (.stirs thread) (crowd.place thread (.woken want))
  | listens {crowd : Crowd Thread} (id : UInt32) :
      Step crowd (.listens id) (crowd.onBoard (Switchboard.listen id))
  | unlistens {crowd : Crowd Thread} (id : UInt32) :
      Step crowd (.unlistens id) (crowd.onBoard (Switchboard.unlisten id)).notifyAll
  | discards {crowd : Crowd Thread} (id command : UInt32) :
      Step crowd (.discards id command) (crowd.onBoard (Switchboard.discard id command))
  | shutsDown {crowd : Crowd Thread} :
      Step crowd .shutsDown (crowd.onBoard Switchboard.disconnect).notifyAll

/-- Any number of steps, with what happened in them. -/
inductive Runs (first : Crowd Thread) : List (Event Thread) → Crowd Thread → Prop where
  | rest : Runs first [] first
  | step {events : List (Event Thread)} {event : Event Thread} {crowd next : Crowd Thread}
      (ran : Runs first events crowd) (stepped : Step crowd event next) :
      Runs first (events ++ [event]) next

/-- Nobody takes anything, nothing is registered and the connection stands. What has been counted
before is of no consequence. -/
def fresh (metrics : Metrics) : Crowd Thread :=
  { board := { metrics } }

/-- What can come out of a fresh crowd. -/
def Reachable (crowd : Crowd Thread) : Prop :=
  ∃ metrics events, Runs (fresh metrics) events crowd

/-- A run may go on with another one. -/
theorem Runs.append {first middle last : Crowd Thread} {before after : List (Event Thread)}
    (earlier : Runs first before middle) (later : Runs middle after last) :
    Runs first (before ++ after) last := by
  induction later with
  | rest => rwa [List.append_nil]
  | step _ stepped ih => exact List.append_assoc .. ▸ ih.step stepped

/-- A step in front of a run makes a run. -/
theorem Runs.cons {first middle last : Crowd Thread} {event : Event Thread}
    {events : List (Event Thread)} (stepped : Step first event middle)
    (later : Runs middle events last) : Runs first (event :: events) last :=
  (Runs.rest.step stepped).append later

/-- Whatever ran ran in steps, the last of which is known. -/
theorem Runs.last_step {first last : Crowd Thread} {events : List (Event Thread)}
    {event : Event Thread} (ran : Runs first (events ++ [event]) last) :
    ∃ middle, Runs first events middle ∧ Step middle event last := by
  generalize whole : events ++ [event] = all at ran
  cases ran with
  | rest => simp at whole
  | step ran stepped =>
    obtain ⟨rfl, same⟩ := List.append_inj' whole rfl
    cases same
    exact ⟨_, ran, stepped⟩

/-- A run may be divided anywhere. -/
theorem Runs.divide {first last : Crowd Thread} {before after : List (Event Thread)}
    (ran : Runs first (before ++ after) last) :
    ∃ middle, Runs first before middle ∧ Runs middle after last := by
  generalize whole : before ++ after = all at ran
  induction ran generalizing after with
  | rest =>
    obtain ⟨rfl, rfl⟩ := List.append_eq_nil_iff.mp whole
    exact ⟨first, .rest, .rest⟩
  | @step events event _ last ran stepped ih =>
    rcases List.eq_nil_or_concat after with rfl | ⟨rest, final, rfl⟩
    · rw [List.append_nil] at whole
      exact ⟨last, whole ▸ ran.step stepped, .rest⟩
    · rw [List.concat_eq_append, ← List.append_assoc] at whole
      obtain ⟨same, final_same⟩ := List.append_inj' whole rfl
      cases final_same
      obtain ⟨middle, earlier, later⟩ := ih same
      refine ⟨middle, earlier, ?_⟩
      rw [List.concat_eq_append]
      exact later.step stepped

/-- What holds at first and is kept by every step holds after every run. -/
theorem Runs.invariant {kept : Crowd Thread → Prop} {first last : Crowd Thread}
    {events : List (Event Thread)} (ran : Runs first events last) (holds : kept first)
    (keep : ∀ {crowd event next}, Step crowd event next → kept crowd → kept next) :
    kept last := by
  induction ran with
  | rest => exact holds
  | step _ stepped ih => exact keep stepped ih

@[simp] theorem board_place (thread : Thread) (phase : Phase) (crowd : Crowd Thread) :
    (crowd.place thread phase).board = crowd.board := rfl

@[simp] theorem tokenTaken_place (thread : Thread) (phase : Phase) (crowd : Crowd Thread) :
    (crowd.place thread phase).tokenTaken = crowd.tokenTaken := rfl

@[simp] theorem phase_place (thread other : Thread) (phase : Phase) (crowd : Crowd Thread) :
    (crowd.place thread phase).phase other =
      if other = thread then phase else crowd.phase other := rfl

@[simp] theorem board_release (thread : Thread) (want : Want) (crowd : Crowd Thread) :
    (crowd.release thread want).board = crowd.board := rfl

@[simp] theorem tokenTaken_release (thread : Thread) (want : Want) (crowd : Crowd Thread) :
    (crowd.release thread want).tokenTaken = false := rfl

@[simp] theorem phase_release (thread other : Thread) (want : Want) (crowd : Crowd Thread) :
    (crowd.release thread want).phase other =
      if other = thread then .woken want else (crowd.phase other).notified := rfl

/-- The four ways in which looking ends. -/
theorem look_cases (thread : Thread) (want : Want) (crowd : Crowd Thread) :
    (∃ frame board, crowd.board.poll want.id want.command = (.frame frame, board) ∧
      crowd.look thread want = ({ crowd with board }.place thread .away, some (.ok frame))) ∨
    (∃ failure, crowd.board.poll want.id want.command = (.refused failure, crowd.board) ∧
      crowd.look thread want = (crowd.place thread .away, some (.error failure))) ∨
    (crowd.board.Unanswered want.id want.command ∧ crowd.tokenTaken = true ∧
      crowd.look thread want = (crowd.place thread (.parked want), none)) ∨
    (crowd.board.Unanswered want.id want.command ∧ crowd.tokenTaken = false ∧
      crowd.look thread want =
        ({ crowd with tokenTaken := true }.place thread (.reading want), none)) := by
  rcases crowd.board.poll_cases want.id want.command with
    ⟨frame, board, polled⟩ | ⟨failure, polled⟩ | ⟨unanswered, polled⟩
  · exact .inl ⟨frame, board, polled, by simp only [look, polled]⟩
  · exact .inr (.inl ⟨failure, polled, by simp only [look, polled]⟩)
  · by_cases token : crowd.tokenTaken = true
    · refine .inr (.inr (.inl ⟨unanswered, token, ?_⟩))
      simp only [look, polled]
      rw [if_pos token]
    · refine .inr (.inr (.inr ⟨unanswered, Bool.eq_false_iff.mpr token, ?_⟩))
      simp only [look, polled]
      rw [if_neg token]

/-- Entering is being turned away or looking. -/
theorem enter_cases (thread : Thread) (want : Want) (crowd : Crowd Thread) :
    (∃ failure, crowd.board.turnAway want.id = some failure ∧
      crowd.enter thread want = (crowd.place thread .away, some (.error failure))) ∨
    (crowd.board.isListening want.id = true ∧
      crowd.enter thread want = crowd.look thread want) := by
  unfold enter
  cases turned : crowd.board.turnAway want.id with
  | some failure => exact .inl ⟨failure, rfl, rfl⟩
  | none => exact .inr ⟨Switchboard.turnAway_eq_none_iff.mp turned, rfl⟩

end Crowd

namespace Event

variable {Thread : Type}

/-- What the step ends an attempt with, if it ends one. -/
def answer? : Event Thread → Option Reply
  | looks _ _ answer | delivers _ _ _ _ answer => answer
  | reports _ _ failure => some (.error failure)
  | _ => none

/-- What the source gives in the step. -/
def read? : Event Thread → Option Reply
  | reads _ read => some read
  | _ => none

end Event

namespace Crowd

variable {Thread : Type} [DecidableEq Thread]

/-- What a receiver gives to reads that follow each other. -/
inductive Gives : Receiver → List Reply → Receiver → Prop where
  | nothing {receiver : Receiver} : Gives receiver [] receiver
  | next {receiver after : Receiver} {answers : List Reply}
      (later : Gives receiver.readFrame.state answers after) :
      Gives receiver (receiver.readFrame.result :: answers) after

/-- The attempt of a thread, of which the first look is given, ends as an operation on the queue
does, and all it reads comes from the receiver. -/
def EndsAs (outcome : Outcome Queue Frame) (receiver : Receiver)
    (begun : Crowd Thread × Option Reply) : Prop :=
  match begun.2 with
  | some answer =>
    answer = outcome.result ∧ begun.1.board = outcome.state.board ∧
      receiver = outcome.state.receiver
  | none => ∃ events last next, Runs begun.1 (events ++ [last]) next ∧
      last.answer? = some outcome.result ∧ next.board = outcome.state.board ∧
      Gives receiver ((events ++ [last]).filterMap Event.read?) outcome.state.receiver

/-- A reading in front of others, whatever it brings. -/
theorem Gives.of_readFrame {receiver middle after : Receiver} {answers : List Reply}
    {outcome : Outcome Receiver Frame} (read : receiver.readFrame = outcome)
    (middle_eq : outcome.state = middle) (later : Gives middle answers after) :
    Gives receiver (outcome.result :: answers) after := by
  subst read middle_eq
  exact .next later

/-- A reader that gets a frame ends as it does from the delivery of the frame on. -/
theorem EndsAs.of_frame {outcome : Outcome Queue Frame} {receiver after : Receiver}
    {thread : Thread} {want : Want} {frame : Frame} {crowd : Crowd Thread}
    (reading : crowd.phase thread = .reading want) (read : receiver.readFrame = .ok frame after)
    (later : EndsAs outcome after
      ((crowd.place thread (.carrying want (.ok frame))).deliver thread want frame)) :
    EndsAs outcome receiver (crowd, none) := by
  have reads := Step.reads (.ok frame) reading
  have carrying : (crowd.place thread (.carrying want (.ok frame))).phase thread =
      .carrying want (.ok frame) := by simp
  have delivers := Step.delivers carrying
  unfold EndsAs at later
  split at later
  · next answer answered =>
    obtain ⟨result, board, rfl⟩ := later
    refine ⟨[_], _, _, .cons reads (.cons delivers .rest), ?_, board, ?_⟩
    · rw [Event.answer?, answered, result]
    · exact .of_readFrame read rfl .nothing
  · next unanswered =>
    obtain ⟨events, last, next, ran, ended, board, given⟩ := later
    refine ⟨_ :: _ :: events, last, next, .cons reads (.cons delivers ran), ended, board, ?_⟩
    exact .of_readFrame read rfl given

/-- A reader whose read fails ends with the failure. -/
theorem EndsAs.of_failure {queue : Queue} {after : Receiver} {thread : Thread} {want : Want}
    {failure : Failure} {crowd : Crowd Thread} (reading : crowd.phase thread = .reading want)
    (same : crowd.board = queue.board) (read : queue.receiver.readFrame = .error failure after) :
    EndsAs (.error failure { board := queue.board.readFailed failure, receiver := after })
      queue.receiver (crowd, none) := by
  have reads := Step.reads (.error failure) reading
  have carrying : (crowd.place thread (.carrying want (.error failure))).phase thread =
      .carrying want (.error failure) := by simp
  have reports := Step.reports carrying
  refine ⟨[_], _, _, .cons reads (.cons reports .rest), rfl, ?_, .of_readFrame read rfl .nothing⟩
  simp [report, same]

/-- A thread that looks while the token is free ends as `Queue.await` does. -/
theorem endsAs_await (thread : Thread) (want : Want) (queue : Queue) (crowd : Crowd Thread)
    (same : crowd.board = queue.board) (free : crowd.tokenTaken = false) :
    EndsAs (queue.await want.id want.command) queue.receiver (crowd.look thread want) := by
  fun_induction Queue.await want.id want.command queue generalizing crowd with
  | case1 queue frame board polled =>
    rw [← same] at polled
    simp [EndsAs, look, polled, Outcome.result]
  | case2 queue failure board polled =>
    rw [← same] at polled
    simp [EndsAs, look, polled, Outcome.result]
  | case3 queue board polled frame after read _ ih =>
    obtain ⟨rfl, -⟩ := Switchboard.poll_nothing_iff.mp polled
    rw [← same] at polled
    simp only [look, polled, free, Bool.false_eq_true, if_false]
    exact .of_frame (by simp) read (ih _ (by simp [same]) (by simp))
  | case4 queue board polled failure after read =>
    obtain ⟨rfl, -⟩ := Switchboard.poll_nothing_iff.mp polled
    rw [← same] at polled
    simp only [look, polled, free, Bool.false_eq_true, if_false]
    have reading : ({ crowd with tokenTaken := true }.place thread (.reading want)).phase thread =
        .reading want := by simp
    exact .of_failure reading same read

/-- **A taker alone.** A call that no other thread gets in the way of has a run that ends with the
result of `Queue.take` and leaves the switchboard as `Queue.take` does, and the source gives it
what the receiver of the queue gives. -/
theorem runs_take {thread : Thread} {want : Want} {queue : Queue} {crowd : Crowd Thread}
    (arriving : crowd.phase thread = .arriving want) (same : crowd.board = queue.board)
    (free : crowd.tokenTaken = false) :
    ∃ events last next, Runs crowd (events ++ [last]) next ∧
      last.answer? = some (queue.take want.id want.command).result ∧
      next.board = (queue.take want.id want.command).state.board ∧
      Gives queue.receiver ((events ++ [last]).filterMap Event.read?)
        (queue.take want.id want.command).state.receiver := by
  have enters := Step.enters arriving
  have ended : EndsAs (queue.take want.id want.command) queue.receiver
      (crowd.enter thread want) := by
    unfold Queue.take enter
    rw [← same]
    cases crowd.board.turnAway want.id with
    | some failure => simp [EndsAs, Outcome.result, same]
    | none => exact endsAs_await thread want queue crowd same free
  unfold EndsAs at ended
  split at ended
  · next answer answered =>
    obtain ⟨result, board, left⟩ := ended
    refine ⟨[], _, _, .cons enters .rest, ?_, board, left ▸ .nothing⟩
    rw [Event.answer?, answered, result]
  · next unanswered =>
    obtain ⟨events, last, next, ran, result, board, given⟩ := ended
    exact ⟨_ :: events, last, next, .cons enters ran, result, board, given⟩

end Crowd
end DebugBridge

import DebugBridge.Proofs.Dispatch.Liveness

/-!
# After the end of the connection

The connection ends when a read fails for good or when it is shut down. Whoever has the reader token
then hands it back, and nobody gets it again: each taker is told at its next look. So at most one
taker ever reports a failure for good. The invariant is that the mark of the end stays and that a
mailbox is live only if it was registered later.
-/

namespace DebugBridge

namespace Event

variable {Thread : Type}

/-- Only the report of a failure against which no retry helps is fatal. -/
theorem fatal?_eq_some_iff {event : Event Thread} {failure : Failure} :
    event.fatal? = some failure ↔
      ∃ thread want, event = .reports thread want failure ∧ failure.isTransient = false := by
  cases event with
  | reports thread want other =>
    by_cases transient : other.isTransient = true
    · have differs : failure.isTransient = false → other ≠ failure := by
        rintro lasting rfl
        rw [transient] at lasting
        contradiction
      simpa [fatal?, transient] using fun same lasting => differs lasting same
    · rw [Bool.not_eq_true] at transient
      simp only [fatal?, transient, Bool.false_eq_true, if_false, Option.some.injEq,
        Event.reports.injEq]
      constructor
      · rintro rfl
        exact ⟨thread, want, ⟨rfl, rfl, rfl⟩, transient⟩
      · rintro ⟨_, _, ⟨-, -, same⟩, -⟩
        exact same
  | _ => simp [fatal?]

end Event

namespace Switchboard

variable {board : Switchboard}

/-- What a taker is told when the connection has ended. -/
def lastWord (want : Want) (board : Switchboard) : Reply :=
  match board.queueOf want.id want.command with
  | frame :: _ => .ok frame
  | [] => .error (if board.isLive want.id then .connectionClosed else .streamClosed want.id)

/-- After the end nobody waits: who looks gets a frame that is there or is refused, as
`Switchboard.lastWord` says. -/
theorem poll_of_disconnected (want : Want) (ended : board.disconnected = true) :
    (∃ frame after, board.poll want.id want.command = (.frame frame, after) ∧
      board.lastWord want = .ok frame) ∨
    (∃ failure, board.poll want.id want.command = (.refused failure, board) ∧
      board.lastWord want = .error failure) := by
  rcases board.poll_cases want.id want.command with
    ⟨frame, after, polled⟩ | ⟨failure, polled⟩ | ⟨unanswered, -⟩
  · have front := (poll_frame polled).1 want.id want.command
    rw [if_pos ⟨rfl, rfl⟩] at front
    exact .inl ⟨frame, after, polled, by rw [lastWord, front]⟩
  · refine .inr ⟨failure, polled, ?_⟩
    rw [lastWord, (poll_refused polled).2]
    rcases poll_refused_cases polled with ⟨dead, rfl⟩ | ⟨live, -, rfl⟩
    · rw [dead, if_neg Bool.false_ne_true]
    · rw [live, if_pos rfl]
  · rw [unanswered.connected] at ended
    contradiction

end Switchboard

namespace Crowd

variable {Thread : Type} [DecidableEq Thread] {crowd next : Crowd Thread} {event : Event Thread}
  {events : List (Event Thread)} {metrics : Metrics}

/-- After the end a look ends the attempt, and the mark stays. -/
theorem look_of_disconnected (thread : Thread) (want : Want)
    (ended : crowd.board.disconnected = true) :
    ∃ board, crowd.look thread want =
        ({ crowd with board }.place thread .away, some (crowd.board.lastWord want)) ∧
      board.disconnected = true := by
  rcases Switchboard.poll_of_disconnected want ended with
    ⟨frame, board, polled, last⟩ | ⟨failure, polled, last⟩
  · refine ⟨board, by simp only [look, polled, last], ?_⟩
    rw [(Switchboard.poll_frame polled).2.2.2.1]
    exact ended
  · exact ⟨crowd.board, by simp only [look, polled, last], ended⟩

/-- After the end an attempt ends where it begins, and one for an unregistered id is turned away. -/
theorem enter_of_disconnected (thread : Thread) (want : Want)
    (ended : crowd.board.disconnected = true) :
    ∃ board, crowd.enter thread want =
        ({ crowd with board }.place thread .away,
          some (if crowd.board.isListening want.id then crowd.board.lastWord want
            else .error (.notListening want.id))) ∧
      board.disconnected = true := by
  unfold enter Switchboard.turnAway
  by_cases listening : crowd.board.isListening want.id = true
  · simp only [listening, if_true]
    exact look_of_disconnected thread want ended
  · simp only [listening, Bool.false_eq_true, if_false]
    exact ⟨crowd.board, rfl, ended⟩

/-- What holds of a step that is made when the connection has ended. -/
structure IsLate (crowd : Crowd Thread) (event : Event Thread) (next : Crowd Thread) : Prop where
  ended : next.board.disconnected = true
  token : crowd.tokenTaken = false → next.tokenTaken = false
  reading : ∀ thread want, next.phase thread = .reading want → crowd.phase thread = .reading want
  enters : ∀ thread want answer, event = .looks thread want answer →
    crowd.phase thread = .arriving want →
      answer = some (if crowd.board.isListening want.id then crowd.board.lastWord want
        else .error (.notListening want.id))
  resumes : ∀ thread want answer, event = .looks thread want answer →
    crowd.phase thread = .woken want → answer = some (crowd.board.lastWord want)
  delivers : ∀ thread want frame landing answer,
    event = .delivers thread want frame landing answer →
      answer = some ((crowd.board.route frame).lastWord want)

/-- A thread that moves without beginning to read leaves everyone else as they are. -/
theorem reading_of_place {thread other : Thread} {phase : Phase} {want : Want}
    (idle : ∀ want, phase ≠ .reading want)
    (reading : (crowd.place thread phase).phase other = .reading want) :
    crowd.phase other = .reading want := by
  rw [phase_place] at reading
  split at reading
  · exact absurd reading (idle want)
  · exact reading

/-- Notifying makes nobody read. -/
theorem reading_of_notified {phase : Phase} {want : Want}
    (reading : phase.notified = .reading want) : phase = .reading want := by
  cases phase with
  | parked => contradiction
  | _ => exact reading

/-- Handing the token back makes nobody read. -/
theorem reading_of_release {thread other : Thread} {wanted want : Want}
    (reading : (crowd.release thread wanted).phase other = .reading want) :
    crowd.phase other = .reading want := by
  rw [phase_release] at reading
  split at reading
  · contradiction
  · exact reading_of_notified reading

/-- Every step that is made after the end is a late one. The mark stays, attempts end with their
first look, and nobody gets the token. -/
theorem Step.isLate (stepped : Step crowd event next) (ended : crowd.board.disconnected = true) :
    crowd.IsLate event next := by
  cases stepped with
  | calls want free =>
    exact ⟨ended, id, fun _ _ => reading_of_place (by simp), by simp, by simp, by simp⟩
  | @enters thread want arriving =>
    obtain ⟨board, entered, still_ended⟩ := enter_of_disconnected thread want ended
    rw [entered]
    refine ⟨still_ended, id, fun _ _ => reading_of_place (by simp), ?_, ?_, by simp⟩
    · rintro _ _ _ ⟨⟩ -
      rfl
    · rintro _ _ _ ⟨⟩ woken
      rw [arriving] at woken
      contradiction
  | @resumes thread want woken =>
    obtain ⟨board, looked, still_ended⟩ := look_of_disconnected thread want ended
    rw [looked]
    refine ⟨still_ended, id, fun _ _ => reading_of_place (by simp), ?_, ?_, by simp⟩
    · rintro _ _ _ ⟨⟩ arriving
      rw [woken] at arriving
      contradiction
    · rintro _ _ _ ⟨⟩ -
      rfl
  | reads read reading =>
    exact ⟨ended, id, fun _ _ => reading_of_place (by simp), by simp, by simp, by simp⟩
  | @delivers thread want frame carrying =>
    have routed : ((crowd.onBoard (Switchboard.route frame)).release thread
        want).board.disconnected = true := by
      rw [board_release, board_onBoard, Switchboard.disconnected_route]
      exact ended
    obtain ⟨board, looked, still_ended⟩ := look_of_disconnected thread want routed
    rw [deliver, looked]
    refine ⟨still_ended, fun _ => rfl, ?_, by simp, by simp, ?_⟩
    · intro other wanted reading
      exact reading_of_release (reading_of_place (by simp) reading)
    · rintro _ _ _ _ _ ⟨⟩
      rfl
  | @reports thread want failure carrying =>
    refine ⟨by simp [report, ended], fun _ => rfl, ?_, by simp, by simp, by simp⟩
    intro other wanted reading
    exact reading_of_release (reading_of_place (by simp) reading)
  | stirs parked =>
    exact ⟨ended, id, fun _ _ => reading_of_place (by simp), by simp, by simp, by simp⟩
  | listens id =>
    exact ⟨ended, fun free => free, fun _ _ reading => reading, by simp, by simp, by simp⟩
  | unlistens id =>
    exact ⟨ended, fun free => free, fun _ _ => reading_of_notified, by simp, by simp, by simp⟩
  | discards id command =>
    refine ⟨?_, fun free => free, fun _ _ reading => reading, by simp, by simp, by simp⟩
    rw [board_onBoard, Switchboard.disconnected_discard]
    exact ended
  | shutsDown =>
    exact ⟨rfl, fun free => free, fun _ _ => reading_of_notified, by simp, by simp, by simp⟩

/-- If nothing was live at first, a mailbox that is live was registered since. -/
theorem Runs.listens_of_isLive {id : UInt32} (ran : Runs crowd events next)
    (dead : ∀ id, crowd.board.isLive id = false) (live : next.board.isLive id = true) :
    ∃ earlier later, events = earlier ++ .listens id :: later ∧
      ∀ event ∈ later, event.renews id = false := by
  rcases (ran.flag_iff Step.isLive_iff).mp live with
    ⟨earlier, _, later, whole, rfl, kept⟩ | ⟨before, -⟩
  · refine ⟨earlier, later, whole, fun event member => ?_⟩
    exact (Event.silences_eq_false_iff.mp (kept event member)).1
  · rw [dead] at before
    contradiction

/-- The step that ends the connection silences every mailbox. -/
theorem Step.ended (stepped : Step crowd event next) (ends : event.ends = true) :
    next.board.disconnected = true ∧ ∀ id, next.board.isLive id = false := by
  refine ⟨stepped.disconnected_iff.mpr (.inl ends), fun id => Bool.eq_false_iff.mpr fun live => ?_⟩
  rcases stepped.isLive_iff.mp live with rfl | ⟨-, kept⟩
  · contradiction
  · rw [(Event.silences_eq_false_iff.mp kept).2.2] at ends
    contradiction

/-- Nobody has the token and nobody will get it. -/
structure IsOver (crowd : Crowd Thread) : Prop where
  orderly : crowd.Orderly
  ended : crowd.board.disconnected = true
  free : crowd.tokenTaken = false

/-- Once nobody reads and nobody will, this stays so, and no failure for good is reported. -/
theorem IsOver.step (finished : crowd.IsOver) (stepped : Step crowd event next) :
    next.IsOver ∧ event.fatal? = none := by
  have late := stepped.isLate finished.ended
  refine ⟨⟨stepped.orderly finished.orderly, late.ended, late.token finished.free⟩, ?_⟩
  cases stepped with
  | @reports thread want failure carrying =>
    have taken := finished.orderly.taken thread (by rw [carrying]; rfl)
    rw [finished.free] at taken
    contradiction
  | _ => rfl

/-- Once nobody reads and nobody will, no run reports a failure for good. -/
theorem IsOver.run (finished : crowd.IsOver) (ran : Runs crowd events next) :
    next.IsOver ∧ events.filterMap Event.fatal? = [] := by
  induction ran with
  | rest => exact ⟨finished, rfl⟩
  | step _ stepped ih =>
    obtain ⟨still_finished, none_fatal⟩ := ih
    obtain ⟨next_finished, harmless⟩ := still_finished.step stepped
    exact ⟨next_finished, by rw [filterMap_snoc, none_fatal, harmless]; rfl⟩

/-- The reader that reports a failure for good is the last one to have had the token. -/
theorem Step.isOver {failure : Failure} (orderly : crowd.Orderly) (stepped : Step crowd event next)
    (fatal : event.fatal? = some failure) : next.IsOver := by
  obtain ⟨thread, want, rfl, -⟩ := Event.fatal?_eq_some_iff.mp fatal
  have ends : (Event.reports thread want failure).ends = true := by simp [Event.ends, fatal]
  refine ⟨stepped.orderly orderly, (stepped.ended ends).1, ?_⟩
  cases stepped with
  | reports => rfl

/-- Whoever reports a failure for good is the last reader, so no run has two such reports. -/
theorem Runs.length_fatal_le_one (ran : Runs (fresh metrics) events crowd) :
    (events.filterMap Event.fatal?).length ≤ 1 := by
  cases reported : events.filterMap Event.fatal? with
  | nil => exact Nat.zero_le 1
  | cons failure others =>
    obtain ⟨before, event, after, rfl, -, fatal, rfl⟩ := List.filterMap_eq_cons_iff.mp reported
    rw [List.append_cons] at ran
    obtain ⟨middle, earlier, later⟩ := ran.divide
    obtain ⟨reader, before_ran, stepped⟩ := earlier.last_step
    have finished := stepped.isOver (Reachable.orderly ⟨metrics, before, before_ran⟩) fatal
    rw [(finished.run later).2]
    exact Nat.le_refl 1

/-- **The end is told once, and it is the end.** In every run of any threads with any source, at
most one attempt ends with a failure of the source against which no retry helps: that of the thread
with the reader token. Once such a failure has been dealt with or the connection has been shut down,
the mark of the end stays, a mailbox is live only if its id was registered since, and in every step
from then on nobody gets the token or begins to read. Whoever looks then is answered: with the
frame at the front of its queue; without one it is told that its stream is closed if its mailbox is
gone or not live, and that the connection is closed otherwise. One whose id is not registered when
it enters is told so. -/
theorem end_told_once (ran : Runs (fresh metrics) events crowd) :
    (events.filterMap Event.fatal?).length ≤ 1 ∧
    (∀ before thread want failure after,
      events = before ++ .reports thread want failure :: after →
      ∃ middle, Runs (fresh metrics) before middle ∧
        middle.phase thread = .carrying want (.error failure) ∧
        ∀ other, (middle.phase other).holdsToken = true → other = thread) ∧
    (∀ before last after, events = before ++ last :: after → last.ends = true →
      crowd.board.disconnected = true ∧
      (∀ id, crowd.board.isLive id = true → ∃ earlier later,
        after = earlier ++ .listens id :: later ∧ ∀ event ∈ later, event.renews id = false) ∧
      ∀ event next, Step crowd event next → crowd.IsLate event next) := by
  refine ⟨ran.length_fatal_le_one, ?_, ?_⟩
  · intro before thread want failure after rfl
    rw [List.append_cons] at ran
    obtain ⟨_, earlier, -⟩ := ran.divide
    obtain ⟨middle, before_ran, stepped⟩ := earlier.last_step
    refine ⟨middle, before_ran, ?_⟩
    cases stepped with
    | reports carrying =>
      have orderly := Reachable.orderly ⟨metrics, before, before_ran⟩
      refine ⟨carrying, fun other holds => orderly.one other thread holds ?_⟩
      rw [carrying]
      rfl
  · intro before last after rfl ends
    rw [List.append_cons] at ran
    obtain ⟨middle, earlier, later⟩ := ran.divide
    obtain ⟨_, -, stepped⟩ := earlier.last_step
    obtain ⟨ended, dead⟩ := stepped.ended ends
    have still_ended : crowd.board.disconnected = true :=
      later.invariant ended fun stepped ended => (stepped.isLate ended).ended
    exact ⟨still_ended, fun id live => later.listens_of_isLive dead live,
      fun event next stepped => stepped.isLate still_ended⟩

/-- One thread is told that its read was reset. The other one, which was parked, is woken and told
that its stream is closed. -/
theorem end_told_once_pair :
    ∃ events : List (Event Bool), ∃ crowd, Runs (fresh {}) events crowd ∧
      events.filterMap Event.fatal? = [.ofKind .connectionReset] ∧
      crowd.phase false = .woken ⟨1, Command.write⟩ ∧
      crowd.board.disconnected = true ∧
      (crowd.look false ⟨1, Command.write⟩).2 = some (.error (.streamClosed 1)) := by
  let want : Want := ⟨1, Command.write⟩
  have began : Runs (fresh {} : Crowd Bool) _ _ := Runs.rest.step (.listens 1)
  have called := began.step (@Step.calls _ _ _ true want rfl)
  have reading := called.step (@Step.enters _ _ _ true want rfl)
  have calledToo := reading.step (@Step.calls _ _ _ false want rfl)
  have parked := calledToo.step (@Step.enters _ _ _ false want rfl)
  have failed := parked.step (@Step.reads _ _ _ true want (.error (.ofKind .connectionReset)) rfl)
  have ran := failed.step (@Step.reports _ _ _ true want _ rfl)
  obtain ⟨-, -, after⟩ := end_told_once ran
  obtain ⟨ended, -, late⟩ := after _ _ [] rfl rfl
  have told := (late _ _ (@Step.resumes _ _ _ false want rfl)).resumes false want _ rfl rfl
  exact ⟨_, _, ran, rfl, rfl, ended, told.trans rfl⟩

end Crowd
end DebugBridge

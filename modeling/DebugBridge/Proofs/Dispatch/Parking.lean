import DebugBridge.Proofs.Dispatch.Crowd

/-!
# Nobody is left parked

A thread parks only while another one has the reader token, and whoever hands the token back wakes
all. So a parked thread always has a reader to wait for, and what it waits for is really not there:
whatever could bring its answer has woken it. The invariant that carries this is `Crowd.Orderly`.
-/

namespace DebugBridge

namespace Switchboard.Unanswered

variable {id command : UInt32} {board after : Switchboard}

/-- Registering an id answers nobody: a new mailbox is empty and live. -/
theorem listen (other : UInt32) (unanswered : board.Unanswered id command) :
    (board.listen other).Unanswered id command := by
  obtain ⟨listening, live, connected, empty⟩ := unanswered
  exact ⟨by simp [listening], by simp [live], connected, by simp [empty]⟩

/-- Throwing frames away answers nobody. -/
theorem discard (other thrown : UInt32) (unanswered : board.Unanswered id command) :
    (board.discard other thrown).Unanswered id command := by
  obtain ⟨listening, live, connected, empty⟩ := unanswered
  exact ⟨by simp [listening], by simp [live], by simp [connected], by simp [empty]⟩

/-- What another taker gets was not what is missing here. -/
theorem poll_frame {other wanted : UInt32} {frame : Frame}
    (polled : board.poll other wanted = (.frame frame, after))
    (unanswered : board.Unanswered id command) : after.Unanswered id command := by
  obtain ⟨queues, listening, live, connected, -⟩ := Switchboard.poll_frame polled
  refine ⟨(listening id).trans unanswered.listening, (live id).trans unanswered.live,
    connected.trans unanswered.connected, ?_⟩
  have queue := queues id command
  rw [unanswered.empty] at queue
  split at queue
  · contradiction
  · exact queue.symm

end Switchboard.Unanswered

/-- The thread that goes on in a step for which it needs nothing but the lock. -/
def Event.goesOn? {Thread : Type} : Event Thread → Option Thread
  | .looks thread _ _ | .delivers thread _ _ _ _ | .reports thread _ _ => some thread
  | _ => none

namespace Crowd

variable {Thread : Type}

/-- The token is marked as taken exactly while one thread has it, and threads are parked only while
it is taken and their wants are unanswered. -/
structure Orderly (crowd : Crowd Thread) : Prop where
  taken : ∀ thread, (crowd.phase thread).holdsToken = true → crowd.tokenTaken = true
  one : ∀ first second, (crowd.phase first).holdsToken = true →
    (crowd.phase second).holdsToken = true → first = second
  holder : crowd.tokenTaken = true → ∃ thread, (crowd.phase thread).holdsToken = true
  parked : ∀ thread want, crowd.phase thread = .parked want →
    crowd.tokenTaken = true ∧ crowd.board.Unanswered want.id want.command

namespace Orderly

variable {crowd : Crowd Thread}

/-- A fresh crowd is orderly: nobody is parked and the token is free. -/
theorem fresh (metrics : Metrics) : (fresh metrics : Crowd Thread).Orderly where
  taken := by simp [Crowd.fresh, Phase.holdsToken]
  one := by simp [Crowd.fresh, Phase.holdsToken]
  holder := by simp [Crowd.fresh]
  parked := by simp [Crowd.fresh]

/-- A step on the board that answers nobody may go unnoticed. -/
theorem onBoard {step : Switchboard → Switchboard}
    (answersNobody : ∀ {id command}, crowd.board.Unanswered id command →
      (step crowd.board).Unanswered id command)
    (orderly : crowd.Orderly) : (crowd.onBoard step).Orderly where
  taken := orderly.taken
  one := orderly.one
  holder := orderly.holder
  parked thread want parked :=
    ⟨(orderly.parked thread want parked).1, answersNobody (orderly.parked thread want parked).2⟩

/-- A step on the board of which everyone is notified may be anything. -/
theorem notifyAll (step : Switchboard → Switchboard) (orderly : crowd.Orderly) :
    (crowd.onBoard step).notifyAll.Orderly where
  taken thread holds := orderly.taken thread (by simpa using holds)
  one first second firstHolds secondHolds :=
    orderly.one first second (by simpa using firstHolds) (by simpa using secondHolds)
  holder taken := by simpa using orderly.holder taken
  parked := by simp

variable [DecidableEq Thread]

/-- A thread may go on with or without the token as before, and park if that is justified. -/
theorem place {thread : Thread} {phase : Phase} (orderly : crowd.Orderly)
    (keeps : phase.holdsToken = (crowd.phase thread).holdsToken)
    (parks : ∀ want, phase = .parked want →
      crowd.tokenTaken = true ∧ crowd.board.Unanswered want.id want.command) :
    (crowd.place thread phase).Orderly := by
  have same other : ((crowd.place thread phase).phase other).holdsToken =
      (crowd.phase other).holdsToken := by
    by_cases here : other = thread
    · simp [here, keeps]
    · simp [here]
  refine ⟨?_, ?_, ?_, ?_⟩
  · intro other
    rw [same]
    exact orderly.taken other
  · intro first second
    rw [same, same]
    exact orderly.one first second
  · intro taken
    obtain ⟨holder, holds⟩ := orderly.holder taken
    exact ⟨holder, (same holder).trans holds⟩
  · intro other want parked
    by_cases here : other = thread
    · simp only [phase_place, here, if_true] at parked
      exact parks want parked
    · simp only [phase_place, here, if_false] at parked
      exact orderly.parked other want parked

/-- The free token goes to a thread that will read. -/
theorem seize {thread : Thread} (want : Want) (orderly : crowd.Orderly)
    (free : crowd.tokenTaken = false) :
    ({ crowd with tokenTaken := true }.place thread (.reading want)).Orderly := by
  have nobody other : (crowd.phase other).holdsToken = false :=
    Bool.eq_false_iff.mpr fun holds => by simp [orderly.taken other holds] at free
  have here other (holds : (({ crowd with tokenTaken := true }.place thread
      (.reading want)).phase other).holdsToken = true) : other = thread := by
    by_cases elsewhere : other = thread
    · exact elsewhere
    · simp [elsewhere, nobody] at holds
  refine ⟨fun _ _ => rfl, ?_, ?_, ?_⟩
  · intro first second firstHolds secondHolds
    rw [here first firstHolds, here second secondHolds]
  · intro _
    exact ⟨thread, by simp [Phase.holdsToken]⟩
  · intro other want' parked
    simp only [phase_place] at parked
    split at parked
    · contradiction
    · rw [(orderly.parked other want' parked).1] at free
      contradiction

/-- The reader may change the board as it likes while it hands back the token. -/
theorem release {thread : Thread} (step : Switchboard → Switchboard) (want : Want)
    (orderly : crowd.Orderly) (holds : (crowd.phase thread).holdsToken = true) :
    ((crowd.onBoard step).release thread want).Orderly := by
  have nobody other : (((crowd.onBoard step).release thread want).phase other).holdsToken =
      false := by
    by_cases here : other = thread
    · simp [here, Phase.holdsToken]
    · simp only [phase_release, here, if_false, Phase.holdsToken_notified]
      exact Bool.eq_false_iff.mpr fun other_holds => here (orderly.one _ _ other_holds holds)
  refine ⟨?_, ?_, ?_, ?_⟩
  · intro other other_holds
    rw [nobody] at other_holds
    contradiction
  · intro first second first_holds
    rw [nobody] at first_holds
    contradiction
  · intro taken
    simp at taken
  · intro other want parked
    simp only [phase_release] at parked
    split at parked
    · contradiction
    · exact absurd parked (Phase.notified_ne_parked _ _)

/-- A thread without the token may look. -/
theorem look {thread : Thread} (want : Want) (orderly : crowd.Orderly)
    (without : (crowd.phase thread).holdsToken = false) : (crowd.look thread want).1.Orderly := by
  rcases crowd.look_cases thread want with
    ⟨frame, board, polled, looked⟩ | ⟨failure, -, looked⟩ | ⟨unanswered, taken, looked⟩ |
      ⟨unanswered, free, looked⟩
  · have popped : (crowd.onBoard fun _ => board).Orderly := orderly.onBoard fun missing =>
      missing.poll_frame polled
    rw [looked]
    exact popped.place without.symm (by simp)
  · rw [looked]
    exact orderly.place without.symm (by simp)
  · rw [looked]
    refine orderly.place without.symm ?_
    rintro other ⟨⟩
    exact ⟨taken, unanswered⟩
  · rw [looked]
    exact orderly.seize want free

end Orderly

variable [DecidableEq Thread] {crowd next : Crowd Thread}

/-- No step leaves disorder. -/
theorem Step.orderly {event : Event Thread} (stepped : Step crowd event next)
    (orderly : crowd.Orderly) : next.Orderly := by
  cases stepped with
  | calls want free => exact orderly.place (by rw [free]; rfl) (by simp)
  | @enters thread want arriving =>
    have without : (crowd.phase thread).holdsToken = false := by rw [arriving]; rfl
    rcases crowd.enter_cases thread want with ⟨failure, -, entered⟩ | ⟨-, entered⟩
    · rw [entered]
      exact orderly.place without.symm (by simp)
    · rw [entered]
      exact orderly.look want without
  | resumes woken => exact orderly.look _ (by rw [woken]; rfl)
  | reads read reading => exact orderly.place (by rw [reading]; rfl) (by simp)
  | @delivers thread want frame carrying =>
    have released := orderly.release (Switchboard.route frame) want
      (by rw [carrying]; rfl : (crowd.phase thread).holdsToken = true)
    exact released.look want (by simp [Phase.holdsToken])
  | @reports thread want failure carrying =>
    have released := orderly.release (Switchboard.readFailed failure) want
      (by rw [carrying]; rfl : (crowd.phase thread).holdsToken = true)
    exact released.place (by simp [Phase.holdsToken]) (by simp)
  | stirs parked => exact orderly.place (by rw [parked]; rfl) (by simp)
  | listens id => exact orderly.onBoard fun missing => missing.listen id
  | unlistens id => exact orderly.notifyAll _
  | discards id command => exact orderly.onBoard fun missing => missing.discard id command
  | shutsDown => exact orderly.notifyAll _

/-- The invariant holds in every state that can be reached, since every step keeps it. -/
theorem Reachable.orderly (reached : crowd.Reachable) : crowd.Orderly := by
  obtain ⟨metrics, events, ran⟩ := reached
  exact ran.invariant (.fresh metrics) Step.orderly

/-- Whoever waits for nothing but the lock has a step to make. -/
theorem exists_step_of_isReady {thread : Thread} (ready : (crowd.phase thread).isReady = true) :
    ∃ event next, event.goesOn? = some thread ∧ Step crowd event next := by
  cases phase : crowd.phase thread with
  | away | reading | parked => simp [phase, Phase.isReady] at ready
  | arriving want => exact ⟨_, _, rfl, .enters phase⟩
  | woken want => exact ⟨_, _, rfl, .resumes phase⟩
  | carrying want read =>
    cases read with
    | ok frame => exact ⟨_, _, rfl, .delivers phase⟩
    | error failure => exact ⟨_, _, rfl, .reports phase⟩

/-- Nobody is parked when a read has been dealt with. -/
theorem not_parked_of_deliver_or_report {reader : Thread} {event : Event Thread}
    (carrying : ∃ want read, crowd.phase reader = .carrying want read)
    (goesOn : event.goesOn? = some reader) (stepped : Step crowd event next) (other : Thread)
    (want : Want) : next.phase other ≠ .parked want := by
  obtain ⟨held, read, carrying⟩ := carrying
  cases stepped with
  | enters arriving | resumes woken =>
    cases goesOn
    simp_all
  | @delivers thread wanted frame _ =>
    rcases look_cases thread wanted
        ((crowd.onBoard (Switchboard.route frame)).release thread wanted) with
      ⟨_, _, -, looked⟩ | ⟨_, -, looked⟩ | ⟨-, taken, -⟩ | ⟨-, -, looked⟩
    · by_cases here : other = thread <;> simp [deliver, looked, here]
    · by_cases here : other = thread <;> simp [deliver, looked, here]
    · simp at taken
    · by_cases here : other = thread <;> simp [deliver, looked, here]
  | @reports thread =>
    by_cases here : other = thread <;> simp [report, here]
  | _ => cases goesOn

/-- **No taker is stranded.** In every state that any threads can reach with any source: at most
one thread has the reader token; a parked thread has another one with the token to wait for; its id
is registered and live, nothing is queued for it and the connection stands. So while anyone takes
a frame, some thread has a step to make that needs nothing but the lock, or one thread is inside
the read and everyone else who takes a frame is parked. When that read has been dealt with, nobody
is parked. -/
theorem takers_never_stranded (reached : crowd.Reachable) :
    (∀ first second, (crowd.phase first).holdsToken = true →
      (crowd.phase second).holdsToken = true → first = second) ∧
    (∀ thread want, crowd.phase thread = .parked want →
      ∃ reader, reader ≠ thread ∧ (crowd.phase reader).holdsToken = true) ∧
    (∀ thread want, crowd.phase thread = .parked want →
      crowd.board.Unanswered want.id want.command) ∧
    ((∃ thread, crowd.phase thread ≠ .away) →
      (∃ thread event next, event.goesOn? = some thread ∧ Step crowd event next) ∨
      (∃ reader want, crowd.phase reader = .reading want ∧ ∀ other, other ≠ reader →
        crowd.phase other = .away ∨ ∃ want, crowd.phase other = .parked want)) ∧
    (∀ reader, (∃ want read, crowd.phase reader = .carrying want read) →
      ∀ event next, event.goesOn? = some reader → Step crowd event next →
        ∀ other want, next.phase other ≠ .parked want) := by
  have orderly := reached.orderly
  refine ⟨orderly.one, ?_, fun thread want parked => (orderly.parked thread want parked).2, ?_,
    fun reader carrying event next goesOn stepped =>
      not_parked_of_deliver_or_report carrying goesOn stepped⟩
  · intro thread want parked
    obtain ⟨reader, holds⟩ := orderly.holder (orderly.parked thread want parked).1
    refine ⟨reader, ?_, holds⟩
    rintro rfl
    rw [parked] at holds
    contradiction
  · rintro ⟨taker, taking⟩
    by_cases ready : ∃ thread, (crowd.phase thread).isReady = true
    · obtain ⟨thread, ready⟩ := ready
      exact .inl ⟨thread, exists_step_of_isReady ready⟩
    · -- Nobody is ready, so whoever takes a frame is a reader or has one to wait for.
      have resting thread : crowd.phase thread = .away ∨
          (∃ want, crowd.phase thread = .parked want) ∨
          ∃ want, crowd.phase thread = .reading want := by
        cases phase : crowd.phase thread with
        | away => exact .inl rfl
        | parked want => exact .inr (.inl ⟨want, rfl⟩)
        | reading want => exact .inr (.inr ⟨want, rfl⟩)
        | _ => exact absurd ⟨thread, by rw [phase]; rfl⟩ ready
      have token : crowd.tokenTaken = true := by
        rcases resting taker with away | ⟨want, parked⟩ | ⟨want, reading⟩
        · exact absurd away taking
        · exact (orderly.parked taker want parked).1
        · exact orderly.taken taker (by rw [reading]; rfl)
      obtain ⟨reader, holds⟩ := orderly.holder token
      rcases resting reader with away | ⟨want, parked⟩ | ⟨want, reading⟩
      · simp [away, Phase.holdsToken] at holds
      · simp [parked, Phase.holdsToken] at holds
      · refine .inr ⟨reader, want, reading, ?_⟩
        intro other elsewhere
        rcases resting other with away | parked | ⟨want, alsoReading⟩
        · exact .inl away
        · exact .inr parked
        · exact absurd (orderly.one other reader (by rw [alsoReading]; rfl) holds) elsewhere

/-- Two threads want the same frame: one reads and the other is parked. -/
theorem takers_never_stranded_pair :
    ∃ crowd : Crowd Bool, crowd.Reachable ∧ crowd.phase false = .parked ⟨1, Command.write⟩ ∧
      (∃ reader, reader ≠ false ∧ (crowd.phase reader).holdsToken = true) ∧
      crowd.board.Unanswered 1 Command.write := by
  let want : Want := ⟨1, Command.write⟩
  have began : Runs (fresh {} : Crowd Bool) _ _ := Runs.rest.step (.listens 1)
  have first := began.step (@Step.calls _ _ _ true want rfl)
  have reads := first.step (@Step.enters _ _ _ true want rfl)
  have second := reads.step (@Step.calls _ _ _ false want rfl)
  have ran := second.step (@Step.enters _ _ _ false want rfl)
  have reached : Reachable _ := ⟨{}, _, ran⟩
  obtain ⟨-, reader, unanswered, -⟩ := takers_never_stranded reached
  exact ⟨_, reached, rfl, reader false want rfl, unanswered false want rfl⟩

end Crowd
end DebugBridge

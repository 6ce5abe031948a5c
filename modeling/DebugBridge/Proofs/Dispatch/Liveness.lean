import DebugBridge.Proofs.Dispatch.Flow

/-!
# What the flags of an id tell

An id is registered or not, it is live or not, and the connection has ended or not. Each step sets
some of these flags and clears others, and its event tells which (`Step.isListening_iff`,
`Step.isLive_iff`, `Step.disconnected_iff`). Such a flag is set after a run exactly if a step set it
and no later one cleared it (`Runs.flag_iff`). So an id is live if neither the device nor the end
has cut it off since its last registration. What happened before that plays no part in it: an id
that is registered after the end is live although the connection has ended.
-/

namespace DebugBridge

namespace Event

variable {Thread : Type}

/-- The failure against which no retry helps, in the step that ends an attempt with one. -/
def fatal? : Event Thread → Option Failure
  | reports _ _ failure => if failure.isTransient then none else some failure
  | _ => none

/-- Whether the step ends the connection. -/
def ends : Event Thread → Bool
  | shutsDown => true
  | event => event.fatal?.isSome

/-- Whether the step routes the frame with which the device closes the stream of an id. -/
def closes (id : UInt32) (event : Event Thread) : Bool :=
  event.routed?.any (Frame.closes id)

/-- Whether the step ends the life that the mailbox of an id has had so far. -/
def silences (id : UInt32) : Event Thread → Bool
  | listens other | unlistens other => other == id
  | delivers _ _ frame _ _ => frame.closes id
  | reports _ _ failure => !failure.isTransient
  | shutsDown => true
  | _ => false

/-- A report ends the connection unless a retry may help. -/
theorem ends_reports (thread : Thread) (want : Want) (failure : Failure) :
    (reports thread want failure).ends = !failure.isTransient := by
  cases transient : failure.isTransient <;> simp [ends, fatal?, transient]

/-- An id is not silenced by a step that leaves its registration alone, does not close its mailbox
and does not end the connection. -/
theorem silences_eq_false_iff {id : UInt32} {event : Event Thread} :
    event.silences id = false ↔
      event.renews id = false ∧ event.closes id = false ∧ event.ends = false := by
  cases event with
  | reports => simp [silences, renews, closes, routed?, ends_reports]
  | _ => simp [silences, renews, closes, routed?, ends, fatal?]

/-- Something is set in one of the steps and not cleared in any later one. -/
def Leaves (sets : Event Thread → Prop) (clears : Event Thread → Bool)
    (events : List (Event Thread)) : Prop :=
  ∃ earlier setter later, events = earlier ++ setter :: later ∧ sets setter ∧
    ∀ event ∈ later, clears event = false

/-- A run leaves something set if its last step sets it, or if it was left set before and the last
step does not clear it. -/
theorem leaves_snoc {sets : Event Thread → Prop} {clears : Event Thread → Bool}
    {events : List (Event Thread)} {last : Event Thread} :
    Leaves sets clears (events ++ [last]) ↔
      sets last ∨ Leaves sets clears events ∧ clears last = false := by
  constructor
  · rintro ⟨earlier, setter, later, whole, set, kept⟩
    rcases List.eq_nil_or_concat later with rfl | ⟨later, final, rfl⟩
    · obtain ⟨-, same⟩ := List.append_inj' whole rfl
      cases same
      exact .inl set
    · rw [List.concat_eq_append, ← List.cons_append, ← List.append_assoc] at whole
      obtain ⟨rfl, same⟩ := List.append_inj' whole rfl
      cases same
      rw [List.concat_eq_append, List.forall_mem_append, List.forall_mem_singleton] at kept
      exact .inr ⟨⟨earlier, setter, later, rfl, set, kept.1⟩, kept.2⟩
  · rintro (set | ⟨⟨earlier, setter, later, rfl, set, kept⟩, kept_last⟩)
    · exact ⟨events, last, [], rfl, set, by simp⟩
    · refine ⟨earlier, setter, later ++ [last], List.append_assoc .., set, ?_⟩
      rw [List.forall_mem_append, List.forall_mem_singleton]
      exact ⟨kept, kept_last⟩

/-- What happened falls into what was before the last registration of an id, which has neither been
renewed nor ended, and what has been since. -/
structure Registers (id : UInt32) (events earlier later : List (Event Thread)) : Prop where
  whole : events = earlier ++ .listens id :: later
  lasting : ∀ event ∈ later, event.renews id = false

end Event

namespace Crowd

variable {Thread : Type} [DecidableEq Thread] {crowd first last next : Crowd Thread}
  {event : Event Thread} {events : List (Event Thread)} {id : UInt32} {metrics : Metrics}

/-- An id is registered after a step if it has just been registered, or if it was and the step does
not renew or end its registration. -/
theorem Step.isListening_iff (stepped : Step crowd event next) :
    next.board.isListening id = true ↔
      event = .listens id ∨ crowd.board.isListening id = true ∧ event.renews id = false := by
  cases stepped with
  | calls | reads | stirs => simp [Event.renews]
  | @enters thread want =>
    rw [Switchboard.isListening_serves (enter_serves thread want crowd)]
    simp [Event.renews]
  | @resumes thread want =>
    rw [Switchboard.isListening_serves (look_serves thread want crowd)]
    simp [Event.renews]
  | @delivers thread want frame =>
    rw [deliver, Switchboard.isListening_serves (look_serves thread want _)]
    simp [Event.renews]
  | reports => simp [report, Event.renews]
  | listens other | unlistens other =>
    by_cases same : id = other
    · simp [Event.renews, same]
    · simp [Event.renews, same, Ne.symm same]
  | discards => simp [Event.renews]
  | shutsDown => simp [Event.renews]

/-- A mailbox is live after a step if it has just been registered, or if it was live and the step
does not silence it. -/
theorem Step.isLive_iff (stepped : Step crowd event next) :
    next.board.isLive id = true ↔
      event = .listens id ∨ crowd.board.isLive id = true ∧ event.silences id = false := by
  cases stepped with
  | calls | reads | stirs | discards => simp [Event.silences]
  | @enters thread want =>
    rw [Switchboard.isLive_serves (enter_serves thread want crowd)]
    simp [Event.silences]
  | @resumes thread want =>
    rw [Switchboard.isLive_serves (look_serves thread want crowd)]
    simp [Event.silences]
  | @delivers thread want frame =>
    rw [deliver, Switchboard.isLive_serves (look_serves thread want _), board_release,
      board_onBoard, Frame.isLive_route]
    simp [Event.silences]
  | reports => simp [report, Event.silences, and_comm]
  | listens other | unlistens other =>
    by_cases same : id = other
    · simp [Event.silences, same]
    · simp [Event.silences, same, Ne.symm same]
  | shutsDown => simp [Event.silences]

/-- The connection has ended after a step if the step ends it or it had ended before. -/
theorem Step.disconnected_iff (stepped : Step crowd event next) :
    next.board.disconnected = true ↔ event.ends = true ∨ crowd.board.disconnected = true := by
  cases stepped with
  | @enters thread want =>
    rw [Switchboard.disconnected_serves (enter_serves thread want crowd)]
    simp [Event.ends, Event.fatal?]
  | @resumes thread want =>
    rw [Switchboard.disconnected_serves (look_serves thread want crowd)]
    simp [Event.ends, Event.fatal?]
  | @delivers thread want frame =>
    rw [deliver, Switchboard.disconnected_serves (look_serves thread want _)]
    simp [Event.ends, Event.fatal?]
  | reports => simp [report, Event.ends_reports]
  | _ => simp [Event.ends, Event.fatal?]

/-- What some steps set and others clear is so after a run if the run leaves it set, or if it was
so from the first and no step cleared it. -/
theorem Runs.flag_iff {flag : Crowd Thread → Prop} {sets : Event Thread → Prop}
    {clears : Event Thread → Bool}
    (step : ∀ {crowd event next}, Step crowd event next →
      (flag next ↔ sets event ∨ flag crowd ∧ clears event = false))
    (ran : Runs first events last) :
    flag last ↔ Event.Leaves sets clears events ∨
      flag first ∧ ∀ event ∈ events, clears event = false := by
  induction ran with
  | rest => simp [Event.Leaves]
  | @step events event crowd next ran stepped ih =>
    rw [step stepped, ih, Event.leaves_snoc, List.forall_mem_append, List.forall_mem_singleton,
      or_and_right, and_assoc, or_assoc]

/-- The mark of the end is never taken back. -/
theorem Runs.disconnected_iff (ran : Runs first events last) :
    last.board.disconnected = true ↔
      first.board.disconnected = true ∨ ∃ event ∈ events, event.ends = true := by
  induction ran with
  | rest => simp
  | step _ stepped ih =>
    rw [stepped.disconnected_iff, ih]
    simp only [List.mem_append, List.mem_singleton, or_and_right, exists_or, exists_eq_left]
    rw [or_comm, or_assoc]

/-- An id is registered exactly if it has a last registration, which nothing has ended. -/
theorem Runs.isListening_iff (ran : Runs (fresh metrics) events crowd) :
    crowd.board.isListening id = true ↔
      ∃ earlier later, Event.Registers id events earlier later := by
  have unknown : (fresh metrics : Crowd Thread).board.isListening id = false := rfl
  rw [ran.flag_iff Step.isListening_iff, unknown]
  constructor
  · rintro (⟨earlier, _, later, whole, rfl, lasting⟩ | ⟨registered, -⟩)
    · exact ⟨earlier, later, whole, lasting⟩
    · contradiction
  · rintro ⟨earlier, later, whole, lasting⟩
    exact .inl ⟨earlier, _, later, whole, rfl, lasting⟩

/-- Since its last registration an id is live until it is silenced. -/
theorem Runs.isLive_iff {earlier later : List (Event Thread)}
    (ran : Runs (fresh metrics) events crowd)
    (registers : Event.Registers id events earlier later) :
    crowd.board.isLive id = true ↔
      ∀ event ∈ later, event.closes id = false ∧ event.ends = false := by
  obtain ⟨rfl, lasting⟩ := registers
  rw [List.append_cons] at ran
  obtain ⟨middle, until_then, since⟩ := ran.divide
  obtain ⟨before, -, registered⟩ := until_then.last_step
  have live : middle.board.isLive id = true := registered.isLive_iff.mpr (.inl rfl)
  rw [since.flag_iff Step.isLive_iff]
  constructor
  · rintro (⟨front, setter, back, rfl, rfl, -⟩ | ⟨-, kept⟩)
    · -- Only a registration sets the flag, and no other one follows the last.
      have renewed := lasting (.listens id) (by simp)
      simp [Event.renews] at renewed
    · intro event member
      exact (Event.silences_eq_false_iff.mp (kept event member)).2
  · intro spared
    refine .inr ⟨live, fun event member => ?_⟩
    exact Event.silences_eq_false_iff.mpr ⟨lasting event member, spared event member⟩

/-- **The flags of an id tell what has become of its last registration.** After every run of any
threads with any source a live id is registered, an id is registered if its last registration has
not been ended, and the connection has ended if a step has ended it. An id is live exactly if since
its last registration the device has not closed it and the connection has not ended. So a live id
whose registration came before any end stands for a connection that stands, and one that was
registered after an end does not. -/
theorem live_since_registration (ran : Runs (fresh metrics) events crowd) (id : UInt32) :
    (crowd.board.isLive id = true → crowd.board.isListening id = true) ∧
    (crowd.board.isListening id = true ↔
      ∃ earlier later, Event.Registers id events earlier later) ∧
    (crowd.board.disconnected = true ↔ ∃ event ∈ events, event.ends = true) ∧
    ∀ earlier later, Event.Registers id events earlier later →
      (crowd.board.isLive id = true ↔
        ∀ event ∈ later, event.closes id = false ∧ event.ends = false) ∧
      (crowd.board.isLive id = true →
        (crowd.board.disconnected = false ↔ ∀ event ∈ earlier, event.ends = false)) := by
  have ended : crowd.board.disconnected = true ↔ ∃ event ∈ events, event.ends = true := by
    simpa [fresh] using ran.disconnected_iff
  refine ⟨Switchboard.isListening_of_isLive, ran.isListening_iff, ended, ?_⟩
  intro earlier later registers
  refine ⟨ran.isLive_iff registers, fun live => ?_⟩
  have spared := (ran.isLive_iff registers).mp live
  obtain ⟨rfl, -⟩ := registers
  rw [← Bool.not_eq_true, ended]
  constructor
  · intro standing event member
    exact Bool.eq_false_iff.mpr fun ends => standing ⟨event, by simp [member], ends⟩
  · rintro before ⟨event, member, ends⟩
    rcases List.mem_append.mp member with member | member
    · rw [before event member] at ends
      contradiction
    · rcases List.mem_cons.mp member with rfl | member
      · contradiction
      · rw [(spared event member).2] at ends
        contradiction

/-- The device closes the stream of one id, and the one that is registered afterwards is live until
the connection ends. -/
theorem live_since_registration_two_ids :
    ∃ events : List (Event Bool), ∃ crowd next, Runs (fresh {}) events crowd ∧
      Step crowd .shutsDown next ∧
      crowd.board.isLive 1 = false ∧ crowd.board.isListening 1 = true ∧
      crowd.board.isLive 2 = true ∧ crowd.board.disconnected = false ∧
      next.board.isLive 2 = false ∧ next.board.disconnected = true := by
  let want : Want := ⟨1, Command.write⟩
  let close := Frame.make Command.close 9 1 []
  have registered := Runs.rest.step (@Step.listens Bool _ (fresh {}) 1)
  have called := registered.step (@Step.calls _ _ _ true want rfl)
  have reading := called.step (@Step.enters _ _ _ true want rfl)
  have read := reading.step (@Step.reads _ _ _ true want (.ok close) rfl)
  have closed := read.step (@Step.delivers _ _ _ true want close rfl)
  have ran := closed.step (.listens 2)
  have ended := ran.step .shutsDown
  obtain ⟨-, -, -, since⟩ := live_since_registration ran 2
  obtain ⟨live, stands⟩ := since _ [] ⟨rfl, by simp⟩
  have second_live := live.mpr (by simp)
  have standing := (stands second_live).mpr (by simp [Event.ends, Event.fatal?])
  obtain ⟨-, -, ending, since⟩ := live_since_registration ended 2
  obtain ⟨live, -⟩ := since _ [.shutsDown]
    ⟨List.append_assoc _ [Event.listens 2] _, by simp [Event.renews]⟩
  have second_dead := mt live.mp (by simp [Event.ends])
  exact ⟨_, _, _, ran, .shutsDown, rfl, rfl, second_live, standing,
    Bool.eq_false_iff.mpr second_dead, ending.mpr ⟨.shutsDown, by simp, rfl⟩⟩

/-- An id that is registered after the end is live although the connection has ended. -/
theorem live_after_end :
    ∃ crowd : Crowd Bool, Runs (fresh {}) [.shutsDown, .listens 7] crowd ∧
      crowd.board.isLive 7 = true ∧ crowd.board.disconnected = true :=
  ⟨_, (Runs.rest.step .shutsDown).step (.listens 7), rfl, rfl⟩

end Crowd
end DebugBridge

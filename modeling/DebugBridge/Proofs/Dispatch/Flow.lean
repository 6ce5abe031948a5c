import DebugBridge.Proofs.Dispatch.Parking

/-!
# What goes into the queues and out of them

What a step does to the queues depends on its event alone: a look serves a taker, a delivery routes
a frame and then serves, and everything else at most throws queues away. So a queue loses its frames
to takers and to `discard` only, for as long as its id stays registered. Reading needs the token
until the frame is routed, so frames are routed in the order of the wire.
-/

namespace DebugBridge

/-- The taker that a frame is for. -/
def Frame.want (frame : Frame) : Want :=
  ⟨frame.arg1, frame.command⟩

/-- A frame is for the takers of its id and command. -/
theorem Frame.want_eq_iff {frame : Frame} {want : Want} :
    frame.want = want ↔ frame.arg1 = want.id ∧ frame.command = want.command := by
  obtain ⟨id, command⟩ := want
  simp [Frame.want]

/-- Whether a frame, once it is routed to a registered id, waits for these takers. -/
def Frame.isMailFor (want : Want) (frame : Frame) : Bool :=
  frame.want = want && frame.command != Command.close

/-- Whether a frame, once it is routed, closes the mailbox of an id. -/
def Frame.closes (id : UInt32) (frame : Frame) : Bool :=
  frame.arg1 = id && frame.command = Command.close

/-- Only a CLSE for the id closes its mailbox. -/
theorem Frame.closes_iff {id : UInt32} {frame : Frame} :
    frame.closes id = true ↔ frame.arg1 = id ∧ frame.command = Command.close := by
  rw [closes, Bool.and_eq_true, decide_eq_true_iff, decide_eq_true_iff]

/-- Routing ends the life of an id exactly by a frame that closes it. -/
theorem Frame.isLive_route (frame : Frame) (id : UInt32) (board : Switchboard) :
    (board.route frame).isLive id = (board.isLive id && !frame.closes id) := by
  rw [Switchboard.isLive_route, closes, decide_eq_decide.mpr eq_comm]

namespace Event

variable {Thread : Type}

/-- The frame that the source gives in the step. -/
def arrival? : Event Thread → Option Frame
  | reads _ (.ok frame) => some frame
  | _ => none

/-- The frame that is routed in the step. -/
def routed? : Event Thread → Option Frame
  | delivers _ _ frame _ _ => some frame
  | _ => none

/-- The thread whose attempt to take this ends in the step with a frame, and the frame. -/
def handed? (want : Want) : Event Thread → Option (Thread × Frame)
  | looks thread asked (some (.ok frame)) | delivers thread asked _ _ (some (.ok frame)) =>
    if asked = want then some (thread, frame) else none
  | _ => none

/-- Whether the step begins or ends the registration of an id. -/
def renews (id : UInt32) : Event Thread → Bool
  | listens other | unlistens other => other == id
  | _ => false

/-- Whether the step throws away what waits for these takers. -/
def throws (want : Want) : Event Thread → Bool
  | listens id | unlistens id => want.id == id
  | discards id command => want == ⟨id, command⟩
  | _ => false

/-- Whether the step neither looks for an answer nor routes a frame. -/
def isQuiet : Event Thread → Bool
  | looks .. | delivers .. => false
  | _ => true

/-- A delivery hands over what the look behind it does. -/
theorem handed?_delivers (want asked : Want) (thread : Thread) (frame : Frame)
    (landing : Switchboard.Landing) (answer : Option Reply) :
    (delivers thread asked frame landing answer).handed? want =
      (looks thread asked answer).handed? want :=
  match answer with
  | some (.ok _) | some (.error _) | none => rfl

theorem handed?_of_isQuiet {event : Event Thread} (quiet : event.isQuiet = true) (want : Want) :
    event.handed? want = none := by
  cases event with
  | looks | delivers => contradiction
  | _ => rfl

theorem routed?_of_isQuiet {event : Event Thread} (quiet : event.isQuiet = true) :
    event.routed? = none := by
  cases event with
  | looks | delivers => contradiction
  | _ => rfl

/-- As long as the registration lasts, only `discard` throws a queue away. -/
theorem eq_discards_of_throws {want : Want} {event : Event Thread}
    (thrown : event.throws want = true) (kept : event.renews want.id = false) :
    event = discards want.id want.command := by
  cases event with
  | listens id | unlistens id =>
    have same : want.id = id := by simpa [throws] using thrown
    simp [renews, same] at kept
  | discards id command =>
    have same : want = ⟨id, command⟩ := by simpa [throws] using thrown
    rw [same]
  | _ => simp [throws] at thrown

end Event

namespace Switchboard

/-- What looking for an answer does to the board. -/
inductive Serves (want : Want) (board : Switchboard) : Option Reply → Switchboard → Prop where
  | frame {frame : Frame} {after : Switchboard}
      (polled : board.poll want.id want.command = (.frame frame, after)) :
      Serves want board (some (.ok frame)) after
  | nothing {answer : Option Reply} (empty : ∀ frame, answer ≠ some (.ok frame)) :
      Serves want board answer board

/-- What a step does to the board, as far as it can be told from its event. -/
inductive Moves {Thread : Type} (board : Switchboard) : Event Thread → Switchboard → Prop where
  | looks {thread : Thread} {want : Want} {answer : Option Reply} {after : Switchboard}
      (served : board.Serves want answer after) : Moves board (.looks thread want answer) after
  | delivers {thread : Thread} {want : Want} {frame : Frame} {answer : Option Reply}
      {after : Switchboard} (served : (board.route frame).Serves want answer after) :
      Moves board (.delivers thread want frame (board.landing frame) answer) after
  | throws {event : Event Thread} {after : Switchboard} (quiet : event.isQuiet = true)
      (queues : ∀ want, after.queueOf want.id want.command =
        if event.throws want then [] else board.queueOf want.id want.command)
      (listening : ∀ id, event.renews id = false → after.isListening id = board.isListening id)
      (metrics : after.metrics = board.metrics) : Moves board event after

theorem isListening_serves {want : Want} {answer : Option Reply} {board after : Switchboard}
    (served : board.Serves want answer after) (id : UInt32) :
    after.isListening id = board.isListening id := by
  cases served with
  | frame polled => exact (poll_frame polled).2.1 id
  | nothing => rfl

theorem isLive_serves {want : Want} {answer : Option Reply} {board after : Switchboard}
    (served : board.Serves want answer after) (id : UInt32) :
    after.isLive id = board.isLive id := by
  cases served with
  | frame polled => exact (poll_frame polled).2.2.1 id
  | nothing => rfl

theorem disconnected_serves {want : Want} {answer : Option Reply} {board after : Switchboard}
    (served : board.Serves want answer after) : after.disconnected = board.disconnected := by
  cases served with
  | frame polled => exact (poll_frame polled).2.2.2.1
  | nothing => rfl

theorem metrics_serves {want : Want} {answer : Option Reply} {board after : Switchboard}
    (served : board.Serves want answer after) : after.metrics = board.metrics := by
  cases served with
  | frame polled => exact (poll_frame polled).2.2.2.2
  | nothing => rfl

/-- What a taker gets was the front of its queue. -/
theorem queueOf_serves {Thread : Type} {asked : Want} {answer : Option Reply}
    {board after : Switchboard} (served : board.Serves asked answer after) (thread : Thread)
    (want : Want) :
    board.queueOf want.id want.command =
      ((Event.looks thread asked answer).handed? want).toList.map (·.2) ++
        after.queueOf want.id want.command := by
  cases served with
  | @frame frame _ polled =>
    rw [(poll_frame polled).1, Event.handed?]
    by_cases same : asked = want
    · subst same
      simp
    · have differs : ¬(want.id = asked.id ∧ want.command = asked.command) := by
        rintro ⟨id, command⟩
        exact same (by cases asked; cases want; simp_all)
      simp [same, differs]
  | nothing empty =>
    match answer with
    | some (.ok frame) => exact absurd rfl (empty frame)
    | some (.error _) | none => rfl

/-- A frame for a registered id waits unless it closes its mailbox. -/
theorem queueOf_route_of_isListening {want : Want} {board : Switchboard} (frame : Frame)
    (registered : board.isListening want.id = true) :
    (board.route frame).queueOf want.id want.command =
      board.queueOf want.id want.command ++ [frame].filter (Frame.isMailFor want) := by
  rw [queueOf_route]
  congr 1
  by_cases wanted : frame.want = want
  · subst wanted
    change board.isListening frame.arg1 = true at registered
    by_cases close : frame.command = Command.close
    · simp [landing, Frame.isMailFor, registered, close]
    · simp [landing, Frame.isMailFor, registered, close, Frame.want]
  · have differs := mt Frame.want_eq_iff.mpr wanted
    simp [Frame.isMailFor, wanted, differs]

/-- While its id stays registered, a queue gets what is routed for it and gives what takers get.
Only `discard` takes anything else away. -/
theorem Moves.conserves {Thread : Type} {want : Want} {event : Event Thread}
    {board after : Switchboard} (moved : board.Moves event after)
    (kept : event.renews want.id = false) (registered : board.isListening want.id = true) :
    after.isListening want.id = true ∧
    ∃ gone, board.queueOf want.id want.command ++
          event.routed?.toList.filter (Frame.isMailFor want) =
        gone ++ after.queueOf want.id want.command ∧
      (gone = (event.handed? want).toList.map (·.2) ∨
        event = .discards want.id want.command ∧ event.handed? want = none) := by
  cases moved with
  | @looks thread asked answer _ served =>
    refine ⟨by rw [isListening_serves served, registered], _, ?_, .inl rfl⟩
    rw [← queueOf_serves served]
    exact List.append_nil _
  | @delivers thread asked frame answer _ served =>
    refine ⟨by rw [isListening_serves served, isListening_route, registered], _, ?_, .inl rfl⟩
    rw [Event.handed?_delivers, ← queueOf_serves served,
      queueOf_route_of_isListening frame registered]
    rfl
  | throws quiet queues listening =>
    refine ⟨by rw [listening _ kept, registered], ?_⟩
    rw [queues, Event.routed?_of_isQuiet quiet, Event.handed?_of_isQuiet quiet]
    by_cases thrown : event.throws want = true
    · refine ⟨board.queueOf want.id want.command, by simp [thrown], .inr ⟨?_, rfl⟩⟩
      exact Event.eq_discards_of_throws thrown kept
    · exact ⟨[], by simp [thrown], .inl rfl⟩

end Switchboard

namespace Crowd

section InHand

variable {Thread : Type} {crowd next : Crowd Thread} {held : List Frame}

/-- The frames that a reader has in its hands: none, or the one that one thread has to route. -/
inductive InHand (crowd : Crowd Thread) : List Frame → Prop where
  | nobody (free : ∀ thread want frame, crowd.phase thread ≠ .carrying want (.ok frame)) :
      InHand crowd []
  | reader {thread : Thread} {want : Want} {frame : Frame}
      (carrying : crowd.phase thread = .carrying want (.ok frame))
      (only : ∀ other, (crowd.phase other).holdsToken = true → other = thread) :
      InHand crowd [frame]

namespace InHand

/-- In an orderly crowd the frame that a thread carries is the only one in hand. -/
theorem of_orderly {thread : Thread} {want : Want} {frame : Frame} (orderly : crowd.Orderly)
    (carrying : crowd.phase thread = .carrying want (.ok frame)) : crowd.InHand [frame] :=
  .reader carrying fun other holds => orderly.one other thread holds (by rw [carrying]; rfl)

/-- What is in hand stays there as long as no thread takes or gives a frame. -/
theorem congr (hand : crowd.InHand held) (orderly : next.Orderly)
    (same : ∀ thread want frame, next.phase thread = .carrying want (.ok frame) ↔
      crowd.phase thread = .carrying want (.ok frame)) : next.InHand held := by
  cases hand with
  | nobody free =>
    apply InHand.nobody
    intro thread want frame carrying
    exact free thread want frame ((same thread want frame).mp carrying)
  | reader carrying => exact of_orderly orderly ((same _ _ _).mpr carrying)

/-- The thread with the token has all that is in hand. -/
theorem nobody_else {thread : Thread} (hand : crowd.InHand held)
    (holds : (crowd.phase thread).holdsToken = true)
    (empty : ∀ want frame, crowd.phase thread ≠ .carrying want (.ok frame)) : held = [] := by
  cases hand with
  | nobody => rfl
  | reader carrying only =>
    rw [only thread holds] at empty
    exact absurd carrying (empty _ _)

end InHand
end InHand

variable {Thread : Type} [DecidableEq Thread] {crowd next : Crowd Thread}

/-- A look does no more to the board than serving its taker. -/
theorem look_serves (thread : Thread) (want : Want) (crowd : Crowd Thread) :
    crowd.board.Serves want (crowd.look thread want).2 (crowd.look thread want).1.board := by
  rcases crowd.look_cases thread want with
    ⟨frame, board, polled, looked⟩ | ⟨failure, -, looked⟩ | ⟨-, -, looked⟩ | ⟨-, -, looked⟩
  · rw [looked]
    exact .frame polled
  all_goals
    rw [looked]
    exact .nothing (by simp)

/-- One who begins an attempt is turned away, which changes nothing, or looks. -/
theorem enter_serves (thread : Thread) (want : Want) (crowd : Crowd Thread) :
    crowd.board.Serves want (crowd.enter thread want).2 (crowd.enter thread want).1.board := by
  rcases crowd.enter_cases thread want with ⟨failure, -, entered⟩ | ⟨-, entered⟩
  · rw [entered]
    exact .nothing (by simp)
  · rw [entered]
    exact look_serves thread want crowd

/-- What a step does to the board is told by its event. -/
theorem Step.moves {event : Event Thread} (stepped : Step crowd event next) :
    crowd.board.Moves event next.board := by
  cases stepped with
  | @enters thread want arriving => exact .looks (enter_serves thread want crowd)
  | @resumes thread want woken => exact .looks (look_serves thread want crowd)
  | @delivers thread want frame carrying =>
    exact .delivers (look_serves thread want
      ((crowd.onBoard (Switchboard.route frame)).release thread want))
  | calls | reads | stirs =>
    exact .throws rfl (fun _ => by simp [Event.throws]) (fun _ _ => rfl) rfl
  | reports =>
    apply Switchboard.Moves.throws rfl <;> simp [Event.throws, report]
  | shutsDown =>
    exact .throws rfl (fun _ => by simp [Event.throws]) (by simp) (by simp)
  | listens id =>
    refine .throws rfl (fun _ => by simp [Event.throws]) ?_ (by simp)
    intro other kept
    have differs : other ≠ id := fun same => by simp [Event.renews, same] at kept
    simp [differs]
  | unlistens id =>
    refine .throws rfl (fun _ => by simp [Event.throws]) ?_ (by simp)
    intro other kept
    have differs : other ≠ id := fun same => by simp [Event.renews, same] at kept
    simp [differs]
  | discards id command =>
    refine .throws rfl ?_ (by simp) (by simp)
    rintro ⟨wanted, kind⟩
    simp [Event.throws]

theorem filterMap_snoc {Kind Part : Type} (part? : Kind → Option Part) (list : List Kind)
    (last : Kind) :
    (list ++ [last]).filterMap part? = list.filterMap part? ++ (part? last).toList := by
  rw [List.filterMap_append, List.filterMap_cons]
  cases part? last <;> rfl

/-- While its id stays registered, a queue gets what is routed for it in that order, and gives it
away in that order: to takers, and to `discard`. -/
theorem Runs.conserves {want : Want} {events : List (Event Thread)} (ran : Runs crowd events next)
    (kept : ∀ event ∈ events, event.renews want.id = false)
    (registered : crowd.board.isListening want.id = true) :
    next.board.isListening want.id = true ∧
    ∃ gone, crowd.board.queueOf want.id want.command ++
          (events.filterMap Event.routed?).filter (Frame.isMailFor want) =
        gone ++ next.board.queueOf want.id want.command ∧
      ((events.filterMap (Event.handed? want)).map (·.2)).Sublist gone ∧
      (.discards want.id want.command ∉ events →
        (events.filterMap (Event.handed? want)).map (·.2) = gone) := by
  induction ran with
  | rest => exact ⟨registered, [], by simp, by simp, by simp⟩
  | @step events event crowd next ran stepped ih =>
    obtain ⟨listening, gone, balance, handed, exact⟩ :=
      ih fun earlier member => kept earlier (List.mem_append_left _ member)
    obtain ⟨listening, more, last, lastGone⟩ :=
      stepped.moves.conserves (kept event (by simp)) listening
    refine ⟨listening, gone ++ more, ?_, ?_, ?_⟩
    · rw [filterMap_snoc, List.filter_append, ← List.append_assoc, balance, List.append_assoc, last,
        List.append_assoc]
    · rw [filterMap_snoc, List.map_append]
      rcases lastGone with rfl | ⟨-, nobody⟩
      · exact handed.append (List.Sublist.refl _)
      · rw [nobody]
        exact handed.append (List.nil_sublist _)
    · intro undisturbed
      rw [filterMap_snoc, List.map_append]
      rcases lastGone with rfl | ⟨rfl, -⟩
      · rw [exact fun earlier => undisturbed (List.mem_append_left _ earlier)]
      · simp at undisturbed

/-- A thread that looks ends up with nothing in its hands. -/
theorem phase_look (thread : Thread) (want : Want) (crowd : Crowd Thread) :
    ∃ phase, (∀ want read, phase ≠ .carrying want read) ∧
      (crowd.look thread want).1.phase = (crowd.place thread phase).phase := by
  rcases crowd.look_cases thread want with
    ⟨frame, board, -, looked⟩ | ⟨failure, -, looked⟩ | ⟨-, -, looked⟩ | ⟨-, -, looked⟩
  · exact ⟨.away, by simp, by rw [looked]; rfl⟩
  · exact ⟨.away, by simp, by rw [looked]⟩
  · exact ⟨.parked want, by simp, by rw [looked]⟩
  · exact ⟨.reading want, by simp, by rw [looked]; rfl⟩

/-- One who begins an attempt carries nothing after it, and the other threads stay where they were.
-/
theorem phase_enter (thread : Thread) (want : Want) (crowd : Crowd Thread) :
    ∃ phase, (∀ want read, phase ≠ .carrying want read) ∧
      (crowd.enter thread want).1.phase = (crowd.place thread phase).phase := by
  rcases crowd.enter_cases thread want with ⟨failure, -, entered⟩ | ⟨-, entered⟩
  · exact ⟨.away, by simp, by rw [entered]⟩
  · rw [entered]
    exact phase_look thread want crowd

namespace InHand

variable {held : List Frame}

/-- A thread that moves with empty hands leaves the others what they have. -/
theorem place {thread : Thread} {phase : Phase} (hand : crowd.InHand held) (orderly : next.Orderly)
    (before : ∀ want read, crowd.phase thread ≠ .carrying want read)
    (after : ∀ want read, phase ≠ .carrying want read)
    (placed : next.phase = (crowd.place thread phase).phase) : next.InHand held := by
  apply hand.congr orderly
  intro other want frame
  rw [placed, phase_place]
  split
  · next here =>
    subst here
    simp [before, after]
  · rfl

/-- When the thread with the token has nothing in hand any more, nobody has. -/
theorem release {thread : Thread} {phase : Phase} {step : Switchboard → Switchboard} {want : Want}
    (orderly : crowd.Orderly) (holds : (crowd.phase thread).holdsToken = true)
    (after : ∀ want read, phase ≠ .carrying want read)
    (placed : next.phase = (((crowd.onBoard step).release thread want).place thread phase).phase) :
    next.InHand [] := by
  apply InHand.nobody
  intro other want frame carrying
  rw [placed, phase_place] at carrying
  split at carrying
  · exact after _ _ carrying
  · next elsewhere =>
    simp only [phase_release, elsewhere, if_false, phase_onBoard,
      Phase.notified_eq_carrying_iff] at carrying
    exact elsewhere (orderly.one other thread (by rw [carrying]; rfl) holds)

/-- A reader has one frame in hand, from the read to the routing. -/
theorem step {event : Event Thread} (hand : crowd.InHand held) (orderly : crowd.Orderly)
    (stepped : Step crowd event next) :
    ∃ after, next.InHand after ∧ held ++ event.arrival?.toList = event.routed?.toList ++ after := by
  have tidy := stepped.orderly orderly
  cases stepped with
  | calls want free =>
    exact ⟨held, hand.place tidy (by simp [free]) (by simp) rfl, List.append_nil held⟩
  | @enters thread want arriving =>
    obtain ⟨phase, empty, placed⟩ := phase_enter thread want crowd
    exact ⟨held, hand.place tidy (by simp [arriving]) empty placed, List.append_nil held⟩
  | @resumes thread want woken =>
    obtain ⟨phase, empty, placed⟩ := phase_look thread want crowd
    exact ⟨held, hand.place tidy (by simp [woken]) empty placed, List.append_nil held⟩
  | @reads thread want read reading =>
    have holds : (crowd.phase thread).holdsToken = true := by rw [reading]; rfl
    obtain rfl := hand.nobody_else holds (by simp [reading])
    match read with
    | .ok frame =>
      have carrying : (crowd.place thread (.carrying want (.ok frame))).phase thread =
          .carrying want (.ok frame) := by simp
      exact ⟨[frame], of_orderly tidy carrying, rfl⟩
    | .error failure =>
      refine ⟨[], hand.congr tidy ?_, rfl⟩
      intro other want frame
      rw [phase_place]
      split
      · next here => simp [here, reading]
      · rfl
  | @delivers thread want frame carrying =>
    have holds : (crowd.phase thread).holdsToken = true := by rw [carrying]; rfl
    obtain ⟨phase, empty, placed⟩ := phase_look thread want
      ((crowd.onBoard (Switchboard.route frame)).release thread want)
    refine ⟨[], release orderly holds empty placed, ?_⟩
    cases hand with
    | nobody free => exact absurd carrying (free thread want frame)
    | reader also only =>
      rw [← only thread holds, carrying] at also
      cases also
      rfl
  | @reports thread want failure carrying =>
    have holds : (crowd.phase thread).holdsToken = true := by rw [carrying]; rfl
    obtain rfl := hand.nobody_else holds (by simp [carrying])
    have empty : ∀ want read, Phase.away ≠ .carrying want read := by simp
    exact ⟨[], release orderly holds empty rfl, rfl⟩
  | stirs parked =>
    exact ⟨held, hand.place tidy (by simp [parked]) (by simp) rfl, List.append_nil held⟩
  | listens | discards =>
    exact ⟨held, hand.congr tidy fun _ _ _ => Iff.rfl, List.append_nil held⟩
  | unlistens | shutsDown =>
    exact ⟨held, hand.congr tidy fun _ _ _ => Phase.notified_eq_carrying_iff,
      List.append_nil held⟩

end InHand

/-- Frames are routed in the order in which the source gave them. -/
theorem Runs.inHand {metrics : Metrics} {events : List (Event Thread)}
    (ran : Runs (fresh metrics) events crowd) :
    ∃ held, crowd.InHand held ∧
      events.filterMap Event.arrival? = events.filterMap Event.routed? ++ held := by
  induction ran with
  | rest => exact ⟨[], .nobody (by simp [fresh]), rfl⟩
  | @step events event crowd next ran stepped ih =>
    obtain ⟨held, hand, order⟩ := ih
    obtain ⟨after, hand, last⟩ := hand.step (Reachable.orderly ⟨metrics, events, ran⟩) stepped
    refine ⟨after, hand, ?_⟩
    rw [filterMap_snoc, filterMap_snoc, order, List.append_assoc, last, List.append_assoc]

end Crowd
end DebugBridge

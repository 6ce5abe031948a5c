import DebugBridge.Proofs.Dispatch.Upcoming

/-!
# Each id on its own

Takers of all ids share one receiver, and whoever reads routes the frames of the others, the frames
that close their mailboxes and the end of the input. Still every id is served as if it had queues of
its own that hold all its frames from the start: the frames are handed out one after the other, and
then there are failures. What carries this is that routing moves a frame from the wire to its queue,
which changes nothing for its takers as long as no frame for an id follows the one that closes it.
-/

namespace DebugBridge.Queue

variable {id : UInt32} {want : Want} {queue : Queue}

/-- The frames that these takers have not got, waiting or on the wire. -/
def mail (want : Want) (queue : Queue) : List Frame :=
  queue.board.queueOf want.id want.command ++ queue.receiver.frames.filter (Frame.isMailFor want)

/-- An id gets all its frames: it is registered, no frame for it follows one that closes it, and the
connection has not ended before all frames were read. -/
structure IsServing (id : UInt32) (queue : Queue) : Prop where
  listening : queue.board.isListening id = true
  clean : queue.board.disconnected = false → queue.receiver.IsClean
  drained : queue.board.disconnected = true →
    queue.board.isLive id = false ∧ queue.receiver.frames = []
  closed : queue.board.isLive id = false → ∀ frame ∈ queue.receiver.frames, frame.arg1 ≠ id
  last : queue.receiver.frames.Pairwise fun earlier later =>
    earlier.closes id = true → later.arg1 ≠ id

/-- A frame for another id is no mail for these takers. -/
theorem isMailFor_of_ne {frame : Frame} (other : frame.arg1 ≠ want.id) :
    Frame.isMailFor want frame = false := by
  have differs : frame.want ≠ want := fun same => other (Frame.want_eq_iff.mp same).1
  simp [Frame.isMailFor, differs]

/-- A closed mailbox gets nothing more. -/
theorem IsServing.mail_of_not_isLive (serving : queue.IsServing want.id)
    (dead : queue.board.isLive want.id = false) :
    queue.mail want = queue.board.queueOf want.id want.command := by
  rw [mail, List.filter_eq_nil_iff.mpr, List.append_nil]
  intro frame member
  rw [isMailFor_of_ne (serving.closed dead frame member)]
  exact Bool.false_ne_true

section Reading

variable {frame : Frame} {receiver : Receiver}

/-- Routing moves a frame from the wire into its queue, which leaves the mail of a registered id as
it was. -/
theorem mail_route (listening : queue.board.isListening want.id = true)
    (read : queue.receiver.readFrame = .ok frame receiver) :
    mail want { board := queue.board.route frame, receiver } = queue.mail want := by
  simp only [mail, Receiver.frames_of_readFrame read, List.append_assoc,
    Switchboard.queueOf_route_of_isListening frame listening, ← List.filter_append,
    List.singleton_append]

/-- An id is served as before after a frame was read and routed, whomever that is for. -/
theorem IsServing.route (serving : queue.IsServing id)
    (connected : queue.board.disconnected = false)
    (read : queue.receiver.readFrame = .ok frame receiver) (clean : receiver.IsClean) :
    IsServing id { board := queue.board.route frame, receiver } := by
  have still_connected : (queue.board.route frame).disconnected = false := by
    rw [Switchboard.disconnected_route, connected]
  have last := serving.last
  rw [Receiver.frames_of_readFrame read, List.pairwise_cons] at last
  refine ⟨?_, fun _ => clean, fun ended => ?_, ?_, last.2⟩
  · rw [Switchboard.isListening_route]
    exact serving.listening
  · rw [still_connected] at ended
    contradiction
  · intro dead later member
    rw [Frame.isLive_route, Bool.and_eq_false_iff, Bool.not_eq_false'] at dead
    rcases dead with dead | closes
    · refine serving.closed dead later ?_
      rw [Receiver.frames_of_readFrame read]
      exact List.mem_cons_of_mem frame member
    · exact last.1 later member closes

/-- The end of the input ends the connection, and nothing is left on the wire. -/
theorem IsServing.truncated {expected actual : Nat} (serving : queue.IsServing id)
    (read : queue.receiver.readFrame = .error (.truncatedFrame expected actual) receiver)
    (nothing : queue.receiver.frames = []) :
    IsServing id
        { board := queue.board.readFailed (.truncatedFrame expected actual), receiver } ∧
      receiver.frames = [] := by
  have still_nothing : receiver.frames = [] := by
    rw [Receiver.frames, Receiver.wire_of_readFrame_error read]
    exact nothing
  refine ⟨⟨?_, ?_, fun _ => ⟨Switchboard.isLive_disconnect id queue.board, still_nothing⟩, ?_, ?_⟩,
    still_nothing⟩
  · rw [Switchboard.isListening_readFailed]
    exact serving.listening
  · intro connected
    contradiction
  · intro _ frame member
    rw [still_nothing] at member
    contradiction
  · rw [still_nothing]
    exact .nil

/-- An id is served as before after a frame was handed out to anyone. -/
theorem IsServing.poll {board : Switchboard} (serving : queue.IsServing id)
    (polled : queue.board.poll want.id want.command = (.frame frame, board)) :
    IsServing id { queue with board } := by
  obtain ⟨-, listening, live, disconnected, -⟩ := Switchboard.poll_frame polled
  refine ⟨?_, ?_, ?_, ?_, serving.last⟩
  · rw [listening]
    exact serving.listening
  · rw [disconnected]
    exact serving.clean
  · rw [disconnected, live]
    exact serving.drained
  · rw [live]
    exact serving.closed

end Reading

/-- What an attempt of any taker leaves for an id, and what it tells the takers of that id. -/
structure Accounts (id : UInt32) (queue : Queue) (want : Want) (outcome : Outcome Queue Frame) :
    Prop where
  serving : outcome.state.IsServing id
  ending : queue.isEnding id = true → outcome.state.isEnding id = true
  mail : ∀ command, queue.mail ⟨id, command⟩ =
    (if want = ⟨id, command⟩ then outcome.result.toOption.toList else []) ++
      outcome.state.mail ⟨id, command⟩
  failing : want.id = id → ∀ failure, outcome.result = .error failure →
    queue.mail want = [] ∧ (queue.isEnding id = true → failure = .streamClosed id)

/-- The takers that the attempt is one of lose the first of their frames to it, if there is one. -/
theorem Accounts.own {outcome : Outcome Queue Frame} {command : UInt32}
    (accounts : Accounts id queue ⟨id, command⟩ outcome) :
    outcome.result.toOption = (queue.mail ⟨id, command⟩).head? ∧
      outcome.state.mail ⟨id, command⟩ = (queue.mail ⟨id, command⟩).tail := by
  have mail := accounts.mail command
  rw [if_pos rfl] at mail
  cases result : outcome.result with
  | ok frame =>
    rw [mail, result]
    exact ⟨rfl, rfl⟩
  | error failure =>
    have nothing := (accounts.failing rfl failure result).1
    rw [nothing, result] at mail
    rw [nothing]
    exact ⟨rfl, mail.symm⟩

/-- An attempt takes nothing from takers that want something else. -/
theorem Accounts.other {outcome : Outcome Queue Frame} {command : UInt32}
    (accounts : Accounts id queue want outcome) (differs : want ≠ ⟨id, command⟩) :
    outcome.state.mail ⟨id, command⟩ = queue.mail ⟨id, command⟩ := by
  rw [accounts.mail command, if_neg differs, List.nil_append]

/-- An attempt may be seen from behind a frame that it has routed. -/
theorem Accounts.congr {before : Queue} {outcome : Outcome Queue Frame}
    (accounts : Accounts id queue want outcome)
    (mail : ∀ command, before.mail ⟨id, command⟩ = queue.mail ⟨id, command⟩)
    (ending : before.isEnding id = queue.isEnding id) : Accounts id before want outcome where
  serving := accounts.serving
  ending before_ending := accounts.ending (ending ▸ before_ending)
  mail command := (mail command).trans (accounts.mail command)
  failing := by
    rintro rfl failure failed
    rw [mail want.command, ending]
    exact accounts.failing rfl failure failed

/-- A failure leaves every queue as it was. -/
theorem accounts_of_failure {failure : Failure} {after : Queue} (serving : after.IsServing id)
    (ending : queue.isEnding id = true → after.isEnding id = true)
    (mail : ∀ command, queue.mail ⟨id, command⟩ = after.mail ⟨id, command⟩)
    (told : want.id = id →
      queue.mail want = [] ∧ (queue.isEnding id = true → failure = .streamClosed id)) :
    Accounts id queue want (.error failure after) where
  serving := serving
  ending := ending
  mail command := by
    rw [mail command]
    split <;> rfl
  failing same other failed := by
    cases failed
    exact told same

/-- A wait of anyone leaves an id served as before, and gives its own takers the first frame of
their mail. -/
theorem accounts_await (serving : queue.IsServing id) :
    Accounts id queue want (queue.await want.id want.command) := by
  fun_induction Queue.await want.id want.command queue with
  | case1 queue frame board polled =>
    obtain ⟨queues, -, live, -⟩ := Switchboard.poll_frame polled
    refine ⟨serving.poll polled, ?_, ?_, ?_⟩
    · intro ending
      simpa only [isEnding, Outcome.state_ok, live] using ending
    · intro command
      by_cases same : want = ⟨id, command⟩
      · subst same
        simp [mail, queues, Outcome.result, Except.toOption]
      · have differs : ¬(id = want.id ∧ command = want.command) := by
          rintro ⟨rfl, rfl⟩
          exact same rfl
        simp [mail, queues, differs, same]
    · intro _ failure failed
      contradiction
  | case2 queue failure board polled =>
    obtain ⟨rfl, empty⟩ := Switchboard.poll_refused polled
    refine accounts_of_failure serving (fun ending => ending) (fun _ => rfl) ?_
    rintro rfl
    rcases Switchboard.poll_refused_cases polled with ⟨dead, rfl⟩ | ⟨live, ended, -⟩
    · rw [serving.mail_of_not_isLive dead]
      exact ⟨empty, fun _ => rfl⟩
    · rw [(serving.drained ended).1] at live
      contradiction
  | case3 queue board polled frame receiver read _ ih =>
    obtain ⟨rfl, unanswered⟩ := Switchboard.poll_nothing_iff.mp polled
    rcases (serving.clean unanswered.connected).readFrame with
      ⟨_, _, same, clean⟩ | ⟨_, _, _, failed, -⟩
    · rw [read, Outcome.ok.injEq] at same
      obtain ⟨rfl, rfl⟩ := same
      refine (ih (serving.route unanswered.connected read clean)).congr ?_ ?_
      · exact fun command => (mail_route serving.listening read).symm
      · exact (isEnding_route id read).symm
    · rw [read] at failed
      contradiction
  | case4 queue board polled failure receiver read =>
    obtain ⟨rfl, unanswered⟩ := Switchboard.poll_nothing_iff.mp polled
    rcases (serving.clean unanswered.connected).readFrame with
      ⟨_, _, same, -⟩ | ⟨expected, actual, _, failed, nothing⟩
    · rw [read] at same
      contradiction
    · rw [read, Outcome.error.injEq] at failed
      obtain ⟨rfl, rfl⟩ := failed
      obtain ⟨still_serving, still_nothing⟩ := serving.truncated read nothing
      refine accounts_of_failure still_serving (fun _ => ?_) (fun command => ?_) ?_
      · exact Bool.or_eq_true_iff.mpr (.inl (by
          rw [Bool.not_eq_true']
          exact Switchboard.isLive_disconnect id queue.board))
      · rw [mail, mail, nothing, still_nothing, Switchboard.queueOf_readFailed]
      · rintro rfl
        refine ⟨?_, fun ending => ?_⟩
        · rw [mail, unanswered.empty, nothing]
          rfl
        · simp [isEnding, unanswered.live, nothing] at ending

/-- An attempt of anyone leaves an id served as before, and gives its own takers the first frame of
their mail. -/
theorem accounts_take (serving : queue.IsServing id) :
    Accounts id queue want (queue.take want.id want.command) := by
  unfold take
  split
  · next failure turned =>
    refine accounts_of_failure serving (fun ending => ending) (fun _ => rfl) ?_
    rintro rfl
    rw [Switchboard.turnAway_eq_none_iff.mpr serving.listening] at turned
    contradiction
  · exact accounts_await serving

/-- Attempts to take frames, one after the other, whether they fail or not. -/
def takes : List Want → Queue → List (Want × Reply)
  | [], _ => []
  | want :: wants, queue =>
    let outcome := queue.take want.id want.command
    (want, outcome.result) :: takes wants outcome.state

/-- What is handed out by queues, one for each command, that nobody else touches. -/
def handOut (queues : UInt32 → List Frame) : List UInt32 → List (UInt32 × Option Frame)
  | [] => []
  | command :: commands =>
    (command, (queues command).head?) ::
      handOut (fun other => if other = command then (queues other).tail else queues other) commands

/-- Queues of its own hand out their frames in order. -/
theorem getElem?_handOut {queues : UInt32 → List Frame} {commands : List UInt32} {command : UInt32}
    {k : Nat} {got : UInt32 × Option Frame}
    (kth : ((handOut queues commands).filter (·.1 = command))[k]? = some got) :
    got.2 = (queues command)[k]? := by
  induction commands generalizing queues k with
  | nil => simp [handOut] at kth
  | cons first commands ih =>
    by_cases same : first = command
    · subst same
      simp only [handOut, List.filter_cons, decide_true, if_true] at kth
      cases k with
      | zero =>
        rw [List.getElem?_cons_zero, Option.some.injEq] at kth
        rw [← kth, List.head?_eq_getElem?]
      | succ k =>
        have later := ih kth
        rwa [if_pos rfl, List.getElem?_tail] at later
    · simp only [handOut, List.filter_cons, same, decide_false, Bool.false_eq_true, if_false] at kth
      have later := ih kth
      rwa [if_neg (Ne.symm same)] at later

/-- What the attempts of an id got, with the commands that they asked for. -/
def gotBy (id : UInt32) (answers : List (Want × Reply)) : List (UInt32 × Option Frame) :=
  (answers.filter (·.1.id = id)).map fun answer => (answer.1.command, answer.2.toOption)

/-- Of what the attempts of an id got, those with one command are the answers to that want. -/
theorem filter_gotBy (id command : UInt32) (answers : List (Want × Reply)) :
    (gotBy id answers).filter (·.1 = command) =
      (answers.filter (·.1 = ⟨id, command⟩)).map fun answer => (command, answer.2.toOption) := by
  induction answers with
  | nil => rfl
  | cons answer answers ih =>
    obtain ⟨⟨other, asked⟩, reply⟩ := answer
    unfold gotBy at ih ⊢
    by_cases own : other = id <;> by_cases same : asked = command <;>
      simp [own, same, ih]

/-- The takers of an id are served by queues of its own. -/
theorem gotBy_takes (serving : queue.IsServing id) (wants : List Want) :
    gotBy id (queue.takes wants) = handOut (fun command => queue.mail ⟨id, command⟩)
      ((wants.filter (·.id = id)).map (·.command)) := by
  induction wants generalizing queue with
  | nil => rfl
  | cons want wants ih =>
    have accounts := @accounts_take id want queue serving
    have later := ih accounts.serving
    unfold gotBy at later ⊢
    by_cases own : want.id = id
    · obtain ⟨_, asked⟩ := want
      obtain rfl := own
      obtain ⟨got, left⟩ := accounts.own
      simp only [takes, List.filter_cons, decide_true, if_true, List.map_cons, handOut, later, got]
      congr 2
      funext command
      by_cases same : command = asked
      · rw [if_pos same, same, left]
      · rw [if_neg same, accounts.other (fun equal => same (congrArg Want.command equal).symm)]
    · simp only [takes, List.filter_cons, own, decide_false, Bool.false_eq_true, if_false, later]
      congr 1
      funext command
      exact accounts.other fun equal => own (congrArg Want.id equal)

/-- An id that the device closes is never told of anything else. -/
theorem failure_of_mem_takes {wants : List Want} {answer : Want × Reply} {failure : Failure}
    (serving : queue.IsServing id) (ending : queue.isEnding id = true)
    (member : answer ∈ queue.takes wants) (own : answer.1.id = id)
    (failed : answer.2 = .error failure) : failure = .streamClosed id := by
  induction wants generalizing queue with
  | nil => contradiction
  | cons want wants ih =>
    have accounts := @accounts_take id want queue serving
    rcases List.mem_cons.mp member with rfl | member
    · exact (accounts.failing own failure failed).2 ending
    · exact ih accounts.serving (accounts.ending ending) member

/-- What an id is served when the device sends these frames. -/
theorem isServing_of_wire {frames : List Frame} (exact : ∀ frame ∈ frames, frame.IsExact)
    (wire : queue.receiver.wire = frames.flatMap Frame.encode) (clean : queue.receiver.IsClean)
    (connected : queue.board.disconnected = false) (live : queue.board.isLive id = true)
    (last : frames.Pairwise fun earlier later => earlier.closes id = true → later.arg1 ≠ id) :
    queue.IsServing id where
  listening := Switchboard.isListening_of_isLive live
  clean _ := clean
  drained ended := by
    rw [connected] at ended
    contradiction
  closed dead := by
    rw [live] at dead
    contradiction
  last := by rwa [Receiver.frames_of_wire exact wire]

/-- **Each id on its own.** An id is registered, nothing waits for it yet, and the device sends any
frames and then ends, with no frame for the id behind one that closes it. Whatever takers of all ids
do, one attempt after the other: the k-th attempt to take a command for the id gets the k-th frame
for it with that command. If there are not so many it fails, and it is told that the stream is
closed if the device closes it. What the takers of the id get depends on nothing but their own
attempts. -/
theorem takers_independent {frames : List Frame} (exact : ∀ frame ∈ frames, frame.IsExact)
    (wire : queue.receiver.wire = frames.flatMap Frame.encode) (clean : queue.receiver.IsClean)
    (connected : queue.board.disconnected = false) (live : queue.board.isLive id = true)
    (empty : ∀ command, queue.board.queueOf id command = [])
    (last : frames.Pairwise fun earlier later => earlier.closes id = true → later.arg1 ≠ id)
    (wants : List Want) :
    (∀ command, command ≠ Command.close → ∀ (k : Nat) (reply : Reply),
      (((queue.takes wants).filter (·.1 = ⟨id, command⟩)).map (·.2))[k]? = some reply →
      match (frames.filter fun frame => frame.arg1 = id && frame.command = command)[k]? with
      | some frame => reply = .ok frame
      | none => ∃ failure, reply = .error failure ∧
          (frames.any (Frame.closes id) = true → failure = .streamClosed id)) ∧
    (∀ others : List Want, others.filter (·.id = id) = wants.filter (·.id = id) →
      gotBy id (queue.takes others) = gotBy id (queue.takes wants)) := by
  have serving := isServing_of_wire exact wire clean connected live last
  have arriving := Receiver.frames_of_wire exact wire
  refine ⟨?_, ?_⟩
  · intro command data k reply kth
    rw [List.getElem?_map, Option.map_eq_some_iff] at kth
    obtain ⟨answer, kth, rfl⟩ := kth
    have member := List.mem_of_getElem? kth
    rw [List.mem_filter, decide_eq_true_iff] at member
    have own : answer.1.id = id := congrArg Want.id member.2
    have mail : queue.mail ⟨id, command⟩ =
        frames.filter fun frame => frame.arg1 = id && frame.command = command := by
      rw [Queue.mail, empty, arriving, List.nil_append]
      apply List.filter_congr
      intro frame _
      by_cases wanted : frame.command = command
      · simp [Frame.isMailFor, Frame.want_eq_iff, wanted, data]
      · simp [Frame.isMailFor, Frame.want_eq_iff, wanted]
    have got : answer.2.toOption = (queue.mail ⟨id, command⟩)[k]? := by
      have served := congrArg (fun all => (all.filter (·.1 = command))[k]?)
        (gotBy_takes serving wants)
      simp only [filter_gotBy, List.getElem?_map, kth, Option.map_some] at served
      exact getElem?_handOut served.symm
    rw [mail] at got
    cases reply_eq : answer.2 with
    | ok frame =>
      rw [← got, reply_eq]
      rfl
    | error failure =>
      rw [← got, reply_eq]
      refine ⟨failure, rfl, fun closes => ?_⟩
      refine failure_of_mem_takes serving ?_ member.1 own reply_eq
      rw [isEnding, arriving, closes, Bool.or_true]
  · intro others same
    rw [gotBy_takes serving, gotBy_takes serving, same]

/-- The takers of one id read everything, and those of the other get their frame and the end of
their stream. -/
theorem takers_independent_pair :
    let frames : List Frame := [.make Command.write 9 1 [10], .make Command.write 8 2 [20],
      .make Command.close 9 1 [], .make Command.write 8 2 [21]]
    let queue : Queue := {
      board := (({} : Switchboard).listen 1).listen 2
      receiver := { source := [.bytes (frames.flatMap Frame.encode) 20] } }
    let wants : List Want := [⟨2, Command.write⟩, ⟨2, Command.write⟩, ⟨2, Command.write⟩,
      ⟨1, Command.write⟩, ⟨1, Command.write⟩]
    ((queue.takes wants).filter (·.1 = ⟨1, Command.write⟩)).map (·.2) =
      [.ok (.make Command.write 9 1 [10]), .error (.streamClosed 1)] := by
  intro frames queue wants
  have exact : ∀ frame ∈ frames, frame.IsExact := by
    simp only [frames, List.forall_mem_cons]
    exact ⟨rfl, rfl, rfl, rfl, fun _ member => absurd member List.not_mem_nil⟩
  have last : frames.Pairwise fun earlier later =>
      earlier.closes 1 = true → later.arg1 ≠ 1 := by decide
  have two : (((queue.takes wants).filter (·.1 = ⟨1, Command.write⟩)).map (·.2)).length = 2 := by
    decide +kernel
  obtain ⟨served, -⟩ := @takers_independent 1 queue frames exact (List.append_nil _)
    (Source.isClean_bytes _ _) rfl rfl (fun _ => rfl) last wants
  obtain ⟨first, rest, both⟩ := List.exists_cons_of_length_eq_add_one two
  rw [both] at two
  obtain ⟨second, rfl⟩ := List.length_eq_one_iff.mp (Nat.succ.inj two)
  have served := served Command.write (by decide)
  rw [both] at served ⊢
  have got : first = .ok (.make Command.write 9 1 [10]) := served 0 first rfl
  obtain ⟨failure, failed, told⟩ : ∃ failure, second = .error failure ∧
    (frames.any (Frame.closes 1) = true → failure = .streamClosed 1) := served 1 second rfl
  rw [got, failed, told rfl]

end DebugBridge.Queue

import DebugBridge.Dispatch.Switchboard

/-!
# What each step does to the queues

Takers see the switchboard through four questions only: which frames wait for an id and a command,
whether the id is registered, whether it is live, and whether the connection has ended. The lemmas
here answer the four questions after every step, so that nothing else has to look inside a mailbox.
A taker stays without an answer exactly as long as its want is `Switchboard.Unanswered`.
-/

namespace DebugBridge

namespace Mailbox

@[simp] theorem queue_push (command : UInt32) (frame : Frame) (box : Mailbox) :
    (box.push frame).queue command =
      box.queue command ++ if frame.command = command then [frame] else [] := by
  rw [push, queue, List.filter_append, queue]
  by_cases same : frame.command = command
  · simp [same]
  · simp [same]

@[simp] theorem queue_discard (command thrown : UInt32) (box : Mailbox) :
    (box.discard thrown).queue command = if command = thrown then [] else box.queue command := by
  rw [discard, queue, List.filter_filter]
  split
  · next same =>
    subst same
    simp
  · next differs =>
    rw [queue]
    apply List.filter_congr
    intro frame _
    by_cases wanted : frame.command = command
    · simp [wanted, differs]
    · simp [wanted]

@[simp] theorem live_push (frame : Frame) (box : Mailbox) : (box.push frame).live = box.live := rfl

@[simp] theorem live_discard (command : UInt32) (box : Mailbox) :
    (box.discard command).live = box.live := rfl

private theorem filter_eraseP_of_find? {wanted : Frame → Bool} {frame : Frame} :
    ∀ {frames : List Frame}, frames.find? wanted = some frame →
      frames.filter wanted = frame :: (frames.eraseP wanted).filter wanted
  | [], found => by simp at found
  | head :: rest, found => by
    by_cases first : wanted head
    · rw [List.find?_cons_of_pos first, Option.some.injEq] at found
      subst found
      simp [first]
    · rw [List.find?_cons_of_neg first] at found
      simp [first, filter_eraseP_of_find? found]

private theorem filter_eraseP_of_disjoint {wanted other : Frame → Bool}
    (disjoint : ∀ frame, wanted frame = true → other frame = false) :
    ∀ frames : List Frame, (frames.eraseP wanted).filter other = frames.filter other
  | [] => rfl
  | head :: rest => by
    by_cases first : wanted head
    · simp [first, disjoint head first]
    · rw [List.eraseP_cons_of_neg first]
      simp [List.filter_cons, filter_eraseP_of_disjoint disjoint rest]

/-- What is taken out is the front of its queue; no other queue notices. -/
theorem queue_of_pop? {command : UInt32} {box rest : Mailbox} {frame : Frame}
    (popped : box.pop? command = some (frame, rest)) :
    box.queue command = frame :: rest.queue command ∧
      (∀ other, other ≠ command → rest.queue other = box.queue other) ∧ rest.live = box.live := by
  simp only [pop?, Option.map_eq_some_iff, Prod.mk.injEq] at popped
  obtain ⟨found, search, rfl, rfl⟩ := popped
  refine ⟨filter_eraseP_of_find? search, ?_, rfl⟩
  intro other differs
  apply filter_eraseP_of_disjoint
  intro frame wanted
  rw [beq_iff_eq] at wanted
  rw [wanted]
  exact beq_false_of_ne fun same => differs same.symm

/-- A mailbox gives up nothing exactly if no frame with the command waits in it. -/
theorem pop?_eq_none_iff {command : UInt32} {box : Mailbox} :
    box.pop? command = none ↔ box.queue command = [] := by
  simp [pop?, queue, List.find?_eq_none, List.filter_eq_nil_iff]

end Mailbox

namespace Mailboxes

private theorem lookup_filter_ne (id other : UInt32) :
    ∀ entries : List (UInt32 × Mailbox), (entries.filter (·.1 != id)).lookup other =
      if other = id then none else entries.lookup other
  | [] => by simp
  | (key, box) :: rest => by
    have ih := lookup_filter_ne id other rest
    by_cases dropped : key = id
    · subst dropped
      by_cases same : other = key
      · simp [same] at ih ⊢
        exact ih
      · simp [same, List.lookup_cons, beq_false_of_ne same] at ih ⊢
        exact ih
    · have kept : (key != id) = true := bne_iff_ne.mpr dropped
      simp only [List.filter_cons, kept, if_true, List.lookup_cons, ih]
      by_cases same : other = key
      · subst same
        simp [dropped]
      · simp [beq_false_of_ne same]

/-- Ending a registration takes away the mailbox of that id and no other. -/
theorem find?_erase (id other : UInt32) (boxes : Mailboxes) :
    (boxes.erase id).find? other = if other = id then none else boxes.find? other :=
  lookup_filter_ne id other boxes.entries

/-- Registering an id gives it a new mailbox and leaves the others. -/
theorem find?_put (id other : UInt32) (box : Mailbox) (boxes : Mailboxes) :
    (boxes.put id box).find? other = if other = id then some box else boxes.find? other := by
  have erased := find?_erase id other boxes
  simp only [find?] at erased
  simp only [put, find?, List.lookup_cons, erased]
  by_cases same : other = id
  · simp [same]
  · simp [same, beq_false_of_ne same]

/-- Silencing marks every mailbox as not live and keeps its frames. -/
theorem find?_silence (id : UInt32) (boxes : Mailboxes) :
    boxes.silence.find? id = (boxes.find? id).map fun box => { box with live := false } := by
  obtain ⟨entries⟩ := boxes
  simp only [silence, find?]
  induction entries with
  | nil => rfl
  | cons first rest ih =>
    obtain ⟨key, box⟩ := first
    simp only [List.map_cons, List.lookup_cons]
    by_cases same : id = key
    · simp [same]
    · simp [beq_false_of_ne same, ih]

end Mailboxes

namespace Switchboard

/-- The frames with a command that wait for an id, oldest first. -/
def queueOf (id command : UInt32) (board : Switchboard) : List Frame :=
  match board.boxes.find? id with
  | none => []
  | some box => box.queue command

/-- Nothing can be answered yet to a taker that waits for this: its id is registered and live, the
connection has not ended, and no frame is there. -/
structure Unanswered (id command : UInt32) (board : Switchboard) : Prop where
  listening : board.isListening id = true
  live : board.isLive id = true
  connected : board.disconnected = false
  empty : board.queueOf id command = []

/-- Where a frame ends up when it is routed. -/
inductive Landing where
  /-- In the mailbox of its id. -/
  | queued
  /-- It closes its mailbox. -/
  | absorbed
  /-- Nowhere: its id is not registered. -/
  | dropped
  deriving DecidableEq

/-- Where a frame would end up now. -/
def landing (frame : Frame) (board : Switchboard) : Landing :=
  if board.isListening frame.arg1 = false then .dropped
  else if frame.command = Command.close then .absorbed
  else .queued

/-- Nothing waits for an id that is not registered. -/
theorem queueOf_of_not_isListening {id command : UInt32} {board : Switchboard}
    (unknown : board.isListening id = false) : board.queueOf id command = [] := by
  simp only [isListening, Option.isSome_eq_false_iff, Option.isNone_iff_eq_none] at unknown
  simp [queueOf, unknown]

/-- A live id is registered. -/
theorem isListening_of_isLive {id : UInt32} {board : Switchboard}
    (live : board.isLive id = true) : board.isListening id = true := by
  unfold isLive at live
  unfold isListening
  split at live
  · contradiction
  · next found => rw [found, Option.isSome_some]

section Listening

variable (id other : UInt32) (board : Switchboard)

@[simp] theorem isListening_listen :
    (board.listen id).isListening other = (other = id || board.isListening other) := by
  simp only [isListening, listen, Mailboxes.find?_put]
  by_cases same : other = id <;> simp [same]

@[simp] theorem isLive_listen :
    (board.listen id).isLive other = (other = id || board.isLive other) := by
  simp only [isLive, listen, Mailboxes.find?_put]
  by_cases same : other = id <;> simp [same]

@[simp] theorem queueOf_listen (command : UInt32) :
    (board.listen id).queueOf other command =
      if other = id then [] else board.queueOf other command := by
  simp only [queueOf, listen, Mailboxes.find?_put]
  by_cases same : other = id <;> simp [same, Mailbox.queue]

@[simp] theorem disconnected_listen : (board.listen id).disconnected = board.disconnected := rfl

@[simp] theorem metrics_listen : (board.listen id).metrics = board.metrics := rfl

@[simp] theorem queueOf_unlisten (command : UInt32) :
    (board.unlisten id).queueOf other command =
      if other = id then [] else board.queueOf other command := by
  simp only [queueOf, unlisten, Mailboxes.find?_erase]
  by_cases same : other = id <;> simp [same]

@[simp] theorem isListening_unlisten :
    (board.unlisten id).isListening other = (!decide (other = id) && board.isListening other) := by
  simp only [isListening, unlisten, Mailboxes.find?_erase]
  by_cases same : other = id <;> simp [same]

@[simp] theorem isLive_unlisten :
    (board.unlisten id).isLive other = (!decide (other = id) && board.isLive other) := by
  simp only [isLive, unlisten, Mailboxes.find?_erase]
  by_cases same : other = id <;> simp [same]

@[simp] theorem disconnected_unlisten :
    (board.unlisten id).disconnected = board.disconnected := rfl

@[simp] theorem metrics_unlisten : (board.unlisten id).metrics = board.metrics := rfl

end Listening

section Discarding

variable (id command other : UInt32) (board : Switchboard)

private theorem find?_discard :
    (board.discard id command).boxes.find? other =
      (board.boxes.find? other).map fun box => if other = id then box.discard command else box := by
  unfold discard
  split
  · next unknown =>
    by_cases same : other = id
    · simp [same, unknown]
    · simp [same]
  · next box found =>
    rw [Mailboxes.find?_put]
    by_cases same : other = id
    · simp [same, found]
    · simp [same]

@[simp] theorem isListening_discard :
    (board.discard id command).isListening other = board.isListening other := by
  simp [isListening, find?_discard]

@[simp] theorem isLive_discard :
    (board.discard id command).isLive other = board.isLive other := by
  simp only [isLive, find?_discard]
  cases board.boxes.find? other with
  | none => rfl
  | some box => by_cases same : other = id <;> simp [same]

@[simp] theorem queueOf_discard (wanted : UInt32) :
    (board.discard id command).queueOf other wanted =
      if other = id ∧ wanted = command then [] else board.queueOf other wanted := by
  simp only [queueOf, find?_discard]
  cases board.boxes.find? other with
  | none => simp
  | some box => by_cases same : other = id <;> simp [same]

@[simp] theorem disconnected_discard :
    (board.discard id command).disconnected = board.disconnected := by
  unfold discard
  split <;> rfl

@[simp] theorem metrics_discard : (board.discard id command).metrics = board.metrics := by
  unfold discard
  split <;> rfl

end Discarding

section Ending

variable (id command : UInt32) (failure : Failure) (board : Switchboard)

@[simp] theorem queueOf_disconnect :
    board.disconnect.queueOf id command = board.queueOf id command := by
  simp only [queueOf, disconnect, Mailboxes.find?_silence]
  cases board.boxes.find? id <;> rfl

@[simp] theorem isListening_disconnect :
    board.disconnect.isListening id = board.isListening id := by
  simp [isListening, disconnect, Mailboxes.find?_silence]

@[simp] theorem isLive_disconnect : board.disconnect.isLive id = false := by
  simp only [isLive, disconnect, Mailboxes.find?_silence]
  cases board.boxes.find? id <;> rfl

@[simp] theorem disconnected_disconnect : board.disconnect.disconnected = true := rfl

@[simp] theorem metrics_disconnect : board.disconnect.metrics = board.metrics := rfl

@[simp] theorem queueOf_readFailed :
    (board.readFailed failure).queueOf id command = board.queueOf id command := by
  unfold readFailed
  split
  · rfl
  · exact queueOf_disconnect id command board

@[simp] theorem isListening_readFailed :
    (board.readFailed failure).isListening id = board.isListening id := by
  unfold readFailed
  split
  · rfl
  · exact isListening_disconnect id board

@[simp] theorem isLive_readFailed :
    (board.readFailed failure).isLive id = (failure.isTransient && board.isLive id) := by
  unfold readFailed
  split
  · next transient => rw [transient, Bool.true_and]
  · next lasting => simp [lasting]

@[simp] theorem disconnected_readFailed :
    (board.readFailed failure).disconnected = (!failure.isTransient || board.disconnected) := by
  unfold readFailed
  split
  · next transient => rw [transient, Bool.not_true, Bool.false_or]
  · next lasting => simp [lasting]

@[simp] theorem metrics_readFailed : (board.readFailed failure).metrics = board.metrics := by
  unfold readFailed
  split <;> rfl

end Ending

section Routing

variable (frame : Frame) (id command : UInt32) (board : Switchboard)

private theorem find?_route :
    (board.route frame).boxes.find? id = (board.boxes.find? id).map fun box =>
      if id = frame.arg1 then
        if frame.command = Command.close then { box with live := false } else box.push frame
      else box := by
  unfold route
  split
  · next unknown =>
    by_cases same : id = frame.arg1
    · simp [same, unknown]
    · simp [same]
  · next box found =>
    rw [Mailboxes.find?_put]
    by_cases same : id = frame.arg1
    · simp [same, found]
    · simp [same]

@[simp] theorem isListening_route : (board.route frame).isListening id = board.isListening id := by
  simp [isListening, find?_route]

@[simp] theorem isLive_route :
    (board.route frame).isLive id =
      (board.isLive id &&
        !(decide (id = frame.arg1) && decide (frame.command = Command.close))) := by
  simp only [isLive, find?_route]
  cases board.boxes.find? id with
  | none => rfl
  | some box =>
    by_cases same : id = frame.arg1
    · by_cases close : frame.command = Command.close <;> simp [same, close]
    · simp [same]

/-- A frame joins its own queue and no other, if it joins any. -/
theorem queueOf_route :
    (board.route frame).queueOf id command = board.queueOf id command ++
      if board.landing frame = .queued ∧ frame.arg1 = id ∧ frame.command = command then [frame]
      else [] := by
  simp only [queueOf, find?_route, landing, isListening]
  cases registered : board.boxes.find? id with
  | none =>
    by_cases same : frame.arg1 = id
    · simp [same, registered]
    · simp [same]
  | some box =>
    by_cases same : frame.arg1 = id
    · subst same
      by_cases close : frame.command = Command.close
      · simp [registered, close, Mailbox.queue]
      · simp [registered, close]
    · simp [same, Ne.symm same]

@[simp] theorem disconnected_route : (board.route frame).disconnected = board.disconnected := by
  unfold route
  split <;> rfl

/-- Routing counts a frame as dropped exactly if it lands nowhere. -/
theorem framesDropped_route :
    (board.route frame).metrics.framesDropped =
      board.metrics.framesDropped + if board.landing frame = .dropped then 1 else 0 := by
  unfold route landing isListening
  split
  · next unknown => simp [unknown, Metrics.frameDropped]
  · next box found => by_cases close : frame.command = Command.close <;> simp [found, close]

theorem metrics_route_of_isListening (registered : board.isListening frame.arg1 = true) :
    (board.route frame).metrics = board.metrics := by
  unfold route
  split
  · next unknown => simp [isListening, unknown] at registered
  · rfl

end Routing

/-- Nothing has changed but that an id is not live any more. -/
structure OnlyCloses (id : UInt32) (board after : Switchboard) : Prop where
  queues : ∀ other command, after.queueOf other command = board.queueOf other command
  listening : ∀ other, after.isListening other = board.isListening other
  live : ∀ other, after.isLive other = (board.isLive other && other != id)
  disconnected : after.disconnected = board.disconnected
  metrics : after.metrics = board.metrics

/-- A frame that is absorbed closes its mailbox and does nothing else. -/
theorem onlyCloses_of_absorbed {frame : Frame} {board : Switchboard}
    (absorbed : board.landing frame = .absorbed) :
    OnlyCloses frame.arg1 board (board.route frame) := by
  have closing : board.isListening frame.arg1 = true ∧ frame.command = Command.close := by
    unfold landing at absorbed
    by_cases registered : board.isListening frame.arg1 = true
    · by_cases close : frame.command = Command.close
      · exact ⟨registered, close⟩
      · simp [registered, close] at absorbed
    · simp [registered] at absorbed
  refine ⟨?_, fun other => isListening_route .., ?_, disconnected_route ..,
    metrics_route_of_isListening frame board closing.1⟩
  · intro other command
    simp [queueOf_route, absorbed]
  · intro other
    by_cases same : other = frame.arg1 <;> simp [closing.2, same]

/-- A poll that hands out a frame takes it off the front of its queue and changes nothing else. -/
theorem poll_frame {id command : UInt32} {board after : Switchboard} {frame : Frame}
    (polled : board.poll id command = (.frame frame, after)) :
    (∀ other wanted, board.queueOf other wanted =
      if other = id ∧ wanted = command then frame :: after.queueOf other wanted
      else after.queueOf other wanted) ∧
    (∀ other, after.isListening other = board.isListening other) ∧
    (∀ other, after.isLive other = board.isLive other) ∧
    after.disconnected = board.disconnected ∧ after.metrics = board.metrics := by
  unfold poll at polled
  split at polled
  · simp only [Prod.mk.injEq, reduceCtorEq, false_and] at polled
  · next box registered =>
    split at polled
    · next popped rest pop =>
      simp only [Prod.mk.injEq, Poll.frame.injEq] at polled
      obtain ⟨rfl, rfl⟩ := polled
      obtain ⟨front, others, live⟩ := Mailbox.queue_of_pop? pop
      refine ⟨?_, ?_, ?_, rfl, rfl⟩
      · intro other wanted
        simp only [queueOf, Mailboxes.find?_put]
        by_cases same : other = id
        · subst same
          by_cases equal : wanted = command
          · subst equal
            simp [registered, front]
          · simp [registered, equal, others wanted equal]
        · simp [same]
      · intro other
        simp only [isListening, Mailboxes.find?_put]
        by_cases same : other = id <;> simp [same, registered]
      · intro other
        simp only [isLive, Mailboxes.find?_put]
        by_cases same : other = id <;> simp [same, registered, live]
    · split at polled
      · simp only [Prod.mk.injEq, reduceCtorEq, false_and] at polled
      · split at polled <;> simp only [Prod.mk.injEq, reduceCtorEq, false_and] at polled

/-- A poll without a frame changes nothing. -/
theorem poll_refused {id command : UInt32} {board after : Switchboard} {failure : Failure}
    (polled : board.poll id command = (.refused failure, after)) :
    after = board ∧ board.queueOf id command = [] := by
  unfold poll at polled
  split at polled
  · next unknown =>
    simp only [Prod.mk.injEq] at polled
    exact ⟨polled.2.symm, by simp [queueOf, unknown]⟩
  · next box registered =>
    split at polled
    · simp only [Prod.mk.injEq, reduceCtorEq, false_and] at polled
    · next none_there =>
      have empty : board.queueOf id command = [] := by
        simp only [queueOf, registered]
        exact Mailbox.pop?_eq_none_iff.mp none_there
      split at polled
      · simp only [Prod.mk.injEq] at polled
        exact ⟨polled.2.symm, empty⟩
      · split at polled
        · simp only [Prod.mk.injEq] at polled
          exact ⟨polled.2.symm, empty⟩
        · simp only [Prod.mk.injEq, reduceCtorEq, false_and] at polled

/-- Why a poll is refused: the mailbox is closed, or it is not and the connection has ended. -/
theorem poll_refused_cases {id command : UInt32} {board after : Switchboard} {failure : Failure}
    (polled : board.poll id command = (.refused failure, after)) :
    board.isLive id = false ∧ failure = .streamClosed id ∨
      board.isLive id = true ∧ board.disconnected = true ∧ failure = .connectionClosed := by
  unfold poll at polled
  split at polled
  · next unknown =>
    simp only [Prod.mk.injEq, Poll.refused.injEq] at polled
    exact .inl ⟨by simp [isLive, unknown], polled.1.symm⟩
  · next box registered =>
    split at polled
    · simp only [Prod.mk.injEq, reduceCtorEq, false_and] at polled
    · split at polled
      · next dead =>
        simp only [Prod.mk.injEq, Poll.refused.injEq] at polled
        exact .inl ⟨by simpa [isLive, registered] using dead, polled.1.symm⟩
      · next live =>
        split at polled
        · next ended =>
          simp only [Prod.mk.injEq, Poll.refused.injEq] at polled
          exact .inr ⟨by simpa [isLive, registered] using live, ended, polled.1.symm⟩
        · simp only [Prod.mk.injEq, reduceCtorEq, false_and] at polled

/-- Polling finds nothing exactly while the want is unanswered. -/
theorem poll_nothing_iff {id command : UInt32} {board after : Switchboard} :
    board.poll id command = (.nothing, after) ↔ after = board ∧ board.Unanswered id command := by
  constructor
  · intro polled
    unfold poll at polled
    split at polled
    · simp only [Prod.mk.injEq, reduceCtorEq, false_and] at polled
    · next box registered =>
      split at polled
      · simp only [Prod.mk.injEq, reduceCtorEq, false_and] at polled
      · next none_there =>
        split at polled
        · simp only [Prod.mk.injEq, reduceCtorEq, false_and] at polled
        · next live =>
          split at polled
          · simp only [Prod.mk.injEq, reduceCtorEq, false_and] at polled
          · next connected =>
            simp only [Prod.mk.injEq, true_and] at polled
            refine ⟨polled.symm, ?_, ?_, by simpa using connected, ?_⟩
            · simp [isListening, registered]
            · simpa [isLive, registered] using live
            · simp only [queueOf, registered]
              exact Mailbox.pop?_eq_none_iff.mp none_there
  · rintro ⟨rfl, unanswered⟩
    obtain ⟨listening, live, connected, empty⟩ := unanswered
    cases registered : after.boxes.find? id with
    | none => simp [isListening, registered] at listening
    | some box =>
      simp only [isLive, registered] at live
      simp only [queueOf, registered] at empty
      simp [poll, registered, Mailbox.pop?_eq_none_iff.mpr empty, live, connected]

/-- What a poll can find. -/
theorem poll_cases (id command : UInt32) (board : Switchboard) :
    (∃ frame after, board.poll id command = (.frame frame, after)) ∨
      (∃ failure, board.poll id command = (.refused failure, board)) ∨
      (board.Unanswered id command ∧ board.poll id command = (.nothing, board)) := by
  match polled : board.poll id command with
  | (.frame frame, after) => exact .inl ⟨frame, after, rfl⟩
  | (.refused failure, after) =>
    obtain ⟨rfl, -⟩ := poll_refused polled
    exact .inr (.inl ⟨failure, rfl⟩)
  | (.nothing, after) =>
    obtain ⟨rfl, unanswered⟩ := poll_nothing_iff.mp polled
    exact .inr (.inr ⟨unanswered, rfl⟩)

/-- A taker is turned away exactly if its id is not registered. -/
theorem turnAway_eq_none_iff {id : UInt32} {board : Switchboard} :
    board.turnAway id = none ↔ board.isListening id = true := by
  unfold turnAway
  split <;> simp_all

/-- One who is turned away is told that the id is not registered. -/
theorem failure_of_turnAway {id : UInt32} {board : Switchboard} {failure : Failure}
    (turned : board.turnAway id = some failure) : failure = .notListening id := by
  unfold turnAway at turned
  split at turned
  · contradiction
  · exact (Option.some.inj turned).symm

end Switchboard
end DebugBridge

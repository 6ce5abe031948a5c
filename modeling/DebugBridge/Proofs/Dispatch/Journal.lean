import DebugBridge.Proofs.Dispatch.Flow

/-!
# Where every frame has gone

The journal of a run lists the frames that readers have routed, in the order in which they did, and
what has become of each. It is kept from the events alone: a frame that is routed waits, closes its
mailbox or is dropped; a waiting frame is taken by the next taker that wants it, or thrown away with
its queue. The journal is true: with the frame in the hands of the reader it has every frame of the
source in the order of the wire, takers got exactly the frames marked as taken, and each queue holds
the frames marked as waiting for it.
-/

namespace DebugBridge

/-- What has become of a frame that was routed. -/
inductive Fate (Thread : Type) where
  /-- It is in the mailbox of its id. -/
  | waiting
  /-- A thread got it from its attempt to take a frame. -/
  | taken (thread : Thread)
  /-- It has closed the mailbox of its id. -/
  | absorbed
  /-- Its id was not registered when it was routed. -/
  | dropped
  /-- It was thrown away with the queue that it was in. -/
  | discarded

/-- The fate that routing brings about. -/
def Switchboard.Landing.fate {Thread : Type} : Switchboard.Landing → Fate Thread
  | queued => .waiting
  | absorbed => .absorbed
  | dropped => .dropped

/-- A frame that was routed, with its fate. -/
structure Entry (Thread : Type) where
  frame : Frame
  fate : Fate Thread

namespace Entry

variable {Thread : Type}

/-- The frame, if it waits for these takers. -/
def waiting? (want : Want) (entry : Entry Thread) : Option Frame :=
  match entry.fate with
  | .waiting => if entry.frame.want = want then some entry.frame else none
  | _ => none

/-- The thread that has taken the frame, and the frame, if it is for these takers. -/
def taken? (want : Want) (entry : Entry Thread) : Option (Thread × Frame) :=
  match entry.fate with
  | .taken thread => if entry.frame.want = want then some (thread, entry.frame) else none
  | _ => none

/-- Whether the frame was dropped. -/
def isDropped (entry : Entry Thread) : Bool :=
  match entry.fate with
  | .dropped => true
  | _ => false

/-- What throwing away queues does. -/
def discard (thrown : Want → Bool) (entry : Entry Thread) : Entry Thread :=
  match entry.fate with
  | .waiting => if thrown entry.frame.want then { entry with fate := .discarded } else entry
  | _ => entry

end Entry

/-- Frames with their fates, in the order in which they were routed. -/
abbrev Journal (Thread : Type) := List (Entry Thread)

namespace Journal

variable {Thread : Type}

/-- The frames that wait for these takers. -/
def waiting (want : Want) (journal : Journal Thread) : List Frame :=
  journal.filterMap (Entry.waiting? want)

/-- The frames that these takers have got. -/
def taken (want : Want) (journal : Journal Thread) : List (Thread × Frame) :=
  journal.filterMap (Entry.taken? want)

/-- The first frame that waits for these takers is taken. -/
def take (thread : Thread) (want : Want) : Journal Thread → Journal Thread
  | [] => []
  | entry :: rest =>
    match entry.waiting? want with
    | some frame => ⟨frame, .taken thread⟩ :: rest
    | none => entry :: take thread want rest

/-- An attempt that ends with a frame takes it. -/
def serve (thread : Thread) (want : Want) (journal : Journal Thread) :
    Option Reply → Journal Thread
  | some (.ok _) => journal.take thread want
  | _ => journal

/-- What a step changes. -/
def note (journal : Journal Thread) : Event Thread → Journal Thread
  | .delivers thread want frame landing answer =>
    serve thread want (journal ++ [⟨frame, landing.fate⟩]) answer
  | .looks thread want answer => journal.serve thread want answer
  | event => journal.map (Entry.discard fun want => event.throws want)

/-- The journal of all that has happened. -/
def ofEvents (events : List (Event Thread)) : Journal Thread :=
  events.foldl note []

theorem ofEvents_snoc (events : List (Event Thread)) (event : Event Thread) :
    ofEvents (events ++ [event]) = (ofEvents events).note event := by
  simp [ofEvents]

@[simp] theorem waiting_nil (want : Want) : waiting want ([] : Journal Thread) = [] := rfl

@[simp] theorem taken_nil (want : Want) : taken want ([] : Journal Thread) = [] := rfl

@[simp] theorem waiting_append (want : Want) (first second : Journal Thread) :
    (first ++ second : Journal Thread).waiting want = first.waiting want ++ second.waiting want :=
  List.filterMap_append ..

@[simp] theorem waiting_cons (want : Want) (entry : Entry Thread) (rest : Journal Thread) :
    waiting want (entry :: rest) = (entry.waiting? want).toList ++ waiting want rest := by
  rw [waiting, List.filterMap_cons]
  cases entry.waiting? want <;> rfl

@[simp] theorem taken_append (want : Want) (first second : Journal Thread) :
    (first ++ second : Journal Thread).taken want = first.taken want ++ second.taken want :=
  List.filterMap_append ..

@[simp] theorem taken_cons (want : Want) (entry : Entry Thread) (rest : Journal Thread) :
    taken want (entry :: rest) = (entry.taken? want).toList ++ taken want rest := by
  rw [taken, List.filterMap_cons]
  cases entry.taken? want <;> rfl

end Journal

namespace Entry

variable {Thread : Type}

/-- An entry waits for these takers if its frame is for them and has no other fate. -/
theorem waiting?_eq_some_iff {want : Want} {entry : Entry Thread} {frame : Frame} :
    entry.waiting? want = some frame ↔
      entry.fate = .waiting ∧ entry.frame.want = want ∧ entry.frame = frame := by
  unfold waiting?
  split
  · next waits => simp [waits]
  · next differs => simpa using fun waits => absurd waits differs

@[simp] theorem frame_discard (thrown : Want → Bool) (entry : Entry Thread) :
    (entry.discard thrown).frame = entry.frame := by
  unfold discard
  split
  · split <;> rfl
  · rfl

/-- What is thrown away are the waiting frames of the queues in question. -/
theorem fate_discard_eq_waiting_iff {thrown : Want → Bool} {entry : Entry Thread} :
    (entry.discard thrown).fate = .waiting ↔
      entry.fate = .waiting ∧ thrown entry.frame.want = false := by
  unfold discard
  split
  · next waits => split <;> simp_all
  · next differs => simpa using fun waits => absurd waits differs

/-- Throwing a queue away leaves nothing waiting in it and all other queues alone. -/
theorem waiting?_discard (thrown : Want → Bool) (want : Want) (entry : Entry Thread) :
    (entry.discard thrown).waiting? want = if thrown want then none else entry.waiting? want := by
  apply Option.ext
  intro frame
  rw [waiting?_eq_some_iff, fate_discard_eq_waiting_iff, frame_discard]
  by_cases gone : thrown want = true
  · rw [if_pos gone]
    simp only [reduceCtorEq, iff_false, not_and]
    rintro ⟨-, kept⟩ rfl
    rw [gone] at kept
    contradiction
  · rw [if_neg gone, waiting?_eq_some_iff]
    constructor
    · rintro ⟨⟨waits, -⟩, wanted, same⟩
      exact ⟨waits, wanted, same⟩
    · rintro ⟨waits, rfl, same⟩
      exact ⟨⟨waits, Bool.eq_false_iff.mpr gone⟩, rfl, same⟩

/-- Nothing but a waiting frame is thrown away. -/
theorem discard_of_ne_waiting {thrown : Want → Bool} {entry : Entry Thread}
    (settled : entry.fate ≠ .waiting) : entry.discard thrown = entry := by
  unfold discard
  split
  · contradiction
  · rfl

/-- What was taken stays taken when queues are thrown away. -/
theorem taken?_discard (thrown : Want → Bool) (want : Want) (entry : Entry Thread) :
    (entry.discard thrown).taken? want = entry.taken? want := by
  obtain ⟨frame, fate⟩ := entry
  cases fate with
  | waiting =>
    simp only [discard]
    split <;> rfl
  | _ => rw [discard_of_ne_waiting (by simp)]

end Entry

namespace Journal

variable {Thread : Type} {journal : Journal Thread} {board after : Switchboard}

/-- A frame waits for these takers exactly if it is for them and an entry marks it as waiting. -/
theorem mem_waiting {want : Want} {frame : Frame} :
    frame ∈ journal.waiting want ↔ ⟨frame, .waiting⟩ ∈ journal ∧ frame.want = want := by
  simp only [waiting, List.mem_filterMap, Entry.waiting?_eq_some_iff]
  constructor
  · rintro ⟨⟨_, _⟩, member, rfl, rfl, rfl⟩
    exact ⟨member, rfl⟩
  · rintro ⟨member, rfl⟩
    exact ⟨_, member, rfl, rfl, rfl⟩

/-- The frame that is taken stands behind settled ones and before the others that wait. -/
theorem take_of_waiting (thread : Thread) {want : Want} {frame : Frame} {others : List Frame} :
    ∀ {journal : Journal Thread}, journal.waiting want = frame :: others →
      ∃ settled later : Journal Thread, journal = settled ++ ⟨frame, .waiting⟩ :: later ∧
        journal.take thread want = settled ++ ⟨frame, .taken thread⟩ :: later ∧
        frame.want = want ∧ settled.waiting want = []
  | [], waits => by simp [waiting] at waits
  | entry :: rest, waits => by
    cases found : entry.waiting? want with
    | some first =>
      obtain ⟨fate, wanted, rfl⟩ := Entry.waiting?_eq_some_iff.mp found
      obtain ⟨rfl, -⟩ : entry.frame = frame ∧ waiting want rest = others := by
        simpa [found] using waits
      refine ⟨[], rest, ?_, by simp [take, found], wanted, rfl⟩
      rw [List.nil_append, ← fate]
    | none =>
      obtain ⟨settled, later, split, taken, wanted, none_waits⟩ :=
        take_of_waiting thread (by simpa [found] using waits : waiting want rest = frame :: others)
      refine ⟨entry :: settled, later, by simp [split], by simp [take, found, taken], wanted, ?_⟩
      simp [found, none_waits]

/-- Throwing a queue away leaves nothing waiting in it and all other queues alone. -/
theorem waiting_discard (thrown : Want → Bool) (want : Want) (journal : Journal Thread) :
    waiting want (journal.map (Entry.discard thrown)) =
      if thrown want then [] else journal.waiting want := by
  induction journal with
  | nil => simp
  | cons entry rest ih =>
    rw [List.map_cons, waiting_cons, waiting_cons, ih, Entry.waiting?_discard]
    split <;> simp

/-- What was taken stays taken when queues are thrown away. -/
theorem taken_discard (thrown : Want → Bool) (want : Want) (journal : Journal Thread) :
    taken want (journal.map (Entry.discard thrown)) = journal.taken want := by
  induction journal with
  | nil => rfl
  | cons entry rest ih => rw [List.map_cons, taken_cons, taken_cons, ih, Entry.taken?_discard]

/-- The queues hold what the journal says, and no frame is left behind by a later one for the same
takers. -/
structure Matches (board : Switchboard) (journal : Journal Thread) : Prop where
  waiting : ∀ want, journal.waiting want = board.queueOf want.id want.command
  inOrder : journal.Pairwise fun earlier later => earlier.fate = .waiting →
    later.frame.want = earlier.frame.want → later.fate = .waiting
  closing : ∀ entry ∈ journal, entry.frame.command = Command.close →
    entry.fate = .absorbed ∨ entry.fate = .dropped

namespace Matches

/-- At the start nothing waits and nothing has been noted. -/
theorem fresh (metrics : Metrics) : Matches { metrics } ([] : Journal Thread) where
  waiting _ := rfl
  inOrder := .nil
  closing := by simp

/-- What waits for a taker keeps its id registered. -/
theorem isListening {frame : Frame} (same : journal.Matches board)
    (waits : ⟨frame, .waiting⟩ ∈ journal) : board.isListening frame.arg1 = true := by
  have queued := mem_waiting.mpr ⟨waits, rfl⟩
  rw [same.waiting] at queued
  cases registered : board.isListening frame.arg1 with
  | true => rfl
  | false =>
    rw [Frame.want, Switchboard.queueOf_of_not_isListening registered] at queued
    contradiction

/-- What is routed is entered last. -/
theorem route (frame : Frame) (same : journal.Matches board) :
    Matches (board.route frame) (journal ++ [⟨frame, (board.landing frame).fate⟩]) where
  waiting want := by
    rw [waiting_append, same.waiting, Switchboard.queueOf_route]
    congr 1
    cases landing : board.landing frame with
    | queued =>
      by_cases wanted : frame.want = want
      · simp [Switchboard.Landing.fate, Entry.waiting?, wanted, Frame.want_eq_iff.mp wanted]
      · have differs := mt Frame.want_eq_iff.mpr wanted
        simp [Switchboard.Landing.fate, Entry.waiting?, wanted, differs]
    | absorbed | dropped => simp [Switchboard.Landing.fate, Entry.waiting?]
  inOrder := by
    refine List.pairwise_append.mpr ⟨same.inOrder, List.pairwise_singleton .., ?_⟩
    rintro ⟨earlier, _⟩ member _ last rfl wanted
    rw [List.mem_singleton.mp last] at wanted ⊢
    obtain ⟨id, command⟩ := Frame.want_eq_iff.mp wanted
    have registered : board.isListening frame.arg1 = true := id ▸ same.isListening member
    have stays : frame.command ≠ Command.close := fun close => by
      rcases same.closing _ member (command.symm.trans close) with absorbed | dropped
      · contradiction
      · contradiction
    simp [Switchboard.landing, registered, stays, Switchboard.Landing.fate]
  closing := by
    intro entry member close
    rcases List.mem_append.mp member with earlier | last
    · exact same.closing entry earlier close
    · rw [List.mem_singleton.mp last] at close ⊢
      change frame.command = Command.close at close
      by_cases registered : board.isListening frame.arg1 = true
      · exact .inl (by simp [Switchboard.landing, registered, close, Switchboard.Landing.fate])
      · exact .inr (by simp [Switchboard.landing, registered, Switchboard.Landing.fate])

/-- What is thrown away leaves its queue. -/
theorem discard {thrown : Want → Bool} (same : journal.Matches board)
    (emptied : ∀ want, after.queueOf want.id want.command =
      if thrown want then [] else board.queueOf want.id want.command) :
    Matches after (journal.map (Entry.discard thrown)) where
  waiting want := by
    rw [emptied, waiting_discard, same.waiting]
  inOrder := by
    refine List.pairwise_map.mpr (same.inOrder.imp ?_)
    intro earlier later order waits wanted
    rw [Entry.frame_discard, Entry.frame_discard] at wanted
    obtain ⟨waits, kept⟩ := Entry.fate_discard_eq_waiting_iff.mp waits
    exact Entry.fate_discard_eq_waiting_iff.mpr ⟨order waits wanted, wanted ▸ kept⟩
  closing := by
    intro entry member close
    obtain ⟨before, earlier, rfl⟩ := List.mem_map.mp member
    rw [Entry.frame_discard] at close
    have settled := same.closing before earlier close
    rw [Entry.discard_of_ne_waiting (by rcases settled with fate | fate <;> simp [fate])]
    exact settled

section Taking

variable {thread : Thread} {frame : Frame} {settled later : Journal Thread}

/-- What is behind a waiting frame and for the same takers has not been taken before it. -/
theorem taken_later (same : Matches board (settled ++ ⟨frame, .waiting⟩ :: later)) :
    later.taken frame.want = [] := by
  apply List.filterMap_eq_nil_iff.mpr
  intro entry member
  have order := (List.pairwise_cons.mp (List.pairwise_append.mp same.inOrder).2.1).1 entry member
  by_cases wanted : entry.frame.want = frame.want
  · simp [Entry.taken?, order rfl wanted]
  · unfold Entry.taken?
    split
    · exact if_neg wanted
    · rfl

/-- The first frame that waits for its takers may be given to one of them. -/
theorem take_first (same : Matches board (settled ++ ⟨frame, .waiting⟩ :: later))
    (none_waits : settled.waiting frame.want = [])
    (polled : board.poll frame.want.id frame.want.command = (.frame frame, after)) :
    Matches after (settled ++ ⟨frame, .taken thread⟩ :: later) := by
  obtain ⟨queues, -⟩ := Switchboard.poll_frame polled
  have order := List.pairwise_append.mp same.inOrder
  refine ⟨?_, ?_, ?_⟩
  · intro want
    have before := (same.waiting want).trans (queues want.id want.command)
    by_cases wanted : frame.want = want
    · subst wanted
      rw [if_pos ⟨rfl, rfl⟩] at before
      simpa [none_waits, Entry.waiting?] using before
    · have differs : ¬(want.id = frame.want.id ∧ want.command = frame.want.command) := fun equal =>
        wanted (Frame.want_eq_iff.mpr ⟨equal.1.symm, equal.2.symm⟩)
      rw [if_neg differs] at before
      simpa [Entry.waiting?, wanted] using before
  · refine List.pairwise_append.mpr ⟨order.1, List.pairwise_cons.mpr ⟨?_, ?_⟩, ?_⟩
    · intro _ _ waits
      contradiction
    · exact (List.pairwise_cons.mp order.2.1).2
    · rintro ⟨earlier, _⟩ member next behind rfl wanted
      rcases List.mem_cons.mp behind with rfl | behind
      · have waits := mem_waiting.mpr ⟨member, rfl⟩
        rw [← wanted, none_waits] at waits
        contradiction
      · exact order.2.2 _ member next (List.mem_cons_of_mem _ behind) rfl wanted
  · intro entry member close
    rcases List.mem_append.mp member with before | behind
    · exact same.closing entry (List.mem_append_left _ before) close
    · rcases List.mem_cons.mp behind with rfl | behind
      · rcases same.closing ⟨frame, .waiting⟩ (by simp) close with fate | fate <;> contradiction
      · exact same.closing entry (by simp [behind]) close

end Taking

/-- What is taken off the front of its queue is the first of its kind that waits, and nothing of
its kind was taken that came later. -/
theorem take {thread : Thread} {want : Want} {frame : Frame} (same : journal.Matches board)
    (polled : board.poll want.id want.command = (.frame frame, after)) :
    Matches after (journal.take thread want) ∧
      ∀ other, (journal.take thread want).taken other =
        journal.taken other ++ if want = other then [(thread, frame)] else [] := by
  have front := (same.waiting want).trans ((Switchboard.poll_frame polled).1 want.id want.command)
  rw [if_pos ⟨rfl, rfl⟩] at front
  obtain ⟨settled, later, rfl, taken, rfl, none_waits⟩ := take_of_waiting thread front
  rw [taken]
  refine ⟨same.take_first none_waits polled, ?_⟩
  intro other
  by_cases wanted : frame.want = other
  · subst wanted
    simp [Entry.taken?, same.taken_later]
  · simp [Entry.taken?, wanted]

end Matches
end Journal
namespace Event

variable {Thread : Type}

/-- The frame that is routed in the step, and whether it is dropped. -/
def routing? : Event Thread → Option (Frame × Bool)
  | delivers _ _ frame landing _ => some (frame, landing = .dropped)
  | _ => none

theorem routing?_of_isQuiet {event : Event Thread} (quiet : event.isQuiet = true) :
    event.routing? = none := by
  cases event with
  | looks | delivers => contradiction
  | _ => rfl

/-- Of a routing the frame alone is what is routed. -/
theorem map_fst_routing? (event : Event Thread) : event.routing?.map (·.1) = event.routed? := by
  cases event <;> rfl

end Event

namespace Entry

variable {Thread : Type}

/-- What never changes in an entry: the frame, and whether it was dropped. -/
def routing (entry : Entry Thread) : Frame × Bool :=
  (entry.frame, entry.isDropped)

/-- Throwing away changes neither the frame of an entry nor whether it was dropped. -/
theorem routing_discard (thrown : Want → Bool) (entry : Entry Thread) :
    (entry.discard thrown).routing = entry.routing := by
  obtain ⟨frame, fate⟩ := entry
  cases fate with
  | waiting =>
    simp only [discard]
    split <;> rfl
  | _ => rw [discard_of_ne_waiting (by simp)]

end Entry

namespace Journal

variable {Thread : Type} {board after : Switchboard}

/-- A quiet step does no more to the journal than throwing queues away. -/
theorem note_of_isQuiet {event : Event Thread} (quiet : event.isQuiet = true)
    (journal : Journal Thread) :
    journal.note event = journal.map (Entry.discard fun want => event.throws want) := by
  cases event with
  | looks | delivers => contradiction
  | _ => rfl

/-- Taking a frame changes the fate of an entry that was not dropped. -/
theorem routing_take (thread : Thread) (want : Want) :
    ∀ journal : Journal Thread,
      (journal.take thread want).map Entry.routing = journal.map Entry.routing
  | [] => rfl
  | entry :: rest => by
    cases found : entry.waiting? want with
    | some frame =>
      obtain ⟨waits, -, rfl⟩ := Entry.waiting?_eq_some_iff.mp found
      simp [take, found, Entry.routing, Entry.isDropped, waits]
    | none => simp [take, found, routing_take thread want rest]

/-- Serving a taker changes no frame and drops none. -/
theorem routing_serve (thread : Thread) (want : Want) (answer : Option Reply)
    (journal : Journal Thread) :
    (journal.serve thread want answer).map Entry.routing = journal.map Entry.routing :=
  match answer with
  | some (.ok _) => routing_take thread want journal
  | some (.error _) | none => rfl

/-- The journal lists what is routed, and it never takes back what it says about dropping. -/
theorem routing_note (event : Event Thread) (journal : Journal Thread) :
    (journal.note event).map Entry.routing =
      journal.map Entry.routing ++ event.routing?.toList := by
  by_cases quiet : event.isQuiet = true
  · rw [note_of_isQuiet quiet, Event.routing?_of_isQuiet quiet, List.map_map]
    simp [Function.comp_def, Entry.routing_discard]
  · cases event with
    | looks => simp [note, routing_serve, Event.routing?]
    | delivers thread want frame landing =>
      rw [note, routing_serve, List.map_append]
      cases landing <;> rfl
    | _ => exact absurd rfl quiet

/-- The journal lists what was routed, in the order in which it was. -/
theorem routing_ofEvents (events : List (Event Thread)) :
    (ofEvents events).map Entry.routing = events.filterMap Event.routing? := by
  suffices lists : ∀ journal : Journal Thread, (events.foldl note journal).map Entry.routing =
      journal.map Entry.routing ++ events.filterMap Event.routing? from lists []
  intro journal
  induction events generalizing journal with
  | nil => simp
  | cons event rest ih =>
    rw [List.foldl_cons, ih, routing_note, List.append_assoc, List.filterMap_cons]
    cases event.routing? <;> rfl

/-- The journal has exactly the frames that were routed, in order. -/
theorem frames_ofEvents (events : List (Event Thread)) :
    (ofEvents events).map (·.frame) = events.filterMap Event.routed? := by
  have lists := congrArg (List.map Prod.fst) (routing_ofEvents events)
  rw [List.map_map, List.map_filterMap] at lists
  simp only [Event.map_fst_routing?] at lists
  exact lists

/-- The journal marks as many frames as dropped as were dropped. -/
theorem countP_isDropped_ofEvents (events : List (Event Thread)) :
    (ofEvents events).countP (·.isDropped) = (events.filterMap Event.routing?).countP (·.2) := by
  rw [← routing_ofEvents, List.countP_map]
  rfl

namespace Matches

/-- When a taker is served the journal stays true, and the taker gets what the journal notes. -/
theorem serve {journal : Journal Thread} {want : Want} {answer : Option Reply}
    (thread : Thread) (same : journal.Matches board) (served : board.Serves want answer after) :
    Matches after (journal.serve thread want answer) ∧
      ∀ other, (journal.serve thread want answer).taken other =
        journal.taken other ++ ((Event.looks thread want answer).handed? other).toList := by
  cases served with
  | @frame frame _ polled =>
    refine ⟨(same.take polled).1, ?_⟩
    intro other
    rw [Journal.serve, (same.take polled).2, Event.handed?]
    split <;> rfl
  | nothing empty =>
    rcases answer with _ | failure | frame
    · exact ⟨same, fun _ => (List.append_nil _).symm⟩
    · exact ⟨same, fun _ => (List.append_nil _).symm⟩
    · exact absurd rfl (empty frame)

/-- The journal stays true in every step. -/
theorem note {journal : Journal Thread} {event : Event Thread} (same : journal.Matches board)
    (moved : board.Moves event after) :
    Matches after (journal.note event) ∧
      ∀ want, (journal.note event).taken want =
        journal.taken want ++ (event.handed? want).toList := by
  cases moved with
  | looks served => exact same.serve _ served
  | @delivers thread want frame answer _ served =>
    obtain ⟨matching, taken⟩ := (same.route frame).serve thread served
    refine ⟨matching, ?_⟩
    intro other
    rw [Journal.note, taken, Event.handed?_delivers, taken_append]
    cases board.landing frame <;> simp [Switchboard.Landing.fate, Entry.taken?]
  | throws quiet queues =>
    rw [note_of_isQuiet quiet]
    refine ⟨same.discard queues, ?_⟩
    intro want
    rw [taken_discard, Event.handed?_of_isQuiet quiet]
    exact (List.append_nil _).symm

end Matches
end Journal

namespace Crowd

variable {Thread : Type} [DecidableEq Thread] {crowd next : Crowd Thread}
  {events : List (Event Thread)} {metrics : Metrics}

/-- After every run from a fresh crowd the queues hold what the journal says, and takers have got
what it marks as taken. -/
theorem Runs.matches (ran : Runs (fresh metrics) events crowd) :
    (Journal.ofEvents events).Matches crowd.board ∧
      ∀ want, (Journal.ofEvents events).taken want = events.filterMap (Event.handed? want) := by
  induction ran with
  | rest => exact ⟨.fresh metrics, fun _ => rfl⟩
  | step _ stepped ih =>
    obtain ⟨same, taken⟩ := ih
    rw [Journal.ofEvents_snoc]
    refine ⟨(same.note stepped.moves).1, ?_⟩
    intro want
    rw [(same.note stepped.moves).2, taken, filterMap_snoc]

/-- Frames are counted as dropped as the journal marks them, in a counter that wraps. -/
theorem Runs.framesDropped (ran : Runs (fresh metrics) events crowd) :
    crowd.board.metrics.framesDropped =
      metrics.framesDropped +
        UInt64.ofNat ((Journal.ofEvents events).countP (·.isDropped)) := by
  rw [Journal.countP_isDropped_ofEvents]
  induction ran with
  | rest => simp [fresh]
  | step _ stepped ih =>
    rw [filterMap_snoc, List.countP_append, UInt64.ofNat_add, ← UInt64.add_assoc, ← ih]
    cases stepped.moves with
    | looks served => simp [Switchboard.metrics_serves served, Event.routing?]
    | delivers served =>
      rw [Switchboard.metrics_serves served, Switchboard.framesDropped_route]
      split <;> simp [Event.routing?, *]
    | throws quiet _ _ same => simp [same, Event.routing?_of_isQuiet quiet]

/-- **Every frame once and in order.** After any run of any threads with any source, the frames of
the source are those of the journal and the one in the hands of the reader, in this order. Each
frame of the journal has one fate: takers got the frames marked as taken for their want, in the
order of the wire, each queue holds the frames marked as waiting for it, and as many are counted as
dropped as are marked so. Routing drops the frames for ids that are not registered, and CLSE for an
id that is only closes its mailbox. From a registration on, a queue has been given what was routed
for it, and has given it away in that order, to takers unless `discard` threw it away. -/
theorem frames_delivered_once (ran : Runs (fresh metrics) events crowd) :
    (∃ held, crowd.InHand held ∧ events.filterMap Event.arrival? =
      (Journal.ofEvents events).map (·.frame) ++ held) ∧
    (∀ want, events.filterMap (Event.handed? want) = (Journal.ofEvents events).taken want) ∧
    (∀ want, crowd.board.queueOf want.id want.command =
      (Journal.ofEvents events).waiting want) ∧
    (crowd.board.metrics.framesDropped = metrics.framesDropped +
      UInt64.ofNat ((Journal.ofEvents events).countP (·.isDropped))) ∧
    (∀ before thread want frame landing answer after,
      events = before ++ .delivers thread want frame landing answer :: after →
      ∃ middle, Runs (fresh metrics) before middle ∧ landing = middle.board.landing frame ∧
        (landing = .absorbed →
          Switchboard.OnlyCloses frame.arg1 middle.board (middle.board.route frame))) ∧
    (∀ before id during, events = before ++ .listens id :: during →
      (∀ event ∈ during, event.renews id = false) → ∀ command, ∃ gone,
        (during.filterMap Event.routed?).filter (Frame.isMailFor ⟨id, command⟩) =
          gone ++ crowd.board.queueOf id command ∧
        ((during.filterMap (Event.handed? ⟨id, command⟩)).map (·.2)).Sublist gone ∧
        (.discards id command ∉ during →
          (during.filterMap (Event.handed? ⟨id, command⟩)).map (·.2) = gone)) := by
  refine ⟨?_, fun want => (ran.matches.2 want).symm, fun want => (ran.matches.1.waiting want).symm,
    ran.framesDropped, ?_, ?_⟩
  · obtain ⟨held, hand, order⟩ := ran.inHand
    rw [Journal.frames_ofEvents]
    exact ⟨held, hand, order⟩
  · intro before thread want frame landing answer after rfl
    rw [List.append_cons] at ran
    obtain ⟨_, earlier, -⟩ := ran.divide
    obtain ⟨middle, earlier, stepped⟩ := earlier.last_step
    refine ⟨middle, earlier, ?_⟩
    cases stepped.moves with
    | delivers => exact ⟨rfl, Switchboard.onlyCloses_of_absorbed⟩
    | throws quiet => contradiction
  · intro before id during rfl kept command
    rw [List.append_cons] at ran
    obtain ⟨begun, earlier, later⟩ := ran.divide
    obtain ⟨middle, -, stepped⟩ := earlier.last_step
    cases stepped
    have conserved := @Runs.conserves _ _ _ _ ⟨id, command⟩ _ later kept (by simp)
    simpa using conserved.2

/-- One frame goes to the thread that reads it, and one for nobody is dropped. -/
theorem frames_delivered_once_pair :
    let stray := Frame.make Command.write 9 2 [7]
    let wanted := Frame.make Command.write 9 1 [8]
    ∃ events : List (Event Bool), ∃ crowd, Runs (fresh {}) events crowd ∧
      events.filterMap Event.arrival? = [stray, wanted] ∧
      events.filterMap (Event.handed? ⟨1, Command.write⟩) = [(true, wanted)] ∧
      crowd.board.metrics.framesDropped = 1 := by
  intro stray wanted
  let want : Want := ⟨1, Command.write⟩
  have began : Runs (fresh {} : Crowd Bool) _ _ := Runs.rest.step (.listens 1)
  have called := began.step (@Step.calls _ _ _ true want rfl)
  have entered := called.step (@Step.enters _ _ _ true want rfl)
  have first := entered.step (@Step.reads _ _ _ true want (.ok stray) rfl)
  have dropped := first.step (@Step.delivers _ _ _ true want stray rfl)
  have second := dropped.step (@Step.reads _ _ _ true want (.ok wanted) rfl)
  have ran := second.step (@Step.delivers _ _ _ true want wanted rfl)
  obtain ⟨-, handed, -, counted, -⟩ := frames_delivered_once ran
  exact ⟨_, _, ran, rfl, (handed want).trans rfl, counted.trans rfl⟩

end Crowd
end DebugBridge

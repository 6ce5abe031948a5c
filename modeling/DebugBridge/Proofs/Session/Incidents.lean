import DebugBridge.Proofs.Session.Conduct

/-!
# What happens on a channel

The acts of streams are seen from outside as frames that are handed to the transmitter and frames
that are routed while one is awaited. A stream that is cut off, by the device or because the
connection ends, stays cut off until its id is registered anew; so nothing is written for it any
more by acts that mind whether it is live.
-/

namespace DebugBridge

/-- What happens on a channel. -/
inductive Incident where
  /-- A frame is handed to the transmitter, whatever comes of it. -/
  | hands (frame : Frame)
  /-- A frame of the device is routed. -/
  | routes (frame : Frame) (landing : Switchboard.Landing)
  /-- The connection ends. -/
  | ends
  deriving DecidableEq

namespace Incident

/-- The frame that is handed to the transmitter. -/
def handed? : Incident → Option Frame
  | hands frame => some frame
  | routes _ _ | ends => none

/-- The frames that are handed to the transmitter. -/
def handed (incidents : List Incident) : List Frame :=
  incidents.filterMap handed?

theorem handed_append (incidents more : List Incident) :
    handed (incidents ++ more) = handed incidents ++ handed more :=
  List.filterMap_append

/-- The stream with this id is cut off: a frame closes its mailbox, or the connection ends. -/
def CutsOff (id : UInt32) : Incident → Prop
  | routes frame landing => frame.arg1 = id ∧ landing = .absorbed
  | ends => True
  | hands _ => False

/-- Data is to be sent on the stream with this id. -/
def Writes (id : UInt32) : Incident → Prop
  | hands frame => frame.arg0 = id ∧ frame.command = Command.write
  | routes _ _ | ends => False

/-- Data is written only by handing a frame over. -/
theorem not_writes_of_handed {incident : Incident} (nothing : incident.handed? = none)
    (id : UInt32) : ¬incident.Writes id := by
  cases incident with
  | hands frame => contradiction
  | routes | ends => exact not_false

end Incident

/-- What happened says how the board may have changed, if nobody was registered meanwhile. -/
structure Switchboard.Tells (before : Switchboard) (incidents : List Incident)
    (after : Switchboard) : Prop where
  listening : ∀ id, after.isListening id = true → before.isListening id = true
  live : ∀ id, after.isLive id = true →
    before.isLive id = true ∧ ∀ incident ∈ incidents, ¬incident.CutsOff id
  ended : before.disconnected = true ∨ .ends ∈ incidents → after.disconnected = true
  absorbed : ∀ frame, .routes frame .absorbed ∈ incidents → before.isListening frame.arg1 = true

namespace Switchboard

variable {before middle after board : Switchboard} {incidents more : List Incident}

/-- Nothing happened that the board would show. -/
theorem tells_of_same (listening : ∀ id, after.isListening id = before.isListening id)
    (live : ∀ id, after.isLive id = before.isLive id)
    (disconnected : after.disconnected = before.disconnected) : before.Tells [] after where
  listening := fun id registered => (listening id).symm.trans registered
  live := fun id alive => ⟨(live id).symm.trans alive, List.forall_mem_nil _⟩
  ended := by simp [disconnected]
  absorbed := by simp

theorem Tells.refl (board : Switchboard) : board.Tells [] board :=
  tells_of_same (fun _ => rfl) (fun _ => rfl) rfl

theorem Tells.trans (first : before.Tells incidents middle) (second : middle.Tells more after) :
    before.Tells (incidents ++ more) after where
  listening := fun id registered => first.listening id (second.listening id registered)
  live := by
    intro id alive
    obtain ⟨still_alive, not_later⟩ := second.live id alive
    obtain ⟨at_first, not_before⟩ := first.live id still_alive
    exact ⟨at_first, List.forall_mem_append.2 ⟨not_before, not_later⟩⟩
  ended := by
    intro ended
    rw [List.mem_append, ← or_assoc] at ended
    exact second.ended (ended.imp_left first.ended)
  absorbed := by
    intro frame happened
    obtain earlier | later := List.mem_append.1 happened
    · exact first.absorbed frame earlier
    · exact first.listening _ (second.absorbed frame later)

/-- Handing a waiting frame to its taker is no incident. -/
theorem tells_poll_frame {id command : UInt32} {frame : Frame}
    (polled : board.poll id command = (.frame frame, after)) : board.Tells [] after := by
  obtain ⟨-, listening, live, disconnected, -⟩ := poll_frame polled
  exact tells_of_same listening live disconnected

/-- Routing a frame is told as such, with where it lands. -/
theorem tells_route (frame : Frame) (board : Switchboard) :
    board.Tells [.routes frame (board.landing frame)] (board.route frame) where
  listening := by
    intro id registered
    rwa [isListening_route] at registered
  live := by
    intro id alive
    rw [isLive_route, Bool.and_eq_true, Bool.not_eq_true', Bool.and_eq_false_iff] at alive
    refine ⟨alive.1, List.forall_mem_singleton.2 ?_⟩
    rintro ⟨rfl, absorbed⟩
    unfold landing at absorbed
    split at absorbed
    · contradiction
    · split at absorbed
      · next close => simp [close] at alive
      · contradiction
  ended := by simp
  absorbed := by
    intro other happened
    obtain ⟨rfl, absorbed⟩ := Incident.routes.inj (List.mem_singleton.1 happened)
    unfold landing at absorbed
    split at absorbed
    · contradiction
    · next registered => simpa using registered

/-- A failed read is told only if it ends the connection. -/
theorem tells_readFailed (failure : Failure) (board : Switchboard) :
    board.Tells (if failure.isTransient then [] else [.ends]) (board.readFailed failure) := by
  unfold readFailed
  split
  · exact .refl board
  · refine ⟨?_, ?_, fun _ => rfl, ?_⟩
    · intro id registered
      rwa [isListening_disconnect] at registered
    · intro id alive
      rw [isLive_disconnect] at alive
      contradiction
    · intro frame happened
      simp at happened

end Switchboard

namespace Queue

/-- What happens until there is an answer. -/
def awaitIncidents (id command : UInt32) (queue : Queue) : List Incident :=
  match queue.board.poll id command with
  | (.frame _, _) | (.refused _, _) => []
  | (.nothing, board) =>
    match read : queue.receiver.readFrame with
    | .ok frame receiver =>
      have := Receiver.remaining_readFrame _ read
      .routes frame (board.landing frame) ::
        awaitIncidents id command { board := board.route frame, receiver }
    | .error failure _ => if failure.isTransient then [] else [.ends]
  termination_by queue.receiver.remaining
  decreasing_by simp only [Header.size] at this; omega

/-- What happens while a frame is taken. -/
def takeIncidents (id command : UInt32) (queue : Queue) : List Incident :=
  match queue.board.turnAway id with
  | some _ => []
  | none => queue.awaitIncidents id command

/-- What happens during a wait is the first reading, and what happens after it. -/
theorem awaitIncidents_eq (id command : UInt32) (queue : Queue) :
    queue.awaitIncidents id command =
      match queue.board.poll id command with
      | (.frame _, _) | (.refused _, _) => []
      | (.nothing, board) =>
        match queue.receiver.readFrame with
        | .ok frame receiver =>
          .routes frame (board.landing frame) ::
            awaitIncidents id command { board := board.route frame, receiver }
        | .error failure _ => if failure.isTransient then [] else [.ends] := by
  rw [awaitIncidents]
  split
  · rfl
  · rfl
  · simp only
    split <;> rename_i read <;> simp only [read]

/-- What happens during a wait says how the board may have changed. -/
theorem tells_await (id command : UInt32) (queue : Queue) :
    queue.board.Tells (queue.awaitIncidents id command) (queue.await id command).state.board := by
  fun_induction await id command queue with
  | case1 queue frame board polled =>
    rw [awaitIncidents_eq, polled]
    exact Switchboard.tells_poll_frame polled
  | case2 queue failure board polled =>
    obtain ⟨rfl, -⟩ := Switchboard.poll_refused polled
    rw [awaitIncidents_eq, polled]
    exact .refl _
  | case3 queue board polled frame receiver read less ih =>
    obtain ⟨rfl, -⟩ := Switchboard.poll_nothing_iff.1 polled
    rw [awaitIncidents_eq, polled, read]
    exact (Switchboard.tells_route frame queue.board).trans ih
  | case4 queue board polled failure receiver read =>
    obtain ⟨rfl, -⟩ := Switchboard.poll_nothing_iff.1 polled
    rw [awaitIncidents_eq, polled, read]
    exact Switchboard.tells_readFailed failure queue.board

/-- What happens while a frame is taken says how the board may have changed. -/
theorem tells_take (id command : UInt32) (queue : Queue) :
    queue.board.Tells (queue.takeIncidents id command) (queue.take id command).state.board := by
  unfold takeIncidents take
  cases queue.board.turnAway id with
  | some failure => exact .refl _
  | none => exact queue.tells_await id command

/-- Nothing is handed to the transmitter while a frame is awaited. -/
theorem handed_of_await {id command : UInt32} {queue : Queue} {incident : Incident}
    (happened : incident ∈ queue.awaitIncidents id command) : incident.handed? = none := by
  fun_induction await id command queue with
  | case1 queue frame board polled | case2 queue failure board polled =>
    rw [awaitIncidents_eq, polled] at happened
    contradiction
  | case3 queue board polled frame receiver read less ih =>
    rw [awaitIncidents_eq, polled, read] at happened
    obtain rfl | later := List.mem_cons.1 happened
    · rfl
    · exact ih later
  | case4 queue board polled failure receiver read =>
    rw [awaitIncidents_eq, polled, read] at happened
    simp only at happened
    split at happened
    · contradiction
    · rw [List.mem_singleton.1 happened]
      rfl

/-- Nothing is handed to the transmitter while a frame is taken. -/
theorem handed_of_take {id command : UInt32} {queue : Queue} {incident : Incident}
    (happened : incident ∈ queue.takeIncidents id command) : incident.handed? = none := by
  unfold takeIncidents at happened
  split at happened
  · contradiction
  · exact handed_of_await happened

/-- A frame that is taken was waiting or is routed meanwhile. -/
theorem origin_of_await {id command : UInt32} {queue : Queue} {answer : Frame}
    (taken : (queue.await id command).result = .ok answer) :
    answer ∈ queue.board.queueOf id command ∨
      .routes answer .queued ∈ queue.awaitIncidents id command ∧
        answer.arg1 = id ∧ answer.command = command := by
  fun_induction await id command queue with
  | case1 queue frame board polled =>
    obtain ⟨queues, -⟩ := Switchboard.poll_frame polled
    rw [queues id command, if_pos ⟨rfl, rfl⟩, ← Except.ok.inj taken]
    exact .inl List.mem_cons_self
  | case2 => contradiction
  | case3 queue board polled frame receiver read less ih =>
    obtain ⟨rfl, -⟩ := Switchboard.poll_nothing_iff.1 polled
    rw [awaitIncidents_eq, polled, read]
    obtain waiting | ⟨later, addressed, tells⟩ := ih taken
    · rw [Switchboard.queueOf_route, List.mem_append] at waiting
      obtain before | arrived := waiting
      · exact .inl before
      · split at arrived
        · next landed =>
          obtain rfl := List.mem_singleton.1 arrived
          simp only [landed.1]
          exact .inr ⟨List.mem_cons_self, landed.2⟩
        · contradiction
    · exact .inr ⟨List.mem_cons_of_mem _ later, addressed, tells⟩
  | case4 => contradiction

/-- A frame that is taken was waiting, or it has been routed meanwhile. -/
theorem origin_of_take {id command : UInt32} {queue : Queue} {answer : Frame}
    (taken : (queue.take id command).result = .ok answer) :
    answer ∈ queue.board.queueOf id command ∨
      .routes answer .queued ∈ queue.takeIncidents id command ∧
        answer.arg1 = id ∧ answer.command = command := by
  unfold takeIncidents
  unfold take at taken
  cases turned : queue.board.turnAway id with
  | some failure =>
    rw [turned] at taken
    contradiction
  | none =>
    rw [turned] at taken
    exact origin_of_await taken

end Queue

namespace Channel

/-- What happens in an act. -/
def Act.incidents (channel : Channel) : Act → List Incident
  | .send command arg0 arg1 payload => [.hands (.make command arg0 arg1 payload)]
  | .take id command => channel.queue.takeIncidents id command
  | .listen _ | .unlisten _ | .discard _ _ | .countOpened | .countClosed => []

/-- What happens while acts are done. -/
def incidents : List Act → Channel → List Incident
  | [], _ => []
  | act :: acts, channel => act.incidents channel ++ incidents acts (channel.afterAct act)

theorem incidents_append (acts more : List Act) (channel : Channel) :
    channel.incidents (acts ++ more) =
      channel.incidents acts ++ (channel.afterActs acts).incidents more := by
  induction acts generalizing channel with
  | nil => rfl
  | cons act acts ih =>
    simp only [List.cons_append, incidents, ih, afterActs_cons, List.append_assoc]

/-- The frame that an act hands to the transmitter. -/
def Act.frame? : Act → Option Frame
  | .send command arg0 arg1 payload => some (.make command arg0 arg1 payload)
  | .take _ _ | .listen _ | .unlisten _ | .discard _ _ | .countOpened | .countClosed => none

/-- What is handed over does not depend on the channel. -/
theorem handed_incidents (acts : List Act) (channel : Channel) :
    Incident.handed (channel.incidents acts) = acts.filterMap Act.frame? := by
  induction acts generalizing channel with
  | nil => rfl
  | cons act acts ih =>
    rw [incidents, Incident.handed_append, ih]
    cases act with
    | take id command =>
      have nothing : Incident.handed (channel.queue.takeIncidents id command) = [] :=
        List.filterMap_eq_nil_iff.2 fun _ happened => Queue.handed_of_take happened
      rw [Act.incidents, nothing]
      rfl
    | send | listen | unlisten | discard | countOpened | countClosed => rfl

/-- The transmitter is as it is when these frames are handed to it, one after the other. -/
theorem transmitter_afterActs (acts : List Act) (channel : Channel) :
    (channel.afterActs acts).transmitter =
      (acts.filterMap Act.frame?).foldl
        (fun transmitter frame => (transmitter.send frame.command frame.arg0 frame.arg1
          frame.payload).state) channel.transmitter := by
  induction acts generalizing channel with
  | nil => rfl
  | cons act acts ih =>
    rw [afterActs_cons, ih]
    cases act with
    | take id command => rw [afterAct, transmitter_take]; rfl
    | send command arg0 arg1 payload => rw [afterAct, send, Outcome.state_mapState]; rfl
    | listen | unlisten | discard | countOpened | countClosed => rfl

/-- Nobody is registered, and data is sent for live streams only. -/
def Minds (channel : Channel) : Act → Prop
  | .listen _ => False
  | .send command id _ _ => command = Command.write → channel.isLive id = true
  | .take _ _ | .unlisten _ | .discard _ _ | .countOpened | .countClosed => True

/-- Every act minds when it is done. -/
def Heeds : List Act → Channel → Prop
  | [], _ => True
  | act :: acts, channel => channel.Minds act ∧ Heeds acts (channel.afterAct act)

variable {channel : Channel} {acts more : List Act}

/-- Acts that follow each other heed if the first ones do, and the others on the channel behind
them. -/
theorem heeds_append : channel.Heeds (acts ++ more) ↔
    channel.Heeds acts ∧ (channel.afterActs acts).Heeds more := by
  induction acts generalizing channel with
  | nil => simp [Heeds]
  | cons act acts ih => simp only [List.cons_append, Heeds, ih, afterActs_cons, and_assoc]

/-- What happens in an act that minds says how the board may have changed. -/
theorem tells_act {act : Act} (minds : channel.Minds act) :
    channel.queue.board.Tells (act.incidents channel) (channel.afterAct act).queue.board := by
  cases act with
  | listen id => exact minds.elim
  | take id command =>
    rw [afterAct, take, Outcome.state_mapState]
    exact channel.queue.tells_take id command
  | send command arg0 arg1 payload =>
    rw [afterAct, queue_send]
    refine ⟨fun _ => id, ?_, ?_, ?_⟩
    · intro id alive
      exact ⟨alive, List.forall_mem_singleton.2 fun cut => cut.elim⟩
    · simp [Act.incidents]
    · simp [Act.incidents]
  | unlisten id =>
    refine ⟨?_, ?_, ?_, ?_⟩
    · intro other registered
      have there := (Switchboard.isListening_unlisten ..).symm.trans registered
      exact (Bool.and_eq_true_iff.1 there).2
    · intro other alive
      have there := (Switchboard.isLive_unlisten ..).symm.trans alive
      exact ⟨(Bool.and_eq_true_iff.1 there).2, List.forall_mem_nil _⟩
    · simp [Act.incidents, afterAct, unlisten, onBoard]
    · simp [Act.incidents]
  | discard id command =>
    exact Switchboard.tells_of_same (fun _ => Switchboard.isListening_discard ..)
      (fun _ => Switchboard.isLive_discard ..) (Switchboard.disconnected_discard ..)
  | countOpened | countClosed => exact .refl _

/-- What happens in acts that heed says how the board may have changed. -/
theorem Heeds.tells (heeds : channel.Heeds acts) :
    channel.queue.board.Tells (channel.incidents acts) (channel.afterActs acts).queue.board := by
  induction acts generalizing channel with
  | nil => exact .refl _
  | cons act acts ih => exact (tells_act heeds.1).trans (ih heeds.2)

/-- Whoever writes was live before all acts. -/
theorem Heeds.live_of_writes (heeds : channel.Heeds acts) {incident : Incident} {id : UInt32}
    (happened : incident ∈ channel.incidents acts) (writes : incident.Writes id) :
    channel.isLive id = true := by
  induction acts generalizing channel with
  | nil => contradiction
  | cons act acts ih =>
    obtain now | later := List.mem_append.1 happened
    · cases act with
      | send command arg0 arg1 payload =>
        obtain rfl := List.mem_singleton.1 now
        obtain ⟨rfl, write⟩ := writes
        exact heeds.1 write
      | take other command =>
        exact absurd writes (Incident.not_writes_of_handed (Queue.handed_of_take now) id)
      | listen | unlisten | discard | countOpened | countClosed => contradiction
    · exact ((tells_act heeds.1).live id (ih heeds.2 later)).1

/-- Nothing is written for a stream once it is cut off. -/
theorem Heeds.pairwise (heeds : channel.Heeds acts) (id : UInt32) :
    (channel.incidents acts).Pairwise fun earlier later =>
      earlier.CutsOff id → ¬later.Writes id := by
  induction acts generalizing channel with
  | nil => exact .nil
  | cons act acts ih =>
    rw [incidents, List.pairwise_append]
    refine ⟨?_, ih heeds.2, ?_⟩
    · cases act with
      | send => exact List.pairwise_singleton ..
      | take other command =>
        apply List.pairwise_of_forall_mem_list
        intro _ _ later happened _
        exact Incident.not_writes_of_handed (Queue.handed_of_take happened) id
      | listen | unlisten | discard | countOpened | countClosed => exact .nil
    · intro earlier before later after cut writes
      have live := heeds.2.live_of_writes after writes
      exact ((tells_act heeds.1).live id live).2 earlier before cut

/-- A stream that talks heeds. -/
theorem Talks.heeds {localId remoteId : UInt32} (talks : channel.Talks localId remoteId acts) :
    channel.Heeds acts := by
  induction acts generalizing channel with
  | nil => trivial
  | cons act acts ih =>
    refine ⟨?_, ih talks.2⟩
    cases talks.1 with
    | takes | discards => trivial
    | acknowledges => exact fun write => absurd write (by decide)
    | writes payload live => exact fun _ => live

/-- Taking leave registers nobody and sends no data. -/
theorem heeds_farewell (localId remoteId : UInt32) (channel : Channel) :
    channel.Heeds (farewell localId remoteId) :=
  ⟨fun write => absurd write (by decide), trivial, trivial, trivial⟩

end Channel

/-- Whatever is done with a stream, it heeds. -/
theorem Endpoint.Conducts.heeds {before after : Endpoint} {acts : List Channel.Act}
    (conducts : before.Conducts acts after) (tidy : before.IsTidy) :
    before.channel.Heeds acts := by
  cases running : before.stream.closed with
  | true =>
    rw [(conducts.silent tidy running).1]
    trivial
  | false =>
    obtain ⟨talk, talks, rfl⟩ := conducts.speaks running
    refine Channel.heeds_append.2 ⟨talks.heeds, ?_⟩
    split
    · exact Channel.heeds_farewell ..
    · trivial

end DebugBridge

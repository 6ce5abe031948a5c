import Mathlib.Data.List.Nodup
import Mathlib.Data.List.Perm.Subperm
import DebugBridge.Proofs.Dispatch.Registered
import DebugBridge.Proofs.Session.Teardown

/-!
# Who is registered

The ids that are registered are those of the streams in use that are not closed. Opening a stream
registers its id and, if that fails at whatever step, ends the registration again; talking registers
nobody; the farewell ends the registration and counts. So the counters of streams and the number of
registered ids always agree.
-/

namespace DebugBridge

/-- The counters of streams: opened and closed. -/
def Metrics.streams (counts : Metrics) : UInt64 × UInt64 :=
  (counts.streamsOpened, counts.streamsClosed)

namespace Channel

/-- The registered ids. -/
def ids (channel : Channel) : List UInt32 :=
  channel.queue.board.ids

/-- Nobody was registered or forgotten, and no stream was counted. -/
structure SameRegister (before after : Channel) : Prop where
  ids : after.ids.Perm before.ids
  counts : after.counts.streams = before.counts.streams

theorem SameRegister.trans {before middle after : Channel} (first : before.SameRegister middle)
    (second : middle.SameRegister after) : before.SameRegister after :=
  ⟨second.ids.trans first.ids, second.counts.trans first.counts⟩

/-- How acts count streams. -/
def tally (acts : List Act) (counts : UInt64 × UInt64) : UInt64 × UInt64 :=
  acts.foldl (fun counts act =>
    match act with
    | .countOpened => (counts.1 + 1, counts.2)
    | .countClosed => (counts.1, counts.2 + 1)
    | .listen _ | .unlisten _ | .discard _ _ | .take _ _ | .send _ _ _ _ => counts) counts

theorem streams_afterActs (acts : List Act) (channel : Channel) :
    (channel.afterActs acts).counts.streams = tally acts channel.counts.streams := by
  induction acts generalizing channel with
  | nil => rfl
  | cons act acts ih =>
    have counted := congrArg Metrics.streams (apartFromFrames_act act channel)
    rw [afterActs_cons, ih]
    cases act <;> exact congrArg (tally acts) counted

theorem sameRegister_take (id command : UInt32) {channel : Channel} (nodup : channel.ids.Nodup) :
    channel.SameRegister (channel.afterAct (.take id command)) := by
  refine ⟨?_, streams_afterActs [.take id command] channel⟩
  rw [ids, afterAct, take, Outcome.state_mapState]
  exact Queue.perm_ids_take id command nodup

theorem sameRegister_send (command arg0 arg1 : UInt32) (payload : Bytes) (channel : Channel) :
    channel.SameRegister (channel.afterAct (.send command arg0 arg1 payload)) := by
  refine ⟨?_, streams_afterActs [.send command arg0 arg1 payload] channel⟩
  rw [ids, afterAct, queue_send]
  exact .refl _

variable {localId remoteId : UInt32} {channel : Channel}

/-- Nothing that an open stream may do registers anybody or counts a stream. -/
theorem Allows.sameRegister {act : Act} (allows : channel.Allows localId remoteId act)
    (nodup : channel.ids.Nodup) : channel.SameRegister (channel.afterAct act) := by
  cases allows with
  | takes => exact sameRegister_take _ _ nodup
  | acknowledges | writes => exact sameRegister_send ..
  | discards =>
    refine ⟨Switchboard.perm_ids_discard _ _ nodup, ?_⟩
    exact streams_afterActs [.discard localId Command.okay] channel

/-- Talking registers nobody and forgets nobody. -/
theorem Talks.sameRegister {acts : List Act} (talks : channel.Talks localId remoteId acts)
    (nodup : channel.ids.Nodup) : channel.SameRegister (channel.afterActs acts) := by
  induction acts generalizing channel with
  | nil => exact ⟨.refl _, rfl⟩
  | cons act acts ih =>
    have first := talks.1.sameRegister nodup
    exact first.trans (ih talks.2 (first.ids.symm.nodup nodup))

theorem ids_unlisten (id : UInt32) (channel : Channel) :
    (channel.afterAct (.unlisten id)).ids = channel.ids.filter (· != id) :=
  Switchboard.ids_unlisten ..

/-- The farewell ends one registration. -/
theorem ids_farewell (localId remoteId : UInt32) (channel : Channel) :
    (channel.afterActs (farewell localId remoteId)).ids = channel.ids.filter (· != localId) := by
  have sent : (channel.send (Transmitter.sendClose localId remoteId)).state.queue = channel.queue :=
    channel.queue_send _
  exact (Switchboard.ids_unlisten ..).trans
    (congrArg (fun queue : Queue => queue.board.ids.filter (· != localId)) sent)

end Channel

namespace Endpoint

/-- What an operation does to the registration of its stream. -/
inductive Registers (before after : Endpoint) : Prop
  | stays (closed : after.stream.closed = before.stream.closed)
    (same : before.channel.SameRegister after.channel)
  | leaves (running : before.stream.closed = false) (closed : after.stream.closed = true)
    (ids : after.channel.ids.Perm (before.channel.ids.filter (· != before.stream.localId)))
    (counts : after.channel.counts.streams =
      (before.channel.counts.streams.1, before.channel.counts.streams.2 + 1))

/-- What an operation does to the registration of its stream is told by its acts. -/
theorem Conducts.registers {before after : Endpoint} {acts : List Channel.Act}
    (conducts : before.Conducts acts after) (tidy : before.IsTidy)
    (nodup : before.channel.ids.Nodup) : before.Registers after := by
  cases running : before.stream.closed with
  | true =>
    obtain ⟨rfl, still_closed⟩ := conducts.silent tidy running
    refine .stays (still_closed.trans running.symm) ?_
    rw [conducts.channel]
    exact ⟨.refl _, rfl⟩
  | false =>
    obtain ⟨talk, talks, rfl⟩ := conducts.speaks running
    have same := talks.sameRegister nodup
    have channel := conducts.channel
    cases closed : after.stream.closed with
    | false =>
      rw [closed, if_neg Bool.false_ne_true, List.append_nil] at channel
      refine .stays (closed.trans running.symm) ?_
      rwa [channel]
    | true =>
      rw [closed, if_pos rfl, Channel.afterActs_append] at channel
      refine .leaves running closed ?_ ?_
      · rw [channel, Channel.ids_farewell]
        exact same.ids.filter _
      · rw [channel, Channel.streams_afterActs, same.counts]
        rfl

end Endpoint

namespace Connection

variable {channel : Channel} {id : UInt32}

/-- Taking an id off a list on which it does not stand changes nothing. -/
theorem filter_ne_of_not_mem {ids : List UInt32} (fresh : id ∉ ids) :
    ids.filter (· != id) = ids := by
  rw [List.filter_eq_self]
  intro other member
  exact bne_iff_ne.2 fun equal => fresh (equal ▸ member)

/-- Asking registers the id. -/
theorem ids_askActs (destination : String) (fresh : id ∉ channel.ids) :
    (channel.afterActs (askActs id destination)).ids = id :: channel.ids := by
  have sent : ((channel.listen id).send (Transmitter.sendOpen id destination)).state.queue =
      (channel.listen id).queue := Channel.queue_send ..
  rw [← filter_ne_of_not_mem fresh]
  exact (congrArg (fun queue : Queue => queue.board.ids) sent).trans (Switchboard.ids_listen ..)

theorem perm_ids_acceptActs (destination : String) (nodup : channel.ids.Nodup)
    (fresh : id ∉ channel.ids) :
    (channel.afterActs (acceptActs id destination)).ids.Perm (id :: channel.ids) := by
  have asked := ids_askActs destination fresh
  rw [acceptActs, Channel.afterActs_append, ← asked]
  exact (Channel.sameRegister_take id Command.okay (asked ▸ List.nodup_cons.2 ⟨fresh, nodup⟩)).ids

theorem streams_close (connection : Connection) :
    connection.close.state.counts.streams = connection.counts.streams := by
  have counted := congrArg Metrics.streams connection.apartFromFrames_close
  exact counted

theorem ids_close (connection : Connection) :
    connection.close.state.channel.ids = connection.channel.ids := by
  rw [close]
  split
  · rfl
  · extract_lets channel sending teardown
    simp only [Outcome.state_ofResult, sending, Channel.ids, Channel.queue_send]
    exact Switchboard.ids_disconnect _

end Connection

namespace Session

/-- The local ids of the streams that are not closed. -/
def openIds (streams : List Stream) : List UInt32 :=
  (streams.filter (!·.closed)).map (·.localId)

theorem openIds_append (front back : List Stream) :
    openIds (front ++ back) = openIds front ++ openIds back := by
  rw [openIds, List.filter_append, List.map_append]
  rfl

theorem openIds_single (stream : Stream) :
    openIds [stream] = if stream.closed then [] else [stream.localId] := by
  cases closed : stream.closed <;> simp [openIds, closed]

theorem openIds_around (front back : List Stream) (stream : Stream) :
    openIds (front ++ stream :: back) =
      openIds front ++ (if stream.closed then [] else [stream.localId]) ++ openIds back := by
  rw [← List.singleton_append, ← List.append_assoc, openIds_append, openIds_append, openIds_single]

theorem openIds_sublist (streams : List Stream) :
    (openIds streams).Sublist (streams.map (·.localId)) :=
  List.filter_sublist.map _

/-- So many streams were opened, and these ids are still to come. Those of the streams that are not
closed are registered, each of them once, and the counters agree. -/
structure InOrder (upcoming : List UInt32) (opened : Nat) (session : Session) : Prop where
  tidy : ∀ stream ∈ session.streams, stream.closed = true → stream.pending = none
  distinct : (session.streams.map (·.localId) ++ upcoming).Nodup
  registered : session.connection.channel.ids.Perm (openIds session.streams)
  some_opened : (openIds session.streams).length ≤ opened
  counted : session.connection.counts.streams =
    (UInt64.ofNat opened, UInt64.ofNat (opened - (openIds session.streams).length))

variable {session after : Session} {upcoming : List UInt32} {opened : Nat}

/-- As long as there is order, nobody is registered twice. -/
theorem InOrder.nodup (order : session.InOrder upcoming opened) :
    session.connection.channel.ids.Nodup := by
  apply order.registered.symm.nodup
  exact (List.nodup_append.1 order.distinct).1.sublist (openIds_sublist session.streams)

/-- An id that is still to come is not registered. -/
theorem InOrder.fresh (order : session.InOrder upcoming opened) {id : UInt32}
    (member : id ∈ upcoming) : id ∉ session.connection.channel.ids := by
  intro registered
  have there := (openIds_sublist _).subset (order.registered.mem_iff.1 registered)
  exact (List.nodup_append.1 order.distinct).2.2 id there id member rfl

/-- The ids to come may turn out to be fewer. -/
theorem InOrder.fewer {fewer : List UInt32} (order : session.InOrder upcoming opened)
    (sublist : fewer.Sublist upcoming) : session.InOrder fewer opened :=
  { order with distinct := order.distinct.sublist ((List.Sublist.refl _).append sublist) }

/-- As long as there is order, a stream that is closed hands nothing out. -/
theorem InOrder.isTidy (order : session.InOrder upcoming opened) {front back : List Stream}
    {stream : Stream} (found : session.streams = front ++ stream :: back) :
    Endpoint.IsTidy ⟨stream, session.connection.channel⟩ := by
  apply order.tidy stream
  rw [found]
  exact List.mem_append_right _ List.mem_cons_self

/-- The streams behind and before one have other ids. -/
theorem InOrder.not_mem_around (order : session.InOrder upcoming opened) {front back : List Stream}
    {stream : Stream} (found : session.streams = front ++ stream :: back) :
    stream.localId ∉ openIds front ∧ stream.localId ∉ openIds back := by
  have distinct := (List.nodup_append.1 order.distinct).1
  rw [found, List.map_append, List.map_cons, List.nodup_middle, List.nodup_cons,
    List.mem_append, not_or] at distinct
  exact distinct.1.imp (mt fun member => (openIds_sublist front).subset member)
    (mt fun member => (openIds_sublist back).subset member)

/-- Taking the id of one stream off the open ids leaves those of the streams around it. -/
theorem InOrder.filter_openIds (order : session.InOrder upcoming opened) {front back : List Stream}
    {stream : Stream} (found : session.streams = front ++ stream :: back) :
    (openIds front ++ stream.localId :: openIds back).filter (· != stream.localId) =
      openIds front ++ openIds back := by
  obtain ⟨not_before, not_behind⟩ := order.not_mem_around found
  rw [List.filter_append, List.filter_cons_of_neg (by simp),
    Connection.filter_ne_of_not_mem not_before, Connection.filter_ne_of_not_mem not_behind]

section Exchange

variable {front back rest : List Stream} {stream : Stream} {acts : List Channel.Act}
  {channel : Channel} {last : Endpoint}

/-- After the use of a stream the streams are as tidy as before, with or without it. -/
theorem tidy_exchanged
    (tidy : ∀ other ∈ front ++ stream :: back, other.closed = true → other.pending = none)
    (conducts : Endpoint.Conducts ⟨stream, channel⟩ acts last)
    (kept : rest = [last.stream] ∨ rest = []) :
    ∀ other ∈ front ++ rest ++ back, other.closed = true → other.pending = none := by
  rw [List.forall_mem_append, List.forall_mem_cons] at tidy
  obtain ⟨before, at_hand, behind⟩ := tidy
  rw [List.append_assoc, List.forall_mem_append, List.forall_mem_append]
  refine ⟨before, ?_, behind⟩
  obtain rfl | rfl := kept
  · exact List.forall_mem_singleton.2 (conducts.tidy at_hand)
  · exact List.forall_mem_nil _

/-- The use of a stream brings no id in. -/
theorem sublist_exchanged (conducts : Endpoint.Conducts ⟨stream, channel⟩ acts last)
    (kept : rest = [last.stream] ∨ rest = []) :
    ((front ++ rest ++ back).map (·.localId)).Sublist
      ((front ++ stream :: back).map (·.localId)) := by
  have local_id : last.stream.localId = stream.localId := conducts.local_id
  rw [List.append_assoc, List.map_append, List.map_append, List.map_append, List.map_cons]
  refine (List.Sublist.refl _).append ?_
  obtain rfl | rfl := kept
  · rw [List.map_singleton, local_id, List.singleton_append]
  · exact List.sublist_cons_self ..

/-- After the use of one stream its id is open as long as it is not closed, and the others are as
before. -/
theorem openIds_exchanged (conducts : Endpoint.Conducts ⟨stream, channel⟩ acts last)
    (kept : rest = [last.stream] ∨ rest = [] ∧ last.stream.closed = true) :
    openIds (front ++ rest ++ back) = openIds front ++
      (if last.stream.closed then [] else [stream.localId]) ++ openIds back := by
  have local_id : last.stream.localId = stream.localId := conducts.local_id
  obtain rfl | ⟨rfl, closed⟩ := kept
  · rw [List.append_assoc, List.singleton_append, openIds_around, local_id]
  · rw [closed, if_pos rfl, List.append_nil, List.append_nil, openIds_append]

end Exchange

/-- Using a stream keeps the order, whether the stream stays or goes out of use closed. -/
theorem InOrder.conducts (order : session.InOrder upcoming opened) {front back rest : List Stream}
    {stream : Stream} {acts : List Channel.Act} {last : Endpoint}
    (found : session.streams = front ++ stream :: back)
    (conducts : Endpoint.Conducts ⟨stream, session.connection.channel⟩ acts last)
    (kept : rest = [last.stream] ∨ rest = [] ∧ last.stream.closed = true) :
    InOrder upcoming opened
      { session.afterActs acts with streams := front ++ rest ++ back } := by
  have channel : (session.afterActs acts).connection.channel = last.channel :=
    conducts.channel.symm
  have before : openIds session.streams = openIds front ++
      (if stream.closed then [] else [stream.localId]) ++ openIds back := by
    rw [found, openIds_around]
  have after : openIds (front ++ rest ++ back) = _ := openIds_exchanged conducts kept
  have still_tidy := tidy_exchanged (found ▸ order.tidy) conducts (kept.imp_right And.left)
  have distinct : ((front ++ rest ++ back).map (·.localId) ++ upcoming).Nodup := by
    refine order.distinct.sublist (List.Sublist.append ?_ (.refl _))
    rw [found]
    exact sublist_exchanged conducts (kept.imp_right And.left)
  have registered := order.registered
  have some_opened := order.some_opened
  have counted := order.counted
  cases conducts.registers (order.isTidy found) order.nodup with
  | stays closed same =>
    rw [closed, ← before] at after
    refine ⟨still_tidy, distinct, ?_, ?_, ?_⟩
    · rw [channel, after]
      exact same.ids.trans registered
    · rw [after]
      exact some_opened
    · rw [after, ← counted, Connection.counts, channel]
      exact same.counts
  | leaves running closed ids counts =>
    rw [running, if_neg Bool.false_ne_true] at before
    rw [closed, if_pos rfl, List.append_nil] at after
    rw [before, List.append_assoc] at registered some_opened counted
    have left := registered.filter (· != stream.localId)
    rw [List.singleton_append, order.filter_openIds found] at left
    refine ⟨still_tidy, distinct, ?_, ?_, ?_⟩
    · rw [channel, after]
      exact ids.trans left
    · rw [after]
      simp only [List.length_append, List.length_singleton] at some_opened ⊢
      omega
    · rw [after, Connection.counts, channel, counts]
      change session.connection.channel.counts.streams = _ at counted
      simp only [List.length_append, List.length_cons, List.length_nil] at counted some_opened ⊢
      have one_more : opened - ((openIds front).length + (openIds back).length) =
          opened - ((openIds front).length + (0 + 1 + (openIds back).length)) + 1 := by
        omega
      rw [counted, one_more, UInt64.ofNat_add]
      rfl

/-- A stream that the device accepts is registered and counted. -/
theorem InOrder.accepts {id : UInt32} (order : session.InOrder (id :: upcoming) opened)
    (destination : String) (answer : Frame) :
    InOrder upcoming (opened + 1)
      { session.afterActs (Connection.acceptActs id destination) with
        streams := session.streams ++ [session.connection.accepted id answer] } := by
  have one_more : openIds (session.streams ++ [session.connection.accepted id answer]) =
      openIds session.streams ++ [id] :=
    openIds_append ..
  have accepted := Connection.perm_ids_acceptActs destination order.nodup
    (order.fresh List.mem_cons_self)
  have some_opened := order.some_opened
  have counted := order.counted
  refine ⟨?_, ?_, ?_, ?_, ?_⟩
  · rw [List.forall_mem_append]
    refine ⟨order.tidy, ?_⟩
    intro stream member closed
    rw [List.mem_singleton.1 member] at closed
    contradiction
  · rw [List.map_append, List.append_assoc]
    exact order.distinct
  · rw [one_more]
    exact accepted.trans ((order.registered.cons id).trans (List.perm_append_singleton id _).symm)
  · rw [one_more, List.length_append, List.length_singleton]
    omega
  · change (session.connection.channel.afterActs _).counts.streams = _
    change session.connection.channel.counts.streams = _ at counted
    rw [one_more, List.length_append, List.length_singleton, Nat.add_sub_add_right,
      Channel.streams_afterActs, counted, UInt64.ofNat_add]
    rfl

/-- A stream that is asked for in vain is not registered any more. -/
theorem InOrder.fails {id : UInt32} (order : session.InOrder (id :: upcoming) opened)
    (destination : String) {rest : List Channel.Act}
    (waited : rest = [] ∨ rest = [.take id Command.okay]) :
    (session.afterActs
      (Connection.askActs id destination ++ (rest ++ [.unlisten id]))).InOrder upcoming opened := by
  have fresh := order.fresh List.mem_cons_self
  have asked := Connection.ids_askActs destination fresh
  have waiting : ((session.connection.channel.afterActs
      (Connection.askActs id destination)).afterActs rest).ids.Perm
        (id :: session.connection.channel.ids) := by
    obtain rfl | rfl := waited
    · rw [← asked]
      exact .refl _
    · rw [← asked]
      exact (Channel.sameRegister_take id Command.okay
        (asked ▸ List.nodup_cons.2 ⟨fresh, order.nodup⟩)).ids
  refine ⟨order.tidy, ?_, ?_, order.some_opened, ?_⟩
  · exact List.Nodup.sublist ((List.Sublist.refl _).append (List.sublist_cons_self ..))
      order.distinct
  · change (session.connection.channel.afterActs _).ids.Perm _
    rw [Channel.afterActs_append, Channel.afterActs_append]
    refine List.Perm.trans ?_ order.registered
    have left := waiting.filter (· != id)
    rw [List.filter_cons_of_neg (by simp), Connection.filter_ne_of_not_mem fresh] at left
    exact List.Perm.trans (.of_eq (Channel.ids_unlisten ..)) left
  · refine Eq.trans ?_ order.counted
    change (session.connection.channel.afterActs _).counts.streams = _
    rw [Channel.streams_afterActs]
    obtain rfl | rfl := waited <;> rfl

/-- Every deed keeps the order. -/
theorem Goes.inOrder {deed : Deed} {acts : List Channel.Act} {stream : Option Stream}
    (goes : session.Goes deed acts stream after)
    (order : session.InOrder (deed.id?.toList ++ upcoming) opened) :
    after.InOrder upcoming (opened + stream.toList.length) := by
  cases goes with
  | idle quiet => exact order.fewer (List.sublist_append_right ..)
  | fails opening asked running waited =>
    rw [Deed.id?_of_opening opening] at order
    exact order.fails _ waited
  | opens opening asked accepts =>
    rw [Deed.id?_of_opening opening] at order
    exact order.accepts ..
  | @runs _ id destination answer acts last opening asked accepts conducts closed =>
    -- The stream is in use for a moment, behind all others.
    rw [Deed.id?_of_opening opening] at order
    have kept := (order.accepts destination answer).conducts rfl conducts (.inr ⟨rfl, closed⟩)
    rw [List.append_nil, List.append_nil] at kept
    rw [afterActs, Connection.afterActs_append]
    exact kept
  | uses found conducts =>
    have kept := order.conducts found conducts (.inl rfl)
    rw [List.append_assoc] at kept
    exact kept
  | drops found conducts closed =>
    have kept := order.conducts found conducts (.inr ⟨rfl, closed⟩)
    rw [List.append_nil] at kept
    exact kept

/-- So does closing the connection: nobody is forgotten, and no stream counted. -/
theorem InOrder.close (order : session.InOrder upcoming opened) :
    (session.entry .close).after.InOrder upcoming opened := by
  rw [entry, session.perform_close.2]
  refine ⟨order.tidy, order.distinct, ?_, order.some_opened, ?_⟩
  · rw [Connection.ids_close]
    exact order.registered
  · rw [Connection.streams_close]
    exact order.counted

/-- The stream that was opened. -/
def Entry.opened? (entry : Entry) : Option Stream :=
  entry.before.opened? entry.deed

/-- Every deed keeps the order, and one that opens a stream adds it. -/
theorem InOrder.entry {deed : Deed} (order : session.InOrder (deed.id?.toList ++ upcoming) opened) :
    (session.entry deed).after.InOrder upcoming
      (opened + (session.entry deed).opened?.toList.length) := by
  by_cases close : deed = .close
  · subst close
    exact order.close
  · exact (session.goes_perform close).inOrder order

/-- The ids of the streams that deeds open. -/
def idsOf (deeds : List Deed) : List UInt32 :=
  deeds.filterMap Deed.id?

theorem idsOf_cons (deed : Deed) (deeds : List Deed) :
    idsOf (deed :: deeds) = deed.id?.toList ++ idsOf deeds := by
  cases opening : deed.id? with
  | none => exact List.filterMap_cons_none opening
  | some id => exact List.filterMap_cons_some opening

/-- What every deed keeps, all deeds keep. -/
theorem InOrder.afterDeeds {deeds : List Deed} (order : session.InOrder (idsOf deeds) opened) :
    (session.afterDeeds deeds).InOrder []
      (opened + ((session.log deeds).filterMap Entry.opened?).length) := by
  induction deeds generalizing session opened with
  | nil => exact order
  | cons deed deeds ih =>
    rw [idsOf_cons] at order
    have rest := ih order.entry
    rw [Nat.add_assoc] at rest
    rw [Session.afterDeeds, log, List.filterMap_cons]
    cases stream : (session.entry deed).opened? with
    | none =>
      rw [stream] at rest
      rwa [Option.toList_none, List.length_nil, Nat.zero_add] at rest
    | some opened =>
      rw [stream] at rest
      rwa [Option.toList_some, List.length_singleton, Nat.add_comm 1] at rest

/-- The order holds before and after each deed. -/
theorem InOrder.of_mem_log {deeds : List Deed} (order : session.InOrder (idsOf deeds) opened)
    {entry : Entry} (member : entry ∈ session.log deeds) :
    entry = entry.before.entry entry.deed ∧ ∃ upcoming opened,
      entry.before.InOrder (entry.deed.id?.toList ++ upcoming) opened ∧
        entry.after.InOrder upcoming (opened + entry.opened?.toList.length) := by
  induction deeds generalizing session opened with
  | nil => contradiction
  | cons deed deeds ih =>
    rw [idsOf_cons] at order
    rw [log, List.mem_cons] at member
    obtain rfl | later := member
    · exact ⟨rfl, _, _, order, order.entry⟩
    · exact ih order.entry later

/-- Whether a stream goes out of use. -/
def Entry.loses (entry : Entry) : Bool :=
  match entry.deed with
  | .use place .drop => decide (place < entry.before.streams.length)
  | .shell _ _ => entry.opened?.isSome
  | .use _ _ | .openStream _ _ | .openWith _ _ _ | .close => false

theorem streams_keep (session : Session) (outcome : Outcome Connection Stream) :
    (session.keep outcome).state.streams = session.streams ++ outcome.result.toOption.toList := by
  cases outcome with
  | ok stream connection => rfl
  | error failure connection => exact (List.append_nil _).symm

/-- Running a command takes no stream into use. -/
theorem streams_of_shell (id : UInt32) (command : String) (session : Session) :
    (session.entry (.shell id command)).after.streams = session.streams := by
  rw [entry, perform, Outcome.state_mapState]

/-- Every stream that was opened is in use or went out of use. -/
theorem length_streams_entry (deed : Deed) (session : Session) :
    (session.entry deed).after.streams.length + (session.entry deed).loses.toNat =
      session.streams.length + (session.entry deed).opened?.toList.length := by
  cases deed with
  | openStream id destination | openWith feature id destination =>
    simp only [entry, perform, streams_keep, List.length_append, Entry.loses, Entry.opened?,
      opened?, Bool.toNat_false, Nat.add_zero]
  | shell id command =>
    have loses : (session.entry (.shell id command)).loses =
        (session.entry (.shell id command)).opened?.isSome := rfl
    rw [streams_of_shell, loses]
    cases (session.entry (.shell id command)).opened? <;> rfl
  | use place use =>
    have none_opened : (session.entry (.use place use)).opened? = none := rfl
    rw [none_opened, entry, perform, Session.use]
    cases found : session.streams[place]? with
    | none =>
      have outside : ¬place < session.streams.length :=
        Nat.not_lt.2 (List.getElem?_eq_none_iff.1 found)
      cases use <;> simp [Entry.loses, outside]
    | some stream =>
      obtain ⟨inside, -⟩ := List.getElem?_eq_some_iff.1 found
      cases use with
      | drop =>
        simp only [Entry.loses, inside, decide_true, Outcome.state_ok, List.length_eraseIdx,
          if_true, Bool.toNat_true, Option.toList_none, List.length_nil]
        omega
      | read | write | flush | close =>
        simp only [Entry.loses, onStream, Outcome.state_mapState, List.length_set, Bool.toNat_false,
          Option.toList_none, List.length_nil]
  | close =>
    rw [entry, session.perform_close.2]
    rfl

/-- The streams in use are those that there were and those that were opened, less those that went
out of use. -/
theorem length_streams_afterDeeds (deeds : List Deed) (session : Session) :
    (session.afterDeeds deeds).streams.length + (session.log deeds).countP Entry.loses =
      session.streams.length + ((session.log deeds).filterMap Entry.opened?).length := by
  induction deeds generalizing session with
  | nil => rfl
  | cons deed deeds ih =>
    have first := session.length_streams_entry deed
    have rest := ih (session.entry deed).after
    have lost : ((session.entry deed :: log deeds (session.entry deed).after).countP
        Entry.loses) = (session.entry deed).loses.toNat +
          (log deeds (session.entry deed).after).countP Entry.loses := by
      cases loses : (session.entry deed).loses <;> simp [loses, Nat.add_comm]
    have kept : ((session.entry deed :: log deeds (session.entry deed).after).filterMap
        Entry.opened?).length = (session.entry deed).opened?.toList.length +
          ((log deeds (session.entry deed).after).filterMap Entry.opened?).length := by
      cases stream : (session.entry deed).opened? <;> simp [stream, Nat.add_comm]
    rw [afterDeeds, log, lost, kept]
    omega

/-- The stream with this id was not opened, or is closed. -/
inductive Entry.Ends (entry : Entry) (id : UInt32) : Prop
  | refused (opening : entry.deed.id? = some id) (failed : entry.opened? = none)
  | ran {command : String} (shell : entry.deed = .shell id command)
  | closed {place : Nat} {stream : Stream} (found : entry.before.streams[place]? = some stream)
    (local_id : stream.localId = id)
    (deed : entry.deed = .use place .close ∨ entry.deed = .use place .drop)

variable {deed : Deed}

/-- A deed that opens no stream although it should leaves the streams in use as they are. -/
theorem streams_of_refused {id : UInt32} (opening : deed.id? = some id)
    (failed : (session.entry deed).opened? = none) :
    (session.entry deed).after.streams = session.streams := by
  cases deed with
  | openStream id destination | openWith feature id destination =>
    simp only [entry, Entry.opened?, opened?] at failed
    simp only [entry, perform, streams_keep, failed, Option.toList_none, List.append_nil]
  | shell id command => exact session.streams_of_shell id command
  | use place use => contradiction
  | close => contradiction

/-- An id that is still to come is not open. -/
theorem InOrder.not_mem_of_id? (order : session.InOrder (deed.id?.toList ++ upcoming) opened)
    {id : UInt32} (opening : deed.id? = some id) : id ∉ openIds session.streams := by
  intro member
  have there := (openIds_sublist _).subset member
  rw [opening] at order
  exact (List.nodup_append.1 order.distinct).2.2 id there id List.mem_cons_self rfl

/-- A stream that is closed stays in use, as a closed one. -/
theorem streams_of_closing {place : Nat} {stream : Stream}
    (found : session.streams[place]? = some stream) :
    (session.entry (.use place .close)).after.streams =
      session.streams.set place
        (Endpoint.close ⟨stream, session.connection.channel⟩).state.stream := by
  simp only [entry, perform, Session.use, found, onStream, Connection.onStream,
    Outcome.state_mapState, Outcome.state_map]

/-- A stream that is dropped goes out of use. -/
theorem streams_of_dropping {place : Nat} {stream : Stream}
    (found : session.streams[place]? = some stream) :
    (session.entry (.use place .drop)).after.streams = session.streams.eraseIdx place := by
  simp only [entry, perform, Session.use, found, Outcome.state_ok]

/-- A stream that is over is not among those that are not closed. -/
theorem InOrder.not_mem_of_ends (order : session.InOrder (deed.id?.toList ++ upcoming) opened)
    {id : UInt32} (ends : (session.entry deed).Ends id) :
    id ∉ openIds (session.entry deed).after.streams := by
  cases ends with
  | refused opening failed =>
    have opening : deed.id? = some id := opening
    rw [streams_of_refused opening failed]
    exact order.not_mem_of_id? opening
  | @ran command shell =>
    obtain rfl : deed = .shell id command := shell
    rw [streams_of_shell]
    exact order.not_mem_of_id? rfl
  | @closed place stream found local_id closing =>
    have at_place : session.streams[place]? = some stream := found
    obtain ⟨front, back, split, replaced, erased⟩ := exists_around at_place
    have not_around := order.not_mem_around split
    rw [local_id] at not_around
    have left : openIds (session.entry deed).after.streams = openIds front ++ openIds back := by
      obtain close | drop := closing
      · obtain rfl : deed = .use place .close := close
        rw [streams_of_closing at_place, replaced, ← List.singleton_append, openIds_append,
          openIds_append, openIds_single, Endpoint.closed_close]
        rfl
      · obtain rfl : deed = .use place .drop := drop
        rw [streams_of_dropping at_place, erased, openIds_append]
    rwa [left, List.mem_append, not_or]

end Session

namespace Connection

/-- A connection over a transport that was not used before starts in order. -/
theorem inOrder_of_establish {keyPair : Option KeyPair} {source : Source} {sink : Sink}
    {teardown : Teardown} {connection : Connection}
    (established : establish keyPair
      { receiver := { source }, transmitter := { out := { sink } }, teardown } = .ok connection)
    {upcoming : List UInt32} (distinct : upcoming.Nodup) :
    Session.InOrder upcoming 0 { connection } := by
  obtain ⟨greeting, after, negotiated, rfl⟩ := eq_of_establish established
  have kept := Transport.keeps_negotiate keyPair (Transport.begun
    { receiver := { source }, transmitter := { out := { sink } }, teardown })
  rw [negotiated, Outcome.state_ok] at kept
  have counted : (after.metrics.handshakeSuccess + after.transmitter.metrics + {} +
        after.receiver.metrics).apartFromFrames =
      (({} : Metrics).handshakeAttempt.handshakeSuccess + {} + {} + {}).apartFromFrames := by
    rw [kept.metrics]
    exact Metrics.apartFromFrames_add_congr (Metrics.apartFromFrames_add_congr
      (Metrics.apartFromFrames_add_congr rfl kept.transmitter) rfl) kept.receiver
  refine ⟨List.forall_mem_nil _, distinct, .refl _, Nat.le_refl 0, ?_⟩
  have streams := congrArg Metrics.streams counted
  exact streams

end Connection

namespace Session

variable {deeds : List Deed} {session : Session} {upcoming : List UInt32} {opened : Nat}

/-- An id is open if a stream has it and is not closed. -/
theorem mem_openIds {id : UInt32} {streams : List Stream} :
    id ∈ openIds streams ↔
      ∃ stream ∈ streams, stream.localId = id ∧ stream.closed = false := by
  rw [openIds, List.mem_map]
  constructor
  · rintro ⟨stream, listed, local_id⟩
    obtain ⟨member, running⟩ := List.mem_filter.1 listed
    exact ⟨stream, member, local_id, by simpa using running⟩
  · rintro ⟨stream, member, local_id, running⟩
    exact ⟨stream, List.mem_filter.2 ⟨member, by simpa using running⟩, local_id⟩

/-- There are not so many ids that a counter could start again. -/
theorem length_lt_of_nodup {ids : List UInt32} (nodup : ids.Nodup) :
    ids.length < UInt64.size := by
  have distinct : (ids.map UInt32.toNat).Nodup :=
    nodup.map fun _ _ same => UInt32.toNat_inj.1 same
  have inside : ids.map UInt32.toNat ⊆ List.range UInt32.size := by
    intro number member
    obtain ⟨id, -, rfl⟩ := List.mem_map.1 member
    exact List.mem_range.2 id.toNat_lt
  have few := (distinct.subperm inside).length_le
  rw [List.length_map, List.length_range] at few
  exact Nat.lt_of_le_of_lt few (by decide)

/-- Every stream that was opened has one of the ids. -/
theorem length_opened_le (deeds : List Deed) (session : Session) :
    ((session.log deeds).filterMap Entry.opened?).length ≤ (idsOf deeds).length := by
  induction deeds generalizing session with
  | nil => exact Nat.le_refl 0
  | cons deed deeds ih =>
    have rest := ih (session.entry deed).after
    rw [log, idsOf_cons, List.length_append, List.filterMap_cons]
    cases stream : (session.entry deed).opened? with
    | none => exact Nat.le_add_left_of_le rest
    | some opened =>
      have asked : deed.id?.toList.length = 1 := by
        cases deed <;> first | rfl | contradiction
      rw [asked, List.length_cons]
      omega

/-- Every stream is closed or has an open id. -/
theorem countP_add_openIds (streams : List Stream) :
    streams.countP (·.closed) + (openIds streams).length = streams.length := by
  have split : streams.length = _ := List.length_eq_countP_add_countP fun stream => stream.closed
  simpa [openIds, List.countP_eq_length_filter] using split.symm

end Session

/-- **Registrations never leak.** A connection is established over a transport that was not used
before. Then streams are opened under ids of their own, used, closed and dropped, commands are run
and the connection is closed, in any order, and any of it may fail. The registered ids are at any
time those of the streams that are in use and not closed, each of them once. As many streams are
counted as opened as were accepted, and as closed as went out of use or are closed, so the counters
differ by the number of registered ids. A stream that was not accepted, or is closed or dropped,
leaves no registration behind. -/
theorem Connection.registrations_never_leak {keyPair : Option KeyPair} {source : Source}
    {sink : Sink} {teardown : Teardown} {connection : Connection}
    (established : establish keyPair
      { receiver := { source }, transmitter := { out := { sink } }, teardown } = .ok connection)
    {deeds : List Deed} (distinct : (Session.idsOf deeds).Nodup) :
    let start : Session := { connection }
    let log := start.log deeds
    let last := start.afterDeeds deeds
    let board := last.connection.channel.queue.board
    let counts := last.connection.counts
    (∀ id, board.isListening id = true ↔
      ∃ stream ∈ last.streams, stream.localId = id ∧ stream.closed = false) ∧
    board.boxes.ids.Nodup ∧
    counts.streamsOpened.toNat = (log.filterMap Session.Entry.opened?).length ∧
    counts.streamsClosed.toNat =
      log.countP Session.Entry.loses + last.streams.countP (·.closed) ∧
    board.listeningCount + counts.streamsClosed.toNat = counts.streamsOpened.toNat ∧
    ∀ entry ∈ log, ∀ id, entry.Ends id →
      entry.after.connection.channel.queue.board.isListening id = false := by
  intro start log last board counts
  have begun : start.InOrder (Session.idsOf deeds) 0 := inOrder_of_establish established distinct
  have order := begun.afterDeeds
  rw [Nat.zero_add] at order
  have few : (log.filterMap Session.Entry.opened?).length < UInt64.size :=
    Nat.lt_of_le_of_lt (start.length_opened_le deeds) (Session.length_lt_of_nodup distinct)
  have opened : counts.streamsOpened = UInt64.ofNat _ := (Prod.mk.inj order.counted).1
  have closed : counts.streamsClosed = UInt64.ofNat _ := (Prod.mk.inj order.counted).2
  have in_use : last.streams.length + log.countP Session.Entry.loses =
      0 + (log.filterMap Session.Entry.opened?).length :=
    start.length_streams_afterDeeds deeds
  have divided := Session.countP_add_openIds last.streams
  have registered : board.listeningCount = (Session.openIds last.streams).length := by
    rw [← board.length_ids]
    exact order.registered.length_eq
  have some_opened : (Session.openIds last.streams).length ≤
      (log.filterMap Session.Entry.opened?).length :=
    order.some_opened
  have counted_opened : counts.streamsOpened.toNat =
      (log.filterMap Session.Entry.opened?).length := by
    rw [opened]
    exact UInt64.toNat_ofNat_of_lt' few
  have counted_closed : counts.streamsClosed.toNat =
      (log.filterMap Session.Entry.opened?).length - (Session.openIds last.streams).length := by
    rw [closed]
    exact UInt64.toNat_ofNat_of_lt' (Nat.lt_of_le_of_lt (Nat.sub_le ..) few)
  refine ⟨?_, order.nodup, counted_opened, ?_, ?_, ?_⟩
  · intro id
    rw [Switchboard.isListening_iff, ← Session.mem_openIds]
    exact order.registered.mem_iff
  · rw [counted_closed]
    omega
  · rw [registered, counted_closed, counted_opened]
    omega
  · intro entry member id ends
    obtain ⟨same, upcoming, before, order, after⟩ := begun.of_mem_log member
    rw [same] at ends
    have gone := order.not_mem_of_ends ends
    rw [← same] at gone
    rw [← Bool.not_eq_true, Switchboard.isListening_iff]
    exact mt after.registered.mem_iff.1 gone

/-- A device that accepts the streams `1` and `3` and refuses the stream between them. -/
def Source.refusing : Source :=
  [.bytes ([
    Frame.make Command.connect 0x01000000 4096 (Utf8.encode "device::features=cmd"),
    .make Command.okay 9 1 [], .make Command.close 0 2 [],
    .make Command.okay 8 3 []].flatMap Frame.encode) 4096]

/-- Three streams are opened and the first of them is closed again. -/
def Session.threeOpens : List Deed :=
  [.openStream 1 "echo:", .openStream 2 "none:", .openStream 3 "echo:", .use 1 .close]

/-- One stream is accepted, one refused and one closed, which leaves a single registration. -/
theorem Connection.registrations_never_leak_refused :
    ∃ connection, establish none { receiver := { source := .refusing } } = .ok connection ∧
      (Session.idsOf Session.threeOpens).Nodup ∧
      let last := Session.afterDeeds Session.threeOpens { connection }
      last.connection.counts.streamsOpened.toNat = 2 ∧
      last.connection.counts.streamsClosed.toNat = 1 ∧
      last.connection.channel.queue.board.listeningCount = 1 := by
  have runs : (establish none { receiver := { source := .refusing } }).toOption.map
      (fun connection =>
        let log := Session.log Session.threeOpens { connection }
        let last := Session.afterDeeds Session.threeOpens { connection }
        ((log.filterMap Session.Entry.opened?).length, log.countP Session.Entry.loses,
          last.streams.countP (·.closed))) = some (2, 0, 1) := by
    decide +kernel
  obtain ⟨connection, established, figures⟩ := exists_of_map_establish runs
  have distinct : (Session.idsOf Session.threeOpens).Nodup := by decide
  obtain ⟨opened, rest⟩ := Prod.mk.inj figures
  obtain ⟨lost, closed⟩ := Prod.mk.inj rest
  obtain ⟨-, -, counted_opened, counted_closed, balance, -⟩ :=
    registrations_never_leak established distinct
  rw [opened] at counted_opened
  rw [lost, closed] at counted_closed
  rw [counted_closed, counted_opened] at balance
  exact ⟨connection, established, distinct, counted_opened, counted_closed,
    Nat.add_right_cancel balance⟩

end DebugBridge

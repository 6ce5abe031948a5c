import DebugBridge.Proofs.Session.Incidents
import DebugBridge.Proofs.Session.Registration

/-!
# How streams speak

What is handed to the transmitter under one id is a conversation: it begins with the request for
the stream, goes on with acknowledgements and data that carry the id which the device has given, and
ends with one farewell. When the request is in vain nothing follows it, and a connection that has
ended is not asked at all.
-/

namespace DebugBridge

namespace Frame

/-- The request for a stream. -/
def opening (id : UInt32) (destination : String) : Frame :=
  .make Command.openStream id 0 (Utf8.encode destination ++ [0])

/-- The farewell of a stream. -/
def leaving (id remoteId : UInt32) : Frame :=
  .make Command.close id remoteId []

/-- What a stream has to say: acknowledgements and data. -/
inductive IsTalk (id remoteId : UInt32) : Frame → Prop
  | okay : IsTalk id remoteId (.make Command.okay id remoteId [])
  | write (payload : Bytes) : IsTalk id remoteId (.make Command.write id remoteId payload)

/-- What a stream has to say is sent under its id. -/
theorem IsTalk.arg0_eq {id remoteId : UInt32} {frame : Frame} (talk : frame.IsTalk id remoteId) :
    frame.arg0 = id := by
  cases talk <;> rfl

end Frame

/-- What is said under an id. -/
def Incident.said (id : UInt32) (incidents : List Incident) : List Frame :=
  (handed incidents).filter (·.arg0 == id)

/-- What is said in incidents that follow each other. -/
theorem Incident.said_append (id : UInt32) (incidents more : List Incident) :
    said id (incidents ++ more) = said id incidents ++ said id more := by
  rw [said, handed_append, List.filter_append]
  rfl

namespace Channel

variable {id localId remoteId : UInt32} {channel : Channel} {acts : List Act}

/-- What acts say under an id. -/
def said (id : UInt32) (acts : List Act) : List Frame :=
  (acts.filterMap Act.frame?).filter (·.arg0 == id)

theorem said_append (id : UInt32) (acts more : List Act) :
    said id (acts ++ more) = said id acts ++ said id more := by
  rw [said, List.filterMap_append, List.filter_append]
  rfl

/-- What acts say is what is sent in their incidents, whatever else happens in them. -/
theorem said_incidents (id : UInt32) (acts : List Act) (channel : Channel) :
    Incident.said id (channel.incidents acts) = said id acts := by
  rw [Incident.said, handed_incidents]
  rfl

/-- A stream that talks sends nothing but acknowledgements and data. -/
theorem Talks.frames (talks : channel.Talks localId remoteId acts) :
    ∀ frame ∈ acts.filterMap Act.frame?, frame.IsTalk localId remoteId := by
  induction acts generalizing channel with
  | nil => exact List.forall_mem_nil _
  | cons act acts ih =>
    have rest := ih talks.2
    cases talks.1 with
    | takes | discards => exact rest
    | acknowledges => exact List.forall_mem_cons.2 ⟨.okay, rest⟩
    | writes payload => exact List.forall_mem_cons.2 ⟨.write payload, rest⟩

/-- What a stream that talks says under its own id are acknowledgements and data. -/
theorem Talks.said_own (talks : channel.Talks localId remoteId acts) :
    ∀ frame ∈ said localId acts, frame.IsTalk localId remoteId :=
  fun frame member => talks.frames frame (List.mem_filter.1 member).1

/-- A stream that talks says nothing under another id. -/
theorem Talks.said_other (talks : channel.Talks localId remoteId acts) (other : id ≠ localId) :
    said id acts = [] := by
  refine List.filter_eq_nil_iff.2 fun frame member same => other ?_
  rw [← (talks.frames frame member).arg0_eq]
  exact (eq_of_beq same).symm

/-- Taking leave says farewell. -/
theorem said_farewell (localId remoteId : UInt32) :
    said localId (farewell localId remoteId) = [.leaving localId remoteId] :=
  List.filter_cons_of_pos (beq_self_eq_true localId)

theorem said_farewell_other (remoteId : UInt32) (other : id ≠ localId) :
    said id (farewell localId remoteId) = [] :=
  List.filter_cons_of_neg (mt eq_of_beq other.symm)

end Channel

namespace Endpoint.Conducts

open Channel (said)

variable {before after : Endpoint} {acts : List Channel.Act} {id : UInt32}

/-- Nothing is said under the ids of others. -/
theorem said_other (conducts : before.Conducts acts after) (tidy : before.IsTidy)
    (other : id ≠ before.stream.localId) : said id acts = [] := by
  cases running : before.stream.closed with
  | true =>
    rw [(conducts.silent tidy running).1]
    rfl
  | false =>
    obtain ⟨talk, talks, rfl⟩ := conducts.speaks running
    rw [Channel.said_append, talks.said_other other, List.nil_append]
    split
    · exact Channel.said_farewell_other _ other
    · rfl

/-- A stream that is not closed talks, and takes leave when it is closed. -/
theorem said_own (conducts : before.Conducts acts after)
    (running : before.stream.closed = false) :
    ∃ talk, (∀ frame ∈ talk, frame.IsTalk before.stream.localId before.stream.remoteId) ∧
      said before.stream.localId acts = talk ++
        if after.stream.closed then [.leaving before.stream.localId before.stream.remoteId]
        else [] := by
  obtain ⟨talk, talks, rfl⟩ := conducts.speaks running
  refine ⟨_, talks.said_own, ?_⟩
  rw [Channel.said_append]
  split
  · rw [Channel.said_farewell]
  · rfl

end Endpoint.Conducts

namespace Connection

open Channel (said)

variable {id asked : UInt32}

/-- Asking for a stream sends the request. -/
theorem said_askActs (id : UInt32) (destination : String) :
    said id (askActs id destination) = [.opening id destination] :=
  List.filter_cons_of_pos (beq_self_eq_true id)

theorem said_askActs_other (destination : String) (other : id ≠ asked) :
    said id (askActs asked destination) = [] :=
  List.filter_cons_of_neg (mt eq_of_beq other.symm)

/-- Waiting for the answer says nothing. -/
theorem said_acceptActs (id asked : UInt32) (destination : String) :
    said id (acceptActs asked destination) = said id (askActs asked destination) := by
  rw [acceptActs, Channel.said_append]
  exact List.append_nil _

/-- When the device is asked in vain nothing is said but the request. -/
theorem said_failing (id : UInt32) (destination : String) {rest : List Channel.Act}
    (waited : rest = [] ∨ rest = [.take asked Command.okay]) :
    said id (askActs asked destination ++ (rest ++ [.unlisten asked])) =
      said id (askActs asked destination) := by
  rw [Channel.said_append]
  obtain rfl | rfl := waited <;> exact List.append_nil _

/-- The answer to the request arrives while the stream is opened. -/
theorem Accepts.routes {destination : String} {answer : Frame} {connection : Connection}
    (accepts : connection.Accepts id destination answer) :
    .routes answer .queued ∈ connection.channel.incidents (acceptActs id destination) ∧
      answer.command = Command.okay ∧ answer.arg1 = id := by
  have asked : (connection.channel.afterActs (askActs id destination)).queue =
      (connection.channel.listen id).queue := Channel.queue_send ..
  have taken := accepts.answered
  rw [Channel.take, Outcome.result_mapState] at taken
  obtain waiting | ⟨arrived, addressed, tells⟩ := Queue.origin_of_take taken
  · -- The mailbox of an id that has just been registered is empty.
    rw [asked] at waiting
    have nothing := Switchboard.queueOf_listen id id connection.channel.queue.board Command.okay
    rw [if_pos rfl] at nothing
    have waiting : answer ∈ [] := nothing ▸ waiting
    contradiction
  · rw [acceptActs, Channel.incidents_append]
    exact ⟨List.mem_append_right _ (List.mem_append_left _ arrived), tells, addressed⟩

end Connection

namespace Session

open Channel (said)

/-- There is an open stream with these ids. -/
def Holds (id remoteId : UInt32) (streams : List Stream) : Prop :=
  ∃ stream ∈ streams, stream.localId = id ∧ stream.remoteId = remoteId ∧ stream.closed = false

/-- What is said on a stream that was open: it still is, or it has taken leave. -/
inductive Speaks (id remoteId : UInt32) (streams : List Stream) : List Frame → Prop
  | stays (open_still : Holds id remoteId streams) {talk : List Frame}
    (talks : ∀ frame ∈ talk, frame.IsTalk id remoteId) : Speaks id remoteId streams talk
  | leaves (gone : id ∉ openIds streams) {talk : List Frame}
    (talks : ∀ frame ∈ talk, frame.IsTalk id remoteId) :
    Speaks id remoteId streams (talk ++ [.leaving id remoteId])

variable {session after : Session} {upcoming : List UInt32} {opened : Nat} {deed : Deed}
  {acts : List Channel.Act} {stream? : Option Stream} {id remoteId : UInt32}
  {front back rest : List Stream} {stream : Stream} {last : Endpoint}

/-- An open stream has an open id. -/
theorem Holds.mem_openIds {streams : List Stream} (holds : Holds id remoteId streams) :
    id ∈ openIds streams := by
  obtain ⟨stream, member, local_id, -, running⟩ := holds
  exact Session.mem_openIds.2 ⟨stream, member, local_id, running⟩

/-- A stream stays open when others join it. -/
theorem Holds.append {streams : List Stream} (holds : Holds id remoteId streams)
    (more : List Stream) : Holds id remoteId (streams ++ more) := by
  obtain ⟨stream, member, rest⟩ := holds
  exact ⟨stream, List.mem_append_left _ member, rest⟩

/-- Other streams stay when one of them is exchanged. -/
theorem Holds.exchange (holds : Holds id remoteId (front ++ stream :: back))
    (other : id ≠ stream.localId) (rest : List Stream) :
    Holds id remoteId (front ++ rest ++ back) := by
  obtain ⟨held, member, local_id, same⟩ := holds
  refine ⟨held, ?_, local_id, same⟩
  rw [List.mem_append, List.mem_cons] at member
  rw [List.mem_append, List.mem_append]
  obtain before | rfl | behind := member
  · exact .inl (.inl before)
  · exact absurd local_id.symm other
  · exact .inr behind

/-- The open stream with these ids is the only one with this local id. -/
theorem eq_of_holds (order : session.InOrder upcoming opened)
    (found : session.streams = front ++ stream :: back)
    (holds : Holds stream.localId remoteId session.streams) :
    stream.remoteId = remoteId ∧ stream.closed = false := by
  obtain ⟨not_before, not_behind⟩ := order.not_mem_around found
  obtain ⟨held, member, local_id, remote_id, running⟩ := holds
  rw [found, List.mem_append, List.mem_cons] at member
  obtain before | rfl | behind := member
  · exact absurd (mem_openIds.2 ⟨held, before, local_id, running⟩) not_before
  · exact ⟨remote_id, running⟩
  · exact absurd (mem_openIds.2 ⟨held, behind, local_id, running⟩) not_behind

/-- What the use of a stream says under the id of an open one. -/
theorem speaks_of_conducts (order : session.InOrder upcoming opened)
    (found : session.streams = front ++ stream :: back)
    (conducts : Endpoint.Conducts ⟨stream, session.connection.channel⟩ acts last)
    (kept : rest = [last.stream] ∨ rest = [] ∧ last.stream.closed = true)
    (holds : Holds id remoteId session.streams) :
    Speaks id remoteId (front ++ rest ++ back) (said id acts) := by
  by_cases own : id = stream.localId
  · subst own
    obtain ⟨rfl, running⟩ := eq_of_holds order found holds
    obtain ⟨talk, talks, same⟩ := conducts.said_own running
    have local_id : last.stream.localId = stream.localId := conducts.local_id
    rw [same]
    cases closed : last.stream.closed with
    | true =>
      refine .leaves ?_ talks
      rw [openIds_exchanged conducts kept, closed, if_pos rfl, List.append_nil, List.mem_append,
        not_or]
      exact order.not_mem_around found
    | false =>
      rw [if_neg Bool.false_ne_true, List.append_nil]
      obtain rfl | ⟨-, closed_too⟩ := kept
      · refine .stays ⟨last.stream, ?_, local_id, conducts.remote_id, closed⟩ talks
        exact List.mem_append_left _ (List.mem_append_right _ List.mem_cons_self)
      · rw [closed] at closed_too
        contradiction
  · rw [conducts.said_other (order.isTidy found) own]
    rw [found] at holds
    exact .stays (holds.exchange own rest) (List.forall_mem_nil _)

/-- The use of a stream says nothing under an id without an open stream. -/
theorem hushed_of_conducts (order : session.InOrder upcoming opened)
    (found : session.streams = front ++ stream :: back)
    (conducts : Endpoint.Conducts ⟨stream, session.connection.channel⟩ acts last)
    (kept : rest = [last.stream] ∨ rest = [] ∧ last.stream.closed = true)
    (gone : id ∉ openIds session.streams) :
    said id acts = [] ∧ id ∉ openIds (front ++ rest ++ back) := by
  have tidy := order.isTidy found
  rw [found, openIds_around, List.mem_append, List.mem_append, not_or, not_or] at gone
  obtain ⟨⟨not_before, not_there⟩, not_behind⟩ := gone
  rw [openIds_exchanged conducts kept, List.mem_append, List.mem_append, not_or, not_or]
  by_cases own : id = stream.localId
  · subst own
    have closed : stream.closed = true := by
      by_contra running
      rw [if_neg running] at not_there
      exact not_there List.mem_cons_self
    obtain ⟨rfl, still_closed⟩ := conducts.silent tidy closed
    rw [still_closed, if_pos rfl]
    exact ⟨rfl, ⟨not_before, List.not_mem_nil⟩, not_behind⟩
  · refine ⟨conducts.said_other tidy own, ⟨not_before, ?_⟩, not_behind⟩
    split
    · exact List.not_mem_nil
    · exact mt List.mem_singleton.1 own

/-- No stream is opened under the id of one that is open. -/
theorem ne_of_opening (order : session.InOrder (deed.id?.toList ++ upcoming) opened)
    {asked : UInt32} {destination : String} (opening : deed.opening? = some (asked, destination))
    (holds : Holds id remoteId session.streams) : id ≠ asked := by
  rintro rfl
  exact order.not_mem_of_id? (Deed.id?_of_opening opening) holds.mem_openIds

/-- Under the id of an open stream nothing but talk is said, and the farewell when it closes. -/
theorem Goes.speaks (goes : session.Goes deed acts stream? after)
    (order : session.InOrder (deed.id?.toList ++ upcoming) opened)
    (holds : Holds id remoteId session.streams) :
    Speaks id remoteId after.streams (said id acts) := by
  cases goes with
  | idle quiet => exact .stays holds (List.forall_mem_nil _)
  | fails opening asked running waited =>
    rw [Connection.said_failing id _ waited,
      Connection.said_askActs_other _ (ne_of_opening order opening holds)]
    exact .stays holds (List.forall_mem_nil _)
  | opens opening asked accepts =>
    rw [Connection.said_acceptActs,
      Connection.said_askActs_other _ (ne_of_opening order opening holds)]
    exact .stays (holds.append _) (List.forall_mem_nil _)
  | runs opening asked accepts conducts closed =>
    have other := ne_of_opening order opening holds
    rw [Channel.said_append, Connection.said_acceptActs, Connection.said_askActs_other _ other,
      conducts.said_other (Connection.isTidy_accepted _ _) other]
    exact .stays holds (List.forall_mem_nil _)
  | uses found conducts =>
    have spoken := speaks_of_conducts order found conducts (.inl rfl) holds
    rwa [List.append_assoc] at spoken
  | drops found conducts closed =>
    have spoken := speaks_of_conducts order found conducts (.inr ⟨rfl, closed⟩) holds
    rwa [List.append_nil] at spoken

/-- Nothing is said under an id without an open stream, unless one is opened with it. -/
theorem Goes.hushed (goes : session.Goes deed acts stream? after)
    (order : session.InOrder (deed.id?.toList ++ upcoming) opened)
    (gone : id ∉ openIds session.streams) (not_asked : deed.id? ≠ some id) :
    said id acts = [] ∧ id ∉ openIds after.streams := by
  have other {asked : UInt32} {destination : String}
      (opening : deed.opening? = some (asked, destination)) : id ≠ asked := by
    rintro rfl
    exact not_asked (Deed.id?_of_opening opening)
  cases goes with
  | idle quiet => exact ⟨rfl, gone⟩
  | fails opening asked running waited =>
    rw [Connection.said_failing id _ waited, Connection.said_askActs_other _ (other opening)]
    exact ⟨rfl, gone⟩
  | opens opening asked accepts =>
    rw [Connection.said_acceptActs, Connection.said_askActs_other _ (other opening), openIds_append,
      List.mem_append, not_or]
    exact ⟨rfl, gone, mt List.mem_singleton.1 (other opening)⟩
  | runs opening asked accepts conducts closed =>
    rw [Channel.said_append, Connection.said_acceptActs,
      Connection.said_askActs_other _ (other opening),
      conducts.said_other (Connection.isTidy_accepted _ _) (other opening)]
    exact ⟨rfl, gone⟩
  | uses found conducts =>
    have hushed := hushed_of_conducts order found conducts (.inl rfl) gone
    rwa [List.append_assoc] at hushed
  | drops found conducts closed =>
    have hushed := hushed_of_conducts order found conducts (.inr ⟨rfl, closed⟩) gone
    rwa [List.append_nil] at hushed

/-- A stream that has been accepted is open, under the id that the device has given. -/
theorem holds_accepted (id : UInt32) (answer : Frame) (session : Session) :
    Holds id (session.connection.accepted id answer).remoteId
      (session.streams ++ [session.connection.accepted id answer]) :=
  ⟨_, List.mem_append_right _ List.mem_cons_self, rfl, rfl, rfl⟩

/-- A stream that is asked for in vain is asked for at most once. -/
theorem Goes.speaks_of_refused (goes : session.Goes deed acts none after)
    (order : session.InOrder (deed.id?.toList ++ upcoming) opened) {destination : String}
    (opening : deed.opening? = some (id, destination)) :
    said id acts = (if session.asks deed then [.opening id destination] else []) ∧
      id ∉ openIds after.streams := by
  have fresh : id ∉ openIds session.streams :=
    order.not_mem_of_id? (Deed.id?_of_opening opening)
  cases goes with
  | idle quiet =>
    rw [quiet]
    exact ⟨rfl, fresh⟩
  | fails also_opening asked running waited =>
    rw [opening, Option.some.injEq, Prod.mk.injEq] at also_opening
    obtain ⟨rfl, rfl⟩ := also_opening
    rw [Connection.said_failing id _ waited, Connection.said_askActs, asked]
    exact ⟨rfl, fresh⟩
  | uses => contradiction
  | drops => contradiction

/-- A stream that is accepted is asked for once, and then it speaks. -/
theorem Goes.speaks_of_opened (goes : session.Goes deed acts (some stream) after)
    (order : session.InOrder (deed.id?.toList ++ upcoming) opened) {destination : String}
    (opening : deed.opening? = some (id, destination)) :
    ∃ more, said id acts = .opening id destination :: more ∧
      Speaks id stream.remoteId after.streams more := by
  cases goes with
  | opens also_opening asked accepts =>
    rw [opening, Option.some.injEq, Prod.mk.injEq] at also_opening
    obtain ⟨rfl, rfl⟩ := also_opening
    rw [Connection.said_acceptActs, Connection.said_askActs]
    exact ⟨[], rfl, .stays (session.holds_accepted ..) (List.forall_mem_nil _)⟩
  | @runs _ _ _ answer _ _ also_opening asked accepts conducts closed =>
    rw [opening, Option.some.injEq, Prod.mk.injEq] at also_opening
    obtain ⟨rfl, rfl⟩ := also_opening
    -- The stream is in use for a moment, behind all others.
    rw [Deed.id?_of_opening opening] at order
    have spoken := speaks_of_conducts (order.accepts destination answer) rfl conducts
      (.inr ⟨rfl, closed⟩) (session.holds_accepted id answer)
    rw [List.append_nil, List.append_nil] at spoken
    refine ⟨_, ?_, spoken⟩
    rw [Channel.said_append, Connection.said_acceptActs, Connection.said_askActs]
    rfl

/-- The id that a stream gives is told by the answer to its request. -/
theorem Goes.routes (goes : session.Goes deed acts (some stream) after) {destination : String}
    (opening : deed.opening? = some (id, destination)) :
    ∃ answer, .routes answer .queued ∈ session.connection.channel.incidents acts ∧
      answer.command = Command.okay ∧ answer.arg1 = id ∧ answer.arg0 = stream.remoteId := by
  cases goes with
  | @opens _ _ _ answer also_opening asked accepts =>
    rw [opening, Option.some.injEq, Prod.mk.injEq] at also_opening
    obtain ⟨rfl, rfl⟩ := also_opening
    obtain ⟨arrived, tells, addressed⟩ := accepts.routes
    exact ⟨answer, arrived, tells, addressed, rfl⟩
  | @runs _ _ _ answer _ _ also_opening asked accepts conducts closed =>
    rw [opening, Option.some.injEq, Prod.mk.injEq] at also_opening
    obtain ⟨rfl, rfl⟩ := also_opening
    obtain ⟨arrived, tells, addressed⟩ := accepts.routes
    rw [Channel.incidents_append]
    exact ⟨answer, List.mem_append_left _ arrived, tells, addressed, rfl⟩

/-- What happens in a deed. -/
def incidents (deed : Deed) (session : Session) : List Incident :=
  match deed with
  | .close => if session.connection.closed then [] else [.ends]
  | .openStream _ _ | .openWith _ _ _ | .shell _ _ | .use _ _ =>
    session.connection.channel.incidents (session.acts deed)

/-- What happened in a deed that was done. -/
def Entry.incidents (entry : Entry) : List Incident :=
  entry.before.incidents entry.deed

/-- What happens in deeds, one after the other. -/
def history (deeds : List Deed) (session : Session) : List Incident :=
  (session.log deeds).flatMap Entry.incidents

theorem history_cons (deed : Deed) (deeds : List Deed) (session : Session) :
    session.history (deed :: deeds) =
      session.incidents deed ++ (session.entry deed).after.history deeds := rfl

/-- What happens in any deed but closing are the incidents of its acts. -/
theorem incidents_of_ne_close (other : deed ≠ .close) :
    session.incidents deed = session.connection.channel.incidents (session.acts deed) := by
  cases deed with
  | close => contradiction
  | openStream | openWith | shell | use => rfl

/-- Closing the connection says nothing under any id. -/
theorem said_close (id : UInt32) (session : Session) :
    Incident.said id (session.incidents .close) = [] := by
  rw [incidents]
  split <;> rfl

/-- Closing the connection leaves the streams in use. -/
theorem streams_entry_close (session : Session) :
    (session.entry .close).after.streams = session.streams := by
  rw [entry, session.perform_close.2]

section Deeds

variable {deeds : List Deed}

/-- In one deed a stream that is open talks, and stays open or takes leave. -/
theorem speaks_entry (order : session.InOrder (deed.id?.toList ++ upcoming) opened)
    (holds : Holds id remoteId session.streams) :
    Speaks id remoteId (session.entry deed).after.streams
      (Incident.said id (session.incidents deed)) := by
  by_cases close : deed = .close
  · subst close
    rw [said_close, streams_entry_close]
    exact .stays holds (List.forall_mem_nil _)
  · rw [incidents_of_ne_close close, Channel.said_incidents]
    exact (session.goes_perform close).speaks order holds

/-- In one deed nothing is said under an id that is not open, unless it is asked for. -/
theorem hushed_entry (order : session.InOrder (deed.id?.toList ++ upcoming) opened)
    (gone : id ∉ openIds session.streams) (not_asked : deed.id? ≠ some id) :
    Incident.said id (session.incidents deed) = [] ∧
      id ∉ openIds (session.entry deed).after.streams := by
  by_cases close : deed = .close
  · subst close
    rw [streams_entry_close]
    exact ⟨session.said_close id, gone⟩
  · rw [incidents_of_ne_close close, Channel.said_incidents]
    exact (session.goes_perform close).hushed order gone not_asked

/-- Nothing is ever said under an id without a stream. -/
theorem hushed_history (order : session.InOrder (idsOf deeds) opened)
    (gone : id ∉ openIds session.streams) (never : id ∉ idsOf deeds) :
    Incident.said id (session.history deeds) = [] ∧
      id ∉ openIds (session.afterDeeds deeds).streams := by
  induction deeds generalizing session opened with
  | nil => exact ⟨rfl, gone⟩
  | cons deed deeds ih =>
    rw [idsOf_cons, List.mem_append, not_or, Option.mem_toList] at never
    rw [idsOf_cons] at order
    obtain ⟨nothing, still_gone⟩ := hushed_entry order gone never.1
    obtain ⟨nothing_more, gone_at_last⟩ := ih order.entry still_gone never.2
    rw [history_cons, Incident.said_append, nothing, nothing_more]
    exact ⟨rfl, gone_at_last⟩

/-- What is said on an open stream is talk, with a farewell behind it exactly if the stream is not
open any more. -/
theorem Speaks.exists_talk {streams : List Stream} {said : List Frame}
    (speaks : Speaks id remoteId streams said) :
    ∃ talk, (∀ frame ∈ talk, frame.IsTalk id remoteId) ∧
      said = talk ++ if id ∈ openIds streams then [] else [.leaving id remoteId] := by
  cases speaks with
  | stays holds talks =>
    rw [if_pos holds.mem_openIds]
    exact ⟨said, talks, (List.append_nil said).symm⟩
  | leaves gone talks =>
    rw [if_neg gone]
    exact ⟨_, talks, rfl⟩

/-- Talk may come before all that is said on a stream. -/
theorem Speaks.behind {streams : List Stream} {talk more : List Frame}
    (talks : ∀ frame ∈ talk, frame.IsTalk id remoteId) (speaks : Speaks id remoteId streams more) :
    Speaks id remoteId streams (talk ++ more) := by
  cases speaks with
  | stays still_open talks_on =>
    exact .stays still_open (List.forall_mem_append.2 ⟨talks, talks_on⟩)
  | leaves gone talks_on =>
    rw [← List.append_assoc]
    exact .leaves gone (List.forall_mem_append.2 ⟨talks, talks_on⟩)

/-- A stream speaks on to the end of the session. -/
theorem Speaks.history {said : List Frame} (order : session.InOrder (idsOf deeds) opened)
    (never : id ∉ idsOf deeds) (speaks : Speaks id remoteId session.streams said) :
    Speaks id remoteId (session.afterDeeds deeds).streams
      (said ++ Incident.said id (session.history deeds)) := by
  induction deeds generalizing session opened said with
  | nil =>
    rw [Session.history, log, List.flatMap_nil]
    exact (List.append_nil said).symm ▸ speaks
  | cons deed deeds ih =>
    rw [idsOf_cons, List.mem_append, not_or, Option.mem_toList] at never
    rw [idsOf_cons] at order
    have first : Speaks id remoteId (session.entry deed).after.streams
        (said ++ Incident.said id (session.incidents deed)) := by
      cases speaks with
      | stays still_open talks => exact (speaks_entry order still_open).behind talks
      | leaves gone talks =>
        obtain ⟨nothing, still_gone⟩ := hushed_entry order gone never.1
        rw [nothing, List.append_nil]
        exact .leaves still_gone talks
    rw [history_cons, Incident.said_append, ← List.append_assoc]
    exact ih order.entry never.2 first

/-- What is said, told from the deed that asks for the stream. -/
inductive Converses (entry : Entry) (id : UInt32) (destination : String) (streams : List Stream) :
    List Frame → Prop
  | refused (failed : entry.opened? = none) :
    Converses entry id destination streams
      (if entry.before.asks entry.deed then [.opening id destination] else [])
  | accepted {stream : Stream} (accepted : entry.opened? = some stream) {more : List Frame}
    (speaks : Speaks id stream.remoteId streams more) :
    Converses entry id destination streams (.opening id destination :: more)

/-- The id that a deed on record opens is among those of the deeds. -/
theorem mem_idsOf {entry : Entry} (member : entry ∈ session.log deeds)
    (opening : entry.deed.id? = some id) : id ∈ idsOf deeds := by
  have deed : entry.deed ∈ (session.log deeds).map Entry.deed := List.mem_map_of_mem member
  rw [map_deed_log] at deed
  exact List.mem_filterMap.2 ⟨entry.deed, deed, opening⟩

/-- The deed that asks for a stream begins all that is said under its id. -/
theorem converses_history (order : session.InOrder (idsOf deeds) opened) {entry : Entry}
    (member : entry ∈ session.log deeds) {destination : String}
    (opening : entry.deed.opening? = some (id, destination)) :
    Converses entry id destination (session.afterDeeds deeds).streams
      (Incident.said id (session.history deeds)) := by
  have asks : entry.deed.id? = some id := Deed.id?_of_opening opening
  induction deeds generalizing session opened with
  | nil => contradiction
  | cons deed deeds ih =>
    have distinct := (List.nodup_append.1 order.distinct).2.1
    rw [idsOf_cons] at order distinct
    rw [history_cons, Incident.said_append]
    rw [log, List.mem_cons] at member
    obtain rfl | later := member
    · have asks : deed.id? = some id := asks
      have opening : deed.opening? = some (id, destination) := opening
      have other : deed ≠ .close := by
        rintro rfl
        contradiction
      have goes := session.goes_perform other
      rw [asks] at distinct
      have never : id ∉ idsOf deeds := (List.nodup_cons.1 distinct).1
      rw [incidents_of_ne_close other, Channel.said_incidents]
      cases accepted : session.opened? deed with
      | none =>
        rw [accepted] at goes
        obtain ⟨asked, gone⟩ := goes.speaks_of_refused order opening
        rw [asked, (hushed_history order.entry gone never).1, List.append_nil]
        exact .refused accepted
      | some stream =>
        rw [accepted] at goes
        obtain ⟨more, asked, speaks⟩ := goes.speaks_of_opened order opening
        rw [asked, List.cons_append]
        have accepted : (session.entry deed).opened? = some stream := accepted
        exact .accepted accepted (speaks.history order.entry never)
    · have still_to_come := mem_idsOf later asks
      have fresh : id ∉ openIds session.streams := by
        intro there
        have listed := (openIds_sublist _).subset there
        exact (List.nodup_append.1 order.distinct).2.2 id listed id
          (List.mem_append_right _ still_to_come) rfl
      have not_asked : deed.id? ≠ some id := by
        intro asked
        rw [asked] at distinct
        exact (List.nodup_cons.1 distinct).1 still_to_come
      rw [(hushed_entry order fresh not_asked).1]
      exact ih order.entry later

end Deeds

/-- How a deed goes on from a board on which at most its own id has been registered. -/
structure Unfolds (session : Session) (deed : Deed) (after : Session) (board : Switchboard) :
    Prop where
  begun : board = session.connection.channel.queue.board ∨
    ∃ id, deed.id? = some id ∧ session.connection.isClosed = false ∧
      board = session.connection.channel.queue.board.listen id
  tells : board.Tells (session.incidents deed) after.connection.channel.queue.board
  live : ∀ incident ∈ session.incidents deed, ∀ id, incident.Writes id → board.isLive id = true
  pairwise : ∀ id, (session.incidents deed).Pairwise fun earlier later =>
    earlier.CutsOff id → ¬later.Writes id

/-- The acts of a deed heed, once its id has been registered. -/
theorem Goes.heeds (goes : session.Goes deed acts stream? after)
    (order : session.InOrder upcoming opened) :
    session.connection.channel.Heeds acts ∨
      ∃ id rest, deed.id? = some id ∧ session.connection.isClosed = false ∧
        acts = .listen id :: rest ∧ (session.connection.channel.listen id).Heeds rest := by
  have minds (channel : Channel) (id : UInt32) (payload : Bytes) :
      channel.Minds (.send Command.openStream id 0 payload) :=
    fun write => absurd write (by decide)
  cases goes with
  | idle quiet => exact .inl trivial
  | fails opening asked running waited =>
    refine .inr ⟨_, _, Deed.id?_of_opening opening, running, rfl, minds _ _ _, ?_⟩
    obtain rfl | rfl := waited
    · exact ⟨trivial, trivial⟩
    · exact ⟨trivial, trivial, trivial⟩
  | opens opening asked accepts =>
    exact .inr ⟨_, _, Deed.id?_of_opening opening, accepts.running, rfl, minds _ _ _, trivial,
      trivial, trivial⟩
  | runs opening asked accepts conducts closed =>
    exact .inr ⟨_, _, Deed.id?_of_opening opening, accepts.running, rfl, minds _ _ _, trivial,
      trivial, conducts.heeds (Connection.isTidy_accepted _ _)⟩
  | uses found conducts | drops found conducts closed =>
    exact .inl (conducts.heeds (order.isTidy found))

/-- A deed that heeds its board goes on from it as `Unfolds` says. -/
theorem unfolds_of_heeds {rest : List Channel.Act} {channel : Channel}
    (begun : channel.queue.board = session.connection.channel.queue.board ∨
      ∃ id, deed.id? = some id ∧ session.connection.isClosed = false ∧
        channel.queue.board = session.connection.channel.queue.board.listen id)
    (heeds : channel.Heeds rest) (happened : session.incidents deed = channel.incidents rest)
    (reached : after.connection.channel = channel.afterActs rest) :
    session.Unfolds deed after channel.queue.board where
  begun := begun
  tells := by
    rw [happened, reached]
    exact heeds.tells
  live := by
    rw [happened]
    exact fun _ member _ => heeds.live_of_writes member
  pairwise := by
    rw [happened]
    exact heeds.pairwise

/-- Ending the connection is told by one incident. -/
theorem tells_disconnect (board : Switchboard) : board.Tells [.ends] board.disconnect :=
  board.tells_readFailed .connectionClosed

/-- Closing the connection cuts everyone off. -/
theorem unfolds_close (session : Session) :
    session.Unfolds .close (session.entry .close).after session.connection.channel.queue.board := by
  rw [entry, session.perform_close.2, Connection.close]
  split
  · next closed =>
    have nothing : session.incidents .close = [] := if_pos closed
    have heeds : session.connection.channel.Heeds [] := trivial
    exact unfolds_of_heeds (.inl rfl) heeds nothing rfl
  · next running =>
    have happened : session.incidents .close = [.ends] := if_neg running
    refine ⟨.inl rfl, ?_, ?_, ?_⟩
    · rw [happened]
      simp only [Outcome.state_ofResult, Channel.queue_send]
      exact tells_disconnect _
    · rw [happened]
      exact List.forall_mem_singleton.2 fun _ writes => writes.elim
    · rw [happened]
      exact fun _ => List.pairwise_singleton ..

/-- Every deed goes on from some board on which at most its own id has been registered. -/
theorem exists_unfolds (order : session.InOrder upcoming opened) (deed : Deed) :
    ∃ board, session.Unfolds deed (session.entry deed).after board := by
  by_cases close : deed = .close
  · subst close
    exact ⟨_, session.unfolds_close⟩
  · have goes := session.goes_perform close
    have happened : session.incidents deed = _ := incidents_of_ne_close close
    have reached := congrArg Connection.channel goes.connection
    obtain heeds | ⟨id, rest, asked, running, same, heeds⟩ := goes.heeds order
    · exact ⟨_, unfolds_of_heeds (.inl rfl) heeds happened reached⟩
    · rw [same] at happened reached
      exact ⟨_, unfolds_of_heeds (.inr ⟨id, asked, running, rfl⟩) heeds happened reached⟩

namespace Unfolds

variable {board : Switchboard}

/-- Whoever is live once the id of the deed has been registered was so before, or has that id. -/
theorem live_before (unfolds : session.Unfolds deed after board) (live : board.isLive id = true) :
    session.connection.channel.isLive id = true ∨
      deed.id? = some id ∧ session.connection.channel.queue.board.disconnected = false := by
  obtain rfl | ⟨asked, asks, running, rfl⟩ := unfolds.begun
  · exact .inl live
  · rw [Switchboard.isLive_listen, Bool.or_eq_true, decide_eq_true_eq] at live
    obtain rfl | live := live
    · exact .inr ⟨asks, (Bool.or_eq_false_iff.1 running).2⟩
    · exact .inl live

/-- Who is registered on the board of a deed was so before it, or is registered by it. -/
theorem listening_before (unfolds : session.Unfolds deed after board)
    (registered : board.isListening id = true) :
    session.connection.channel.queue.board.isListening id = true ∨ deed.id? = some id := by
  obtain rfl | ⟨asked, asks, running, rfl⟩ := unfolds.begun
  · exact .inl registered
  · rw [Switchboard.isListening_listen, Bool.or_eq_true, decide_eq_true_eq] at registered
    obtain rfl | registered := registered
    · exact .inr asks
    · exact .inl registered

/-- If the connection stands after a deed it stood before. -/
theorem disconnected_before (unfolds : session.Unfolds deed after board)
    (running : after.connection.channel.queue.board.disconnected = false) :
    session.connection.channel.queue.board.disconnected = false := by
  have before : board.disconnected = session.connection.channel.queue.board.disconnected := by
    obtain rfl | ⟨asked, asks, -, rfl⟩ := unfolds.begun <;> rfl
  rw [← before, ← Bool.not_eq_true]
  intro ended
  rw [unfolds.tells.ended (.inl ended)] at running
  contradiction

end Unfolds

/-- Data is written for streams that are live, or that are still to be opened. -/
theorem live_of_writes {deeds : List Deed} (order : session.InOrder (idsOf deeds) opened)
    {incident : Incident} (happened : incident ∈ session.history deeds)
    (writes : incident.Writes id) :
    session.connection.channel.isLive id = true ∨
      id ∈ idsOf deeds ∧ session.connection.channel.queue.board.disconnected = false := by
  induction deeds generalizing session opened with
  | nil => contradiction
  | cons deed deeds ih =>
    rw [idsOf_cons] at order ⊢
    obtain ⟨board, unfolds⟩ := exists_unfolds order deed
    have live_before (live : board.isLive id = true) :=
      (unfolds.live_before live).imp_right (And.imp_left fun asked =>
        List.mem_append_left (idsOf deeds) (Option.mem_toList.2 asked))
    rw [history_cons, List.mem_append] at happened
    obtain now | later := happened
    · exact live_before (unfolds.live incident now id writes)
    · obtain live | ⟨still_to_come, running⟩ := ih order.entry later
      · exact live_before (unfolds.tells.live id live).1
      · exact .inr ⟨List.mem_append_right _ still_to_come, unfolds.disconnected_before running⟩

/-- Nothing is written for a stream once it is cut off. -/
theorem pairwise_history {deeds : List Deed} (order : session.InOrder (idsOf deeds) opened)
    (id : UInt32) :
    (session.history deeds).Pairwise fun earlier later =>
      earlier.CutsOff id → ¬later.Writes id := by
  induction deeds generalizing session opened with
  | nil => exact .nil
  | cons deed deeds ih =>
    have distinct := (List.nodup_append.1 order.distinct).2.1
    rw [idsOf_cons] at order distinct
    obtain ⟨board, unfolds⟩ := exists_unfolds order deed
    rw [history_cons, List.pairwise_append]
    refine ⟨unfolds.pairwise id, ih order.entry, ?_⟩
    intro earlier before later after cut writes
    obtain live | ⟨still_to_come, running⟩ := live_of_writes order.entry after writes
    · exact (unfolds.tells.live id live).2 earlier before cut
    · cases earlier with
      | hands frame => exact cut.elim
      | ends =>
        rw [unfolds.tells.ended (.inr before)] at running
        contradiction
      | routes frame landing =>
        obtain ⟨rfl, rfl⟩ := cut
        obtain registered | asked := unfolds.listening_before (unfolds.tells.absorbed frame before)
        · exact order.fresh (List.mem_append_right _ still_to_come)
            (Switchboard.isListening_iff.1 registered)
        · rw [asked] at distinct
          exact (List.nodup_cons.1 distinct).1 still_to_come

end Session

/-- **Every stream speaks well.** A connection is established over a transport that was not used
before. Then streams are opened under ids of their own, used, closed and dropped, commands are run
and the connection is closed, in any order, and any of it may fail. Under the id of a stream that is
not accepted its request is handed to the transmitter and nothing else, and not even that if the
connection has already ended or lacks the feature. Under the id of a stream that is accepted there
is its request, then acknowledgements and data with the id that the device's answer has told, and,
unless the stream is in use and not closed, one farewell behind them. Nothing is written for a
stream once it is cut off, by a frame that closes its mailbox or by the end of the connection. -/
theorem Connection.streams_speak_well {keyPair : Option KeyPair} {source : Source} {sink : Sink}
    {teardown : Teardown} {connection : Connection}
    (established : establish keyPair
      { receiver := { source }, transmitter := { out := { sink } }, teardown } = .ok connection)
    {deeds : List Deed} (distinct : (Session.idsOf deeds).Nodup) :
    let start : Session := { connection }
    let log := start.log deeds
    let last := start.afterDeeds deeds
    let history := log.flatMap Session.Entry.incidents
    (∀ id ∉ Session.idsOf deeds, Incident.said id history = []) ∧
    (∀ entry ∈ log, ∀ id destination, entry.deed.opening? = some (id, destination) →
      match entry.opened? with
      | none => Incident.said id history =
          if entry.before.asks entry.deed then [.opening id destination] else []
      | some stream =>
        (∃ answer, .routes answer .queued ∈ entry.incidents ∧
          answer.command = Command.okay ∧ answer.arg1 = id ∧ answer.arg0 = stream.remoteId) ∧
        ∃ talk, (∀ frame ∈ talk, frame.IsTalk id stream.remoteId) ∧
          Incident.said id history = .opening id destination :: (talk ++
            if id ∈ Session.openIds last.streams then [] else [.leaving id stream.remoteId])) ∧
    (∀ id, history.Pairwise fun earlier later => earlier.CutsOff id → ¬later.Writes id) ∧
    ∀ entry ∈ log, entry.deed ≠ .close →
      entry.after.connection.channel.transmitter =
        (Incident.handed entry.incidents).foldl
          (fun transmitter frame => (transmitter.send frame.command frame.arg0 frame.arg1
            frame.payload).state) entry.before.connection.channel.transmitter := by
  intro start log last history
  have order : start.InOrder (Session.idsOf deeds) 0 := inOrder_of_establish established distinct
  refine ⟨?_, ?_, Session.pairwise_history order, ?_⟩
  · intro id never
    exact (Session.hushed_history order List.not_mem_nil never).1
  · intro entry member id destination opening
    have converses : Session.Converses entry id destination last.streams
        (Incident.said id history) := Session.converses_history order member opening
    generalize Incident.said id history = said at converses ⊢
    cases converses with
    | refused failed => rw [failed]
    | @accepted stream accepted more speaks =>
      rw [accepted]
      have other : entry.deed ≠ .close := by
        intro close
        rw [close] at opening
        contradiction
      have goes := entry.before.goes_perform other
      have opens : entry.before.opened? entry.deed = some stream := accepted
      rw [opens] at goes
      have routes := goes.routes opening
      rw [← Session.incidents_of_ne_close other] at routes
      obtain ⟨talk, talks, rfl⟩ := speaks.exists_talk
      exact ⟨routes, talk, talks, rfl⟩
  · intro entry member other
    obtain ⟨same, -⟩ := order.of_mem_log member
    have reached := (entry.before.goes_perform other).connection
    have handed : Incident.handed entry.incidents = _ :=
      congrArg Incident.handed (Session.incidents_of_ne_close other)
    rw [handed, Channel.handed_incidents, ← Channel.transmitter_afterActs, same]
    exact congrArg (·.channel.transmitter) reached

/-- A device that accepts the stream `1`, sends a payload on it, closes it and is gone. -/
def Source.hangingUp : Source :=
  [.bytes ([
    Frame.make Command.connect 0x01000000 4096 (Utf8.encode "device::features=cmd"),
    .make Command.okay 9 1 [], .make Command.write 9 1 (Utf8.encode "hi"),
    .make Command.close 9 1 []].flatMap Frame.encode) 4096]

/-- A stream is used until the device closes it, and two more are asked for. -/
def Session.oneTalk : List Deed :=
  [.openStream 1 "echo:", .use 0 (.write (Utf8.encode "yo")), .use 0 .flush, .use 0 (.read 8),
    .use 0 (.read 8), .openStream 2 "echo:", .openStream 3 "echo:"]

/-- The stream sends and acknowledges once, and takes leave when its end is read. -/
theorem Connection.streams_speak_well_hanging_up :
    ∃ connection, establish none { receiver := { source := .hangingUp } } = .ok connection ∧
      (Session.idsOf Session.oneTalk).Nodup ∧
      let history := (Session.log Session.oneTalk { connection }).flatMap Session.Entry.incidents
      Incident.said 1 history = [.opening 1 "echo:", .make Command.write 1 9 (Utf8.encode "yo"),
        .make Command.okay 1 9 [], .leaving 1 9] ∧
      ∃ talk, (∀ frame ∈ talk, frame.IsTalk 1 9) ∧
        Incident.said 1 history = .opening 1 "echo:" :: (talk ++ [.leaving 1 9]) := by
  have runs : (establish none { receiver := { source := .hangingUp } }).toOption.map
      (fun connection =>
        let start : Session := { connection }
        ((start.entry (.openStream 1 "echo:")).opened?.map (·.remoteId),
          Incident.said 1 ((start.log Session.oneTalk).flatMap Session.Entry.incidents),
          Session.openIds (start.afterDeeds Session.oneTalk).streams)) =
      some (some 9, [.opening 1 "echo:", .make Command.write 1 9 (Utf8.encode "yo"),
        .make Command.okay 1 9 [], .leaving 1 9], []) := by
    decide +kernel
  obtain ⟨connection, established, figures⟩ := exists_of_map_establish runs
  obtain ⟨accepted, rest⟩ := Prod.mk.inj figures
  obtain ⟨said, none_open⟩ := Prod.mk.inj rest
  have distinct : (Session.idsOf Session.oneTalk).Nodup := by decide
  refine ⟨connection, established, distinct, said, ?_⟩
  obtain ⟨-, speaks, -⟩ := streams_speak_well established distinct
  obtain ⟨stream, opened, remote_id⟩ := Option.map_eq_some_iff.1 accepted
  have first := speaks _ List.mem_cons_self 1 "echo:" rfl
  rw [opened] at first
  obtain ⟨-, talk, talks, conversation⟩ := first
  rw [none_open, if_neg List.not_mem_nil] at conversation
  rw [remote_id] at talks conversation
  exact ⟨talk, talks, conversation⟩

/-- A failed open need not have asked the device: on a connection that has already ended nothing is
handed to the transmitter. -/
theorem Connection.not_every_failed_open_asks :
    ∃ connection, establish none { receiver := { source := .hangingUp } } = .ok connection ∧
      (Session.idsOf Session.oneTalk).Nodup ∧
      ¬∀ entry ∈ Session.log Session.oneTalk { connection }, ∀ id destination,
        entry.deed.opening? = some (id, destination) → entry.opened? = none →
          Incident.said id
            ((Session.log Session.oneTalk { connection }).flatMap Session.Entry.incidents) =
              [.opening id destination] := by
  have runs : (establish none { receiver := { source := .hangingUp } }).toOption.map
      (fun connection =>
        let log := Session.log Session.oneTalk { connection }
        (log.any fun entry => entry.deed = .openStream 3 "echo:" && entry.opened?.isNone,
          Incident.said 3 (log.flatMap Session.Entry.incidents))) = some (true, []) := by
    decide +kernel
  obtain ⟨connection, established, figures⟩ := exists_of_map_establish runs
  obtain ⟨refused, nothing⟩ := Prod.mk.inj figures
  obtain ⟨entry, member, fails⟩ := List.any_eq_true.1 refused
  rw [Bool.and_eq_true, decide_eq_true_eq, Option.isNone_iff_eq_none] at fails
  refine ⟨connection, established, by decide, fun asks => ?_⟩
  have opening : entry.deed.opening? = some (3, "echo:") := by
    rw [fails.1]
    rfl
  have asked := asks entry member 3 "echo:" opening fails.2
  rw [nothing] at asked
  contradiction

end DebugBridge

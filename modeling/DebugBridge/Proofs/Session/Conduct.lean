import DebugBridge.Proofs.Session.Acts

/-!
# How streams conduct themselves

For every operation on a stream the acts to which it comes are listed, in order and whatever fails
of them. A stream that is not closed talks: it takes frames of its own, acknowledges them and sends
data while it is live. When an operation closes it, a farewell comes last. A closed stream does
nothing.
-/

namespace DebugBridge

/-- What is listed for the value and the state of a success. -/
def Outcome.listed {State Value Item : Type} (list : Value → State → List Item) :
    Outcome State Value → List Item
  | .ok value state => list value state
  | .error _ _ => []

namespace Channel

/-- The channel after acts. -/
def afterActs (acts : List Act) (channel : Channel) : Channel :=
  acts.foldl afterAct channel

@[simp] theorem afterActs_nil (channel : Channel) : channel.afterActs [] = channel := rfl

@[simp] theorem afterActs_cons (act : Act) (acts : List Act) (channel : Channel) :
    channel.afterActs (act :: acts) = (channel.afterAct act).afterActs acts := rfl

@[simp] theorem afterActs_append (acts more : List Act) (channel : Channel) :
    channel.afterActs (acts ++ more) = (channel.afterActs acts).afterActs more :=
  List.foldl_append ..

/-- What a stream with these ids may do on its channel as long as it is not closed. -/
inductive Allows (localId remoteId : UInt32) (channel : Channel) : Act → Prop
  | takes : Allows localId remoteId channel (.take localId Command.write)
  | acknowledges : Allows localId remoteId channel (.send Command.okay localId remoteId [])
  | discards : Allows localId remoteId channel (.discard localId Command.okay)
  | writes (payload : Bytes) (live : channel.isLive localId = true) :
    Allows localId remoteId channel (.send Command.write localId remoteId payload)

/-- Every act is allowed when it is done. -/
def Talks (localId remoteId : UInt32) : List Act → Channel → Prop
  | [], _ => True
  | act :: acts, channel =>
    channel.Allows localId remoteId act ∧ Talks localId remoteId acts (channel.afterAct act)

/-- Acts that follow each other are allowed if the first ones are, and the others on the channel
behind them. -/
theorem talks_append {localId remoteId : UInt32} {acts more : List Act} {channel : Channel} :
    channel.Talks localId remoteId (acts ++ more) ↔
      channel.Talks localId remoteId acts ∧
        (channel.afterActs acts).Talks localId remoteId more := by
  induction acts generalizing channel with
  | nil => simp [Talks]
  | cons act acts ih => simp only [List.cons_append, Talks, ih, afterActs_cons, and_assoc]

/-- How a stream with these ids goes. -/
def farewell (localId remoteId : UInt32) : List Act :=
  [.send Command.close localId remoteId [], .unlisten localId, .countClosed]

end Channel

namespace Endpoint

open Channel (Act)

/-- Acknowledging sends one frame. -/
def acknowledgeActs (endpoint : Endpoint) : List Act :=
  [.send Command.okay endpoint.stream.localId endpoint.stream.remoteId []]

/-- Sending what is collected throws acknowledgements away and sends it, unless there is nothing to
send or nobody listens. -/
def collectedActs (endpoint : Endpoint) : List Act :=
  let { stream, channel := _ } := endpoint
  if stream.outgoing.isEmpty || !endpoint.isLive then []
  else
    .send Command.write stream.localId stream.remoteId stream.outgoing ::
      (endpoint.send (Transmitter.sendWrite stream.localId stream.remoteId stream.outgoing)).listed
        fun _ _ => [.discard stream.localId Command.okay]

/-- Closing sends what is collected and takes leave, unless the stream is closed. -/
def closeActs (endpoint : Endpoint) : List Act :=
  if endpoint.stream.closed then []
  else
    endpoint.shut.collectedActs ++
      Channel.farewell endpoint.stream.localId endpoint.stream.remoteId

/-- Looking for the next payload takes a frame and closes the stream when its end is met. -/
def nextPayloadActs (endpoint : Endpoint) : List Act :=
  if endpoint.stream.closed then []
  else
    .take endpoint.stream.localId Command.write ::
      match endpoint.channel.take endpoint.stream.localId Command.write with
      | .ok _ _ => []
      | .error failure channel =>
        if failure.isEndOfStream then { endpoint with channel }.closeActs else []

/-- A turn acknowledges the payload at hand once it is used up, or looks for the next one. -/
def turnActs (wanted : Nat) (endpoint : Endpoint) : List Act :=
  match endpoint.stream.pending with
  | some cursor =>
    if (cursor.advance (cursor.rest.take wanted).length).rest.isEmpty then
      endpoint.acknowledgeActs
    else []
  | none => endpoint.nextPayloadActs

/-- A read comes to turns until one of them brings an answer. -/
def readActs (wanted : Nat) (endpoint : Endpoint) : List Act :=
  if wanted = 0 then []
  else
    endpoint.turnActs wanted ++
      match turned : endpoint.turn wanted with
      | .ok none after =>
        have := unread_of_turn turned
        readActs wanted after
      | .ok (some _) _ | .error _ _ => []
  termination_by endpoint.unread

/-- A write sends once what is collected fills a frame. -/
def writeActs (bytes : Bytes) (endpoint : Endpoint) : List Act :=
  match endpoint.refusal? with
  | some _ => []
  | none =>
    if bytes.isEmpty then []
    else
      let stream := endpoint.stream
      let count := min (stream.maxPayload - stream.outgoing.length) bytes.length
      let endpoint :=
        { endpoint with
          stream := { stream with outgoing := stream.outgoing ++ bytes.take count } }
      if endpoint.stream.outgoing.length = stream.maxPayload then endpoint.collectedActs else []

/-- A flush sends what is collected. -/
def flushActs (endpoint : Endpoint) : List Act :=
  match endpoint.refusal? with
  | some _ => []
  | none => endpoint.collectedActs

/-- Nothing is handed out any more by a stream that is closed. -/
def IsTidy (endpoint : Endpoint) : Prop :=
  endpoint.stream.closed = true → endpoint.stream.pending = none

/-- The acts are part of what the stream has to say, and do not close it. -/
structure Converses (before : Endpoint) (acts : List Act) (after : Endpoint) : Prop where
  channel : after.channel = before.channel.afterActs acts
  local_id : after.stream.localId = before.stream.localId
  remote_id : after.stream.remoteId = before.stream.remoteId
  closed : after.stream.closed = before.stream.closed
  talks : before.channel.Talks before.stream.localId before.stream.remoteId acts

variable (endpoint : Endpoint)

/-- Acknowledging is part of what an open stream has to say. -/
theorem converses_acknowledge (pending : Option Cursor) :
    endpoint.Converses endpoint.acknowledgeActs
      (endpoint.withPending pending).acknowledge.state := by
  rw [acknowledge, send, Outcome.state_mapState]
  exact ⟨rfl, rfl, rfl, rfl, .acknowledges, trivial⟩

/-- Sending what is collected is part of what an open stream has to say. -/
theorem converses_sendCollected :
    endpoint.Converses endpoint.collectedActs endpoint.sendCollected.state := by
  obtain ⟨stream, channel⟩ := endpoint
  simp only [sendCollected, collectedActs]
  by_cases empty : stream.outgoing.isEmpty = true
  · simp only [empty, if_true, Bool.true_or]
    exact ⟨rfl, rfl, rfl, rfl, trivial⟩
  · cases live : isLive ⟨stream, channel⟩ with
    | false =>
      simp only [empty, Bool.not_false, Bool.or_true, if_true]
      exact ⟨rfl, rfl, rfl, rfl, trivial⟩
    | true =>
      have same : channel.afterAct
          (.send Command.write stream.localId stream.remoteId stream.outgoing) =
          (channel.send (Transmitter.sendWrite stream.localId stream.remoteId
            stream.outgoing)).state := rfl
      simp only [empty, Bool.not_true, Bool.or_false, Bool.false_eq_true, if_false, send]
      cases sent : channel.send (Transmitter.sendWrite stream.localId stream.remoteId
          stream.outgoing) with
      | error failure after =>
        rw [sent, Outcome.state_error] at same
        exact ⟨same.symm, rfl, rfl, rfl, .writes _ live, trivial⟩
      | ok value after =>
        rw [sent, Outcome.state_ok] at same
        refine ⟨?_, rfl, rfl, rfl, .writes _ live, .discards, trivial⟩
        simp only [Outcome.listed, Outcome.mapState, Outcome.andThen, Outcome.state_ok,
          Channel.afterActs_cons, Channel.afterActs_nil, same]
        rfl

/-- Sending what is left comes to the same acts as sending what is collected. -/
theorem converses_sendRemainder :
    endpoint.Converses endpoint.collectedActs endpoint.sendRemainder.state := by
  have collected := endpoint.converses_sendCollected
  unfold sendRemainder
  split
  · next sent => rwa [sent] at collected
  · exact collected

/-- An operation comes to these acts. -/
structure Conducts (before : Endpoint) (acts : List Act) (after : Endpoint) : Prop where
  channel : after.channel = before.channel.afterActs acts
  local_id : after.stream.localId = before.stream.localId
  remote_id : after.stream.remoteId = before.stream.remoteId
  tidy : before.IsTidy → after.IsTidy
  silent : before.IsTidy → before.stream.closed = true → acts = [] ∧ after.stream.closed = true
  speaks : before.stream.closed = false → ∃ talk,
    before.channel.Talks before.stream.localId before.stream.remoteId talk ∧
    acts = talk ++
      if after.stream.closed then
        Channel.farewell before.stream.localId before.stream.remoteId
      else []

section Combining

variable {before middle after : Endpoint} {acts more : List Act} {endpoint : Endpoint}

/-- Nothing is done, and nothing is put up for being handed out by a closed stream. -/
theorem conducts_nil (channel : after.channel = endpoint.channel)
    (local_id : after.stream.localId = endpoint.stream.localId)
    (remote_id : after.stream.remoteId = endpoint.stream.remoteId)
    (closed : after.stream.closed = endpoint.stream.closed)
    (tidy : endpoint.IsTidy → after.IsTidy) : endpoint.Conducts [] after where
  channel := channel
  local_id := local_id
  remote_id := remote_id
  tidy := tidy
  silent := fun _ shut => ⟨rfl, closed.trans shut⟩
  speaks := by
    intro running
    rw [closed, running]
    exact ⟨[], trivial, rfl⟩

theorem Conducts.refl (endpoint : Endpoint) : endpoint.Conducts [] endpoint :=
  conducts_nil rfl rfl rfl rfl id

/-- A stream may talk unless it is tidy and closed. -/
theorem Converses.conducts (converses : before.Converses acts after)
    (running : before.IsTidy → before.stream.closed = false) : before.Conducts acts after where
  channel := converses.channel
  local_id := converses.local_id
  remote_id := converses.remote_id
  tidy := by
    intro tidy closed
    rw [converses.closed, running tidy] at closed
    contradiction
  silent := by
    intro tidy closed
    rw [running tidy] at closed
    contradiction
  speaks := by
    intro running
    rw [converses.closed, running]
    exact ⟨acts, converses.talks, (List.append_nil _).symm⟩

/-- After a farewell nothing more is said, so one follows upon the other as it should. -/
theorem Conducts.trans (first : before.Conducts acts middle)
    (second : middle.Conducts more after) : before.Conducts (acts ++ more) after where
  channel := by rw [second.channel, first.channel, Channel.afterActs_append]
  local_id := second.local_id.trans first.local_id
  remote_id := second.remote_id.trans first.remote_id
  tidy := fun tidy => second.tidy (first.tidy tidy)
  silent := by
    intro tidy closed
    obtain ⟨rfl, still_closed⟩ := first.silent tidy closed
    obtain ⟨rfl, at_last⟩ := second.silent (first.tidy tidy) still_closed
    exact ⟨rfl, at_last⟩
  speaks := by
    intro running
    obtain ⟨talk, talks, rfl⟩ := first.speaks running
    have tidy : before.IsTidy := by
      intro closed
      rw [running] at closed
      contradiction
    cases closed : middle.stream.closed with
    | true =>
      obtain ⟨rfl, at_last⟩ := second.silent (first.tidy tidy) closed
      rw [at_last]
      exact ⟨talk, talks, List.append_nil _⟩
    | false =>
      obtain ⟨rest, talks_on, rfl⟩ := second.speaks closed
      have reached := first.channel
      simp only [closed, Bool.false_eq_true, if_false, List.append_nil] at reached
      rw [first.local_id, first.remote_id] at talks_on ⊢
      rw [reached] at talks_on
      refine ⟨talk ++ rest, Channel.talks_append.2 ⟨talks, talks_on⟩, ?_⟩
      simp only [Bool.false_eq_true, if_false, List.append_nil, List.append_assoc]

end Combining

/-- Telling the device and ending the registration is the farewell. -/
theorem channel_retire :
    endpoint.announceClose.state.retire.channel =
      endpoint.channel.afterActs
        (Channel.farewell endpoint.stream.localId endpoint.stream.remoteId) := by
  rw [announceClose, send, Outcome.state_mapState]
  rfl

/-- Taking leave changes the channel alone. -/
theorem stream_retire : endpoint.announceClose.state.retire.stream = endpoint.stream := by
  rw [announceClose, send, Outcome.state_mapState]
  rfl

/-- A stream is closed after a close, whatever came of it. -/
theorem closed_close : endpoint.close.state.stream.closed = true := by
  unfold close
  split
  · assumption
  · rw [Outcome.state_ofResult, stream_retire]
    exact endpoint.shut.converses_sendRemainder.closed

/-- Closing comes to sending what is collected and taking leave, whatever fails of it. -/
theorem conducts_close : endpoint.Conducts endpoint.closeActs endpoint.close.state := by
  cases running : endpoint.stream.closed with
  | true =>
    simp only [close, closeActs, running, if_true]
    exact .refl endpoint
  | false =>
    have said := endpoint.shut.converses_sendRemainder
    have closed := endpoint.closed_close
    have same : endpoint.close.state =
        endpoint.shut.sendRemainder.state.announceClose.state.retire := by
      simp only [close, running, Bool.false_eq_true, if_false, Outcome.state_ofResult]
    rw [same] at closed ⊢
    refine ⟨?_, ?_, ?_, ?_, ?_, ?_⟩
    · rw [channel_retire, said.channel, said.local_id, said.remote_id, closeActs, running,
        if_neg Bool.false_ne_true, Channel.afterActs_append]
      rfl
    · rw [stream_retire]
      exact said.local_id
    · rw [stream_retire]
      exact said.remote_id
    · intro _ _
      rw [stream_retire]
      exact pending_sendRemainder rfl
    · intro _ closed_before
      rw [running] at closed_before
      contradiction
    · intro _
      rw [closed, closeActs, running, if_neg Bool.false_ne_true]
      exact ⟨_, said.talks, rfl⟩

/-- Looking for a payload comes to taking a frame, and to closing if the end is met. -/
theorem conducts_nextPayload :
    endpoint.Conducts endpoint.nextPayloadActs endpoint.nextPayload.state := by
  cases running : endpoint.stream.closed with
  | true =>
    simp only [nextPayload, nextPayloadActs, running, if_true]
    exact .refl endpoint
  | false =>
    have taken (channel : Channel)
        (same : (endpoint.channel.take endpoint.stream.localId Command.write).state = channel) :
        endpoint.Conducts [.take endpoint.stream.localId Command.write]
          { endpoint with channel } :=
      Converses.conducts ⟨same.symm, rfl, rfl, rfl, .takes, trivial⟩ fun _ => running
    simp only [nextPayload, nextPayloadActs, running, Bool.false_eq_true, if_false]
    cases found : endpoint.channel.take endpoint.stream.localId Command.write with
    | ok frame channel => exact taken channel (congrArg Outcome.state found)
    | error failure channel =>
      have begun := taken channel (congrArg Outcome.state found)
      simp only
      split
      · exact begun.trans (conducts_close _)
      · exact begun

/-- Only a stream that is not closed finds a payload. -/
theorem running_of_nextPayload {endpoint after : Endpoint} {payload : Bytes}
    (found : endpoint.nextPayload = .ok (some payload) after) :
    after.stream.closed = false := by
  unfold nextPayload at found
  split at found
  · simp only [Outcome.ok.injEq, reduceCtorEq, false_and] at found
  · next running =>
    split at found
    · simp only [Outcome.ok.injEq] at found
      rw [← found.2]
      simpa using running
    · split at found <;> simp only [Outcome.ok.injEq, reduceCtorEq, false_and] at found

/-- A turn comes to the acts listed for it. -/
theorem conducts_turn (wanted : Nat) :
    endpoint.Conducts (endpoint.turnActs wanted) (endpoint.turn wanted).state := by
  cases pending : endpoint.stream.pending with
  | some cursor =>
    have running (tidy : endpoint.IsTidy) : endpoint.stream.closed = false := by
      rw [← Bool.not_eq_true]
      intro closed
      rw [tidy closed] at pending
      contradiction
    simp only [turn, turnActs, pending]
    split
    · rw [Outcome.state_map]
      exact (endpoint.converses_acknowledge none).conducts running
    · refine conducts_nil rfl rfl rfl rfl ?_
      intro tidy closed
      exact absurd closed (Bool.eq_false_iff.1 (running tidy))
  | none =>
    have found := endpoint.conducts_nextPayload
    simp only [turn, turnActs, pending]
    cases next : endpoint.nextPayload with
    | error failure after => rwa [next] at found
    | ok given after =>
      cases given with
      | none => rwa [next] at found
      | some payload =>
        rw [next, Outcome.state_ok] at found
        rw [← List.append_nil endpoint.nextPayloadActs]
        apply found.trans
        refine conducts_nil rfl rfl rfl rfl ?_
        have running := running_of_nextPayload next
        exact fun _ closed => absurd closed (Bool.eq_false_iff.1 running)

/-- The acts of a read are those of its first turn and, if that brings no answer, those of the rest
of the read. -/
theorem readActs_eq {wanted : Nat} (some_wanted : wanted ≠ 0) :
    endpoint.readActs wanted = endpoint.turnActs wanted ++
      match endpoint.turn wanted with
      | .ok none after => after.readActs wanted
      | .ok (some _) _ | .error _ _ => [] := by
  rw [readActs, if_neg some_wanted]
  split <;> rename_i found <;> simp only [found]

/-- What holds of every turn, and of one thing done after the other, holds of a read. -/
theorem read_of_turns {holds : Endpoint → List Act → Endpoint → Prop}
    (nothing : ∀ endpoint, holds endpoint [] endpoint)
    (after_other : ∀ {before middle after acts more},
      holds before acts middle → holds middle more after → holds before (acts ++ more) after)
    (wanted : Nat) (turn : ∀ endpoint : Endpoint,
      holds endpoint (endpoint.turnActs wanted) (endpoint.turn wanted).state) :
    holds endpoint (endpoint.readActs wanted) (endpoint.read wanted).state := by
  rw [read, Outcome.state_mapFailure]
  by_cases none_wanted : wanted = 0
  · rw [readActs, readSome, if_pos none_wanted, if_pos none_wanted]
    exact nothing endpoint
  · induction endpoint using @turn_induction wanted with
    | step endpoint ih =>
      have turned := turn endpoint
      rw [endpoint.readActs_eq none_wanted, readSome_eq_turn none_wanted]
      cases found : endpoint.turn wanted with
      | error failure after =>
        rw [found] at turned
        rwa [List.append_nil]
      | ok piece after =>
        rw [found] at turned
        cases piece with
        | none => exact after_other turned (ih after found)
        | some piece => rwa [List.append_nil]

/-- A read comes to the acts of its turns. -/
theorem conducts_read (wanted : Nat) :
    endpoint.Conducts (endpoint.readActs wanted) (endpoint.read wanted).state :=
  endpoint.read_of_turns .refl .trans wanted fun endpoint => endpoint.conducts_turn wanted

/-- Sending what is collected comes to the acts listed for it, if the stream is not closed. -/
theorem conducts_sendCollected (running : endpoint.stream.closed = false) :
    endpoint.Conducts endpoint.collectedActs endpoint.sendCollected.state :=
  endpoint.converses_sendCollected.conducts fun _ => running

/-- A stream that takes writes is not closed. -/
theorem running_of_not_refused {endpoint : Endpoint} (taken : endpoint.refusal? = none) :
    endpoint.stream.closed = false := by
  unfold refusal? at taken
  split at taken
  · contradiction
  · next running =>
    rw [Bool.or_eq_true, not_or, Bool.not_eq_true] at running
    exact running.1

/-- A write comes to the acts listed for it. -/
theorem conducts_write (bytes : Bytes) :
    endpoint.Conducts (endpoint.writeActs bytes) (endpoint.write bytes).state := by
  unfold write writeActs
  cases refused : endpoint.refusal? with
  | some failure => exact .refl endpoint
  | none =>
    have running := running_of_not_refused refused
    simp only
    split
    · exact .refl endpoint
    · have collect (outgoing : Bytes) : endpoint.Conducts []
          { endpoint with stream.outgoing := outgoing } := by
        refine conducts_nil rfl rfl rfl rfl ?_
        exact fun tidy => tidy
      split
      · rw [Outcome.state_map, Outcome.state_mapFailure]
        exact (collect _).trans (conducts_sendCollected _ running)
      · exact collect _

/-- A flush comes to the acts listed for it. -/
theorem conducts_flush : endpoint.Conducts endpoint.flushActs endpoint.flush.state := by
  unfold flush flushActs
  cases refused : endpoint.refusal? with
  | some failure => exact .refl endpoint
  | none =>
    rw [Outcome.state_mapFailure]
    exact endpoint.conducts_sendCollected (running_of_not_refused refused)

/-- Reading exactly so many bytes comes to reads. -/
def readExactActs (wanted : Nat) (endpoint : Endpoint) : List Act :=
  if wanted = 0 then []
  else
    endpoint.readActs wanted ++
      match read : endpoint.read wanted with
      | .ok [] _ => []
      | .ok (byte :: more) after =>
        have := unread_read read
        readExactActs (wanted - (more.length + 1)) after
      | .error failure after =>
        if interrupted : failure.isInterrupted then
          have := unread_read_interrupted read interrupted
          readExactActs wanted after
        else []
  termination_by endpoint.unread

/-- Reading until the end or a limit comes to reads. -/
def gatherActs (limit : Option Nat) (data : Gathering) (endpoint : Endpoint) : List Act :=
  let data := data.widen
  let wanted := min data.request (limit.getD data.request)
  if wanted = 0 then []
  else
    endpoint.readActs wanted ++
      match read : endpoint.read wanted with
      | .ok [] _ => []
      | .ok (byte :: more) after =>
        have := unread_read read
        gatherActs (limit.map (· - (more.length + 1))) (data.add (byte :: more)) after
      | .error failure after =>
        if interrupted : failure.isInterrupted then
          have := unread_read_interrupted read interrupted
          gatherActs limit data after
        else []
  termination_by endpoint.unread

/-- One read after the other, with the acts to which they come. -/
inductive Reads : Endpoint → List Act → Endpoint → Prop
  | rest (endpoint : Endpoint) : Reads endpoint [] endpoint
  | read {endpoint after : Endpoint} {acts : List Act} (wanted : Nat)
    (later : Reads (endpoint.read wanted).state acts after) :
    Reads endpoint (endpoint.readActs wanted ++ acts) after

section Reads

variable {endpoint middle after : Endpoint} {acts more : List Act}

theorem Reads.trans (first : endpoint.Reads acts middle) (second : middle.Reads more after) :
    endpoint.Reads (acts ++ more) after := by
  induction first with
  | rest => exact second
  | read wanted _ ih =>
    rw [List.append_assoc]
    exact .read wanted (ih second)

/-- A read in front of others, whatever comes of it. -/
theorem Reads.of_read {wanted : Nat} {outcome : Outcome Endpoint Bytes}
    (read : endpoint.read wanted = outcome) (later : outcome.state.Reads acts after) :
    endpoint.Reads (endpoint.readActs wanted ++ acts) after := by
  subst read
  exact .read wanted later

/-- A single read, whatever comes of it. -/
theorem reads_of_read {wanted : Nat} {outcome : Outcome Endpoint Bytes}
    (read : endpoint.read wanted = outcome) :
    endpoint.Reads (endpoint.readActs wanted) outcome.state := by
  have once := Reads.of_read read (.rest _)
  rwa [List.append_nil] at once

/-- Going on after a success. -/
theorem Reads.andThen {Value Next : Type} {outcome : Outcome Endpoint Value}
    {next : Value → Endpoint → Outcome Endpoint Next} {list : Value → Endpoint → List Act}
    (reads : endpoint.Reads acts outcome.state)
    (goes_on : ∀ value (after : Endpoint),
      after.Reads (list value after) (next value after).state) :
    endpoint.Reads (acts ++ outcome.listed list) (outcome.andThen next).state := by
  cases outcome with
  | ok value after => exact reads.trans (goes_on value after)
  | error failure after =>
    rw [Outcome.listed, List.append_nil]
    exact reads

/-- Reads come to their acts, one after the other. -/
theorem Reads.conducts (reads : endpoint.Reads acts after) : endpoint.Conducts acts after := by
  induction reads with
  | rest endpoint => exact .refl endpoint
  | read wanted _ ih => exact (conducts_read _ wanted).trans ih

end Reads

/-- The acts of reading so many bytes are those of the first read and of what is read after it. -/
theorem readExactActs_eq {wanted : Nat} (some_wanted : wanted ≠ 0) :
    endpoint.readExactActs wanted = endpoint.readActs wanted ++
      match endpoint.read wanted with
      | .ok [] _ => []
      | .ok (_ :: more) after => after.readExactActs (wanted - (more.length + 1))
      | .error failure after =>
        if failure.isInterrupted then after.readExactActs wanted else [] := by
  rw [readExactActs, if_neg some_wanted]
  split <;> rename_i found <;> simp only [found, dite_eq_ite]

/-- Reading exactly so many bytes comes to one read after the other. -/
theorem reads_readExact (wanted : Nat) :
    endpoint.Reads (endpoint.readExactActs wanted) (endpoint.readExact wanted).state := by
  fun_induction readExact wanted endpoint with
  | case1 =>
    rw [readExactActs, if_pos rfl]
    exact .rest _
  | case2 wanted endpoint some_wanted after read =>
    have reading := reads_of_read read
    rw [readExactActs_eq endpoint some_wanted, read, List.append_nil]
    exact reading
  | case3 wanted endpoint some_wanted byte more after read less ih =>
    rw [readExactActs_eq endpoint some_wanted, read, Outcome.state_map]
    exact .of_read read ih
  | case4 wanted endpoint some_wanted failure after read interrupted less ih =>
    rw [readExactActs_eq endpoint some_wanted, read]
    simp only [if_pos interrupted]
    exact .of_read read ih
  | case5 wanted endpoint some_wanted failure after read lasting =>
    rw [readExactActs_eq endpoint some_wanted, read]
    simp only [if_neg lasting, List.append_nil]
    exact reads_of_read read

/-- The acts of reading on are those of the first read and of what is read after it. -/
theorem gatherActs_eq {limit : Option Nat} {data : Gathering} {wanted : Nat}
    (asks : min data.widen.request (limit.getD data.widen.request) = wanted)
    (some_wanted : wanted ≠ 0) :
    endpoint.gatherActs limit data = endpoint.readActs wanted ++
      match endpoint.read wanted with
      | .ok [] _ => []
      | .ok (byte :: more) after =>
        after.gatherActs (limit.map (· - (more.length + 1))) (data.widen.add (byte :: more))
      | .error failure after =>
        if failure.isInterrupted then after.gatherActs limit data.widen else [] := by
  subst asks
  rw [gatherActs]
  simp only [some_wanted, if_false]
  split <;> rename_i found <;> simp only [found, dite_eq_ite]

/-- Reading until the end or a limit comes to one read after the other. -/
theorem reads_gather (limit : Option Nat) (data : Gathering) :
    endpoint.Reads (endpoint.gatherActs limit data) (endpoint.gather limit data).2.state := by
  fun_induction gather limit data endpoint with
  | case1 limit data endpoint wider wanted none_wanted =>
    rw [gatherActs]
    simp only [wanted, wider] at none_wanted
    simp only [none_wanted, if_true]
    exact .rest _
  | case2 limit data endpoint wider wanted some_wanted after read =>
    have reading := reads_of_read read
    rw [gatherActs_eq endpoint rfl some_wanted, read, List.append_nil]
    exact reading
  | case3 limit data endpoint wider wanted some_wanted byte more after read less ih =>
    rw [gatherActs_eq endpoint rfl some_wanted, read]
    exact .of_read read ih
  | case4 limit data endpoint wider wanted some_wanted failure after read interrupted less ih =>
    rw [gatherActs_eq endpoint rfl some_wanted, read]
    simp only [if_pos interrupted]
    exact .of_read read ih
  | case5 limit data endpoint wider wanted some_wanted failure after read lasting =>
    rw [gatherActs_eq endpoint rfl some_wanted, read]
    simp only [if_neg lasting, List.append_nil]
    exact reads_of_read read

/-- Reading at most so many bytes comes to one read after the other. -/
theorem reads_readUpTo (limit : Nat) :
    endpoint.Reads (endpoint.gatherActs (some limit) {}) (endpoint.readUpTo limit).state := by
  rw [readUpTo, Outcome.state_map]
  exact endpoint.reads_gather (some limit) {}

end Endpoint

namespace Shell

open Channel (Act)

/-- Reading the payload of a packet comes to reading so many bytes. -/
def payloadActs (length : Nat) (endpoint : Endpoint) : List Act :=
  endpoint.gatherActs (some length) {}

/-- Reading what stands behind the header of a packet comes to reading its payload. -/
def bodyActs (id : UInt8) (length : Nat) (endpoint : Endpoint) : List Act :=
  if id = stdoutId ∨ id = stderrId then payloadActs length endpoint
  else if id = exitId ∧ length = 1 then endpoint.readExactActs 1
  else []

/-- Reading a packet comes to reading its header and what stands behind it. -/
def packetActs (endpoint : Endpoint) : List Act :=
  endpoint.readExactActs headerSize ++
    (readHeader endpoint).listed fun header after => bodyActs header.1 header.2 after

/-- Reading packets until the exit code comes to reading each of them. -/
def collectActs (endpoint : Endpoint) : List Act :=
  packetActs endpoint ++
    match read : readPacket endpoint with
    | .ok (.stdout _) after | .ok (.stderr _) after =>
      have := unread_readPacket read
      collectActs after
    | .ok (.exit _) _ | .error _ _ => []
  termination_by endpoint.unread

variable (endpoint : Endpoint)

/-- Reading the header of a packet comes to one read after the other. -/
theorem reads_readHeader :
    endpoint.Reads (endpoint.readExactActs headerSize) (readHeader endpoint).state := by
  have reading := endpoint.reads_readExact headerSize
  unfold readHeader
  cases read : endpoint.readExact headerSize with
  | error failure after => rwa [read] at reading
  | ok bytes after =>
    rw [read] at reading
    cases bytes <;> exact reading

/-- Reading the payload of a packet comes to one read after the other. -/
theorem reads_readPayload (length : Nat) :
    endpoint.Reads (payloadActs length endpoint) (readPayload length endpoint).state := by
  have reading := endpoint.reads_readUpTo length
  unfold readPayload
  cases read : endpoint.readUpTo length with
  | error failure after => rwa [read] at reading
  | ok payload after =>
    rw [read] at reading
    simp only [Outcome.andThen]
    split <;> exact reading

/-- Reading what stands behind the header of a packet comes to one read after the other. -/
theorem reads_readBody (id : UInt8) (length : Nat) :
    endpoint.Reads (bodyActs id length endpoint) (readBody id length endpoint).state := by
  unfold readBody bodyActs
  by_cases output : id = stdoutId
  · rw [if_pos output, if_pos (.inl output), Outcome.state_map]
    exact reads_readPayload endpoint length
  · by_cases error_output : id = stderrId
    · rw [if_neg output, if_pos error_output, if_pos (.inr error_output), Outcome.state_map]
      exact reads_readPayload endpoint length
    · rw [if_neg output, if_neg error_output, if_neg (not_or.2 ⟨output, error_output⟩)]
      by_cases exit : id = exitId
      · by_cases single : length = 1
        · rw [if_pos exit, if_neg (not_not_intro single), if_pos ⟨exit, single⟩, Outcome.state_map]
          exact endpoint.reads_readExact 1
        · rw [if_pos exit, if_pos single, if_neg fun both => single both.2]
          exact .rest endpoint
      · rw [if_neg exit, if_neg fun both => exit both.1]
        exact .rest endpoint

/-- Reading a packet comes to one read after the other. -/
theorem reads_readPacket :
    endpoint.Reads (packetActs endpoint) (readPacket endpoint).state :=
  (reads_readHeader endpoint).andThen fun header after =>
    reads_readBody after header.1 header.2

/-- The acts of reading until the exit code are those of the first packet and, if it is not the
last, those of the others. -/
theorem collectActs_eq :
    collectActs endpoint = packetActs endpoint ++
      match readPacket endpoint with
      | .ok (.stdout _) after | .ok (.stderr _) after => collectActs after
      | .ok (.exit _) _ | .error _ _ => [] := by
  rw [collectActs]
  split <;> rename_i found <;> simp only [found]

/-- Reading packets until the exit code comes to one read after the other. -/
theorem reads_collect (output errorOutput : List Bytes) :
    endpoint.Reads (collectActs endpoint) (collect output errorOutput endpoint).state := by
  fun_induction collect output errorOutput endpoint with
  | case1 output errorOutput endpoint failure after read =>
    have reading := reads_readPacket endpoint
    rw [collectActs_eq, read, List.append_nil]
    rwa [read] at reading
  | case2 output errorOutput endpoint data after read less ih =>
    have reading := reads_readPacket endpoint
    rw [read] at reading
    rw [collectActs_eq, read]
    exact reading.trans ih
  | case3 output errorOutput endpoint data after read less ih =>
    have reading := reads_readPacket endpoint
    rw [read] at reading
    rw [collectActs_eq, read]
    exact reading.trans ih
  | case4 output errorOutput endpoint code after read =>
    have reading := reads_readPacket endpoint
    rw [collectActs_eq, read, List.append_nil]
    rwa [read] at reading

/-- Reading all output comes to one read after the other. -/
theorem reads_readAll : endpoint.Reads (collectActs endpoint) (readAll endpoint).state :=
  reads_collect endpoint [] []

end Shell
end DebugBridge

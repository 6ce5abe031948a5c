import DebugBridge.Proofs.Session.Repeating

/-!
# Calls that are made until they settle

Takers and streams on one channel are served from one source. When a call fails temporarily it is
made again, until it succeeds or fails for good. A source into which temporary failures were put
serves such calls as the source without them does: the answers are the same, and so are the frames
sent, the mailboxes and the counts. Each failure that was put in and met is reported once.
-/

namespace DebugBridge

/-- A channel and the streams on it, under numbers of their own. -/
structure Desk where
  channel : Channel
  streams : Nat → Stream

namespace Desk

/-- What is asked for at a desk. -/
inductive Call where
  | take (want : Want)
  /-- Reads at most so many bytes of a stream. -/
  | read (stream wanted : Nat)

/-- What comes of a call that succeeds. -/
inductive Answer where
  | frame (frame : Frame)
  | bytes (piece : Bytes)
  deriving DecidableEq

def withChannel (desk : Desk) (channel : Channel) : Desk :=
  { desk with channel }

/-- One of the streams at the channel. -/
def endpoint (number : Nat) (desk : Desk) : Endpoint :=
  ⟨desk.streams number, desk.channel⟩

def withEndpoint (number : Nat) (desk : Desk) (endpoint : Endpoint) : Desk where
  channel := endpoint.channel
  streams other := if other = number then endpoint.stream else desk.streams other

/-- Does what is asked for. Reading a stream changes this stream and the channel only. -/
def perform : Call → Desk → Outcome Desk Answer
  | .take want, desk =>
    ((desk.channel.take want.id want.command).map .frame).mapState desk.withChannel
  | .read number wanted, desk =>
    (((desk.endpoint number).read wanted).map .bytes).mapState (desk.withEndpoint number)

/-- Desks that differ in temporary failures of the source at most, and in how much they have
buffered. -/
structure Agrees (first second : Desk) : Prop where
  streams : first.streams = second.streams
  channel : first.channel.Agrees second.channel

/-- A desk whose source has no temporary failure to report. -/
def IsCalm (desk : Desk) : Prop :=
  desk.channel.IsCalm

/-- The failures in store. -/
def troubles (desk : Desk) : Troubles :=
  desk.channel.troubles

@[simp] theorem endpoint_withEndpoint (number : Nat) (desk : Desk) (endpoint : Endpoint) :
    (desk.withEndpoint number endpoint).endpoint number = endpoint := by
  simp [Desk.endpoint, withEndpoint]

@[simp] theorem withEndpoint_withEndpoint (number : Nat) (desk : Desk) (endpoint : Endpoint) :
    (desk.withEndpoint number endpoint).withEndpoint number = desk.withEndpoint number := by
  funext other
  simp only [withEndpoint, mk.injEq, true_and]
  funext place
  split <;> rfl

@[simp] theorem withEndpoint_endpoint (number : Nat) (desk : Desk) :
    desk.withEndpoint number (desk.endpoint number) = desk := by
  simp only [withEndpoint, Desk.endpoint]
  congr
  funext place
  split
  · next same => rw [same]
  · rfl

/-- A call at a desk reports the failures in store one at a time, whichever operation it is. -/
theorem perform_reports (call : Call) (desk : Desk) :
    Reports troubles desk (desk.perform call) := by
  cases call with
  | take want =>
    have placed (channel : Channel) : (desk.withChannel channel).troubles = channel.troubles := rfl
    exact ((Channel.take_reports desk.channel).map _).mapState placed
  | read number wanted =>
    have placed (endpoint : Endpoint) :
        (desk.withEndpoint number endpoint).troubles = endpoint.troubles := rfl
    have reading := (Endpoint.read_reports wanted (desk.endpoint number)).map Answer.bytes
    have placing := reading.mapState placed
    rwa [withEndpoint_endpoint] at placing

/-- A call at a desk fares as it does without temporary failures, or it may be repeated. -/
theorem perform_resumes (call : Call) {rough smooth : Desk} (agrees : rough.Agrees smooth)
    (calm : smooth.IsCalm) : Resumes Agrees IsCalm (perform call) rough smooth := by
  cases call with
  | take want =>
    have taking := (@Channel.take_resumes want.id want.command _ _ agrees.channel calm).map
      Answer.frame
    exact taking.mapState (fun _ _ channels => ⟨agrees.streams, channels⟩)
      (fun _ still_calm => still_calm) (fun _ => rfl) (fun _ => rfl)
  | read number wanted =>
    have endpoints : (rough.endpoint number).Agrees (smooth.endpoint number) :=
      ⟨congrFun agrees.streams number, agrees.channel⟩
    have reading := (Endpoint.read_resumes wanted endpoints calm).map Answer.bytes
    refine reading.mapState (fun first second states => ⟨?_, states.channel⟩)
      (fun _ still_calm => still_calm) (endpoint_withEndpoint number smooth)
      (withEndpoint_withEndpoint number smooth)
    funext place
    simp only [withEndpoint, states.stream, agrees.streams]

/-- A call made once. -/
structure Attempt where
  before : Desk
  result : Except Failure Answer
  after : Desk

namespace Attempt

/-- Whether the same call is to be made again. -/
def isTemporary (attempt : Attempt) : Bool :=
  match attempt.result with
  | .error failure => failure.isTransient
  | .ok _ => false

/-- The failure of a read that the attempt has used up and reported. -/
def reported (attempt : Attempt) : List IoKind :=
  match attempt.result with
  | .error (.io kind none) =>
    if attempt.before.troubles.reads = kind :: attempt.after.troubles.reads then [kind] else []
  | _ => []

end Attempt

/-- Makes a call and keeps a record of it. -/
def attempt (call : Call) (desk : Desk) : Attempt where
  before := desk
  result := (desk.perform call).result
  after := (desk.perform call).state

/-- Each temporary failure leaves fewer in store, so a call settles. -/
theorem fewer_of_isTemporary {call : Call} {desk : Desk}
    (temporary : (desk.attempt call).isTemporary = true) :
    (desk.attempt call).after.troubles.reads.length + (desk.attempt call).after.troubles.writes <
      desk.troubles.reads.length + desk.troubles.writes := by
  have reports := desk.perform_reports call
  unfold attempt Attempt.isTemporary at temporary
  unfold attempt
  cases performed : desk.perform call with
  | ok answer after =>
    rw [performed] at temporary
    contradiction
  | error failure after =>
    rw [performed] at temporary reports
    exact reports.fewer temporary

/-- What has happened at a desk. -/
structure Record where
  /-- All attempts in order. -/
  log : List Attempt
  /-- What the calls gave once they had settled. -/
  answers : List (Except Failure Answer)
  last : Desk

/-- Makes a call until it does not fail temporarily. -/
def settle (call : Call) (desk : Desk) : Record :=
  let attempt := desk.attempt call
  if temporary : attempt.isTemporary = true then
    have := fewer_of_isTemporary temporary
    let rest := settle call attempt.after
    { rest with log := attempt :: rest.log }
  else { log := [attempt], answers := [attempt.result], last := attempt.after }
  termination_by desk.troubles.reads.length + desk.troubles.writes

/-- Makes one call after the other, each until it settles. -/
def work : List Call → Desk → Record
  | [], desk => { log := [], answers := [], last := desk }
  | call :: calls, desk =>
    let first := desk.settle call
    let rest := work calls first.last
    { log := first.log ++ rest.log, answers := first.answers ++ rest.answers, last := rest.last }

section Settling

variable {call : Call} {desk : Desk}

/-- A call that fails temporarily is made again. -/
theorem settle_of_isTemporary (temporary : (desk.attempt call).isTemporary = true) :
    desk.settle call = { settle call (desk.attempt call).after with
      log := desk.attempt call :: (settle call (desk.attempt call).after).log } := by
  rw [settle, dif_pos temporary]

/-- A call that does not fail temporarily is not made again. -/
theorem settle_of_not_isTemporary (settled : ¬(desk.attempt call).isTemporary = true) :
    desk.settle call =
      { log := [desk.attempt call]
        answers := [(desk.attempt call).result]
        last := (desk.attempt call).after } := by
  rw [settle, dif_neg settled]

theorem isTemporary_congr {first second : Desk}
    (same : (first.perform call).result = (second.perform call).result) :
    (first.attempt call).isTemporary = (second.attempt call).isTemporary := by
  rw [Attempt.isTemporary, Attempt.isTemporary, attempt, attempt, same]

/-- How a call settles depends on its first attempt only. -/
theorem settle_congr {first second : Desk} (same : first.perform call = second.perform call) :
    (first.settle call).answers = (second.settle call).answers ∧
      (first.settle call).last = (second.settle call).last := by
  have result : (first.attempt call).result = (second.attempt call).result :=
    congrArg Outcome.result same
  have after : (first.attempt call).after = (second.attempt call).after :=
    congrArg Outcome.state same
  have temporary := isTemporary_congr (congrArg Outcome.result same)
  by_cases again : (second.attempt call).isTemporary = true
  · rw [settle_of_isTemporary again, settle_of_isTemporary (temporary.trans again), after]
    exact ⟨rfl, rfl⟩
  · have settled : ¬(first.attempt call).isTemporary = true := by rwa [temporary]
    rw [settle_of_not_isTemporary again, settle_of_not_isTemporary settled, result, after]
    exact ⟨rfl, rfl⟩

/-- A call settles in the same way at desks that agree. -/
theorem settle_agrees {rough smooth : Desk} (agrees : rough.Agrees smooth)
    (calm : smooth.IsCalm) :
    (rough.settle call).answers = (smooth.settle call).answers ∧
      (rough.settle call).last.Agrees (smooth.settle call).last ∧
      (smooth.settle call).last.IsCalm := by
  fun_induction settle call rough generalizing smooth with
  | case1 rough attempt temporary _ rest =>
    rename_i ih
    cases perform_resumes call agrees calm with
    | settled outcomes =>
      have same_temporary := (isTemporary_congr outcomes.result).symm.trans temporary
      rw [settle_of_isTemporary same_temporary]
      exact ih outcomes.state ((smooth.perform_reports call).calm calm)
    | @again failure after middle failed transient states still_calm same =>
      have place : attempt.after = after := congrArg Outcome.state failed
      rw [place] at ih
      obtain ⟨answers, last⟩ := settle_congr same
      rw [← answers, ← last]
      simp only [rest, place]
      exact ih states still_calm
  | case2 rough attempt =>
    rename_i settled
    cases perform_resumes call agrees calm with
    | settled outcomes =>
      have same_settled : ¬(smooth.attempt call).isTemporary = true := by
        rwa [← isTemporary_congr outcomes.result]
      rw [settle_of_not_isTemporary same_settled]
      exact ⟨congrArg ([·]) outcomes.result, outcomes.state,
        (smooth.perform_reports call).calm calm⟩
    | again failed transient =>
      refine absurd ?_ settled
      simp only [attempt, Desk.attempt, Attempt.isTemporary, failed, Outcome.result]
      exact transient

/-- Calls on desks that agree settle alike, if one of the desks is calm. -/
theorem work_agrees {calls : List Call} {rough smooth : Desk} (agrees : rough.Agrees smooth)
    (calm : smooth.IsCalm) :
    (rough.work calls).answers = (smooth.work calls).answers ∧
      (rough.work calls).last.Agrees (smooth.work calls).last := by
  induction calls generalizing rough smooth with
  | nil => exact ⟨rfl, agrees⟩
  | cons call calls ih =>
    obtain ⟨answers, lasts, still_calm⟩ := @settle_agrees call _ _ agrees calm
    obtain ⟨later, last⟩ := ih lasts still_calm
    refine ⟨?_, last⟩
    simp only [work, answers, later]

/-- The reads of an attempt meet no failure but the one that it reports. -/
theorem Attempt.reads_eq {attempt : Attempt}
    (used : attempt.before.troubles.reads = attempt.after.troubles.reads ∨
      ∃ kind, attempt.result = .error (.ofKind kind) ∧
        attempt.before.troubles.reads = kind :: attempt.after.troubles.reads) :
    attempt.before.troubles.reads = attempt.reported ++ attempt.after.troubles.reads := by
  rcases used with same | ⟨kind, failed, first⟩
  · have nothing : attempt.reported = [] := by
      unfold reported
      split
      · next kind _ =>
        rw [if_neg]
        intro first
        rw [same] at first
        exact absurd (congrArg List.length first) (by simp)
      · rfl
    rw [nothing, same, List.nil_append]
  · have one : attempt.reported = [kind] := by
      rw [reported, failed]
      exact if_pos first
    rw [one, first, List.singleton_append]

/-- The failures in store are the one that an attempt has reported, if it has, and those that are
left. -/
theorem reads_attempt (call : Call) (desk : Desk) :
    desk.troubles.reads =
      (desk.attempt call).reported ++ (desk.attempt call).after.troubles.reads := by
  apply @Attempt.reads_eq (desk.attempt call)
  cases desk.perform_reports call with
  | @read kind after failed transient reads =>
    refine .inr ⟨kind, ?_, ?_⟩
    · rw [attempt, failed, Outcome.result]
    · rw [attempt, failed, Outcome.state_error]
      exact reads
  | write failed reads =>
    refine .inl ?_
    rw [attempt, failed, Outcome.state_error, reads]
  | nothing reads => exact .inl reads.symm

/-- The failures in store are those that the attempts have reported, in order, and those that are
left. -/
theorem reads_settle (call : Call) (desk : Desk) :
    desk.troubles.reads = (desk.settle call).log.flatMap Attempt.reported ++
      (desk.settle call).last.troubles.reads := by
  fun_induction settle call desk with
  | case1 desk attempt temporary _ rest ih =>
    rw [List.flatMap_cons, List.append_assoc, ← ih]
    exact reads_attempt call desk
  | case2 desk attempt settled =>
    rw [List.flatMap_singleton]
    exact reads_attempt call desk

/-- The failures in store are those that the attempts have reported, in order, and those that are
left. -/
theorem reads_work (calls : List Call) (desk : Desk) :
    desk.troubles.reads = (desk.work calls).log.flatMap Attempt.reported ++
      (desk.work calls).last.troubles.reads := by
  induction calls generalizing desk with
  | nil => rfl
  | cons call calls ih =>
    rw [work, List.flatMap_append, List.append_assoc, ← ih]
    exact reads_settle call desk

/-- What is on record for a call are attempts at it. -/
theorem exists_call_of_mem_settle {attempt : Attempt} (member : attempt ∈ (desk.settle call).log) :
    ∃ before, attempt = Desk.attempt call before := by
  fun_induction settle call desk with
  | case1 desk first temporary _ rest ih =>
    rcases List.mem_cons.mp member with rfl | member
    · exact ⟨desk, rfl⟩
    · exact ih member
  | case2 desk first settled => exact ⟨desk, List.mem_singleton.mp member⟩

/-- What is on record are attempts at calls. -/
theorem exists_call_of_mem_work {calls : List Call} {attempt : Attempt}
    (member : attempt ∈ (desk.work calls).log) :
    ∃ call before, attempt = Desk.attempt call before := by
  induction calls generalizing desk with
  | nil => contradiction
  | cons call calls ih =>
    rcases List.mem_append.mp member with member | member
    · exact ⟨call, exists_call_of_mem_settle member⟩
    · exact ih member

/-- A failure after which the caller may try again is no interruption. -/
theorem isInterrupted_of_isTransient {failure : Failure} (transient : failure.isTransient = true) :
    failure.isInterrupted = false := by
  unfold Failure.isTransient at transient
  unfold Failure.isInterrupted
  split at transient <;> simp_all

/-- An interruption that an attempt reports is one of the sink. -/
theorem fewer_of_isInterrupted {failure : Failure}
    (failed : (desk.attempt call).result = .error failure) (interrupted : failure.isInterrupted) :
    (desk.attempt call).after.troubles.writes < desk.troubles.writes := by
  have reports := desk.perform_reports call
  unfold attempt at failed ⊢
  cases reports with
  | read same transient =>
    rw [same] at failed
    cases failed
    rw [isInterrupted_of_isTransient transient] at interrupted
    contradiction
  | write same reads writes =>
    rw [same]
    exact writes
  | nothing reads writes lasting =>
    rw [(lasting failure failed).2] at interrupted
    contradiction

end Settling

/-- The desk with another source of bytes. -/
def withSource (source : Source) (desk : Desk) : Desk :=
  { desk with channel.queue.receiver.source := source }

/-- Desks that agree with one desk agree. -/
theorem Agrees.of_common {first second common : Desk} (one : first.Agrees common)
    (other : second.Agrees common) : first.Agrees second where
  streams := one.streams.trans other.streams.symm
  channel := {
    queue := {
      board := one.channel.queue.board.trans other.channel.queue.board.symm
      receiver := one.channel.queue.receiver.trans other.channel.queue.receiver.symm }
    transmitter := one.channel.transmitter.trans other.channel.transmitter.symm
    metrics := one.channel.metrics.trans other.channel.metrics.symm }

/-- A desk agrees with itself before another source with the same tape. -/
theorem agrees_withSource {desk : Desk} {source : Source}
    (signals : desk.channel.queue.receiver.source.signals = source.signals) :
    desk.Agrees (desk.withSource source) := by
  refine ⟨rfl, ⟨rfl, ?_⟩, rfl, rfl⟩
  rw [Receiver.Agrees, Receiver.tape, Receiver.tape, signals]
  rfl

/-- **Temporary failures go unnoticed.** Temporary failures are put into what a device sends, at any
points of it, and calls are made at the desk, each until it does not fail temporarily. The answers
are those that would have been given without the failures, and so are the streams, the mailboxes,
what was sent and all counts. The failures of reads that were met are reported one by one, and none
as an interruption: a call that reports one has it from the sink. -/
theorem temporary_failures_unnoticed {base : Desk} {source : Source} (calls : List Call)
    (disturbs : base.channel.queue.receiver.source.Disturbs source) :
    let disturbed := base.withSource source
    let plain := base.work calls
    let rough := disturbed.work calls
    rough.answers = plain.answers ∧ rough.last.Agrees plain.last ∧
      disturbed.troubles.reads =
        rough.log.flatMap Attempt.reported ++ rough.last.troubles.reads ∧
      ∀ attempt ∈ rough.log, ∀ failure, attempt.result = .error failure →
        failure.isInterrupted → attempt.after.troubles.writes < attempt.before.troubles.writes := by
  intro disturbed plain rough
  obtain ⟨calm, signals, retryable⟩ := Source.exists_calm source
  have signals_base : base.channel.queue.receiver.source.signals = calm.signals := by
    rw [signals, disturbs.signals_eq]
  have base_agrees : base.Agrees (base.withSource calm) := agrees_withSource signals_base
  have rough_agrees : disturbed.Agrees (base.withSource calm) :=
    @agrees_withSource disturbed calm signals.symm
  obtain ⟨plain_answers, plain_last⟩ := @work_agrees calls _ _ base_agrees retryable
  obtain ⟨rough_answers, rough_last⟩ := @work_agrees calls _ _ rough_agrees retryable
  refine ⟨rough_answers.trans plain_answers.symm, rough_last.of_common plain_last,
    reads_work calls disturbed, ?_⟩
  intro attempt member failure failed interrupted
  obtain ⟨call, before, rfl⟩ := exists_call_of_mem_work member
  exact fewer_of_isInterrupted failed interrupted

/-- A frame of two bytes for a stream comes before one for a taker. The source fails inside the
header of the first one and twice inside its payload: two of the five attempts report a failure. -/
theorem temporary_failures_unnoticed_inside_frame :
    let written := (Frame.make Command.write 9 1 [104, 105]).encode
    let okay := (Frame.make Command.okay 8 2 []).encode
    let base : Desk := {
      channel := { queue := {
        board := (({} : Switchboard).listen 1).listen 2
        receiver := { source := [.bytes (written.take 5 ++ (written.drop 5 ++ okay)) 20] } } }
      streams := fun _ => .opened 1 9 4096 }
    let source : Source := [.bytes (written.take 5) 20, .fail .timedOut,
      .bytes ((written.drop 5).take 20) 20, .fail .interrupted, .fail .wouldBlock,
      .bytes ((written.drop 5).drop 20 ++ okay) 20]
    let calls : List Call := [.read 0 1, .take ⟨2, Command.okay⟩, .read 0 8]
    let rough := (base.withSource source).work calls
    rough.answers = (base.work calls).answers ∧
      rough.answers.map Except.toOption =
        [some (.bytes [104]), some (.frame (.make Command.okay 8 2 [])), some (.bytes [105])] ∧
      rough.log.map Attempt.reported = [[.timedOut], [.wouldBlock], [], [], []] := by
  intro written okay base source calls rough
  have cut : base.channel.queue.receiver.source.Disturbs
      [.bytes (written.take 5) 20, .bytes (written.drop 5 ++ okay) 20] :=
    @Source.Disturbs.cut _ [] [] _ _ 20 20 .refl
  have cut_again : base.channel.queue.receiver.source.Disturbs
      [.bytes (written.take 5) 20, .bytes ((written.drop 5).take 20) 20,
        .bytes ((written.drop 5).drop 20 ++ okay) 20] :=
    @Source.Disturbs.cut _ [_] [] _ _ 20 20 cut
  have disturbs : base.channel.queue.receiver.source.Disturbs source := by
    refine @Source.Disturbs.put _ [_] _ _ rfl ?_
    refine @Source.Disturbs.put _ [_, _] _ _ rfl ?_
    refine @Source.Disturbs.put _ [_, _] _ _ rfl ?_
    exact cut_again
  obtain ⟨same, -⟩ := temporary_failures_unnoticed calls disturbs
  exact ⟨same, by decide +kernel, by decide +kernel⟩

end Desk

end DebugBridge

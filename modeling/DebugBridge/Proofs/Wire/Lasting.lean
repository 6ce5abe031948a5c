import DebugBridge.Proofs.Repeating
import DebugBridge.Proofs.Wire.Input

/-!
# Failures that leave no trace

A read that fails because it took too long, would block or was interrupted may simply be made again.
What a receiver has in front of it apart from such failures is its tape: the bytes that it has
buffered or will read, the ends of input and the other failures between them. Reading a frame moves
along the tape in one way only, or fails temporarily and leaves the tape as it was. So failures of
this kind make no difference wherever they stand, even inside a frame.
-/

namespace DebugBridge

/-- The failures after which the same call may be made again. -/
def IoKind.isTemporary (kind : IoKind) : Bool :=
  (Failure.ofKind kind).isTransient || (Failure.ofKind kind).isInterrupted

/-- One thing on a tape. -/
inductive Signal where
  | byte (value : UInt8)
  /-- A failure that is not temporary. -/
  | fail (kind : IoKind)
  /-- One read finds the input ended. -/
  | pause
  deriving DecidableEq

namespace Signal

/-- The bytes at the front. -/
def lead : List Signal → Bytes
  | .byte value :: rest => value :: lead rest
  | _ => []

/-- What stands behind the bytes at the front. -/
def behind : List Signal → List Signal
  | .byte _ :: rest => behind rest
  | stop => stop

@[simp] theorem lead_append (bytes : Bytes) (signals : List Signal) :
    lead (bytes.map .byte ++ signals) = bytes ++ lead signals := by
  induction bytes with
  | nil => rfl
  | cons first bytes ih => simp only [List.map_cons, List.cons_append, lead, ih]

@[simp] theorem behind_append (bytes : Bytes) (signals : List Signal) :
    behind (bytes.map .byte ++ signals) = behind signals := by
  induction bytes with
  | nil => rfl
  | cons first bytes ih => simp only [List.map_cons, List.cons_append, behind, ih]

/-- A tape is the bytes at its front and what stands behind them. -/
theorem lead_append_behind (signals : List Signal) :
    (lead signals).map .byte ++ behind signals = signals := by
  induction signals with
  | nil => rfl
  | cons signal signals ih =>
    cases signal with
    | byte value => simp only [lead, behind, List.map_cons, List.cons_append, ih]
    | fail | pause => rfl

end Signal

namespace Source

/-- What stands on the tape for a delivery. -/
def signalsOf : Delivery → List Signal
  | .bytes bytes _ => bytes.map .byte
  | .fail kind => if kind.isTemporary then [] else [.fail kind]
  | .pause => [.pause]

/-- What stands on the tape for a source. -/
def signals (source : Source) : List Signal :=
  source.flatMap signalsOf

/-- What a delivery has to be reported as though it leaves no trace. -/
def retryableOf : Delivery → List IoKind
  | .fail kind => if (Failure.ofKind kind).isTransient then [kind] else []
  | _ => []

/-- The temporary failures that reads will still report, in order. -/
def retryable (source : Source) : List IoKind :=
  source.flatMap retryableOf

@[simp] theorem signals_cons (item : Delivery) (source : Source) :
    signals (item :: source) = signalsOf item ++ source.signals := rfl

@[simp] theorem retryable_cons (item : Delivery) (source : Source) :
    retryable (item :: source) = retryableOf item ++ source.retryable := rfl

/-- What a read for some bytes meets. -/
inductive Meets (source rest : Source) : Except IoKind Bytes → Prop
  | bytes {got : Bytes} (some_got : got ≠ [])
      (signals : source.signals = got.map .byte ++ rest.signals)
      (retryable : source.retryable = rest.retryable) : Meets source rest (.ok got)
  /-- The input has ended, for now or for good. -/
  | ended (signals : source.signals = .pause :: rest.signals ∨
        source.signals = [] ∧ rest.signals = [])
      (retryable : source.retryable = rest.retryable) : Meets source rest (.ok [])
  | failed {kind : IoKind} (lasting : kind.isTemporary = false)
      (signals : source.signals = .fail kind :: rest.signals)
      (retryable : source.retryable = rest.retryable) : Meets source rest (.error kind)
  | retry {kind : IoKind} (transient : (Failure.ofKind kind).isTransient = true)
      (signals : source.signals = rest.signals)
      (retryable : source.retryable = kind :: rest.retryable) : Meets source rest (.error kind)
  | interrupted (signals : source.signals = rest.signals)
      (retryable : source.retryable = rest.retryable) : Meets source rest (.error .interrupted)

/-- A failure that stands first is what a read meets. -/
theorem meets_fail (kind : IoKind) (rest : Source) :
    Meets (.fail kind :: rest) rest (.error kind) := by
  cases temporary : kind.isTemporary with
  | false =>
    refine .failed temporary ?_ ?_
    · simp [signalsOf, temporary]
    · have lasting : (Failure.ofKind kind).isTransient = false := by
        rw [IoKind.isTemporary, Bool.or_eq_false_iff] at temporary
        exact temporary.1
      simp [retryableOf, lasting]
  | true =>
    have signals : signals (.fail kind :: rest) = rest.signals := by simp [signalsOf, temporary]
    cases transient : (Failure.ofKind kind).isTransient with
    | true => exact .retry transient signals (by simp [retryableOf, transient])
    | false =>
      have interrupted : kind = .interrupted := by
        rw [IoKind.isTemporary, transient, Bool.false_or] at temporary
        simpa [Failure.isInterrupted, Failure.ioKind?] using temporary
      subst interrupted
      exact .interrupted signals (by simp [retryableOf, transient])

/-- A piece without bytes is passed over. -/
theorem Meets.of_empty {source rest : Source} {answer : Except IoKind Bytes} {limit : Nat}
    (meets : Meets source rest answer) : Meets (.bytes [] limit :: source) rest answer := by
  cases meets with
  | bytes some_got signals retryable => exact .bytes some_got signals retryable
  | ended signals retryable => exact .ended signals retryable
  | failed lasting signals retryable => exact .failed lasting signals retryable
  | retry transient signals retryable => exact .retry transient signals retryable
  | interrupted signals retryable => exact .interrupted signals retryable

/-- A read with room meets what `Meets` says. -/
theorem meets_read {wanted : Nat} (some_wanted : wanted ≠ 0) (source : Source) :
    Meets source (source.read wanted).2 (source.read wanted).1 := by
  induction source with
  | nil => exact .ended (.inr ⟨rfl, rfl⟩) rfl
  | cons item tail ih =>
    cases item with
    | pause => exact .ended (.inl rfl) rfl
    | fail kind => exact meets_fail kind tail
    | bytes bytes limit =>
      rw [read]
      split
      · next empty =>
        rw [List.isEmpty_iff] at empty
        subst empty
        exact ih.of_empty
      · next some_bytes =>
        rw [List.isEmpty_iff] at some_bytes
        extract_lets count left
        have rest : signals (if left.isEmpty then tail else .bytes left limit :: tail) =
            left.map .byte ++ signals tail := by
          split
          · next all =>
            rw [List.isEmpty_iff.mp all]
            rfl
          · rfl
        refine .bytes ?_ ?_ ?_
        · rw [ne_eq, List.take_eq_nil_iff]
          rintro (none_taken | nothing)
          · omega
          · contradiction
        · rw [rest, ← List.append_assoc, ← List.map_append, List.take_append_drop]
          rfl
        · split <;> rfl

/-- The second source is the first one with temporary failures put in, at any points of it. -/
inductive Disturbs (base : Source) : Source → Prop
  | refl : Disturbs base base
  /-- A piece of bytes is cut in two, so that something may be put in between. -/
  | cut {front back : Source} {head tail : Bytes} {limit : Nat} (other : Nat)
      (before : Disturbs base (front ++ .bytes (head ++ tail) limit :: back)) :
      Disturbs base (front ++ .bytes head limit :: .bytes tail other :: back)
  | put {front back : Source} {kind : IoKind} (temporary : kind.isTemporary = true)
      (before : Disturbs base (front ++ back)) : Disturbs base (front ++ .fail kind :: back)

theorem signals_append (front back : Source) :
    signals (front ++ back) = front.signals ++ back.signals :=
  List.flatMap_append

/-- Temporary failures that are put in leave no trace on the tape. -/
theorem Disturbs.signals_eq {base disturbed : Source} (disturbs : Disturbs base disturbed) :
    disturbed.signals = base.signals := by
  induction disturbs with
  | refl => rfl
  | cut other before ih =>
    rw [← ih]
    simp [signals_append, signalsOf]
  | put temporary before ih =>
    rw [← ih]
    simp [signals_append, signalsOf, temporary]

/-- Every source has the same tape as one that has no temporary failure to report. -/
theorem exists_calm (source : Source) :
    ∃ calm : Source, calm.signals = source.signals ∧ calm.retryable = [] := by
  induction source with
  | nil => exact ⟨[], rfl, rfl⟩
  | cons item tail ih =>
    obtain ⟨calm, signals, retryable⟩ := ih
    by_cases silent : retryableOf item = []
    · refine ⟨item :: calm, ?_, ?_⟩
      · rw [signals_cons, signals_cons, signals]
      · rw [retryable_cons, silent, retryable, List.nil_append]
    · refine ⟨calm, ?_, retryable⟩
      have traceless : signalsOf item = [] := by
        cases item with
        | bytes | pause => exact absurd rfl silent
        | fail kind =>
          have transient : (Failure.ofKind kind).isTransient = true := by
            simpa [retryableOf] using silent
          simp [signalsOf, IoKind.isTemporary, transient]
      rw [signals_cons, traceless, signals, List.nil_append]

end Source

/-- What a receiver has in front of it apart from temporary failures, and what it has counted. -/
structure Tape where
  signals : List Signal
  metrics : Metrics

namespace Tape

/-- The failure of one who stops here and has got these bytes. -/
def stopFailure (bytes : Bytes) : List Signal → Failure
  | .fail kind :: _ => .ofKind kind
  | _ => .truncatedFrame (Frame.expectedSize bytes) bytes.length

/-- The next frame on the tape. Without a whole frame the bytes stay, and what stopped them goes. -/
def next (tape : Tape) : Outcome Tape Frame :=
  let bytes := Signal.lead tape.signals
  let behind := Signal.behind tape.signals
  match Frame.split? bytes with
  | some (frame, rest) =>
    let size := UInt64.ofNat Header.size + frame.payloadLength.toUInt64
    .ok frame {
      signals := rest.map .byte ++ behind, metrics := tape.metrics.frameReceived size }
  | none =>
    .error (stopFailure bytes behind) { tape with signals := bytes.map .byte ++ behind.tail }

end Tape

namespace Receiver

/-- The tape in front of a receiver. -/
def tape (receiver : Receiver) : Tape where
  signals := receiver.buffer.map .byte ++ receiver.source.signals
  metrics := receiver.metrics

/-- How collecting ends, in terms of the tape. The failure of a read that may be made again is the
first one that the source had to report. -/
inductive Collects (source rest : Source) (missing : Nat) (got : Bytes) : Halt → Prop
  | complete (signals : source.signals = got.map .byte ++ rest.signals)
      (retryable : source.retryable = rest.retryable) : Collects source rest missing got .complete
  | ended (short : got.length < missing)
      (signals : source.signals = got.map .byte ++ .pause :: rest.signals ∨
        source.signals = got.map .byte ∧ rest.signals = [])
      (retryable : source.retryable = rest.retryable) : Collects source rest missing got .ended
  | failed {kind : IoKind} (short : got.length < missing) (lasting : kind.isTemporary = false)
      (signals : source.signals = got.map .byte ++ .fail kind :: rest.signals)
      (retryable : source.retryable = rest.retryable) :
      Collects source rest missing got (.failed kind)
  | retry {kind : IoKind} (transient : (Failure.ofKind kind).isTransient = true)
      (signals : source.signals = got.map .byte ++ rest.signals)
      (retryable : source.retryable = kind :: rest.retryable) :
      Collects source rest missing got (.failed kind)

/-- Collecting may be seen from before a read that brought bytes. -/
theorem Collects.of_bytes {source middle rest : Source} {missing : Nat} {first got : Bytes}
    {halt : Halt} (collects : Collects middle rest (missing - first.length) got halt)
    (signals : source.signals = first.map .byte ++ middle.signals)
    (retryable : source.retryable = middle.retryable) :
    Collects source rest missing (first ++ got) halt := by
  cases collects with
  | complete later same =>
    refine .complete ?_ (retryable.trans same)
    rw [signals, later, List.map_append, List.append_assoc]
  | ended short later same =>
    refine .ended ?_ ?_ (retryable.trans same)
    · rw [List.length_append]
      omega
    · rw [signals, List.map_append, List.append_assoc]
      rcases later with paused | ⟨all, nothing⟩
      · exact .inl (congrArg (first.map .byte ++ ·) paused)
      · exact .inr ⟨congrArg (first.map .byte ++ ·) all, nothing⟩
  | failed short lasting later same =>
    refine .failed ?_ lasting ?_ (retryable.trans same)
    · rw [List.length_append]
      omega
    · rw [signals, later, List.map_append, List.append_assoc]
  | retry transient later same =>
    refine .retry transient ?_ (retryable.trans same)
    rw [signals, later, List.map_append, List.append_assoc]

/-- What is collected is put behind the pieces that were there. -/
theorem collect_cases {missing beyond : Nat} {pieces collected : List Bytes}
    {source rest : Source} {halt : Halt}
    (outcome : collect missing beyond pieces source = (collected, halt, rest)) :
    ∃ got, joined collected = joined pieces ++ got ∧ Collects source rest missing got halt := by
  fun_induction collect missing beyond pieces source with
  | case1 pieces source =>
    simp only [Prod.mk.injEq] at outcome
    obtain ⟨rfl, rfl, rfl⟩ := outcome
    exact ⟨[], (List.append_nil _).symm, .complete rfl rfl⟩
  | case2 missing pieces source some_missing last read =>
    have meets := Source.meets_read (request_ne_zero some_missing beyond) source
    rw [read] at meets
    simp only [Prod.mk.injEq] at outcome
    obtain ⟨rfl, rfl, rfl⟩ := outcome
    refine ⟨[], (List.append_nil _).symm, ?_⟩
    cases meets with
    | bytes some_got => contradiction
    | ended signals retryable => exact .ended (Nat.pos_of_ne_zero some_missing) signals retryable
  | case3 missing pieces source some_missing byte more last read _ ih =>
    have meets := Source.meets_read (request_ne_zero some_missing beyond) source
    rw [read] at meets
    obtain ⟨got, same, collects⟩ := ih outcome
    refine ⟨byte :: more ++ got, ?_, ?_⟩
    · rw [same]
      simp [joined]
    · cases meets with
      | bytes _ signals retryable => exact collects.of_bytes signals retryable
  | case4 missing pieces source some_missing last read _ ih =>
    have meets := Source.meets_read (request_ne_zero some_missing beyond) source
    rw [read] at meets
    obtain ⟨got, same, collects⟩ := ih outcome
    refine ⟨got, same, ?_⟩
    cases meets with
    | failed lasting => contradiction
    | retry transient => contradiction
    | interrupted signals retryable =>
      exact @Collects.of_bytes source last rest missing [] got halt collects signals retryable
  | case5 missing pieces source some_missing kind last read _ uninterrupted =>
    have meets := Source.meets_read (request_ne_zero some_missing beyond) source
    rw [read] at meets
    simp only [Prod.mk.injEq] at outcome
    obtain ⟨rfl, rfl, rfl⟩ := outcome
    refine ⟨[], (List.append_nil _).symm, ?_⟩
    cases meets with
    | failed lasting signals retryable =>
      exact .failed (Nat.pos_of_ne_zero some_missing) lasting signals retryable
    | retry transient signals retryable => exact .retry transient signals retryable
    | interrupted => contradiction

/-- Bytes that move from the source to the buffer stay on the tape. -/
theorem tape_of_signals {receiver : Receiver} {source : Source} {got : Bytes}
    (signals : receiver.source.signals = got.map .byte ++ source.signals) :
    tape { receiver with source, buffer := receiver.buffer ++ got } = receiver.tape := by
  rw [tape, tape, signals, List.map_append, List.append_assoc]

/-- Where a receiver stops if the bytes at the front of its tape do not make up a frame. -/
theorem next_tape_of_short {receiver : Receiver} {got : Bytes} {stop : List Signal}
    (incomplete : Frame.split? receiver.buffer = none) (short : got.length < receiver.missing)
    (signals : receiver.source.signals = got.map .byte ++ stop)
    (stopped : Signal.lead stop = []) :
    receiver.tape.next = .error (Tape.stopFailure (receiver.buffer ++ got) stop)
      ⟨(receiver.buffer ++ got).map .byte ++ stop.tail, receiver.metrics⟩ := by
  have behind : Signal.behind stop = stop := by
    have whole := Signal.lead_append_behind stop
    rwa [stopped] at whole
  rw [Tape.next, tape, signals, Signal.lead_append, Signal.behind_append, Signal.lead_append,
    Signal.behind_append, stopped, behind, List.append_nil,
    split?_eq_none_of_short incomplete short]

/-- A frame in the buffer is the next one on the tape. -/
theorem next_tape_of_split? {receiver : Receiver} {frame : Frame} {rest : Bytes}
    (found : Frame.split? receiver.buffer = some (frame, rest)) :
    receiver.tape.next = .ok frame (tape { receiver with
      buffer := rest
      metrics := receiver.metrics.frameReceived
        (UInt64.ofNat Header.size + frame.payloadLength.toUInt64) }) := by
  rw [Tape.next, tape, Signal.lead_append, Signal.behind_append, Frame.split?_append found]
  simp only [tape, List.map_append, List.append_assoc, Signal.lead_append_behind]

/-- How reading a frame fares: it fails in a way that may be tried again, which the source had to
report, and leaves the tape as it was; or it moves along the tape. -/
theorem readFrame_cases (receiver : Receiver) :
    (∃ kind after, receiver.readFrame = .error (.ofKind kind) after ∧
      (Failure.ofKind kind).isTransient = true ∧ after.tape = receiver.tape ∧
      receiver.source.retryable = kind :: after.source.retryable) ∨
    (receiver.readFrame.mapState tape = receiver.tape.next ∧
      receiver.readFrame.state.source.retryable = receiver.source.retryable ∧
      ∀ failure, receiver.readFrame.result = .error failure → failure.isTransient = false) := by
  fun_induction Receiver.readFrame receiver with
  | case1 receiver frame rest split size =>
    refine .inr ⟨(next_tape_of_split? split).symm, rfl, fun failure failed => ?_⟩
    contradiction
  | case2 receiver incomplete pieces source last _ _ _ _ outcome ih =>
    obtain ⟨got, same, collects⟩ := collect_cases outcome
    change joined pieces = got at same
    cases collects with
    | complete signals retryable =>
      have unmoved : last.tape = receiver.tape := by
        simp only [last, same]
        exact tape_of_signals signals
      rw [← unmoved, retryable]
      exact ih
  | case3 receiver incomplete pieces source last outcome =>
    obtain ⟨got, same, collects⟩ := collect_cases outcome
    change joined pieces = got at same
    subst same
    cases collects with
    | ended short signals retryable =>
      refine .inr ⟨?_, retryable.symm, fun failure failed => ?_⟩
      · rcases signals with paused | ⟨all, nothing⟩
        · exact (next_tape_of_short incomplete short paused rfl).symm
        · rw [next_tape_of_short incomplete short (all.trans (List.append_nil _).symm) rfl]
          simp only [Outcome.mapState, tape, last, nothing]
          rfl
      · cases failed
        rfl
  | case4 receiver incomplete pieces source last kind outcome =>
    obtain ⟨got, same, collects⟩ := collect_cases outcome
    change joined pieces = got at same
    subst same
    cases collects with
    | failed short lasting signals retryable =>
      refine .inr ⟨?_, retryable.symm, fun failure failed => ?_⟩
      · exact (next_tape_of_short incomplete short signals rfl).symm
      · cases failed
        rw [IoKind.isTemporary, Bool.or_eq_false_iff] at lasting
        exact lasting.1
    | retry transient signals retryable =>
      exact .inl ⟨kind, last, rfl, transient, tape_of_signals signals, retryable⟩

/-- Receivers that differ in temporary failures at most, and in how much they have buffered. -/
def Agrees (first second : Receiver) : Prop :=
  first.tape = second.tape

/-- A receiver whose source has no temporary failure to report. -/
def IsCalm (receiver : Receiver) : Prop :=
  receiver.source.retryable = []

/-- The failures in store, beside those of a sink. -/
def troubles (writes : Nat) (receiver : Receiver) : Troubles :=
  ⟨receiver.source.retryable, writes⟩

/-- Reading a frame reports the failures in store one at a time. -/
theorem readFrame_reports (writes : Nat) (receiver : Receiver) :
    Reports (troubles writes) receiver receiver.readFrame := by
  rcases receiver.readFrame_cases with
    ⟨kind, after, failed, transient, -, retryable⟩ | ⟨-, retryable, lasting⟩
  · exact .read failed transient retryable (Nat.le_refl writes)
  · refine .nothing retryable (Nat.le_refl writes) fun failure failed => ?_
    refine ⟨lasting failure failed, ?_⟩
    cases read : receiver.readFrame with
    | ok frame after =>
      rw [read] at failed
      contradiction
    | error other after =>
      rw [read] at failed
      cases failed
      exact interrupted_readFrame read

/-- Reading a frame fares as it does without temporary failures, or it fails temporarily and leaves
the tape as it was. -/
theorem readFrame_resumes {rough smooth : Receiver} (agrees : rough.Agrees smooth)
    (calm : smooth.IsCalm) : Resumes Agrees IsCalm readFrame rough smooth := by
  rcases rough.readFrame_cases with
    ⟨kind, after, failed, transient, unmoved, -⟩ | ⟨moved, -⟩
  · exact .again failed transient (unmoved.trans agrees) calm rfl
  · rcases smooth.readFrame_cases with ⟨kind, after, -, -, -, retryable⟩ | ⟨same_moved, -⟩
    · rw [calm] at retryable
      contradiction
    · refine .settled (Outcome.agree_of_mapState ?_)
      rw [moved, same_moved, show rough.tape = smooth.tape from agrees]

end Receiver

end DebugBridge

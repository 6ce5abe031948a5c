import DebugBridge.Proofs.Dispatch.Patience
import DebugBridge.Proofs.Session.Repeating
import DebugBridge.Proofs.Session.Spilling
import DebugBridge.Proofs.Session.Transfers

/-!
# Reading patiently

A stream whose source fails temporarily now and then, and does nothing else but give bytes, may be
read again after each failure: a single read takes bytes off the front of those that are left, or
fails and takes none. A whole transfer repeats it, so one that fails in its middle has taken some
of the bytes that it was to bring, and does not bring them.
-/

namespace DebugBridge

/-- A temporary failure uses up one of those in store, and nothing adds to them. -/
theorem Reports.total_le {State Value : Type} {troubles : State → Troubles} {before : State}
    {outcome : Outcome State Value} (reports : Reports troubles before outcome) :
    (troubles outcome.state).reads.length + (troubles outcome.state).writes ≤
      (troubles before).reads.length + (troubles before).writes := by
  cases reports with
  | read failed _ reads writes =>
    rw [failed, Outcome.state_error, reads, List.length_cons]
    omega
  | write failed reads writes =>
    rw [failed, Outcome.state_error, reads]
    omega
  | nothing reads writes =>
    rw [reads]
    omega

namespace Endpoint

variable {wanted : Nat} {endpoint : Endpoint}

/-- An open stream whose source keeps readers waiting at most, and whose sink does not fail. -/
structure IsPatient (endpoint : Endpoint) : Prop where
  sending : endpoint.channel.transmitter.IsReliable
  running : endpoint.stream.closed = false
  receiving : endpoint.channel.queue.IsPatient endpoint.stream.localId

/-- What a stream finds when it looks for its next payload. -/
theorem IsPatient.nextPayload_cases (patient : endpoint.IsPatient)
    (nothing : endpoint.stream.pending = none) :
    (∃ payload queue, endpoint.nextPayload = .ok (some payload) (endpoint.withQueue queue) ∧
      (endpoint.withQueue queue).IsPatient ∧
      endpoint.untaken = payload :: (endpoint.withQueue queue).untaken) ∨
    (∃ kind queue, endpoint.nextPayload = .error (.ofKind kind) (endpoint.withQueue queue) ∧
      (Failure.ofKind kind).isTransient = true ∧ (endpoint.withQueue queue).IsPatient ∧
      (endpoint.withQueue queue).unfinished [] = endpoint.unfinished []) ∨
    (endpoint.nextPayload.result.toOption.join = none ∧ endpoint.unfinished [] = [] ∧
      endpoint.nextPayload.state.unfinished [] = []) := by
  have waits : Queue.Waits endpoint.want endpoint.channel.queue
      (endpoint.channel.queue.take endpoint.stream.localId Command.write) :=
    Queue.IsPatient.waits_take patient.receiving
  have looks := nextPayload_of_running patient.running
  have unfinished (queue : Queue) : (endpoint.withQueue queue).unfinished [] =
      (queue.upcoming endpoint.want).map (·.payload) :=
    @unfinished_of_none (endpoint.withQueue queue) nothing []
  rw [Channel.take] at looks
  cases taken : endpoint.channel.queue.take endpoint.stream.localId Command.write with
  | ok frame queue =>
    rw [taken] at waits looks
    cases waits with
    | taken receiving first =>
      refine .inl ⟨frame.payload, queue, looks, ⟨patient.sending, patient.running, receiving⟩, ?_⟩
      rw [untaken, first]
      rfl
  | error failure queue =>
    rw [taken] at waits looks
    cases waits with
    | @again kind _ transient receiving same =>
      have waiting : ¬(Failure.ofKind kind).isEndOfStream = true := by
        intro ended
        rw [isTransient_of_isEndOfStream ended] at transient
        contradiction
      simp only [Outcome.mapState, if_neg waiting] at looks
      refine .inr (.inl ⟨kind, queue, looks, transient,
        ⟨patient.sending, patient.running, receiving⟩, ?_⟩)
      rw [unfinished, same, unfinished_of_none nothing]
      rfl
    | ended lasting none_left none_later =>
      have none_before : endpoint.unfinished [] = [] := by
        rw [unfinished_of_none nothing, untaken, none_left]
        rfl
      simp only [Outcome.mapState] at looks
      rw [looks]
      split
      · have gone := (@isFed_close (endpoint.withQueue queue) patient.running).2
        exact .inr (.inr ⟨rfl, none_before, gone⟩)
      · refine .inr (.inr ⟨rfl, none_before, ?_⟩)
        have later := unfinished queue
        rw [none_later] at later
        exact later

/-- A call that fails has taken nothing. It fails temporarily, or nothing is left. -/
structure Halts (before : Endpoint) (failure : Failure) (after : Endpoint) : Prop where
  kept : after.unreturned = before.unreturned
  lasts : after.unreturned ≠ [] → after.IsPatient
  uninterrupted : failure.isInterrupted = false
  why : failure.isTransient = true ∨ before.unreturned = []

/-- What a turn does to the bytes that are left. -/
inductive TurnTakes (wanted : Nat) (before : Endpoint) : Outcome Endpoint (Option Bytes) → Prop
  | returns {piece : Bytes} {after : Endpoint} (patient : after.IsPatient) (some_piece : piece ≠ [])
      (fits : piece.length ≤ wanted) (front : before.unreturned = piece ++ after.unreturned) :
      TurnTakes wanted before (.ok (some piece) after)
  | goesOn {after : Endpoint} (patient : after.IsPatient)
      (same : after.unreturned = before.unreturned) : TurnTakes wanted before (.ok none after)
  | ended {after : Endpoint} (none_left : before.unreturned = [])
      (none_later : after.unreturned = []) : TurnTakes wanted before (.ok (some []) after)
  | fails {failure : Failure} {after : Endpoint} (halts : before.Halts failure after) :
      TurnTakes wanted before (.error failure after)

/-- A turn that hands out something of the payload at hand, or passes over an empty one. -/
private theorem IsPatient.takes_pending {cursor : Cursor} (patient : endpoint.IsPatient)
    (some_wanted : wanted ≠ 0) (pending : endpoint.stream.pending = some cursor) :
    TurnTakes wanted endpoint (endpoint.turn wanted) := by
  have left : endpoint.unreturned = cursor.rest ++ endpoint.untaken.flatten := by
    rw [unreturned, unfinished_of_pending pending]
    rfl
  obtain ⟨answer, after, turned, turns⟩ := @turn_of_pending wanted _ _ pending patient.sending
  rw [turned]
  cases turns with
  | @part other also_pending more =>
    cases pending.symm.trans also_pending
    refine .returns ⟨patient.sending, patient.running, patient.receiving⟩ ?_
      (List.length_take_le ..) ?_
    · intro empty
      rcases List.take_eq_nil_iff.mp empty with none_wanted | none_left
      · contradiction
      · rw [none_left] at more
        contradiction
    · have moved : (endpoint.withPending (some (cursor.advance wanted))).unreturned =
          cursor.rest.drop wanted ++ endpoint.untaken.flatten := rfl
      rw [moved, ← List.append_assoc, List.take_append_drop, left]
  | @rest other transmitter also_pending all reliable accepted =>
    cases pending.symm.trans also_pending
    have moved : ((endpoint.withPending none).withTransmitter transmitter).unreturned =
        endpoint.untaken.flatten := rfl
    have still_patient : ((endpoint.withPending none).withTransmitter transmitter).IsPatient :=
      ⟨reliable, patient.running, patient.receiving⟩
    split
    · next empty =>
      refine .goesOn still_patient ?_
      rw [moved, left, List.isEmpty_iff.mp empty, List.nil_append]
    · next some_rest =>
      refine .returns still_patient ?_ all ?_
      · exact fun empty => some_rest (List.isEmpty_iff.mpr empty)
      · rw [moved, left]
  | takes nothing | ends nothing =>
    rw [pending] at nothing
    contradiction
  | closed closed =>
    rw [patient.running] at closed
    contradiction

/-- A turn that looks for the next payload. -/
private theorem IsPatient.takes_next (patient : endpoint.IsPatient)
    (nothing : endpoint.stream.pending = none) :
    TurnTakes wanted endpoint (endpoint.turn wanted) := by
  rw [turn_of_none nothing]
  rcases patient.nextPayload_cases nothing with ⟨payload, queue, found, last_patient, first⟩ |
    ⟨kind, queue, failed, transient, last_patient, same⟩ | ⟨none_found, none_left, none_later⟩
  · rw [found]
    have left : endpoint.unreturned =
        payload ++ (endpoint.withQueue queue).untaken.flatten := by
      rw [unreturned, unfinished_of_none nothing, first]
      rfl
    exact .goesOn ⟨last_patient.sending, last_patient.running, last_patient.receiving⟩ left.symm
  · have uninterrupted := interrupted_nextPayload failed
    rw [failed]
    exact .fails ⟨congrArg List.flatten same, fun _ => last_patient, uninterrupted, .inl transient⟩
  · have left : endpoint.unreturned = [] := congrArg List.flatten none_left
    cases looked : endpoint.nextPayload with
    | error failure last =>
      rw [looked, Outcome.state_error] at none_later
      have later : last.unreturned = [] := congrArg List.flatten none_later
      exact .fails ⟨later.trans left.symm, fun some_left => absurd later some_left,
        interrupted_nextPayload looked, .inr left⟩
    | ok payload last =>
      rw [looked] at none_found none_later
      obtain rfl : payload = none := none_found
      exact .ended left (congrArg List.flatten none_later)

/-- A turn of a patient stream does to the bytes what `TurnTakes` says. -/
theorem IsPatient.takes_turn (patient : endpoint.IsPatient) (some_wanted : wanted ≠ 0) :
    TurnTakes wanted endpoint (endpoint.turn wanted) := by
  cases pending : endpoint.stream.pending with
  | some cursor => exact patient.takes_pending some_wanted pending
  | none => exact patient.takes_next pending

/-- What a read does to the bytes that are left, and to the failures in store. -/
inductive ReadTakes (wanted : Nat) (before : Endpoint) : Outcome Endpoint Bytes → Prop
  | returns {piece : Bytes} {after : Endpoint} (patient : after.IsPatient) (some_piece : piece ≠ [])
      (fits : piece.length ≤ wanted) (front : before.unreturned = piece ++ after.unreturned) :
      ReadTakes wanted before (.ok piece after)
  | ended {after : Endpoint} (none_left : before.unreturned = [])
      (none_later : after.unreturned = []) : ReadTakes wanted before (.ok [] after)
  | fails {failure : Failure} {after : Endpoint} (halts : before.Halts failure after) :
      ReadTakes wanted before (.error failure after)

/-- A read of a patient stream does to the bytes what `ReadTakes` says, as its turns do. -/
theorem IsPatient.takes_readSome (patient : endpoint.IsPatient) (some_wanted : wanted ≠ 0) :
    ReadTakes wanted endpoint (endpoint.readSome wanted) := by
  induction endpoint using @turn_induction wanted with
  | step endpoint ih =>
    have takes := patient.takes_turn some_wanted
    rw [readSome_eq_turn some_wanted]
    generalize turned : endpoint.turn wanted = outcome at takes
    cases takes with
    | returns last_patient some_piece fits front =>
      exact .returns last_patient some_piece fits front
    | ended none_left none_later => exact .ended none_left none_later
    | fails halts => exact .fails halts
    | @goesOn after last_patient same =>
      have reads := ih after turned last_patient
      simp only
      generalize after.readSome wanted = last at reads
      cases reads with
      | returns patient some_piece fits front =>
        exact .returns patient some_piece fits (same.symm.trans front)
      | ended none_left none_later => exact .ended (same.symm.trans none_left) none_later
      | fails halts =>
        exact .fails ⟨halts.kept.trans same, halts.lasts, halts.uninterrupted,
          halts.why.imp_right same.symm.trans⟩

/-- A read takes bytes off the front of those that are left, or fails and takes none. -/
theorem IsPatient.takes_read (patient : endpoint.IsPatient) (some_wanted : wanted ≠ 0) :
    ReadTakes wanted endpoint (endpoint.read wanted) := by
  have takes := patient.takes_readSome some_wanted
  unfold read
  generalize endpoint.readSome wanted = outcome at takes
  cases takes with
  | returns last_patient some_piece fits front => exact .returns last_patient some_piece fits front
  | ended none_left none_later => exact .ended none_left none_later
  | @fails failure after halts =>
    refine .fails ⟨halts.kept, halts.lasts, ?_, ?_⟩
    · rw [Failure.isInterrupted_asIo]
      exact halts.uninterrupted
    · rw [isTransient_asIo]
      exact halts.why

/-- How many temporary failures are in store. -/
def store (endpoint : Endpoint) : Nat :=
  endpoint.troubles.reads.length + endpoint.troubles.writes

/-- A read adds no temporary failure to those in store. -/
theorem store_read_le (wanted : Nat) (endpoint : Endpoint) :
    (endpoint.read wanted).state.store ≤ endpoint.store :=
  (read_reports wanted endpoint).total_le

/-- A read that fails temporarily uses up a failure in store. -/
theorem store_read_lt {failure : Failure} {after : Endpoint}
    (failed : endpoint.read wanted = .error failure after)
    (transient : failure.isTransient = true) : after.store < endpoint.store := by
  have reports := read_reports wanted endpoint
  rw [failed] at reports
  exact reports.fewer transient

/-- What becomes of a call for so many bytes that fails: what it has taken is lost. -/
structure Breaks (wanted : Nat) (before : Endpoint) (failure : Failure) (lost : Bytes)
    (after : Endpoint) : Prop where
  front : before.unreturned = lost ++ after.unreturned
  short : lost.length < wanted
  lasts : after.unreturned ≠ [] → after.IsPatient
  why : failure.isTransient = true ∧ after.store < before.store ∨ after.unreturned = []

section Breaks

variable {failure : Failure} {lost piece : Bytes} {middle after : Endpoint}

/-- A call that fails at its first read. -/
theorem Halts.breaks (halts : endpoint.Halts failure after) {asked : Nat}
    (read : endpoint.read asked = .error failure after) (some_wanted : 0 < wanted) :
    Breaks wanted endpoint failure [] after where
  front := halts.kept.symm
  short := some_wanted
  lasts := halts.lasts
  why := halts.why.imp (fun transient => ⟨transient, store_read_lt read transient⟩) halts.kept.trans

/-- A call that fails after a piece. -/
theorem Breaks.of_piece (breaks : Breaks wanted middle failure lost after)
    (front : endpoint.unreturned = piece ++ middle.unreturned)
    (stock : middle.store ≤ endpoint.store) :
    Breaks (piece.length + wanted) endpoint failure (piece ++ lost) after where
  front := by rw [front, breaks.front, List.append_assoc]
  short := by
    rw [List.length_append]
    exact Nat.add_lt_add_left breaks.short _
  lasts := breaks.lasts
  why := breaks.why.imp_left fun ⟨transient, later⟩ => ⟨transient, Nat.lt_of_lt_of_le later stock⟩

end Breaks

/-- What a call for so many bytes does to those that are left. -/
inductive Brings (wanted : Nat) (before : Endpoint) : Outcome Endpoint Bytes → Prop
  | all {bytes : Bytes} {after : Endpoint} (patient : after.IsPatient)
      (front : before.unreturned = bytes ++ after.unreturned) (exact : bytes.length = wanted)
      (stock : after.store ≤ before.store) : Brings wanted before (.ok bytes after)
  | fails {failure : Failure} {lost : Bytes} {after : Endpoint}
      (breaks : Breaks wanted before failure lost after) :
      Brings wanted before (.error failure after)

/-- A call that goes on behind a piece. -/
theorem Brings.of_piece {piece : Bytes} {middle : Endpoint} {outcome : Outcome Endpoint Bytes}
    (takes : Brings wanted middle outcome)
    (front : endpoint.unreturned = piece ++ middle.unreturned)
    (stock : middle.store ≤ endpoint.store) :
    Brings (piece.length + wanted) endpoint (outcome.map (piece ++ ·)) := by
  cases takes with
  | all patient rest exact later =>
    refine .all patient ?_ ?_ (Nat.le_trans later stock)
    · rw [front, rest, List.append_assoc]
    · rw [List.length_append, exact]
  | fails breaks => exact .fails (breaks.of_piece front stock)

/-- Reading so many bytes brings them, or fails and loses those that it has taken. -/
theorem IsPatient.brings_readExact (patient : endpoint.IsPatient) (wanted : Nat) :
    Brings wanted endpoint (endpoint.readExact wanted) := by
  fun_induction Endpoint.readExact wanted endpoint with
  | case1 endpoint => exact .all patient rfl rfl (Nat.le_refl _)
  | case2 wanted endpoint some_wanted last ended =>
    have takes := patient.takes_read some_wanted
    rw [ended] at takes
    cases takes with
    | returns _ some_piece => contradiction
    | ended none_left none_later =>
      have breaks : Breaks wanted endpoint unfilled [] last :=
        ⟨none_left.trans none_later.symm, Nat.pos_of_ne_zero some_wanted,
          fun some_left => absurd none_later some_left, .inr none_later⟩
      exact .fails breaks
  | case3 wanted endpoint some_wanted byte more last piece less ih =>
    have takes := patient.takes_read some_wanted
    have stock := store_read_le wanted endpoint
    rw [piece] at takes stock
    cases takes with
    | returns last_patient _ fits front =>
      have rest := (ih last_patient).of_piece front stock
      have whole : (byte :: more).length + (wanted - (more.length + 1)) = wanted :=
        Nat.add_sub_of_le fits
      rwa [whole] at rest
  | case4 wanted endpoint some_wanted failure last refused interrupted =>
    have takes := patient.takes_read some_wanted
    rw [refused] at takes
    cases takes with
    | fails halts =>
      rw [halts.uninterrupted] at interrupted
      contradiction
  | case5 wanted endpoint some_wanted failure last refused =>
    have takes := patient.takes_read some_wanted
    rw [refused] at takes
    cases takes with
    | fails halts => exact .fails (halts.breaks refused (Nat.pos_of_ne_zero some_wanted))

/-- What gathering up to a limit does to the bytes that are left, if `held` was gathered before. -/
inductive Gathers (limit : Nat) (held : Bytes) (before : Endpoint) :
    Bytes × Outcome Endpoint Unit → Prop
  | all {bytes : Bytes} {after : Endpoint} (patient : after.IsPatient)
      (front : before.unreturned = bytes ++ after.unreturned) (exact : bytes.length = limit)
      (stock : after.store ≤ before.store) : Gathers limit held before (held ++ bytes, .ok () after)
  /-- Nothing is left before the limit is reached. -/
  | ended {bytes : Bytes} {after : Endpoint} (front : before.unreturned = bytes)
      (short : bytes.length < limit) (none_later : after.unreturned = []) :
      Gathers limit held before (held ++ bytes, .ok () after)
  | fails {failure : Failure} {lost : Bytes} {after : Endpoint}
      (breaks : Breaks limit before failure lost after) :
      Gathers limit held before (held ++ lost, .error failure after)

/-- Gathering that goes on behind a piece. -/
theorem Gathers.of_piece {limit : Nat} {held piece : Bytes} {middle : Endpoint}
    {result : Bytes × Outcome Endpoint Unit} (gathers : Gathers limit (held ++ piece) middle result)
    (front : endpoint.unreturned = piece ++ middle.unreturned)
    (stock : middle.store ≤ endpoint.store) :
    Gathers (piece.length + limit) held endpoint result := by
  cases gathers with
  | @all bytes after patient rest exact later =>
    rw [List.append_assoc]
    refine .all patient ?_ ?_ (Nat.le_trans later stock)
    · rw [front, rest, List.append_assoc]
    · rw [List.length_append, exact]
  | @ended bytes after rest short none_later =>
    rw [List.append_assoc]
    refine .ended ?_ ?_ none_later
    · rw [front, rest]
    · rw [List.length_append]
      exact Nat.add_lt_add_left short _
  | fails breaks =>
    rw [List.append_assoc]
    exact .fails (breaks.of_piece front stock)

/-- Gathering keeps what it has taken, up to its limit or to a failure. -/
theorem IsPatient.gathers {data : Gathering} (patient : endpoint.IsPatient) (limit : Nat)
    (roomy : data.IsRoomy) :
    Gathers limit data.bytes endpoint (endpoint.gather (some limit) data) := by
  induction size : endpoint.unread using Nat.strongRecOn generalizing endpoint data limit with
  | ind size ih =>
    subst size
    rw [Endpoint.gather]
    rw [Option.getD_some, Gathering.bytes_widen]
    have requested : min data.widen.request limit ≤ data.widen.request := Nat.min_le_left _ _
    have within : min data.widen.request limit ≤ limit := Nat.min_le_right _ _
    split
    · next none_wanted =>
      have asks := roomy.request_pos
      obtain rfl : limit = 0 := by omega
      have nothing : Gathers 0 data.bytes endpoint (data.bytes ++ [], .ok () endpoint) :=
        .all patient rfl rfl (Nat.le_refl _)
      rwa [List.append_nil] at nothing
    · next some_wanted =>
      have takes := patient.takes_read some_wanted
      have stock := store_read_le (min data.widen.request limit) endpoint
      have some_allowed : 0 < limit := by omega
      split <;> rename_i read <;> rw [read] at takes
      · cases takes with
        | returns _ some_piece => contradiction
        | ended none_left none_later =>
          have ended : Gathers limit data.bytes endpoint (data.bytes ++ [], _) :=
            .ended none_left some_allowed none_later
          rwa [List.append_nil] at ended
      · next byte more last =>
        rw [read] at stock
        cases takes with
        | returns last_patient _ fits front =>
          obtain ⟨extra, rfl⟩ := Nat.exists_eq_add_of_le (Nat.le_trans fits within)
          have left : (byte :: more).length + extra - (more.length + 1) = extra :=
            Nat.add_sub_cancel_left _ extra
          rw [Option.map_some, left]
          have rest := ih _ (unread_read read) last_patient extra
            (roomy.widen.add (Nat.le_trans fits requested)) rfl
          rw [Gathering.bytes_add, Gathering.bytes_widen] at rest
          exact rest.of_piece front stock
      · next failure last =>
        cases takes with
        | fails halts =>
          rw [dif_neg (by rw [halts.uninterrupted]; exact Bool.false_ne_true)]
          have failed : Gathers limit data.bytes endpoint (data.bytes ++ [], .error failure last) :=
            .fails (halts.breaks read some_allowed)
          rwa [List.append_nil] at failed

end Endpoint
end DebugBridge

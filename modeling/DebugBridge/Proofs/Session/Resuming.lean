import DebugBridge.Proofs.Session.Packets
import DebugBridge.Proofs.Session.Patience

/-!
# Packets and temporary failures

A call for a packet keeps nothing of what it has read when it fails. If the source fails temporarily
before the first byte of a packet the call may be made again; if it fails inside a packet, the bytes
in front are lost, and the next call takes what is left of the packet for the beginning of another.
Calls find all packets that were sent if and only if none of those that fail has taken anything.
-/

namespace DebugBridge.Shell

variable {endpoint : Endpoint}

/-- A payload is brought as a whole or not at all. -/
theorem brings_readPayload (patient : endpoint.IsPatient) (length : Nat) :
    Endpoint.Brings length endpoint (readPayload length endpoint) := by
  have roomy : ({} : Endpoint.Gathering).IsRoomy := ⟨Nat.le_refl 0, by decide⟩
  have none_held : ({} : Endpoint.Gathering).bytes = [] := rfl
  have gathers := patient.gathers length roomy
  rw [none_held] at gathers
  rw [readPayload, Endpoint.readUpTo]
  generalize endpoint.gather (some length) {} = result at gathers
  cases gathers with
  | all patient front exact stock =>
    simp only [Outcome.map, Outcome.andThen, List.nil_append, exact, Nat.lt_irrefl, if_false]
    exact .all patient front exact stock
  | ended front short none_later =>
    simp only [Outcome.map, Outcome.andThen, List.nil_append, short, if_true]
    refine .fails ⟨?_, short, fun some_left => absurd none_later some_left, .inr none_later⟩
    rw [none_later, List.append_nil]
    exact front
  | fails breaks => exact .fails breaks

/-- A header is read off the front of the bytes that are left, or the call fails and loses less than
a header. -/
theorem readHeader_cases (patient : endpoint.IsPatient) :
    (∃ id length after, readHeader endpoint = .ok (id, length.toNat) after ∧ after.IsPatient ∧
      endpoint.unreturned = header id length ++ after.unreturned ∧
      after.store ≤ endpoint.store) ∨
    ∃ failure lost after, readHeader endpoint = .error failure after ∧
      endpoint.Breaks headerSize failure lost after := by
  have takes := patient.brings_readExact headerSize
  unfold readHeader
  generalize endpoint.readExact headerSize = outcome at takes
  cases takes with
  | all still_patient front exact stock =>
    obtain ⟨id, length, body, rfl⟩ := exists_header (Nat.le_of_eq exact.symm)
    have nothing : body = [] := by
      have size : (header id length).length = headerSize := rfl
      rw [List.length_append, size] at exact
      exact List.length_eq_zero_iff.mp (Nat.add_eq_left.mp exact)
    subst nothing
    have split : Word.split? (Word.encode length ++ []) = some (length, []) :=
      Word.split?_encode_append length []
    rw [List.append_nil] at front
    refine .inl ⟨id, length, _, ?_, still_patient, front, stock⟩
    simp only [Outcome.andThen, header, List.cons_append, split, Option.map_some, Option.getD_some]
  | fails breaks => exact .inr ⟨_, _, _, rfl, breaks⟩

/-- What comes of the bytes behind a header. -/
theorem readBody_cases (patient : endpoint.IsPatient) (id : UInt8) (length : UInt32) :
    (∃ result after, readBody id length.toNat endpoint = .ofResult result after ∧
      after.IsPatient ∧ Parses (header id length ++ endpoint.unreturned) result after.unreturned ∧
      after.store ≤ endpoint.store) ∨
    ∃ failure lost after, readBody id length.toNat endpoint = .error failure after ∧
      endpoint.Breaks length.toNat failure lost after := by
  unfold readBody
  have payload := brings_readPayload patient length.toNat
  by_cases output : id = stdoutId ∨ id = stderrId
  · generalize readPayload length.toNat endpoint = outcome at payload ⊢
    cases payload with
    | @all bytes after still_patient front exact stock =>
      rw [front]
      rcases output with rfl | rfl
      · have parses := @Parses.of_header after.unreturned (.stdout bytes) _ exact
        exact .inl ⟨_, after, rfl, still_patient, parses, stock⟩
      · have parses := @Parses.of_header after.unreturned (.stderr bytes) _ exact
        exact .inl ⟨_, after, rfl, still_patient, parses, stock⟩
    | fails breaks => rcases output with rfl | rfl <;> exact .inr ⟨_, _, _, rfl, breaks⟩
  · obtain ⟨not_stdout, not_stderr⟩ := not_or.mp output
    rw [if_neg not_stdout, if_neg not_stderr]
    by_cases exits : id = exitId
    · subst exits
      rw [if_pos rfl]
      by_cases one : length.toNat = 1
      · obtain rfl : length = 1 := UInt32.toNat_inj.mp one
        have takes := patient.brings_readExact 1
        rw [if_neg (not_not_intro one)]
        generalize endpoint.readExact 1 = outcome at takes ⊢
        cases takes with
        | @all bytes after still_patient front exact stock =>
          obtain ⟨code, rfl⟩ := List.length_eq_one_iff.mp exact
          rw [front]
          exact .inl ⟨_, after, rfl, still_patient, @Parses.of_header _ (.exit code) 1 rfl, stock⟩
        | fails breaks => exact .inr ⟨_, _, _, rfl, breaks⟩
      · rw [if_pos one]
        refine .inl ⟨_, endpoint, rfl, patient, .odd fun same => one ?_, Nat.le_refl _⟩
        rw [same]
        rfl
    · rw [if_neg exits]
      exact .inl ⟨_, endpoint, rfl, patient, .unknown not_stdout not_stderr exits, Nat.le_refl _⟩

/-- The header of the packet at the front tells its size. -/
theorem length_encode_of_header {id : UInt8} {length : UInt32} {body rest : Bytes}
    {packet : Packet} (fits : packet.Fits)
    (same : header id length ++ body = packet.encode ++ rest) :
    packet.encode.length = (header id length).length + length.toNat := by
  rw [packet.encode_eq_header, List.append_assoc] at same
  have headers := (List.append_inj same rfl).1
  have lengths := Word.split?_encode_append length []
  rw [List.tail_eq_of_cons_eq headers, Word.split?_encode_append] at lengths
  have announced : UInt32.ofNat packet.payload.length = length :=
    congrArg Prod.fst (Option.some.inj lengths)
  rw [packet.encode_eq_header, headers, List.length_append, ← announced, fits.toNat_length]

/-- A call for a packet finds what the grammar says of the bytes that are left, or fails before it
has taken as many bytes as any packet at their front has. -/
inductive Fares (before : Endpoint) : Outcome Endpoint Packet → Prop
  | found {result : Except Failure Packet} {after : Endpoint} (patient : after.IsPatient)
      (parses : Parses before.unreturned result after.unreturned)
      (stock : after.store ≤ before.store) : Fares before (.ofResult result after)
  | fails {failure : Failure} {lost : Bytes} {after : Endpoint} {size : Nat}
      (breaks : before.Breaks size failure lost after)
      (part : ∀ (packet : Packet) rest, packet.Fits → before.unreturned = packet.encode ++ rest →
        size ≤ packet.encode.length) : Fares before (.error failure after)

/-- A call for a packet fares as `Fares` says, by its header and its body. -/
theorem fares_readPacket (patient : endpoint.IsPatient) :
    Fares endpoint (readPacket endpoint) := by
  unfold readPacket
  rcases readHeader_cases patient with
    ⟨id, length, middle, read, middle_patient, front, stock⟩ | ⟨failure, lost, after, read, breaks⟩
  · rw [read]
    simp only [Outcome.andThen]
    rcases readBody_cases middle_patient id length with
      ⟨result, after, body, after_patient, parses, later⟩ | ⟨failure, lost, after, body, breaks⟩
    · rw [body]
      rw [← front] at parses
      exact .found after_patient parses (Nat.le_trans later stock)
    · rw [body]
      refine .fails (breaks.of_piece front stock) fun packet rest fits whole => ?_
      exact Nat.le_of_eq (length_encode_of_header fits (front.symm.trans whole)).symm
  · rw [read, Outcome.andThen]
    refine .fails breaks fun packet rest fits whole => ?_
    rw [packet.encode_eq_header, List.length_append]
    exact Nat.le_add_right _ _

/-- One call for a packet and what came of it. -/
structure Call where
  before : Endpoint
  result : Except Failure Packet
  after : Endpoint

namespace Call

/-- The packet that the caller got, if there was one. -/
def returned (call : Call) : List Packet :=
  call.result.toOption.toList

/-- If the call failed, it has used up no byte. -/
def IsHarmless (call : Call) : Prop :=
  ∀ failure, call.result = .error failure → call.after.unreturned = call.before.unreturned

end Call

/-- One call as it is made now. -/
def call (endpoint : Endpoint) : Call :=
  ⟨endpoint, (readPacket endpoint).result, (readPacket endpoint).state⟩

/-- So many calls for a packet, whether they fail or not, but none once nothing is left to read. -/
def calls : Nat → Endpoint → List Call
  | 0, _ => []
  | count + 1, endpoint =>
    if endpoint.unreturned = [] then [] else call endpoint :: calls count (call endpoint).after

/-- The stream after so many calls. -/
def afterCalls : Nat → Endpoint → Endpoint
  | 0, endpoint => endpoint
  | count + 1, endpoint =>
    if endpoint.unreturned = [] then endpoint else afterCalls count (call endpoint).after

section Calls

variable {rest : Bytes} {packet : Packet}

/-- Once nothing is left to read no call is made. -/
theorem calls_of_nothing (none_left : endpoint.unreturned = []) (count : Nat) :
    calls count endpoint = [] ∧ afterCalls count endpoint = endpoint := by
  cases count with
  | zero => exact ⟨rfl, rfl⟩
  | succ count => exact ⟨if_pos none_left, if_pos none_left⟩

theorem calls_succ (some_left : endpoint.unreturned ≠ []) (count : Nat) :
    calls (count + 1) endpoint = call endpoint :: calls count (call endpoint).after ∧
      afterCalls (count + 1) endpoint = afterCalls count (call endpoint).after :=
  ⟨if_neg some_left, if_neg some_left⟩

/-- With a packet at the front, the call finds it, or fails temporarily and leaves some of it. -/
theorem call_of_packet (patient : endpoint.IsPatient) (fits : packet.Fits)
    (front : endpoint.unreturned = packet.encode ++ rest) :
    ((call endpoint).result = .ok packet ∧ (call endpoint).after.unreturned = rest ∧
      (call endpoint).after.store ≤ endpoint.store) ∨
    ∃ failure lost kept, (call endpoint).result = .error failure ∧ failure.isTransient = true ∧
      packet.encode = lost ++ kept ∧ kept ≠ [] ∧
      (call endpoint).after.unreturned = kept ++ rest ∧
      (call endpoint).after.store < endpoint.store := by
  have fares := fares_readPacket patient
  unfold call
  generalize readPacket endpoint = outcome at fares
  cases fares with
  | @found result after still_patient parses stock =>
    rw [front] at parses
    have found := parses.parse_eq.symm.trans (Parses.packet fits).parse_eq
    rw [Outcome.result_ofResult, Outcome.state_ofResult]
    exact .inl ⟨congrArg Prod.fst found, congrArg Prod.snd found, stock⟩
  | @fails failure lost after size breaks part =>
    have short := Nat.lt_of_lt_of_le breaks.short (part packet rest fits front)
    rcases List.append_eq_append_iff.mp (breaks.front.symm.trans front) with
      ⟨kept, whole, left⟩ | ⟨more, more_lost, -⟩
    · have some_kept : kept ≠ [] := by
        rintro rfl
        rw [whole, List.append_nil] at short
        exact Nat.lt_irrefl _ short
      rcases breaks.why with ⟨transient, fewer⟩ | none_left
      · exact .inr ⟨failure, lost, kept, rfl, transient, whole, some_kept, left, fewer⟩
      · rw [none_left] at left
        exact absurd (List.append_eq_nil_iff.mp left.symm).1 some_kept
    · rw [more_lost, List.length_append] at short
      omega

/-- Finding no packet takes bytes, if there are any. -/
theorem Parses.length_lt_of_error {bytes : Bytes} {failure : Failure}
    (parses : Parses bytes (.error failure) rest) (some_left : bytes ≠ []) :
    rest.length < bytes.length := by
  cases parses with
  | unknown | odd =>
    rw [List.length_append]
    exact Nat.lt_add_of_pos_left (Nat.zero_lt_succ _)
  | headerCut | outputCut | exitCut => exact List.length_pos_iff.mpr some_left

/-- What a call does to the bytes that are left. -/
theorem call_cases (patient : endpoint.IsPatient) (some_left : endpoint.unreturned ≠ []) :
    let call := call endpoint
    (call.after.unreturned ≠ [] → call.after.IsPatient) ∧
      (call.IsHarmless ∧ endpoint.unreturned =
          call.returned.flatMap Packet.encode ++ call.after.unreturned ∨
        ¬call.IsHarmless ∧ call.returned = [] ∧
          call.after.unreturned.length < endpoint.unreturned.length) := by
  intro call
  have fares := fares_readPacket patient
  simp only [call, Shell.call]
  generalize readPacket endpoint = outcome at fares
  have harmful {failure : Failure} {after : Endpoint}
      (less : after.unreturned.length < endpoint.unreturned.length) :
      ¬Call.IsHarmless ⟨endpoint, .error failure, after⟩ := by
    intro harmless
    rw [show after.unreturned = endpoint.unreturned from harmless failure rfl] at less
    exact Nat.lt_irrefl _ less
  cases fares with
  | @found result after still_patient parses stock =>
    rw [Outcome.result_ofResult, Outcome.state_ofResult]
    refine ⟨fun _ => still_patient, ?_⟩
    cases result with
    | error failure =>
      have less := parses.length_lt_of_error some_left
      exact .inr ⟨harmful less, rfl, less⟩
    | ok packet =>
      refine .inl ⟨fun failure failed => ?_, ?_⟩
      · contradiction
      · generalize endpoint.unreturned = bytes at parses
        cases parses
        rw [Call.returned, Except.toOption, Option.toList_some, List.flatMap_singleton]
  | @fails failure lost after size breaks part =>
    refine ⟨breaks.lasts, ?_⟩
    have front := breaks.front
    cases lost with
    | nil => exact .inl ⟨fun _ _ => front.symm, front⟩
    | cons first more =>
      have less : after.unreturned.length < endpoint.unreturned.length := by
        rw [front, List.length_append]
        exact Nat.lt_add_of_pos_left (Nat.zero_lt_succ _)
      exact .inr ⟨harmful less, rfl, less⟩

/-- After any calls the packets found and what is left make up all that there was, or less than that
if some call that failed has used up bytes. -/
theorem returned_calls (patient : endpoint.unreturned ≠ [] → endpoint.IsPatient) (count : Nat) :
    let log := calls count endpoint
    let found := (log.flatMap Call.returned).flatMap Packet.encode
    let left := (afterCalls count endpoint).unreturned
    (∀ call ∈ log, call.IsHarmless) ∧ found ++ left = endpoint.unreturned ∨
      (¬∀ call ∈ log, call.IsHarmless) ∧
        (found ++ left).length < endpoint.unreturned.length := by
  induction count generalizing endpoint with
  | zero => exact .inl ⟨fun _ member => absurd member List.not_mem_nil, rfl⟩
  | succ count ih =>
    by_cases none_left : endpoint.unreturned = []
    · obtain ⟨log, last⟩ := calls_of_nothing none_left (count + 1)
      rw [log, last]
      exact .inl ⟨fun _ member => absurd member List.not_mem_nil, rfl⟩
    · obtain ⟨log, last⟩ := calls_succ none_left count
      obtain ⟨lasts, first⟩ := call_cases (patient none_left) none_left
      have rest := ih lasts
      simp only [log, last, List.forall_mem_cons, List.flatMap_cons, List.flatMap_append,
        List.append_assoc] at rest ⊢
      rcases first with ⟨harmless, front⟩ | ⟨harmful, nothing, shorter⟩
      · rcases rest with ⟨all_harmless, whole⟩ | ⟨some_harmful, less⟩
        · exact .inl ⟨⟨harmless, all_harmless⟩, by rw [whole, ← front]⟩
        · refine .inr ⟨fun all => some_harmful all.2, ?_⟩
          simp only [front, List.length_append, Nat.add_lt_add_iff_left] at less ⊢
          exact less
      · refine .inr ⟨fun all => harmful all.1, ?_⟩
        rw [nothing, List.flatMap_nil, List.nil_append]
        rcases rest with ⟨-, whole⟩ | ⟨-, less⟩
        · rw [whole]
          exact shorter
        · exact Nat.lt_trans less shorter

/-- Every call that is made is made of a patient stream. -/
theorem of_mem_calls (patient : endpoint.unreturned ≠ [] → endpoint.IsPatient) {count : Nat}
    {made : Call} (member : made ∈ calls count endpoint) :
    made = call made.before ∧ made.before.IsPatient := by
  induction count generalizing endpoint with
  | zero => contradiction
  | succ count ih =>
    by_cases none_left : endpoint.unreturned = []
    · rw [(calls_of_nothing none_left (count + 1)).1] at member
      contradiction
    · rw [(calls_succ none_left count).1] at member
      rcases List.mem_cons.mp member with rfl | later
      · exact ⟨rfl, patient none_left⟩
      · exact ih (call_cases (patient none_left) none_left).1 later

/-- Calls that lose nothing find the packets in order. As long as packets are left, each call finds
one or uses up a failure in store. -/
theorem calls_of_harmless {packets : List Packet}
    (patient : endpoint.unreturned ≠ [] → endpoint.IsPatient)
    (fit : ∀ packet ∈ packets, packet.Fits)
    (sent : endpoint.unreturned = packets.flatMap Packet.encode) (count : Nat)
    (harmless : ∀ call ∈ calls count endpoint, call.IsHarmless) :
    let log := calls count endpoint
    let last := afterCalls count endpoint
    (∀ call ∈ log, ∀ failure, call.result = .error failure → failure.isTransient = true) ∧
      ∃ found left, packets = found ++ left ∧ log.flatMap Call.returned = found ∧
        last.unreturned = left.flatMap Packet.encode ∧
        (left ≠ [] → count + last.store ≤ found.length + endpoint.store) := by
  induction count generalizing endpoint packets with
  | zero =>
    refine ⟨fun _ member => absurd member List.not_mem_nil, [], packets, rfl, rfl, sent, ?_⟩
    exact fun _ => Nat.le_refl _
  | succ count ih =>
    cases packets with
    | nil =>
      obtain ⟨log, last⟩ := calls_of_nothing sent (count + 1)
      rw [log, last]
      refine ⟨fun _ member => absurd member List.not_mem_nil, [], [], rfl, rfl, sent, ?_⟩
      exact fun some_packets => absurd rfl some_packets
    | cons packet packets =>
      obtain ⟨first_fits, others_fit⟩ := List.forall_mem_cons.mp fit
      have some_left : endpoint.unreturned ≠ [] := by
        rw [sent]
        exact List.cons_ne_nil _ _
      obtain ⟨log, last⟩ := calls_succ some_left count
      have lasts := (call_cases (patient some_left) some_left).1
      rw [log, List.forall_mem_cons] at harmless
      obtain ⟨first_harmless, others_harmless⟩ := harmless
      simp only [log, last, List.forall_mem_cons, List.flatMap_cons]
      rcases call_of_packet (patient some_left) first_fits sent with
        ⟨got, rest, stock⟩ | ⟨failure, lost, kept, failed, transient, -, -, -, fewer⟩
      · obtain ⟨transients, found, left, split, returned, unread, bound⟩ :=
          ih lasts others_fit rest others_harmless
        refine ⟨⟨fun failure failed => ?_, transients⟩, packet :: found, left, ?_, ?_, unread, ?_⟩
        · rw [got] at failed
          contradiction
        · rw [split, List.cons_append]
        · rw [Call.returned, got, returned]
          rfl
        · intro some_packets
          have rest_bound := bound some_packets
          rw [List.length_cons]
          omega
      · have same := (first_harmless failure failed).trans sent
        obtain ⟨transients, found, left, split, returned, unread, bound⟩ :=
          ih lasts fit same others_harmless
        refine ⟨⟨fun other also_failed => ?_, transients⟩, found, left, split, ?_, unread, ?_⟩
        · rw [failed] at also_failed
          rw [← Except.error.inj also_failed]
          exact transient
        · rw [Call.returned, failed, returned]
          rfl
        · intro some_packets
          have rest_bound := bound some_packets
          omega

end Calls

/-- **Packets in spite of temporary failures.** The source of a stream gives bytes and temporary
failures, at any points, and the bytes for the stream are those of some packets, cut anyhow. A call
with a packet at the front finds it, or fails temporarily, takes some of its bytes and leaves at
least one. What was found and what is left make up all that was sent if and only if no call that
failed has taken anything. Then nothing but the packets sent is found, in order, and all of them
once there are as many calls as packets and failures. -/
theorem packets_complete_iff {start : Endpoint} {packets : List Packet}
    (patient : start.IsPatient) (fit : ∀ packet ∈ packets, packet.Fits)
    (sent : start.unreturned = packets.flatMap Packet.encode) (count : Nat) :
    let log := calls count start
    let last := afterCalls count start
    (∀ call ∈ log, ∀ (packet : Packet) rest, packet.Fits →
      call.before.unreturned = packet.encode ++ rest →
        call.result = .ok packet ∧ call.after.unreturned = rest ∨
        ∃ failure lost kept, call.result = .error failure ∧ failure.isTransient = true ∧
          packet.encode = lost ++ kept ∧ kept ≠ [] ∧ call.after.unreturned = kept ++ rest) ∧
    ((log.flatMap Call.returned).flatMap Packet.encode ++ last.unreturned = start.unreturned ↔
      ∀ call ∈ log, call.IsHarmless) ∧
    ((∀ call ∈ log, call.IsHarmless) →
      (∀ call ∈ log, ∀ failure, call.result = .error failure → failure.isTransient = true) ∧
      ∃ left, packets = log.flatMap Call.returned ++ left ∧
        last.unreturned = left.flatMap Packet.encode ∧
        (packets.length + start.store ≤ count → left = [])) := by
  intro log last
  refine ⟨fun made member packet rest fits front => ?_, ⟨fun whole => ?_, fun harmless => ?_⟩,
    fun harmless => ?_⟩
  · obtain ⟨same, made_patient⟩ := of_mem_calls (fun _ => patient) member
    rw [same]
    rcases call_of_packet made_patient fits front with
      ⟨got, left, -⟩ | ⟨failure, lost, kept, failed, transient, split, some_kept, left, -⟩
    · exact .inl ⟨got, left⟩
    · exact .inr ⟨failure, lost, kept, failed, transient, split, some_kept, left⟩
  · rcases returned_calls (fun _ => patient) count with ⟨harmless, -⟩ | ⟨-, less⟩
    · exact harmless
    · rw [whole] at less
      exact absurd less (Nat.lt_irrefl _)
  · rcases returned_calls (fun _ => patient) count with ⟨-, whole⟩ | ⟨harmful, -⟩
    · exact whole
    · contradiction
  · obtain ⟨transients, found, left, split, returned, unread, bound⟩ :=
      calls_of_harmless (fun _ => patient) fit sent count harmless
    refine ⟨transients, left, ?_, unread, fun enough => ?_⟩
    · rw [returned]
      exact split
    · apply Decidable.byContradiction
      intro some_left
      have some_packets := List.length_pos_iff.mpr some_left
      have rest_bound := bound some_left
      rw [split, List.length_append] at enough
      omega

/-- Two packets, the second one cut in two. The source fails inside the frame of the first one and
between the packets, so no call that fails has taken anything. -/
theorem packets_complete_between_failures :
    let packets : List Packet := [.stdout [104, 105], .stderr [33]]
    let first := (Frame.make Command.write 9 1 [1, 2, 0, 0, 0, 104, 105]).encode
    let others := [Frame.make Command.write 9 1 [2, 1, 0],
      Frame.make Command.write 9 1 [0, 0, 33]].flatMap Frame.encode
    let start : Endpoint := {
      stream := .opened 1 9 4096
      channel := { queue := {
        board := ({} : Switchboard).listen 1
        receiver := { source := [.bytes (first.take 10) 4096, .fail .timedOut,
          .bytes (first.drop 10) 4096, .fail .wouldBlock, .bytes others 20] } } } }
    start.unreturned = packets.flatMap Packet.encode ∧
      (calls 4 start).map (fun call => call.result.toOption) =
        [none, some (.stdout [104, 105]), none, some (.stderr [33])] ∧
      (∀ call ∈ calls 4 start, call.IsHarmless) ∧
      (calls 4 start).flatMap Call.returned = packets := by
  intro packets first others start
  have patient : start.IsPatient := by
    refine ⟨⟨rfl, rfl, ⟨List.forall_mem_nil _, List.forall_mem_nil _⟩⟩, rfl, rfl, rfl, ?_⟩
    apply Receiver.isPatient_of_source
    simp only [start, Source.IsPatient, List.forall_mem_cons]
    exact ⟨.inl ⟨_, _, rfl⟩, .inr ⟨_, rfl, rfl⟩, .inl ⟨_, _, rfl⟩, .inr ⟨_, rfl, rfl⟩,
      .inl ⟨_, _, rfl⟩, List.forall_mem_nil _⟩
  have fit : ∀ packet ∈ packets, packet.Fits := by
    simp [packets, Packet.Fits, Packet.payload, UInt32.size]
  have sent : start.unreturned = packets.flatMap Packet.encode := by decide +kernel
  obtain ⟨-, iff, complete⟩ := packets_complete_iff patient fit sent 4
  have harmless := iff.mp (by decide +kernel)
  obtain ⟨-, left, split, -, all⟩ := complete harmless
  obtain rfl := all (by decide +kernel)
  refine ⟨sent, by decide +kernel, harmless, ?_⟩
  rw [split, List.append_nil]

/-- One packet of output, and the source fails behind its header: the next call finds a packet of
error output that was never sent. -/
theorem packets_lost_behind_header :
    let sent := Packet.stdout [2, 2, 0, 0, 0, 111, 107]
    let header := (Frame.make Command.write 9 1 [1, 7, 0, 0, 0]).encode
    let payload := (Frame.make Command.write 9 1 [2, 2, 0, 0, 0, 111, 107]).encode
    let start : Endpoint := {
      stream := .opened 1 9 4096
      channel := { queue := {
        board := ({} : Switchboard).listen 1
        receiver := { source := [.bytes header 4096, .fail .timedOut, .bytes payload 4096] } } } }
    let temporary (call : Call) : Bool :=
      match call.result with
      | .error failure => failure.isTransient
      | .ok _ => false
    start.unreturned = sent.encode ∧
      (calls 2 start).map (fun call => (temporary call, call.result.toOption)) =
        [(true, none), (false, some (.stderr [111, 107]))] ∧
      (afterCalls 2 start).unreturned = [] := by
  decide +kernel

end DebugBridge.Shell

import DebugBridge.Session.Stream

/-!
# Whole transfers

A single read or write moves as much as it can. The operations here repeat them until everything
asked for has been moved; an operation that was merely interrupted is repeated. What is read
until the end of a stream goes to a buffer that grows as it fills, and the room in that buffer is
what each read asks for.
-/

namespace DebugBridge.Endpoint

/-- Reads exactly `wanted` bytes. -/
def readExact (wanted : Nat) (endpoint : Endpoint) : Outcome Endpoint Bytes :=
  if wanted = 0 then .ok [] endpoint
  else
    match read : endpoint.read wanted with
    | .ok [] after => .error (.io .unexpectedEof (some "failed to fill whole buffer")) after
    | .ok (byte :: more) after =>
      have := unread_read read
      (readExact (wanted - (more.length + 1)) after).map (byte :: more ++ ·)
    | .error failure after =>
      if interrupted : failure.isInterrupted then
        have := unread_read_interrupted read interrupted
        readExact wanted after
      else .error failure after
  termination_by endpoint.unread

/-- Reading exactly so many bytes leaves no more to be read than there was. -/
theorem unread_readExact_le {wanted : Nat} {endpoint after : Endpoint} {bytes : Bytes}
    (read : endpoint.readExact wanted = .ok bytes after) : after.unread ≤ endpoint.unread := by
  fun_induction readExact wanted endpoint generalizing bytes after with
  | case1 =>
    simp only [Outcome.ok.injEq] at read
    exact read.2 ▸ Nat.le_refl _
  | case2 => simp only [reduceCtorEq] at read
  | case3 wanted endpoint some_wanted byte more last piece less ih =>
    cases rest : last.readExact (wanted - (more.length + 1)) with
    | error => simp only [rest, Outcome.map, reduceCtorEq] at read
    | ok others final =>
      simp only [rest, Outcome.map, Outcome.ok.injEq] at read
      exact read.2 ▸ Nat.le_trans (ih rest) (Nat.le_of_lt less)
  | case4 wanted endpoint some_wanted failure last interrupted refused less ih =>
    exact Nat.le_trans (ih read) (Nat.le_of_lt less)
  | case5 => simp only [reduceCtorEq] at read

/-- Bytes read leave less to be read. -/
theorem unread_readExact_lt {wanted : Nat} {endpoint after : Endpoint} {bytes : Bytes}
    (some_wanted : wanted ≠ 0) (read : endpoint.readExact wanted = .ok bytes after) :
    after.unread < endpoint.unread := by
  rw [readExact, if_neg some_wanted] at read
  split at read
  · simp only [reduceCtorEq] at read
  · next byte more last piece =>
    cases rest : last.readExact (wanted - (more.length + 1)) with
    | error => simp only [rest, Outcome.map, reduceCtorEq] at read
    | ok others final =>
      simp only [rest, Outcome.map, Outcome.ok.injEq] at read
      exact read.2 ▸ Nat.lt_of_le_of_lt (unread_readExact_le rest) (unread_read piece)
  · next failure last refused =>
    split at read
    · next interrupted =>
      exact Nat.lt_of_le_of_lt (unread_readExact_le read)
        (unread_read_interrupted refused interrupted)
    · simp only [reduceCtorEq] at read

/-- Writes all the bytes. -/
def writeAll (bytes : Bytes) (endpoint : Endpoint) : Outcome Endpoint Unit :=
  if empty : bytes = [] then .ok () endpoint
  else
    have := List.length_pos_iff.mpr empty
    match written : endpoint.write bytes with
    | .ok 0 after => .error (.io .writeZero (some "failed to write whole buffer")) after
    | .ok (count + 1) after =>
      have : after.irregular ≤ endpoint.irregular := by
        have := irregular_write_le bytes endpoint
        rwa [written] at this
      writeAll (bytes.drop (count + 1)) after
    | .error failure after =>
      if interrupted : failure.isInterrupted then
        have := irregular_write_lt written interrupted
        writeAll bytes after
      else .error failure after
  termination_by bytes.length + endpoint.irregular
  decreasing_by
    · simp only [List.length_drop]; omega
    · omega

/-- A buffer that grows. -/
structure Gathering where
  /-- The pieces gathered so far, the last one first. -/
  reversed : List Bytes := []
  length : Nat := 0
  /-- How many bytes there is room for in all; none before the first bytes have arrived. -/
  capacity : Nat := 0
  /-- The most that one read may ask for. -/
  largest : Nat := 8192

namespace Gathering

/-- What the first read asks for, and the least by which a full buffer grows. -/
def probe : Nat := 32

/-- The least room of a buffer that holds anything. -/
def leastCapacity : Nat := 8

/-- All the bytes gathered so far. -/
def bytes (data : Gathering) : Bytes :=
  data.reversed.reverse.flatten

/-- A full buffer doubles its room. -/
def widen (data : Gathering) : Gathering :=
  if data.capacity = 0 ∨ data.length < data.capacity then data
  else { data with capacity := max (2 * data.capacity) (data.length + probe) }

/-- What the next read asks for. -/
def request (data : Gathering) : Nat :=
  if data.capacity = 0 then probe else min (data.capacity - data.length) data.largest

/-- Adds what a read has brought. A read that brought all of the largest request lets the next
ones ask for twice as much. -/
def add (piece : Bytes) (data : Gathering) : Gathering :=
  { reversed := piece :: data.reversed
    length := data.length + piece.length
    capacity := if data.capacity = 0 then max leastCapacity piece.length else data.capacity
    largest :=
      if data.request ≥ data.largest ∧ piece.length = data.request then 2 * data.largest
      else data.largest }

end Gathering

/-- Reads until the end of the stream or, if there is a limit, until so many bytes more have been
read. What has been read is kept when a read fails. -/
def gather (limit : Option Nat) (data : Gathering) (endpoint : Endpoint) :
    Bytes × Outcome Endpoint Unit :=
  let data := data.widen
  let wanted := min data.request (limit.getD data.request)
  if wanted = 0 then (data.bytes, .ok () endpoint)
  else
    match read : endpoint.read wanted with
    | .ok [] after => (data.bytes, .ok () after)
    | .ok (byte :: more) after =>
      have := unread_read read
      gather (limit.map (· - (more.length + 1))) (data.add (byte :: more)) after
    | .error failure after =>
      if interrupted : failure.isInterrupted then
        have := unread_read_interrupted read interrupted
        gather limit data after
      else (data.bytes, .error failure after)
  termination_by endpoint.unread

/-- Gathering leaves no more to be read than there was. -/
theorem unread_gather_le {limit : Option Nat} {data : Gathering} {endpoint after : Endpoint}
    {bytes : Bytes} (gathered : endpoint.gather limit data = (bytes, .ok () after)) :
    after.unread ≤ endpoint.unread := by
  fun_induction gather limit data endpoint with
  | case1 =>
    simp only [Prod.mk.injEq, Outcome.ok.injEq, true_and] at gathered
    exact gathered.2 ▸ Nat.le_refl _
  | case2 limit data endpoint wider wanted some_wanted last ended =>
    simp only [Prod.mk.injEq, Outcome.ok.injEq, true_and] at gathered
    exact gathered.2 ▸ unread_read_le ended
  | case3 limit data endpoint wider wanted some_wanted byte more last piece less ih =>
    exact Nat.le_trans (ih gathered) (Nat.le_of_lt less)
  | case4 limit data endpoint wider wanted some_wanted failure last refused interrupted less ih =>
    exact Nat.le_trans (ih gathered) (Nat.le_of_lt less)
  | case5 => simp only [Prod.mk.injEq, reduceCtorEq, and_false] at gathered

/-- Reads until the end of the stream. -/
def readToEnd (endpoint : Endpoint) : Bytes × Outcome Endpoint Unit :=
  endpoint.gather none {}

/-- Reads at most `limit` bytes: fewer only if the stream ends before. -/
def readUpTo (limit : Nat) (endpoint : Endpoint) : Outcome Endpoint Bytes :=
  let (bytes, outcome) := endpoint.gather (some limit) {}
  outcome.map fun _ => bytes

theorem unread_readUpTo_le {limit : Nat} {endpoint after : Endpoint} {bytes : Bytes}
    (read : endpoint.readUpTo limit = .ok bytes after) : after.unread ≤ endpoint.unread := by
  unfold readUpTo at read
  match gathered : endpoint.gather (some limit) {} with
  | (_, .error _ _) => simp only [gathered, Outcome.map, reduceCtorEq] at read
  | (found, .ok () last) =>
    simp only [gathered, Outcome.map, Outcome.ok.injEq] at read
    exact read.2 ▸ unread_gather_le gathered

/-- Reads until the end of the stream, which has to be text. -/
def readText (endpoint : Endpoint) : Outcome Endpoint String :=
  match endpoint.readToEnd with
  | (_, .error failure after) => .error failure after
  | (bytes, .ok () after) =>
    match Utf8.decode? bytes with
    | some text => .ok text after
    | none => .error (.io .invalidData (some "stream did not contain valid UTF-8")) after

end DebugBridge.Endpoint
